import BuildBench.Files.PathName
import BuildBench.Fault
import BuildBench.Text.Utf8
import BuildBench.Text.Case
import BuildBench.Json.Reading

/-!
# Addresses of downloads

Only the path of an address matters here: it names the file that a download is stored as. The host
is looked at as far as needed to refuse addresses that cannot be right.
-/

namespace BuildBench.Url

/-- Characters that are dropped in front of an address. -/
def isLeading (c : Char) : Bool := c.toNat ≤ 32

def isSchemeChar (c : Char) : Bool := c.isAlphanum || c == '+' || c == '-' || c == '.'

/-- Takes the scheme off an address. -/
def splitScheme (cs : List Char) : String × List Char :=
  let name := cs.takeWhile (· != ':')
  match name, cs.drop name.length with
  | first :: _, _ :: rest =>
    if first.isAlpha && name.all isSchemeChar then (String.ofList (name.map Char.toLower), rest)
    else ("", cs)
  | _, _ => ("", cs)

/-- Schemes whose last path component may have parameters behind a semicolon. -/
def schemesWithParameters : List String :=
  ["", "ftp", "hdl", "prospero", "http", "imap", "https", "shttp", "rtsp", "rtsps", "rtspu", "sip",
   "sips", "mms", "sftp", "tel"]

/-! ## Hosts -/

/-- A decimal number from 0 to 255 without leading zeros. -/
def isOctet (cs : List Char) : Bool :=
  !cs.isEmpty && cs.all Char.isDigit && cs.length ≤ 3 && (cs == ['0'] || cs.head? != some '0') &&
    Decimal.ofDigits cs ≤ 255

def isVersion4 (cs : List Char) : Bool :=
  let octets := Text.pieces '.' cs
  octets.length = 4 && octets.all isOctet

/-- One to four hexadecimal digits. -/
def isHextet (cs : List Char) : Bool :=
  !cs.isEmpty && cs.length ≤ 4 && cs.all fun c => (Json.hexValue? c).isSome

/-- Whether eight groups are written, where one row of zero groups may be left out between two
colons. -/
def areGroups (groups : List (List Char)) : Bool :=
  let inner := (groups.drop 1).dropLast
  let skipped := (inner.zipIdx.filter fun (g, _) => g.isEmpty).map fun (_, i) => i + 1
  match skipped with
  | [] => groups.length = 8 && groups.all isHextet
  | [skip] =>
    let before := groups.take skip
    let after := groups.drop (skip + 1)
    let high := if before.head? == some [] then before.drop 1 else before
    let low := if after.getLast? == some [] then after.dropLast else after
    let startsRight := before.head? != some [] || high.isEmpty
    let endsRight := after.getLast? != some [] || low.isEmpty
    startsRight && endsRight && high.length + low.length ≤ 7 && high.all isHextet &&
      low.all isHextet
  | _ => false

/-- An address of the sixth version, possibly with a zone behind a percent sign. -/
def isVersion6 (cs : List Char) : Bool :=
  let address := cs.takeWhile (· != '%')
  let zoneIsRight := match cs.drop address.length with
    | [] => true
    | _ :: zone => !zone.isEmpty && !zone.contains '%'
  let groups := Text.pieces ':' address
  let last := groups.getLast?.getD []
  let whole :=
    if last.contains '.' then
      if isVersion4 last then groups.dropLast ++ [['0'], ['0']] else []
    else groups
  !cs.contains '/' && zoneIsRight && 3 ≤ groups.length && whole.length ≤ 9 && !whole.isEmpty &&
    areGroups whole

/-- Checks a host in brackets. -/
def checkBracketed (host : List Char) : Except Fault Unit :=
  match host with
  | 'v' :: rest =>
    let version := rest.takeWhile fun c => (Json.hexValue? c).isSome
    match rest.drop version.length with
    | '.' :: _ :: _ =>
      if version.isEmpty then .error (.invalid "IPvFuture address is invalid") else .ok ()
    | _ => .error (.invalid "IPvFuture address is invalid")
  | _ =>
    if isVersion4 host then .error (.invalid "An IPv4 address cannot be in brackets")
    else if isVersion6 host then .ok ()
    else .error (.invalid
      (Text.quoted (String.ofList host) ++ " does not appear to be an IPv4 or IPv6 address"))

/-- Characters that are compatible with a slash, a question mark, a number sign, an at sign or a
colon, alone or as part of a row of characters. -/
def misleading : List Nat :=
  [0x2047, 0x2048, 0x2049, 0x2100, 0x2101, 0x2105, 0x2106, 0x2A74, 0xFE13, 0xFE16, 0xFE55, 0xFE56,
   0xFE5F, 0xFE6B, 0xFF03, 0xFF0F, 0xFF1A, 0xFF1F, 0xFF20]

def badBrackets : Fault := .invalid "Invalid IPv6 URL"

/-- What follows the last user name before a host. -/
def afterUser (host : List Char) : List Char := (host.reverse.takeWhile (· != '@')).reverse

/-- Checks a host that has brackets somewhere. Brackets in front of the host belong to the user name
and are not looked at; around the host they must enclose all of it but the port. -/
def checkInside (host : List Char) : Except Fault Unit :=
  let address := afterUser host
  let before := address.takeWhile (· != '[')
  match address.drop before.length with
  | [] => checkBracketed (address.takeWhile (· != ':'))
  | _ :: enclosed =>
    let name := enclosed.takeWhile (· != ']')
    let port := enclosed.drop (name.length + 1)
    if !before.isEmpty || !(port.isEmpty || port.head? == some ':') then .error badBrackets
    else checkBracketed name

def checkHost (host : List Char) : Except Fault Unit :=
  if host.contains '[' != host.contains ']' then .error badBrackets
  else if host.contains '[' then checkInside host
  else .ok ()

def checkMisleading (host : List Char) : Except Fault Unit :=
  if host.any fun c => misleading.contains c.toNat then
    .error (.invalid ("netloc '" ++ String.ofList host ++
      "' contains invalid characters under NFKC normalization"))
  else .ok ()

/-! ## The path -/

/-- Takes the parameters off the last component of a path. -/
def dropParameters (path : List Char) : List Char :=
  let last := (path.reverse.takeWhile (· != '/')).reverse
  let before := path.take (path.length - last.length)
  before ++ last.takeWhile (· != ';')

/-- The path of an address. -/
def path (address : String) : Except Fault (List Char) := do
  let cs := (address.toList.dropWhile isLeading).filter fun c => c != '\t' && c != '\r' && c != '\n'
  let (scheme, rest) := splitScheme cs
  let (host, rest) := match rest with
    | '/' :: '/' :: more =>
      let host := more.takeWhile fun c => c != '/' && c != '?' && c != '#'
      (host, more.drop host.length)
    | _ => ([], rest)
  checkHost host
  let path := rest.takeWhile fun c => c != '#' && c != '?'
  checkMisleading host
  return if schemesWithParameters.contains scheme then dropParameters path else path

/-- The bytes that ASCII text with percent escapes writes. A percent sign without two hexadecimal
digits stands for itself. -/
def unescapedBytes : Nat → List Char → List UInt8
  | 0, _ | _, [] => []
  | fuel + 1, '%' :: rest =>
    match rest with
    | high :: low :: more =>
      match Json.hexValue? high, Json.hexValue? low with
      | some h, some l => UInt8.ofNat (16 * h + l) :: unescapedBytes fuel more
      | _, _ => UInt8.ofNat '%'.toNat :: unescapedBytes fuel rest
    | _ => UInt8.ofNat '%'.toNat :: unescapedBytes fuel rest
  | fuel + 1, c :: rest => UInt8.ofNat c.toNat :: unescapedBytes fuel rest

/-- Text with its percent escapes replaced. The bytes of each run of ASCII are text of their own,
and damaged bytes are replaced. -/
def unescape : Nat → List Char → List Char
  | 0, _ | _, [] => []
  | fuel + 1, c :: rest =>
    if c.toNat < 128 then
      let run := (c :: rest).takeWhile (·.toNat < 128)
      Text.decodeReplacing (unescapedBytes run.length run) ++
        unescape fuel ((c :: rest).drop run.length)
    else c :: unescape fuel rest

/-- The name under which a download is stored when its address has none. -/
def defaultFileName : String := "fixture"

def fileNameOfPath (path : List Char) : String :=
  let name := (PathName.parse (String.ofList (unescape path.length path))).name
  if name.isEmpty then defaultFileName else name

/-- The name of the file that a download is stored as: the last component of its path. -/
def fileName (address : String) : Except Fault String := (path address).map fileNameOfPath

end BuildBench.Url
