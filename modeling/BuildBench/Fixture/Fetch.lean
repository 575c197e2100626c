import BuildBench.World.Disk
import BuildBench.Fixture.Url
import BuildBench.Digest.Sha256

/-!
# Fetching the fixture

The fixture is downloaded into a folder, under the name that its address ends in. A download that
fails or does not have the expected digest leaves no file.
-/

namespace BuildBench.Fixture

open BuildBench.Action

def failure (message : String) : Fault :=
  .stage { stage := "measure", kind := .fixture, message := message }

/-- The name of this program in requests. -/
def version : String := "0.1.0"

def userAgent : String := programName ++ "/" ++ version

/-- How many bytes of a body are asked for at a time. -/
def chunkSize : Nat := 65536

/-- The name of the file that a download is stored as. Bytes are an address too if they are ASCII.
-/
def fileName : Value → Except Fault String
  | .text s => Url.fileName s
  | .bytes data =>
    if data.all fun b => b.toNat < 128 then
      Url.fileName (String.ofList (data.map fun b => Char.ofNat b.toNat))
    else .error (.undecodable "ordinal not in range(128)")
  | v => if v.isPresent then .error .noSuchMember else .ok Url.defaultFileName

/-- A successful answer: the chunks of its body and what cut it short. -/
structure Body where
  chunks : List ByteArray
  cut : Option (DownloadProblem × String)

def Body.content (b : Body) : ByteArray := b.chunks.foldl (· ++ ·) ByteArray.empty

def isSuccess (status : Int) : Bool := 200 ≤ status && status < 300

/-- Sends the request and takes the next answer. -/
def request (url timeout : Value) : Action Body := do
  note (.request url timeout userAgent)
  let w ← get
  let (reply, rest) := w.replies.next
  set { w with replies := rest }
  match reply with
  | .refused .connection text =>
    throw (failure ("Connection error fetching " ++ url.display ++ ": " ++ text))
  | .refused .timeout _ => throw (failure ("Timeout fetching " ++ url.display))
  | .refused .request text =>
    throw (failure ("Request error fetching " ++ url.display ++ ": " ++ text))
  | .answer status chunks cut =>
    if isSuccess status then return ⟨chunks, cut⟩
    else throw (failure
      ("Fixture download returned HTTP " ++ intText status ++ " for " ++ url.display))

/-- Writes the body to a file. What cannot be written whole is taken away again. -/
def store (url : Value) (target : PathName) (body : Body) : Action Unit := do
  tryCatch (Disk.write target ByteArray.empty) fun f => do
    if f.isOutside then
      Disk.unlinkIfThere target
      throw (failure ("Cannot write " ++ target.display ++ ": " ++ f.message))
    else throw f
  note (.readBody chunkSize)
  Disk.write target body.content
  if let some (_, text) := body.cut then
    Disk.unlinkIfThere target
    throw (failure ("Download of " ++ url.display ++ " interrupted: " ++ text))

/-- The digest that is expected, in lower case. -/
def expectedDigest : Value → Except Fault String
  | .text s => .ok (Text.lower s)
  | .bytes data => .ok (Value.bytes (data.map fun b =>
      if 65 ≤ b.toNat && b.toNat ≤ 90 then b + 32 else b)).display
  | _ => .error .noSuchMember

/-- Checks the digest of a download. One that is wrong is taken away. -/
def verify (sha256 : Value) (target : PathName) (body : Body) : Action Unit := do
  match sha256 with
  | .null => return ()
  | _ =>
    let expected ← ofResult (expectedDigest sha256)
    let found := Digest.hex (Digest.sha256 body.content)
    unless found = expected do
      Disk.unlinkIfThere target
      throw (failure ("Fixture checksum mismatch: expected " ++ expected ++ ", got " ++ found))

/-- Keeps a download that is whole and has the expected digest. -/
def keep (url sha256 : Value) (target : PathName) (body : Body) : Action PathName := do
  store url target body
  verify sha256 target body
  log .info "fixture"
    ("Fixture saved to " ++ target.display ++ " (" ++ toString body.content.size ++ " bytes)")
  return target

/-- Downloads the fixture into a folder. -/
def fetch (url : Value) (folder : PathName) (timeout sha256 : Value) : Action PathName := do
  let name ← ofResult (fileName url)
  log .info "fixture" ("Fetching fixture " ++ url.display)
  let body ← request url timeout
  keep url sha256 (folder.join (.parse name)) body

end BuildBench.Fixture
