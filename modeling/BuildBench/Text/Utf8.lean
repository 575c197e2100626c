import BuildBench.Text.Quoted

/-!
# Text from bytes

Bytes are read as UTF-8. A sequence that is cut short or damaged is reported with its position and
its extent, or replaced by the replacement character, one for each damaged sequence.
-/

namespace BuildBench.Text

/-- What a damaged sequence of bytes lacks. -/
inductive Damage where
  | invalidStart
  | invalidContinuation
  | unexpectedEnd
  deriving Repr, DecidableEq

def Damage.message : Damage → String
  | .invalidStart => "invalid start byte"
  | .invalidContinuation => "invalid continuation byte"
  | .unexpectedEnd => "unexpected end of data"

/-- What stands at the beginning of some bytes: a character, or a damaged sequence, and how many
bytes it takes. -/
inductive Utf8Step where
  | char (c : Char) (size : Nat)
  | damaged (damage : Damage) (size : Nat)

/-- The number of continuation bytes that a first byte announces, the payload of the first byte,
and the bounds of the second byte, which exclude overlong forms and surrogates. -/
def announced (first : Nat) : Option (Nat × Nat × Nat × Nat) :=
  if 0xC2 ≤ first && first ≤ 0xDF then some (1, first - 0xC0, 0x80, 0xBF)
  else if first = 0xE0 then some (2, 0, 0xA0, 0xBF)
  else if first = 0xED then some (2, 0xD, 0x80, 0x9F)
  else if 0xE1 ≤ first && first ≤ 0xEF then some (2, first - 0xE0, 0x80, 0xBF)
  else if first = 0xF0 then some (3, 0, 0x90, 0xBF)
  else if 0xF1 ≤ first && first ≤ 0xF3 then some (3, first - 0xF0, 0x80, 0xBF)
  else if first = 0xF4 then some (3, 4, 0x80, 0x8F)
  else none

/-- Reads `missing` continuation bytes after `size` bytes that gave `payload`; the next byte lies
between `low` and `high`. -/
def continueSequence (low high payload size : Nat) : Nat → List UInt8 → Utf8Step
  | 0, _ => .char (Char.ofNat payload) size
  | _ + 1, [] => .damaged .unexpectedEnd size
  | missing + 1, b :: rest =>
    if low ≤ b.toNat && b.toNat ≤ high then
      continueSequence 0x80 0xBF (payload * 64 + (b.toNat - 0x80)) (size + 1) missing rest
    else .damaged .invalidContinuation size

def utf8Step (first : UInt8) (rest : List UInt8) : Utf8Step :=
  if first.toNat < 0x80 then .char (Char.ofNat first.toNat) 1
  else match announced first.toNat with
    | some (count, payload, low, high) => continueSequence low high payload 1 count rest
    | none => .damaged .invalidStart 1

/-- The steps through some bytes; each takes at least one byte, so `fuel` bytes are read. -/
def utf8Steps : Nat → List UInt8 → List Utf8Step
  | 0, _ | _, [] => []
  | fuel + 1, b :: rest =>
    match utf8Step b rest with
    | .char c size => .char c size :: utf8Steps fuel (rest.drop (size - 1))
    | .damaged damage size => .damaged damage size :: utf8Steps fuel (rest.drop (size - 1))

/-- The first damaged sequence: its position, extent and kind. -/
def firstDamage (position : Nat) : List Utf8Step → Option (Nat × Nat × Damage)
  | [] => none
  | .char _ size :: rest => firstDamage (position + size) rest
  | .damaged damage size :: _ => some (position, size, damage)

/-- Text of the bytes with every damaged sequence replaced. -/
def decodeReplacing (bytes : List UInt8) : List Char :=
  (utf8Steps bytes.length bytes).map fun
    | .char c _ => c
    | .damaged _ _ => Char.ofNat 0xFFFD

/-- The text of some bytes, or what is said about the first damaged sequence. -/
def decode (bytes : ByteArray) : Except String String :=
  match String.fromUTF8? bytes with
  | some s => .ok s
  | none =>
    let list := bytes.toList
    match firstDamage 0 (utf8Steps list.length list) with
    | some (position, size, damage) =>
      let place :=
        if size = 1 then
          let byte := String.ofList (hexDigits 2 ((bytes.get! position).toNat))
          s!"byte 0x{byte} in position {position}"
        else
          let last := position + size - 1
          s!"bytes in position {position}-{last}"
      let reason := damage.message
      .error s!"'utf-8' codec can't decode {place}: {reason}"
    | none => .error "'utf-8' codec can't decode"

/-- The characters of some steps through bytes; every byte of a damaged sequence is kept as a half.
-/
def keepBytes : List UInt8 → List Utf8Step → List Char
  | _, [] => []
  | bytes, .char c size :: rest => c :: keepBytes (bytes.drop size) rest
  | bytes, .damaged _ size :: rest =>
    (bytes.take size).map (fun b => charOfEscape (0xDC00 + b.toNat)) ++
      keepBytes (bytes.drop size) rest

/-- The text of a name that is given in bytes. -/
def nameOfBytes (bytes : List UInt8) : String :=
  String.ofList (keepBytes bytes (utf8Steps bytes.length bytes))

/-- The bytes of a name. -/
def bytesOfName (s : String) : List UInt8 :=
  s.toList.flatMap fun c =>
    match half? c with
    | some n => [UInt8.ofNat (n - 0xDC00)]
    | none => (String.singleton c).toUTF8.toList

end BuildBench.Text
