import BuildBench.Text.Quoted

/-!
# SHA-256

The digest of some bytes: they are padded to whole blocks of 64 bytes, the last eight of which hold
the length in bits, and every block is mixed into a state of eight words.
-/

namespace BuildBench.Digest

/-- The first 32 bits of the fractional parts of the cube roots of the first 64 primes. -/
def roundConstants : Array UInt32 := #[
  0x428a2f98, 0x71374491, 0xb5c0fbcf, 0xe9b5dba5, 0x3956c25b, 0x59f111f1, 0x923f82a4, 0xab1c5ed5,
  0xd807aa98, 0x12835b01, 0x243185be, 0x550c7dc3, 0x72be5d74, 0x80deb1fe, 0x9bdc06a7, 0xc19bf174,
  0xe49b69c1, 0xefbe4786, 0x0fc19dc6, 0x240ca1cc, 0x2de92c6f, 0x4a7484aa, 0x5cb0a9dc, 0x76f988da,
  0x983e5152, 0xa831c66d, 0xb00327c8, 0xbf597fc7, 0xc6e00bf3, 0xd5a79147, 0x06ca6351, 0x14292967,
  0x27b70a85, 0x2e1b2138, 0x4d2c6dfc, 0x53380d13, 0x650a7354, 0x766a0abb, 0x81c2c92e, 0x92722c85,
  0xa2bfe8a1, 0xa81a664b, 0xc24b8b70, 0xc76c51a3, 0xd192e819, 0xd6990624, 0xf40e3585, 0x106aa070,
  0x19a4c116, 0x1e376c08, 0x2748774c, 0x34b0bcb5, 0x391c0cb3, 0x4ed8aa4a, 0x5b9cca4f, 0x682e6ff3,
  0x748f82ee, 0x78a5636f, 0x84c87814, 0x8cc70208, 0x90befffa, 0xa4506ceb, 0xbef9a3f7, 0xc67178f2]

structure State where
  a : UInt32
  b : UInt32
  c : UInt32
  d : UInt32
  e : UInt32
  f : UInt32
  g : UInt32
  h : UInt32

/-- The first 32 bits of the fractional parts of the square roots of the first eight primes. -/
def State.start : State :=
  ⟨0x6a09e667, 0xbb67ae85, 0x3c6ef372, 0xa54ff53a, 0x510e527f, 0x9b05688c, 0x1f83d9ab, 0x5be0cd19⟩

def State.add (s t : State) : State :=
  ⟨s.a + t.a, s.b + t.b, s.c + t.c, s.d + t.d, s.e + t.e, s.f + t.f, s.g + t.g, s.h + t.h⟩

def rotate (x n : UInt32) : UInt32 := (x >>> n) ||| (x <<< (32 - n))

/-- The word of four bytes, the first of which counts most. -/
def word (bytes : ByteArray) (i : Nat) : UInt32 :=
  (bytes.get! i).toUInt32 <<< 24 ||| (bytes.get! (i + 1)).toUInt32 <<< 16 |||
    (bytes.get! (i + 2)).toUInt32 <<< 8 ||| (bytes.get! (i + 3)).toUInt32

/-- The sixty-four words that a block is extended to. -/
def schedule (bytes : ByteArray) (start : Nat) : Array UInt32 :=
  let first := (Array.range 16).map fun i => word bytes (start + 4 * i)
  (List.range' 16 48).foldl (fun w i =>
    let x := w.getD (i - 15) 0
    let y := w.getD (i - 2) 0
    let s0 := rotate x 7 ^^^ rotate x 18 ^^^ (x >>> 3)
    let s1 := rotate y 17 ^^^ rotate y 19 ^^^ (y >>> 10)
    w.push (w.getD (i - 16) 0 + s0 + w.getD (i - 7) 0 + s1)) first

def State.round (s : State) (constant input : UInt32) : State :=
  let s1 := rotate s.e 6 ^^^ rotate s.e 11 ^^^ rotate s.e 25
  let choice := (s.e &&& s.f) ^^^ (~~~s.e &&& s.g)
  let t1 := s.h + s1 + choice + constant + input
  let s0 := rotate s.a 2 ^^^ rotate s.a 13 ^^^ rotate s.a 22
  let majority := (s.a &&& s.b) ^^^ (s.a &&& s.c) ^^^ (s.b &&& s.c)
  ⟨t1 + (s0 + majority), s.a, s.b, s.c, s.d + t1, s.e, s.f, s.g⟩

/-- Mixes the block that begins at some byte into a state. -/
def State.mix (s : State) (bytes : ByteArray) (start : Nat) : State :=
  let w := schedule bytes start
  s.add ((List.range 64).foldl (fun t i => t.round (roundConstants.getD i 0) (w.getD i 0)) s)

/-- The bytes of a number, the first of which counts most. -/
def bigEndian (width n : Nat) : List UInt8 :=
  (List.range width).map fun i => UInt8.ofNat (n / Nat.pow 256 (width - 1 - i))

/-- The bytes completed to whole blocks: a one bit, zeros and the length. -/
def padded (bytes : ByteArray) : ByteArray :=
  let gap := (119 - bytes.size % 64) % 64
  let tail := (0x80 : UInt8) :: List.replicate gap 0 ++ bigEndian 8 (8 * bytes.size)
  bytes ++ ⟨tail.toArray⟩

/-- The digest of some bytes, 32 bytes long. -/
def sha256 (bytes : ByteArray) : ByteArray :=
  let input := padded bytes
  let s := (List.range (input.size / 64)).foldl (fun s i => s.mix input (64 * i)) State.start
  let words := [s.a, s.b, s.c, s.d, s.e, s.f, s.g, s.h]
  ⟨(words.flatMap fun w => bigEndian 4 w.toNat).toArray⟩

/-- Bytes as pairs of hexadecimal digits. -/
def hex (bytes : ByteArray) : String :=
  String.ofList (bytes.toList.flatMap fun b => Text.hexDigits 2 b.toNat)

end BuildBench.Digest
