/-!
# Halves of pairs

An escape may write one half of a surrogate pair, which is no character. A text holds a private
character in its place, a fixed distance above the number of the half. It is shown under the half's
own number, and it has no bytes.

The characters that stand for halves are the private ones from U+10D800 to U+10DFFF. They are
reserved for this: a text from outside in which one of them stands for itself is read as a text with
a half there.
-/

namespace BuildBench.Text

/-- The distance from the number of a half to the character in its place. -/
def halfDistance : Nat := 0x100000

/-- Whether a number is that of half a pair. -/
def isHalf (n : Nat) : Bool := 0xD800 ≤ n && n < 0xE000

/-- The character that an escape with some number writes. -/
def charOfEscape (n : Nat) : Char :=
  if isHalf n then Char.ofNat (halfDistance + n) else Char.ofNat n

/-- The number of the half that a character stands for, if it stands for one. -/
def half? (c : Char) : Option Nat :=
  if c.toNat < halfDistance then none
  else
    let n := c.toNat - halfDistance
    if isHalf n then some n else none

/-- The number under which a character is shown. -/
def shownNumber (c : Char) : Nat := (half? c).getD c.toNat

/-- Whether a half stands for a byte that is no text. In the names of files such halves have bytes.
-/
def isByteHalf (n : Nat) : Bool := 0xDC80 ≤ n && n < 0xDD00

/-- The halves at the beginning of some characters. -/
def leadingHalves (cs : List Char) : List Nat :=
  (cs.takeWhile fun c => (half? c).isSome).filterMap half?

/-- The first run of halves without bytes: how many characters come before it, and its halves. -/
def firstHalves (hasBytes : Nat → Bool) : Nat → List Char → Option (Nat × List Nat)
  | _, [] => none
  | position, c :: rest =>
    match half? c with
    | none => firstHalves hasBytes (position + 1) rest
    | some n =>
      if hasBytes n then firstHalves hasBytes (position + 1) rest
      else some (position, leadingHalves (c :: rest))

end BuildBench.Text
