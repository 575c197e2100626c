/-!
# Control sequences

A terminal takes an escape character and an opening bracket as the beginning of a command:
parameters and intermediate characters follow, and one final character ends it. Text that does not
go to a terminal is printed without such sequences. What looks like the beginning of one but has no
end is kept.
-/

namespace BuildBench.Text

def escapeCode : Char := Char.ofNat 27

/-- Whether a character is a parameter of a control sequence. -/
def isParameter (c : Char) : Bool := '0' ≤ c && c ≤ '?'

/-- Whether a character stands between the parameters and the final character. -/
def isIntermediate (c : Char) : Bool := ' ' ≤ c && c ≤ '/'

def isFinal (c : Char) : Bool := '@' ≤ c && c ≤ '~'

/-- What follows the inside of a control sequence, if it has an end. -/
def afterSequence? (cs : List Char) : Option (List Char) :=
  match (cs.dropWhile isParameter).dropWhile isIntermediate with
  | c :: rest => if isFinal c then some rest else none
  | [] => none

/-- Some characters without the control sequences in them. `skip` characters at the beginning belong
to a sequence. -/
def withoutSequences : Nat → List Char → List Char
  | _, [] => []
  | skip + 1, _ :: rest => withoutSequences skip rest
  | 0, c :: rest =>
    if c = escapeCode then
      match rest with
      | '[' :: inside =>
        match afterSequence? inside with
        | some after => withoutSequences (rest.length - after.length) rest
        | none => c :: withoutSequences 0 rest
      | _ => c :: withoutSequences 0 rest
    else c :: withoutSequences 0 rest

/-- Text without control sequences. -/
def plain (s : String) : String := String.ofList (withoutSequences 0 s.toList)

end BuildBench.Text
