import BuildBench.Timing.Summary
import BuildBench.Json.Reading

/-!
# Exported timings

The external timing program writes what it measured as a JSON document. Its first result is read
into a summary. Whatever else the document holds is a fault.
-/

namespace BuildBench.Timing

/-- A value read as a float: a number, or a text that writes one. -/
def floatOf : Value → Except Fault Float
  | .bool b => .ok (if b then 1.0 else 0.0)
  | .int i =>
    match Decimal.ofInt? i with
    | some x => .ok x
    | none => .error .tooLarge
  | .float x => .ok x
  | .text s =>
    match Decimal.parseFloat? s with
    | some x => .ok x
    | none => .error (.invalid ("could not convert string to float: " ++ Text.quoted s))
  | _ => .error .wrongType

/-- The values that a value is made of: the items of a list, the characters of a text, the keys of a
map. -/
def itemsOf : Value → Except Fault (List Value)
  | .list items => .ok items
  | .text s => .ok (s.toList.map fun c => .text (String.singleton c))
  | .map entries => .ok (entries.map (·.1))
  | _ => .error .wrongType

/-- The first of several results. -/
def firstOf : Value → Except Fault Value
  | .list (first :: _) => .ok first
  | .text s =>
    match s.toList with
    | c :: _ => .ok (.text (String.singleton c))
    | [] => .error .badPosition
  | .map _ => .error (.missingKey (.int 0))
  | .list [] => .error .badPosition
  | _ => .error .wrongType

/-- The entries of a map. -/
def entriesOf : Value → Except Fault (List (Value × Value))
  | .map entries => .ok entries
  | _ => .error .noSuchMember

/-- An entry that has to be there. -/
def required (entries : List (Value × Value)) (name : String) : Except Fault Value :=
  match member? name entries with
  | some v => .ok v
  | none => .error (.missingKey (.text name))

/-- The summary of one result. A missing median is the mean, and missing CPU times are zero. -/
def summaryOfResult (result : Value) : Except Fault TimingSummary := do
  let r ← entriesOf result
  let command := (member? "command" r).getD (.text "")
  let mean ← required r "mean"
  let meanTime ← floatOf mean
  let stddev ← floatOf (((member? "stddev" r).filter Value.isPresent).getD (.float 0.0))
  let median ← floatOf ((member? "median" r).getD mean)
  let least ← required r "min" >>= floatOf
  let greatest ← required r "max" >>= floatOf
  let user ← floatOf ((member? "user" r).getD (.float 0.0))
  let system ← floatOf ((member? "system" r).getD (.float 0.0))
  let times ← itemsOf ((member? "times" r).getD (.list []))
  let times ← times.mapM floatOf
  return {
    command := command
    mean := meanTime
    stddev := stddev
    median := median
    least := least
    greatest := greatest
    user := user
    system := system
    times := times
    tool := "hyperfine" }

/-- The summary of an exported document. -/
def summaryOfExport (document : Value) : Except Fault TimingSummary := do
  let entries ← entriesOf document
  match (member? "results" entries).filter Value.isPresent with
  | none => throw (.invalid "hyperfine export contains no results")
  | some results => summaryOfResult (← firstOf results)

/-- What a document that cannot be read is reported as. -/
def readFault (text : String) : Json.ReadError → Fault
  | .malformed defect left => .unreadable (Json.defectText text.toList defect left)
  | .tooManyDigits count => .invalid (Decimal.tooManyDigits count)
  | .nestedTooDeep nested =>
    .tooDeep (" while decoding a JSON " ++ nested.name ++ " from a unicode string")

/-- Reads a JSON document. -/
def readDocument (text : String) : Except Fault Value := (Json.parse text).mapError (readFault text)

end BuildBench.Timing
