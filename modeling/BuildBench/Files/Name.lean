import BuildBench.Fault
import BuildBench.Text.Quoted
import BuildBench.Text.Surrogate

/-!
# Names handed to the system

The system takes a name as bytes that end at the first zero. A text that holds a zero character, or
that has no bytes, is therefore the name of nothing: not of a file, and not of a user.
-/

namespace BuildBench

/-- What keeps a text from being a name. Missing bytes are noticed before a zero is. -/
def nameFault? (name : String) : Option Fault :=
  match Text.encodingDefect? Text.isByteHalf name with
  | some reason => some (.unencodable reason)
  | none =>
    if name.toList.contains (Char.ofNat 0) then some (.invalid "embedded null byte") else none

end BuildBench
