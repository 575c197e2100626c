import BuildBench.CommandLine.Option
import BuildBench.CommandLine.Refusal
import BuildBench.Text.Similarity

/-!
# The words of a command line

A word that begins with a dash uses options: one by its long name, with its value behind an equality
sign or in the next word, or several by letters. All other words are arguments, and so is everything
behind a word of two dashes.
-/

namespace BuildBench.CommandLine

/-- One use of an option. A flag is used without a value. -/
structure Use where
  option : OptionSpec
  value : Option String
  deriving Repr, DecidableEq

/-- What one word uses, and whether the next word is a value that belongs to it. -/
structure WordUses where
  uses : List Use
  takesNext : Bool := false

/-- The use of an option whose value is attached to it or is the next word. -/
def useWithValue (o : OptionSpec) (spelling : String) (attached next : Option String) :
    Except Refusal WordUses :=
  match attached, next with
  | some v, _ => .ok ⟨[⟨o, some v⟩], false⟩
  | none, some v => .ok ⟨[⟨o, some v⟩], true⟩
  | none, none => .error (.valueMissing spelling)

/-- The uses in a word of letters. The letters behind one that takes a value are that value. -/
def letterUses (options : List OptionSpec) (next : Option String) :
    List Char → Except Refusal WordUses
  | [] => .ok ⟨[], false⟩
  | c :: rest =>
    let spelling := String.ofList ['-', c]
    match findOption true spelling options with
    | none => .error (.unknownOption spelling [])
    | some o =>
      if o.takesValue then
        useWithValue o spelling (if rest.isEmpty then none else some (String.ofList rest)) next
      else (letterUses options next rest).map fun w => { w with uses := ⟨o, none⟩ :: w.uses }

/-- The name in front of the first equality sign, and the value behind it. -/
def nameAndValue (word : String) : String × Option String :=
  let cs := word.toList
  let name := cs.takeWhile (· != '=')
  (String.ofList name,
    match cs.drop name.length with
    | _ :: value => some (String.ofList value)
    | [] => none)

/-- The uses in a word that begins with a dash. -/
def wordUses (options : List OptionSpec) (word : String) (next : Option String) :
    Except Refusal WordUses :=
  let (name, attached) := nameAndValue word
  match findOption false name options with
  | some o =>
    if o.takesValue then useWithValue o name attached next
    else if attached.isSome then .error (.valueUnwanted name)
    else .ok ⟨[⟨o, none⟩], false⟩
  | none =>
    if Text.beginsWith "--" word then
      .error (.unknownOption name (Text.similarNames name (longSpellings options)))
    else letterUses options next (word.toList.drop 1)

/-- The uses of options in a command line, and its arguments. -/
structure Separated where
  uses : List Use := []
  arguments : List String := []
  deriving Repr, DecidableEq

/-- Whether a word uses options. A single dash does not. -/
def isOptionWord (word : String) : Bool := Text.beginsWith "-" word && 1 < word.length

/-- Separates options from arguments. With `mixed` options may follow arguments; otherwise
everything from the first argument on is left as it is. -/
def separate (options : List OptionSpec) (mixed : Bool) : List String → Except Refusal Separated
  | [] => .ok {}
  | word :: rest =>
    if word = "--" then .ok { arguments := rest }
    else if isOptionWord word then
      match wordUses options word rest.head? with
      | .error r => .error r
      | .ok found =>
        let others :=
          match rest with
          | next :: more =>
            if found.takesNext then separate options mixed more
            else separate options mixed (next :: more)
          | [] => .ok {}
        others.map fun s => { s with uses := found.uses ++ s.uses }
    else if mixed then
      (separate options mixed rest).map fun s => { s with arguments := word :: s.arguments }
    else .ok { arguments := word :: rest }
  termination_by words => words.length

end BuildBench.CommandLine
