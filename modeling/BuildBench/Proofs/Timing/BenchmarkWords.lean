import BuildBench.Proofs.Run.FailFast
import BuildBench.Proofs.Timing.ShownPaths

/-!
# The words of a benchmark command

Splitting a command line into words undoes joining quoted words, whatever characters they hold. A
template whose words are replacement fields or safe characters becomes such a line when it is expanded,
so each word of the template becomes one word of the command: no path can add or take away a word.
-/

namespace BuildBench

/-! ## Splitting what was quoted -/

namespace Text

variable {c : Char} {cs rest : List Char} {word : Option (List Char)}

/-- A safe character adds itself to the word being read. -/
theorem wordsFrom_safe (safe : isShellSafe c = true) :
    wordsFrom .plain word (c :: rest) = wordsFrom .plain (extendWord word c) rest := by
  have other {d : Char} (unsafe' : isShellSafe d = false) : c ≠ d := by
    rintro rfl
    simp [safe] at unsafe'
  have separator : isWordSeparator c = false := by
    simp [isWordSeparator, other (by decide : isShellSafe ' ' = false),
      other (by decide : isShellSafe '\t' = false), other (by decide : isShellSafe '\r' = false),
      other (by decide : isShellSafe '\n' = false)]
  have mark : (c == apostrophe || c == doubleQuote) = false := by
    simp [other (by decide : isShellSafe apostrophe = false),
      other (by decide : isShellSafe doubleQuote = false)]
  have backslash : (c == '\\') = false := by
    simp [other (by decide : isShellSafe '\\' = false)]
  rw [wordsFrom, separator, mark, backslash]
  rfl

/-- By induction on the characters: none of them is a blank, a quote or a backslash. -/
theorem wordsFrom_allSafe {front : List Char} (safe : ∀ c ∈ cs, isShellSafe c = true) :
    wordsFrom .plain (some front) (cs ++ rest) =
      wordsFrom .plain (some (cs.reverse ++ front)) rest := by
  induction cs generalizing front with
  | nil => rfl
  | cons c cs ih =>
    obtain ⟨first, others⟩ := List.forall_mem_cons.mp safe
    rw [List.cons_append, wordsFrom_safe first, extendWord, ih others]
    simp

/-- What stands for a character between apostrophes. -/
def insideQuotes (c : Char) : List Char :=
  if c == apostrophe then [apostrophe, doubleQuote, apostrophe, doubleQuote, apostrophe] else [c]

/-- Between apostrophes every character is read as itself; an apostrophe leaves them, is read between
double quotes, and enters them again. -/
theorem wordsFrom_inside {front : List Char} :
    wordsFrom (.quoted apostrophe) (some front) (cs.flatMap insideQuotes ++ rest) =
      wordsFrom (.quoted apostrophe) (some (cs.reverse ++ front)) rest := by
  induction cs generalizing front with
  | nil => rfl
  | cons c cs ih =>
    have first : wordsFrom (.quoted apostrophe) (some front)
        (insideQuotes c ++ (cs.flatMap insideQuotes ++ rest)) =
          wordsFrom (.quoted apostrophe) (some (c :: front))
            (cs.flatMap insideQuotes ++ rest) := by
      by_cases mark : c = apostrophe
      · subst mark
        rfl
      · have plain : insideQuotes c = [c] := by simp [insideQuotes, mark]
        have escape : (apostrophe == doubleQuote) = false := by decide
        rw [plain, List.singleton_append, wordsFrom]
        simp [mark, escape, extendWord]
    rw [List.flatMap_cons, List.append_assoc, first, ih]
    simp

/-- A quoted word is read as the word. -/
theorem wordsFrom_quoteWord (s : String) :
    wordsFrom .plain none ((quoteWord s).toList ++ rest) =
      wordsFrom .plain (some s.toList.reverse) rest := by
  unfold quoteWord
  dsimp only
  split
  · next empty =>
    obtain rfl : s = "" := by simpa using empty
    rfl
  split
  · next nonempty safe =>
    have given : s.toList ≠ [] := by simpa using nonempty
    obtain ⟨c, cs, same⟩ := List.exists_cons_of_ne_nil given
    rw [List.all_eq_true, same] at safe
    obtain ⟨first, others⟩ := List.forall_mem_cons.mp safe
    rw [same, List.cons_append, wordsFrom_safe first]
    have tail : wordsFrom .plain (some [c]) (cs ++ rest) =
        wordsFrom .plain (some (cs.reverse ++ [c])) rest := wordsFrom_allSafe others
    rw [List.reverse_cons, ← tail]
    rfl
  · have whole : (String.ofList (apostrophe :: s.toList.flatMap insideQuotes ++
        [apostrophe])).toList ++ rest =
          apostrophe :: (s.toList.flatMap insideQuotes ++ apostrophe :: rest) := by simp
    calc wordsFrom .plain none ((String.ofList (apostrophe :: s.toList.flatMap insideQuotes ++
          [apostrophe])).toList ++ rest)
      _ = wordsFrom (.quoted apostrophe) (some [])
          (s.toList.flatMap insideQuotes ++ apostrophe :: rest) := by rw [whole]; rfl
      _ = wordsFrom (.quoted apostrophe) (some s.toList.reverse) (apostrophe :: rest) := by
          rw [wordsFrom_inside, List.append_nil]
      _ = wordsFrom .plain (some s.toList.reverse) rest := rfl

/-- Splitting a line of quoted words gives the words back. -/
theorem splitWords_joinWords (words : List String) : splitWords (joinWords words) = .ok words := by
  have each (words : List String) :
      wordsFrom .plain none (joinWords words).toList = .ok words := by
    induction words with
    | nil => rfl
    | cons word rest ih =>
      have read : wordsFrom .plain (some word.toList.reverse) [] = .ok [word] := by
        simp [wordsFrom, finishWord]
      cases rest with
      | nil =>
        have alone : wordsFrom .plain none ((quoteWord word).toList ++ []) = .ok [word] :=
          (wordsFrom_quoteWord word).trans read
        simpa [joinWords] using alone
      | cons next more =>
        have whole : (joinWords (word :: next :: more)).toList =
            (quoteWord word).toList ++ ' ' :: (joinWords (next :: more)).toList := by
          simp [joinWords, String.intercalate_cons_cons, String.toList_append]
        have after : wordsFrom .plain (some word.toList.reverse)
            (' ' :: (joinWords (next :: more)).toList) = .ok (word :: next :: more) := by
          rw [wordsFrom, if_pos (by decide), ih]
          simp [finishWord, Except.map]
        rw [whole, wordsFrom_quoteWord, after]
  rw [splitWords, each]
  rfl

/-! ## Expanding a template -/

namespace Template

/-- Some characters of a template become a text, with enough fuel and however fields are numbered. -/
def Expands (fields : Fields) (cs : List Char) (s : String) : Prop :=
  ∀ inner fuel numbering, cs.length ≤ fuel →
    expandWith fields inner fuel numbering cs = .ok (s, numbering)

variable {fields : Fields} {s : String} {cs : List Char}

/-- There is nothing to expand. -/
theorem Expands.nil : Expands fields [] "" := by
  intro inner fuel numbering _
  cases fuel <;> rfl

/-- What is no brace stands for itself. -/
theorem Expands.plain {c : Char} (expands : Expands fields cs s)
    (plain : (c == openBrace || c == closeBrace) = false) :
    Expands fields (c :: cs) (String.singleton c ++ s) := by
  intro inner fuel numbering enough
  obtain ⟨fuel, rfl⟩ := Nat.exists_eq_add_one_of_ne_zero (Nat.ne_zero_of_lt enough)
  unfold expandWith
  dsimp only
  rw [plain, expands inner fuel numbering (Nat.le_of_succ_le_succ enough)]
  rfl

/-- By induction on the characters: each stands for itself. -/
theorem Expands.plains {front : List Char} (expands : Expands fields cs s)
    (plain : ∀ c ∈ front, (c == openBrace || c == closeBrace) = false) :
    Expands fields (front ++ cs) (String.ofList front ++ s) := by
  induction front with
  | nil => simpa using expands
  | cons c front ih =>
    obtain ⟨first, others⟩ := List.forall_mem_cons.mp plain
    have whole : String.ofList (c :: front) ++ s =
        String.singleton c ++ (String.ofList front ++ s) := by
      apply String.toList_injective
      simp
    rw [whole]
    exact (ih others).plain first

/-- A field becomes the text that it names. -/
theorem Expands.field {c : Char} {name : List Char} {value : String}
    (expands : Expands fields cs s) (plain : c ≠ openBrace)
    (read : readField (c :: name ++ closeBrace :: cs) = .ok (⟨c :: name, none, []⟩, cs))
    (named : ∀ numbering,
      lookUp fields numbering (c :: name) = .ok (.value (.text value), numbering)) :
    Expands fields (openBrace :: (c :: name ++ closeBrace :: cs)) (value ++ s) := by
  intro inner fuel numbering enough
  obtain ⟨fuel, rfl⟩ := Nat.exists_eq_add_one_of_ne_zero (Nat.ne_zero_of_lt enough)
  have rest := expands inner fuel numbering (by
    simp only [List.length_cons, List.length_append] at enough
    omega)
  have single : ¬ (openBrace == c) = true := by simpa using plain.symm
  unfold expandWith
  dsimp only [List.cons_append]
  rw [if_pos (by decide), if_neg single, if_neg (by decide)]
  rw [List.cons_append] at read
  have shown : layOutSubject (String.ofList []).toList (.value (.text value)) = .ok value := rfl
  simp only [read, named, convert, bind, Except.bind, pure, Except.pure, List.contains_nil,
    Bool.false_eq_true, if_false, shown, rest]

end Template

end Text

/-! ## The words of a template -/

namespace Measurement

open BuildBench.Action Text Template

/-- A word of a template: one of the two replacement fields, or safe characters. -/
inductive TemplateWord where
  | binary
  | fixture
  | literal (text : String) (given : text ≠ "") (safe : text.toList.all isShellSafe = true)

namespace TemplateWord

def text : TemplateWord → String
  | .binary => "\x7bbinary\x7d"
  | .fixture => "\x7bfixture\x7d"
  | .literal text _ _ => text

/-- The word of the command that a word of the template stands for. -/
def filled (binary fixture : String) : TemplateWord → String
  | .binary => binary
  | .fixture => fixture
  | .literal text _ _ => text

end TemplateWord

/-- A template with one space between its words. -/
def templateOf (words : List TemplateWord) : String := " ".intercalate (words.map (·.text))

/-- The values that a benchmark command is filled in with. -/
def commandFields (binary fixture : String) : Fields :=
  [("binary", .text (quoteWord binary)), ("fixture", .text (quoteWord fixture))]

variable {binary fixture s : String} {cs : List Char}

/-- Neither reason for quotes applies. -/
theorem quoteWord_safe {text : String} (given : text ≠ "")
    (safe : text.toList.all isShellSafe = true) : quoteWord text = text := by
  unfold quoteWord
  dsimp only
  rw [if_neg (by simpa using given), if_pos safe]

/-- By the word: a field is replaced by its quoted text, and the characters of a plain word stand
for themselves. -/
theorem TemplateWord.expands (word : TemplateWord)
    (expands : Expands (commandFields binary fixture) cs s) :
    Expands (commandFields binary fixture) (word.text.toList ++ cs)
      (quoteWord (word.filled binary fixture) ++ s) := by
  cases word with
  | binary =>
    have field : Expands (commandFields binary fixture)
        (openBrace :: ('b' :: "inary".toList ++ closeBrace :: cs)) (quoteWord binary ++ s) :=
      expands.field (by decide) rfl fun _ => rfl
    exact field
  | fixture =>
    have field : Expands (commandFields binary fixture)
        (openBrace :: ('f' :: "ixture".toList ++ closeBrace :: cs)) (quoteWord fixture ++ s) :=
      expands.field (by decide) rfl fun _ => rfl
    exact field
  | literal text given safe =>
    have plain : ∀ c ∈ text.toList, (c == openBrace || c == closeBrace) = false := by
      intro c among
      have other : c ≠ openBrace ∧ c ≠ closeBrace := by
        constructor <;> rintro rfl <;> exact absurd (List.all_eq_true.mp safe _ among) (by decide)
      simp [other]
    have whole := expands.plains plain
    rw [String.ofList_toList] at whole
    rw [TemplateWord.filled, quoteWord_safe given safe]
    exact whole

/-- An expanded template is a line of quoted words. -/
theorem expands_templateOf (words : List TemplateWord) :
    Expands (commandFields binary fixture) (templateOf words).toList
      (joinWords (words.map (·.filled binary fixture))) := by
  induction words with
  | nil => exact .nil
  | cons word rest ih =>
    cases rest with
    | nil =>
      have alone := word.expands (.nil : Expands (commandFields binary fixture) [] "")
      simpa [templateOf, joinWords] using alone
    | cons next more =>
      have whole : (templateOf (word :: next :: more)).toList =
          word.text.toList ++ ' ' :: (templateOf (next :: more)).toList := by
        simp [templateOf, String.intercalate_cons_cons, String.toList_append]
      have line : joinWords ((word :: next :: more).map (·.filled binary fixture)) =
          quoteWord (word.filled binary fixture) ++ (String.singleton ' ' ++
            joinWords ((next :: more).map (·.filled binary fixture))) := by
        simp [joinWords, String.intercalate_cons_cons, String.append_assoc]
      rw [whole, line]
      exact word.expands (ih.plain (by decide))

/-- The length of the template is fuel enough. -/
theorem expand_templateOf (words : List TemplateWord) :
    Template.expand (templateOf words) (commandFields binary fixture) =
      .ok (joinWords (words.map (·.filled binary fixture))) := by
  rw [Template.expand]
  dsimp only
  rw [expands_templateOf words _ _ _ (Nat.le_refl _)]
  rfl

variable {binary fixture workdir : PathName} {w : World}

/-- A command is made from the two texts that the paths are shown as. -/
theorem benchmarkCommand_run (words : List TemplateWord) :
    benchmarkCommand (.text (templateOf words)) binary fixture workdir w =
      ((do
        let binary ← (displayPath binary workdir w).1
        let fixture ← (displayPath fixture workdir w).1
        return joinWords (words.map (·.filled binary (withoutDot fixture)))), w) := by
  obtain ⟨b, first⟩ := (displayPath_asks binary workdir).run w
  obtain ⟨f, second⟩ := (displayPath_asks fixture workdir).run w
  rw [benchmarkCommand, bind_run, first]
  rcases b with fault | b
  · rfl
  dsimp only
  rw [bind_run, second]
  rcases f with fault | f
  · rfl
  dsimp only
  have expanded : Template.expand (templateOf words) (commandFields b (withoutDot f)) = _ :=
    expand_templateOf words
  rw [commandFields] at expanded
  simp only [bind_run, templateText, ofResult_run, expanded]
  rfl

/-- A path is shown as something in a tree without loops. -/
theorem exists_displayPath (loopFree : w.files.root.LoopFree)
    (seated : w.files.root.Straight w.files.current) {path : PathName} (proper : path.Proper)
    (properBase : workdir.Proper) : ∃ shown, displayPath path workdir w = (.ok shown, w) := by
  obtain ⟨base, based⟩ := Files.exists_locates loopFree workdir
  obtain ⟨goal, located⟩ := Files.exists_locates loopFree path
  obtain ⟨shown, run, -⟩ := displayPath_keepsMeaning seated proper properBase based located
  exact ⟨shown, run⟩

/-- Each word of a template becomes one word of the command, in order, whatever characters the paths
hold: a field becomes what the path is shown as, and everything else stays. Only a path that cannot be
shown keeps a command from being made, and in a tree without loops every path can be shown. -/
theorem benchmarkCommand_words (words : List TemplateWord) (binary fixture workdir : PathName)
    (w : World) :
    ((benchmarkCommand (.text (templateOf words)) binary fixture workdir w).1 >>= fun command =>
        Command.words (.text command)) =
      (do
        let binary ← (displayPath binary workdir w).1
        let fixture ← (displayPath fixture workdir w).1
        return words.map (·.filled binary (withoutDot fixture))) ∧
    (w.files.root.LoopFree → w.files.root.Straight w.files.current →
      binary.Proper → fixture.Proper → workdir.Proper →
      ∃ command binaryText fixtureText,
        benchmarkCommand (.text (templateOf words)) binary fixture workdir w = (.ok command, w) ∧
        displayPath binary workdir w = (.ok binaryText, w) ∧
        displayPath fixture workdir w = (.ok fixtureText, w) ∧
        Command.words (.text command) =
          .ok (words.map (·.filled binaryText (withoutDot fixtureText)))) := by
  constructor
  · rw [benchmarkCommand_run]
    rcases (displayPath binary workdir w).1 with fault | b
    · rfl
    rcases (displayPath fixture workdir w).1 with fault | f
    · rfl
    · exact splitWords_joinWords _
  · intro loopFree seated properBinary properFixture properBase
    obtain ⟨b, first⟩ := exists_displayPath loopFree seated properBinary properBase
    obtain ⟨f, second⟩ := exists_displayPath loopFree seated properFixture properBase
    refine ⟨joinWords (words.map (·.filled b (withoutDot f))), b, f, ?_, first, second, ?_⟩
    · rw [benchmarkCommand_run, first, second]
      rfl
    · exact splitWords_joinWords _

/-- An artifact below a folder whose name has a space and an apostrophe, and a fixture whose name looks
like more words, a field and a variable. -/
theorem benchmarkCommand_words_linkedBuild :
    let words : List TemplateWord :=
      [.literal "time" (by decide) (by decide), .binary, .literal "build" (by decide) (by decide),
       .fixture]
    let workdir := PathName.parse "w"
    let binary := workdir.join (.parse "it's here/tool")
    let fixture := workdir.join (.parse "a; \"b\" \x7bbinary\x7d $c\n\\.js")
    linkedBuild.files.root.LoopFree ∧ linkedBuild.files.root.Straight linkedBuild.files.current ∧
      binary.Proper ∧ fixture.Proper ∧ workdir.Proper ∧
      ∃ command,
        benchmarkCommand (.text (templateOf words)) binary fixture workdir linkedBuild =
          (.ok command, linkedBuild) ∧
        Command.words (.text command) = .ok
          ["time", "./it's here/tool", "build", "a; \"b\" \x7bbinary\x7d $c\n\\.js"] := by
  intro words workdir binary fixture
  have proper : workdir.Proper := PathName.parse_proper "w"
  have properBinary : binary.Proper := proper.join (PathName.parse_proper _)
  have properFixture : fixture.Proper := proper.join (PathName.parse_proper _)
  obtain ⟨command, b, f, made, first, second, split⟩ :=
    (benchmarkCommand_words words binary fixture workdir linkedBuild).2 linkedBuild_loopFree
      linkedBuild_seated properBinary properFixture proper
  have binaryText : (displayPath binary workdir linkedBuild).1.toOption =
      some "./it's here/tool" := by decide +kernel
  have fixtureText : (displayPath fixture workdir linkedBuild).1.toOption =
      some "./a; \"b\" \x7bbinary\x7d $c\n\\.js" := by decide +kernel
  rw [first] at binaryText
  rw [second] at fixtureText
  cases binaryText
  cases fixtureText
  exact ⟨linkedBuild_loopFree, linkedBuild_seated, properBinary, properFixture, proper, command,
    made, split⟩

end Measurement

end BuildBench
