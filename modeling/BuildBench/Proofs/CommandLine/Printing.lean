import BuildBench.Proofs.CommandLine.EventChecks
import BuildBench.Proofs.Files.PathNames
import BuildBench.Proofs.Json.LegibleCharacters

/-!
# What is left of a text when it is printed

Control sequences are left out of what is printed. No such sequence goes beyond the end of a line, so
that the lines of a text are printed independently of each other, and a legible text holds none. A
text with half a pair in it cannot be printed at all on the one stream, and is escaped on the other.
-/

namespace BuildBench

namespace Text

/-! ## Control sequences -/

/-- By evaluation. -/
theorem isParameter_newline : isParameter '\n' = false := by decide

/-- By evaluation. -/
theorem isIntermediate_newline : isIntermediate '\n' = false := by decide

/-- By induction on the characters before the stop. -/
theorem dropWhile_append_stop {p : Char → Bool} {stop : Char} (stops : p stop = false)
    (cs ds : List Char) :
    (cs ++ stop :: ds).dropWhile p = cs.dropWhile p ++ stop :: ds := by
  induction cs with
  | nil => simp [stops]
  | cons c rest ih =>
    rw [List.cons_append, List.dropWhile_cons, List.dropWhile_cons, ih]
    split <;> rfl

/-- A control sequence ends before the line does. -/
theorem afterSequence?_newline (cs ds : List Char) :
    afterSequence? (cs ++ '\n' :: ds) = (afterSequence? cs).map (· ++ '\n' :: ds) := by
  unfold afterSequence?
  rw [dropWhile_append_stop isParameter_newline, dropWhile_append_stop isIntermediate_newline]
  rcases (cs.dropWhile isParameter).dropWhile isIntermediate with _ | ⟨c, rest⟩
  · rfl
  · rw [List.cons_append]
    dsimp only
    split <;> rfl

/-- How many characters behind a character belong to the control sequence that begins with it, if one
does. -/
def sequenceBehind? (c : Char) (rest : List Char) : Option Nat :=
  if c = escapeCode then
    match rest with
    | '[' :: inside => (afterSequence? inside).map (rest.length - ·.length)
    | _ => none
  else none

/-- By whether an escape sequence begins here. -/
theorem withoutSequences_cons (c : Char) (rest : List Char) :
    withoutSequences 0 (c :: rest) = match sequenceBehind? c rest with
      | some skip => withoutSequences skip rest
      | none => c :: withoutSequences 0 rest := by
  unfold sequenceBehind?
  by_cases escape : c = escapeCode
  · rw [if_pos escape]
    rcases rest with _ | ⟨d, inside⟩
    · simp [withoutSequences]
    by_cases opens : d = '['
    · subst opens
      rw [withoutSequences, if_pos escape]
      cases ended : afterSequence? inside <;> simp [ended]
    · simp [withoutSequences, opens]
  · rw [if_neg escape, withoutSequences.eq_def]
    simp only [if_neg escape]

/-- A line feed belongs to no escape sequence, so what is behind it is not looked at. -/
theorem sequenceBehind?_newline (c : Char) (rest ds : List Char) :
    sequenceBehind? c (rest ++ '\n' :: ds) = sequenceBehind? c rest := by
  unfold sequenceBehind?
  rcases rest with _ | ⟨d, inside⟩
  · rfl
  by_cases opens : d = '['
  · subst opens
    have same (after : List Char) :
        inside.length + (ds.length + 1) + 1 - (after.length + (ds.length + 1)) =
          inside.length + 1 - after.length := by omega
    cases ended : afterSequence? inside <;> simp [afterSequence?_newline, ended, same]
  · simp [opens]

/-- The sequence is a part of what is behind. -/
theorem sequenceBehind?_le {c : Char} {rest : List Char} {skip : Nat}
    (some : sequenceBehind? c rest = some skip) : skip ≤ rest.length := by
  unfold sequenceBehind? at some
  split at some
  · split at some
    · obtain ⟨after, -, rfl⟩ := Option.map_eq_some_iff.mp some
      exact Nat.sub_le _ _
    · cases some
  · cases some

/-- The lines of a text are printed independently of each other. -/
theorem withoutSequences_newline {skip : Nat} {cs : List Char} (within : skip ≤ cs.length)
    (ds : List Char) :
    withoutSequences skip (cs ++ '\n' :: ds) =
      withoutSequences skip cs ++ '\n' :: withoutSequences 0 ds := by
  induction cs generalizing skip with
  | nil =>
    obtain rfl : skip = 0 := by simpa using within
    rw [List.nil_append, withoutSequences_cons]
    rfl
  | cons c rest ih =>
    cases skip with
    | succ skip => exact ih (by simpa using within)
    | zero =>
      rw [List.cons_append, withoutSequences_cons, withoutSequences_cons, sequenceBehind?_newline]
      rcases behind : sequenceBehind? c rest with _ | skip
      · exact congrArg (c :: ·) (ih (Nat.zero_le _))
      · exact ih (sequenceBehind?_le behind)

/-- Nothing is left out where no control sequence begins. -/
theorem withoutSequences_append {cs : List Char} (free : escapeCode ∉ cs) (ds : List Char) :
    withoutSequences 0 (cs ++ ds) = cs ++ withoutSequences 0 ds := by
  induction cs with
  | nil => rfl
  | cons c rest ih =>
    obtain ⟨first, others⟩ := not_or.mp (List.mem_cons.not.mp free)
    have none : sequenceBehind? c (rest ++ ds) = none := if_neg (Ne.symm first)
    rw [List.cons_append, withoutSequences_cons, none]
    exact congrArg (c :: ·) (ih others)

/-- Without an escape character no sequence begins in the first text. -/
theorem plain_append {a : String} (free : escapeCode ∉ a.toList) (b : String) :
    plain (a ++ b) = a ++ plain b := by
  apply String.toList_inj.mp
  simp [plain, withoutSequences_append free]

/-- Without an escape character no sequence begins. -/
theorem plain_eq_self {s : String} (free : escapeCode ∉ s.toList) : plain s = s := by
  have same := plain_append free ""
  rwa [String.append_empty, show plain "" = "" from rfl, String.append_empty] at same

/-- The escape character is not legible. -/
theorem Legible.escapeCode_not_mem {cs : List Char} (legible : Legible cs) : escapeCode ∉ cs :=
  fun among => absurd (legible _ among) (by decide)

/-- No sequence reaches across the line feed. -/
theorem plain_line (a b : String) : plain (a ++ "\n" ++ b) = plain a ++ "\n" ++ plain b := by
  apply String.toList_inj.mp
  simp [plain, withoutSequences_newline (Nat.zero_le _)]

/-- Nothing stands behind the line feed. -/
theorem plain_line_end (a : String) : plain (a ++ "\n") = plain a ++ "\n" := by
  have same := plain_line a ""
  rwa [String.append_empty, show plain "" = "" from rfl, String.append_empty] at same

/-- A line that is legible is printed as it is. -/
theorem plain_legible_line {b : String} (legible : Legible b.toList) (a : String) :
    plain (a ++ "\n" ++ b ++ "\n") = plain a ++ "\n" ++ b ++ "\n" := by
  rw [plain_line_end, plain_line, plain_eq_self legible.escapeCode_not_mem]

/-! ## Halves of pairs -/

/-- A text without halves of pairs. Only such a text has bytes. -/
def Whole (s : String) : Prop := ∀ c ∈ s.toList, half? c = none

instance (s : String) : Decidable (Whole s) :=
  List.decidableBAll _ s.toList

/-- Character by character. -/
@[simp] theorem whole_append {a b : String} : Whole (a ++ b) ↔ Whole a ∧ Whole b := by
  simp [Whole, or_imp, forall_and]

/-- A legible character is one of the first 127, and halves come much later. -/
theorem half?_of_isLegible {c : Char} (legible : isLegible c = true) : half? c = none := by
  have small : c.toNat < 127 := by
    rcases (by simpa [isLegible] using legible : c = '\n' ∨ 32 ≤ c.toNat ∧ c.toNat < 127) with
      rfl | ⟨-, small⟩
    · decide
    · exact small
  exact if_pos (Nat.lt_trans small (by decide))

/-- Character by character. -/
theorem Legible.whole {s : String} (legible : Legible s.toList) : Whole s :=
  fun c among => half?_of_isLegible (legible c among)

/-- A text is encoded unless it has a half of a pair. -/
theorem encodingDefect?_eq_none_iff {s : String} :
    encodingDefect? (fun _ => false) s = none ↔ Whole s := by
  rw [encodingDefect?, Option.map_eq_none_iff, firstHalves_eq_none_iff]
  refine forall₂_congr fun c _ => ?_
  cases half? c <;> simp

/-- Character by character. -/
theorem withEscapedHalves_append (a b : String) :
    withEscapedHalves (a ++ b) = withEscapedHalves a ++ withEscapedHalves b := by
  apply String.toList_inj.mp
  simp [withEscapedHalves]

/-- Each character stands for itself. -/
theorem withEscapedHalves_of_whole {s : String} (whole : Whole s) : withEscapedHalves s = s := by
  apply String.toList_inj.mp
  rw [withEscapedHalves, String.toList_ofList]
  refine (List.flatMap_congr fun c among => ?_).trans (List.flatMap_singleton' _)
  rw [whole c among]

/-- A line about errors whose beginning is legible. -/
theorem escaped_line {a : String} (legible : Legible a.toList) (b : String) :
    withEscapedHalves (plain (a ++ b ++ "\n")) = a ++ withEscapedHalves (plain b) ++ "\n" := by
  have newline : Whole "\n" := by decide
  rw [plain_line_end, plain_append legible.escapeCode_not_mem, withEscapedHalves_append,
    withEscapedHalves_append, withEscapedHalves_of_whole legible.whole,
    withEscapedHalves_of_whole newline]

end Text

/-! ## The two streams -/

open Text BuildBench.Action

namespace CommandLine

/-- It is the plain text that is encoded. -/
theorem printingDefect?_eq_none_iff {text : String} :
    printingDefect? text = none ↔ Whole (plain text) :=
  encodingDefect?_eq_none_iff

/-- A text without halves of pairs is printed; any other one is refused. -/
theorem stdout_cases (text : String) (w : World) :
    (Whole (plain text) ∧ stdout text w = (.ok (), printed text w)) ∨
      (¬ Whole (plain text) ∧ ∃ reason, stdout text w = (.error (.unencodable reason), w)) := by
  rw [stdout_run, ← printingDefect?_eq_none_iff]
  rcases printingDefect? text with _ | reason
  · exact .inl ⟨rfl, rfl⟩
  · exact .inr ⟨nofun, reason, rfl⟩

end CommandLine

end BuildBench
