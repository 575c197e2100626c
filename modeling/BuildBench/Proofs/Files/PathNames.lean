import Mathlib.Algebra.GroupWithZero.Nat
import BuildBench.Proofs.Files.MakingFolders
import BuildBench.Proofs.Json.LegibleCharacters
import BuildBench.World.Disk

/-!
# What may be a path name

Whether a path name can be handed to the system depends on the characters of its components alone,
and whether it is too long on their sizes alone. A name whose components are shorter, or that has
fewer of them, is therefore not too long either.
-/

namespace BuildBench

namespace Text

/-- A character that may stand in the name of a file. -/
def Nameable (c : Char) : Prop :=
  (∀ n, half? c = some n → isByteHalf n = true) ∧ c ≠ Char.ofNat 0

/-- By induction on the characters: the first half without bytes would begin a run. -/
theorem firstHalves_eq_none_iff {hasBytes : Nat → Bool} {position : Nat} {cs : List Char} :
    firstHalves hasBytes position cs = none ↔
      ∀ c ∈ cs, ∀ n, half? c = some n → hasBytes n = true := by
  induction cs generalizing position with
  | nil => exact iff_of_true rfl nofun
  | cons c rest ih =>
    rw [List.forall_mem_cons, firstHalves]
    split
    · next noHalf => rw [ih]; simp [noHalf]
    · next n half =>
      by_cases bytes : hasBytes n = true
      · rw [if_pos bytes, ih]; simp [half, bytes]
      · rw [if_neg bytes]
        refine iff_of_false nofun fun both => bytes (both.1 n half)

end Text

open Text

/-- A name has a fault for a half without bytes or for a zero character. -/
theorem nameFault?_eq_none_iff {name : String} :
    nameFault? name = none ↔ ∀ c ∈ name.toList, Nameable c := by
  unfold nameFault? encodingDefect?
  cases halves : firstHalves isByteHalf 0 name.toList with
  | some found =>
    refine iff_of_false (by simp) fun all => ?_
    have missing : firstHalves isByteHalf 0 name.toList = none :=
      firstHalves_eq_none_iff.mpr fun c member => (all c member).1
    rw [halves] at missing
    cases missing
  | none =>
    have bytes := firstHalves_eq_none_iff.mp halves
    by_cases zero : name.toList.contains (Char.ofNat 0) = true
    · rw [Option.map_none]
      simp only [zero, if_true]
      exact iff_of_false nofun fun all => (all _ (List.contains_iff_mem.mp zero)).2 rfl
    · refine iff_of_true (by simpa using zero) fun c member => ⟨bytes c member, ?_⟩
      rintro rfl
      exact zero (List.contains_iff_mem.mpr member)

/-- What is no name is a value that is not acceptable. -/
theorem isInvalidValue_of_nameFault? {name : String} {f : Fault}
    (found : nameFault? name = some f) : f.isInvalidValue = true := by
  unfold nameFault? at found
  split at found
  · cases found
    rfl
  · split at found <;> cases found
    rfl

/-- The name of a file has no two halves of a pair in it. -/
theorem unpaired_of_nameable {cs : List Char} (nameable : ∀ c ∈ cs, Nameable c) :
    Unpaired cs := by
  induction cs with
  | nil => trivial
  | cons c rest ih =>
    have later := ih fun d member => nameable d (List.mem_cons_of_mem _ member)
    cases rest with
    | nil => trivial
    | cons d more =>
      refine ⟨fun both => ?_, later⟩
      have first := both.1
      unfold isFirstHalf at first
      cases half : half? c with
      | none => simp [half] at first
      | some n =>
        have bytes := (nameable c (List.mem_cons_self ..)).1 n half
        simp only [half, Option.any_some, decide_eq_true_eq] at first
        simp only [isByteHalf, Bool.and_eq_true, decide_eq_true_eq] at bytes
        omega

namespace PathName

variable {path other : PathName} {parts : List String}

/-- By definition. -/
theorem display_eq (path : PathName) : path.display =
    if (path.anchor.text ++ "/".intercalate path.parts).isEmpty then "."
    else path.anchor.text ++ "/".intercalate path.parts := rfl

/-- The characters of the text are those of the components, slashes between them, or one dot. -/
theorem forall_mem_display {P : Char → Prop} (slash : P '/') (dot : P '.') :
    (∀ c ∈ path.display.toList, P c) ↔ ∀ part ∈ path.parts, ∀ c ∈ part.toList, P c := by
  have mark : ∀ c ∈ ("/" : String).toList, P c := by simpa using slash
  rw [← forall_mem_intercalate mark, display_eq]
  have anchor : ∀ c ∈ path.anchor.text.toList, P c := by
    intro c member
    cases found : path.anchor <;> rw [found] at member <;>
      simp only [Anchor.text, String.toList_empty, List.not_mem_nil] at member
    · have : c = '/' := by simpa using member
      exact this ▸ slash
    · have : c = '/' := by simpa using member
      exact this ▸ slash
  split
  · next empty =>
    have none : path.anchor.text ++ "/".intercalate path.parts = "" :=
      String.isEmpty_iff.mp empty
    have noParts : "/".intercalate path.parts = "" := (String.append_eq_empty_iff.mp none).2
    rw [noParts]
    refine iff_of_true (fun c member => ?_) nofun
    have : c = '.' := by simpa using member
    exact this ▸ dot
  · simp only [String.toList_append, List.mem_append, or_imp, forall_and]
    exact ⟨fun both => both.2, fun later => ⟨anchor, later⟩⟩

/-! ## Sizes -/

/-- The size of some components with a slash after each. -/
def spelledSize (parts : List String) : Nat :=
  (parts.map fun part => part.utf8ByteSize + 1).sum

/-- By induction on the components: there is a slash after each but the last. -/
theorem size_intercalate (parts : List String) :
    ("/".intercalate parts).utf8ByteSize = spelledSize parts - 1 := by
  induction parts with
  | nil => simp [spelledSize]
  | cons part rest ih =>
    cases rest with
    | nil => simp [spelledSize]
    | cons next more =>
      have slash : ("/" : String).utf8ByteSize = 1 := rfl
      rw [String.intercalate_cons_cons, String.utf8ByteSize_append, String.utf8ByteSize_append, ih,
        slash]
      simp only [spelledSize, List.map_cons, List.sum_cons]
      omega

/-- A name that takes no more room than one that is not too long is not too long. -/
theorem short_of_le (anchor : path.anchor = other.anchor)
    (atMost : spelledSize path.parts ≤ spelledSize other.parts) (short : other.isLong = false) :
    path.isLong = false := by
  have size : ∀ p : PathName, p.display.utf8ByteSize =
      max 1 (p.anchor.text.utf8ByteSize + (spelledSize p.parts - 1)) := by
    intro p
    have whole : (p.anchor.text ++ "/".intercalate p.parts).utf8ByteSize =
        p.anchor.text.utf8ByteSize + (spelledSize p.parts - 1) := by
      rw [String.utf8ByteSize_append, size_intercalate]
    rw [display_eq, ← whole]
    split
    · next empty =>
      rw [String.isEmpty_iff.mp empty]
      rfl
    · next some =>
      have positive : (p.anchor.text ++ "/".intercalate p.parts).utf8ByteSize ≠ 0 := by
        intro zero
        exact some (by simpa [String.isEmpty] using zero)
      omega
  simp only [isLong, decide_eq_false_iff_not, size] at short ⊢
  rw [anchor]
  omega

end PathName

/-! ## The folder above -/

namespace Files

variable {files : Files} {path : PathName} {name : String} {goal : Location}

/-- A link at the end that can be followed is found there when it is not followed. -/
theorem Leads.unfollowed (leads : files.Leads true path goal)
    (held : files.root.kind? goal ≠ none) :
    ∃ goal', files.Leads false path goal' ∧ files.root.kind? goal' ≠ none := by
  obtain ⟨goal', walks, there⟩ := leads.walks.unfollowed held
  exact ⟨goal', ⟨leads.short, walks⟩, there⟩

/-- What the name of an entry leads to stands in the folder that the name without it leads to. -/
theorem Leads.above (leads : files.Leads false (path.child name) goal) (notDot : name ≠ ".")
    (notUp : name ≠ "..") : ∃ above, goal = above ++ [name] ∧ files.Opens path above := by
  obtain ⟨above, rfl, opened, -, walks⟩ := leads.walks.parent notDot notUp
  have less : PathName.spelledSize path.parts ≤ PathName.spelledSize (path.child name).parts := by
    simp [PathName.spelledSize, PathName.child]
  have anchor : path.anchor = (path.child name).anchor := rfl
  have short : path.isLong = false := PathName.short_of_le anchor less leads.short
  exact ⟨above, rfl, ⟨⟨short, walks⟩, opened⟩⟩

end Files

end BuildBench
