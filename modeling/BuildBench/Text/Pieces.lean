/-!
# Pieces of a text

A text cut at every occurrence of one character. There is always one piece more than there are
occurrences, and joining the pieces with that character gives the text back. Also, whether a text
begins with another one or holds it somewhere.
-/

namespace BuildBench.Text

/-- The pieces between the occurrences of `mark`. -/
def pieces (mark : Char) : List Char → List (List Char)
  | [] => [[]]
  | c :: rest =>
    if c = mark then [] :: pieces mark rest
    else match pieces mark rest with
      | [] => [[c]]
      | piece :: more => (c :: piece) :: more

/-- The pieces of a text. -/
def splitAt (mark : Char) (s : String) : List String := (pieces mark s.toList).map String.ofList

/-- Whether a text begins with another one. -/
def beginsWith (start s : String) : Bool := start.toList.isPrefixOf s.toList

/-- Whether some characters stand somewhere in others. -/
def occursIn (part : List Char) : List Char → Bool
  | [] => part.isEmpty
  | c :: rest => part.isPrefixOf (c :: rest) || occursIn part rest

/-- Whether a text holds another one. -/
def holds (part s : String) : Bool := occursIn part.toList s.toList

/-- By the characters: even an empty text is one piece. -/
theorem pieces_ne_nil (mark : Char) (cs : List Char) : pieces mark cs ≠ [] := by
  cases cs with
  | nil => simp [pieces]
  | cons c rest =>
    simp only [pieces]
    split
    · simp
    · split <;> simp

/-- What stands before the first mark belongs to the first piece. -/
theorem pieces_append {mark : Char} {front : List Char} (plain : mark ∉ front)
    (rest : List Char) :
    ∃ first more, pieces mark (front ++ rest) = (front ++ first) :: more := by
  induction front with
  | nil => exact List.exists_cons_of_ne_nil (pieces_ne_nil mark rest)
  | cons c front ih =>
    simp only [List.mem_cons, not_or] at plain
    obtain ⟨first, more, cut⟩ := ih plain.2
    have other : ¬ c = mark := fun same => plain.1 same.symm
    exact ⟨first, more, by simp [pieces, other, cut]⟩

/-- By induction on the characters: none of them is the mark. -/
theorem pieces_of_plain {mark : Char} {cs : List Char} (plain : mark ∉ cs) :
    pieces mark cs = [cs] := by
  induction cs with
  | nil => rfl
  | cons c rest ih =>
    simp only [List.mem_cons, not_or] at plain
    have other : ¬ c = mark := fun same => plain.1 same.symm
    simp [pieces, other, ih plain.2]

/-- By induction on the characters before the mark. -/
theorem pieces_append_mark {mark : Char} {front : List Char} (plain : mark ∉ front)
    (rest : List Char) : pieces mark (front ++ mark :: rest) = front :: pieces mark rest := by
  induction front with
  | nil => simp [pieces]
  | cons c front ih =>
    simp only [List.mem_cons, not_or] at plain
    have other : ¬ c = mark := fun same => plain.1 same.symm
    simp [pieces, other, ih plain.2]

/-- By induction on the characters: a mark ends a piece and is in none. -/
theorem not_mem_of_mem_pieces {mark : Char} {cs piece : List Char}
    (among : piece ∈ pieces mark cs) : mark ∉ piece := by
  induction cs generalizing piece with
  | nil =>
    obtain rfl := List.mem_singleton.mp among
    exact List.not_mem_nil
  | cons c rest ih =>
    rw [pieces] at among
    split at among
    · rcases List.mem_cons.mp among with rfl | later
      · exact List.not_mem_nil
      · exact ih later
    · next other =>
      split at among
      · obtain rfl := List.mem_singleton.mp among
        simpa using Ne.symm other
      · next first more cut =>
        rw [cut] at ih
        rcases List.mem_cons.mp among with rfl | later
        · simpa [Ne.symm other] using ih (List.mem_cons_self ..)
        · exact ih (List.mem_cons_of_mem _ later)

/-- Nothing is lost by cutting: the pieces, joined again, are the text. -/
theorem intercalate_pieces (mark : Char) (cs : List Char) :
    [mark].intercalate (pieces mark cs) = cs := by
  induction cs with
  | nil => rfl
  | cons c rest ih =>
    simp only [pieces]
    split
    · next same =>
      subst same
      cases h : pieces c rest with
      | nil => exact absurd h (pieces_ne_nil c rest)
      | cons piece more =>
        rw [h] at ih
        simp [List.intercalate, List.intersperse] at ih ⊢
        exact ih
    · split
      · next none => exact absurd none (pieces_ne_nil mark rest)
      · next piece more found =>
        rw [found] at ih
        cases more with
        | nil => simpa [List.intercalate, List.intersperse] using ih
        | cons next others => simpa [List.intercalate, List.intersperse] using ih

/-- Pieces without the mark in them are found again after they were joined with it. -/
theorem pieces_intercalate {mark : Char} {parts : List (List Char)} (some : parts ≠ [])
    (plain : ∀ part ∈ parts, mark ∉ part) : pieces mark ([mark].intercalate parts) = parts := by
  induction parts with
  | nil => exact absurd rfl some
  | cons part rest ih =>
    obtain ⟨first, others⟩ := List.forall_mem_cons.mp plain
    cases rest with
    | nil => simpa using pieces_of_plain first
    | cons next more =>
      have whole : [mark].intercalate (part :: next :: more) =
          part ++ mark :: [mark].intercalate (next :: more) := by
        simp [List.intercalate_cons_cons]
      rw [whole, pieces_append_mark first, ih (List.cons_ne_nil next more) others]

end BuildBench.Text
