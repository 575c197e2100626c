import BuildBench.Proofs.Json.Strings

/-!
# The characters of written JSON

Whatever value is written as JSON, the text is made of visible ASCII characters, blanks and line feeds:
texts are escaped, and numbers are written with digits. Such a text is printed as it is, and it goes
through a change of line ends unharmed.
-/

namespace BuildBench

namespace Text

/-- A visible ASCII character, a blank or a line feed. -/
def isLegible (c : Char) : Bool := c == '\n' || (32 ≤ c.toNat && c.toNat < 127)

/-- Characters of which each can be read by everyone. -/
def Legible (cs : List Char) : Prop := ∀ c ∈ cs, isLegible c = true

instance (cs : List Char) : Decidable (Legible cs) :=
  List.decidableBAll _ cs

section Legible

variable {c : Char} {cs ds : List Char}

/-- There is no character. -/
@[simp] theorem legible_nil : Legible [] := nofun

/-- Character by character. -/
@[simp] theorem legible_cons : Legible (c :: cs) ↔ isLegible c = true ∧ Legible cs :=
  List.forall_mem_cons

/-- Character by character. -/
@[simp] theorem legible_append : Legible (cs ++ ds) ↔ Legible cs ∧ Legible ds :=
  List.forall_mem_append

/-- Each of the characters is one of those. -/
theorem Legible.subset (legible : Legible cs) (included : ds ⊆ cs) : Legible ds :=
  fun c among => legible c (included among)

/-- Part by part. -/
theorem legible_around {a b c : String} (before : Legible a.toList) (inside : Legible b.toList)
    (after : Legible c.toList) : Legible (a ++ b ++ c).toList := by
  rw [String.toList_append, String.toList_append]
  exact legible_append.mpr ⟨legible_append.mpr ⟨before, inside⟩, after⟩

/-- It is one character again and again. -/
theorem legible_replicate {n : Nat} (one : isLegible c = true) : Legible (List.replicate n c) :=
  fun _ among => List.eq_of_mem_replicate among ▸ one

end Legible

/-- What holds of the characters of a separator holds of joined parts if it holds of each part. -/
theorem forall_mem_intercalate {P : Char → Prop} {separator : String} {parts : List String}
    (between : ∀ c ∈ separator.toList, P c) :
    (∀ c ∈ (separator.intercalate parts).toList, P c) ↔
      ∀ part ∈ parts, ∀ c ∈ part.toList, P c := by
  induction parts with
  | nil => simp
  | cons part rest ih =>
    cases rest with
    | nil => simp
    | cons next more =>
      rw [String.intercalate_cons_cons, List.forall_mem_cons, ← ih, String.toList_append,
        String.toList_append, List.forall_mem_append, List.forall_mem_append]
      exact ⟨fun ⟨⟨first, _⟩, others⟩ => ⟨first, others⟩,
        fun ⟨first, others⟩ => ⟨⟨first, between⟩, others⟩⟩

/-! ## Digits -/

/-- Digits up to the base sixteen are letters and decimal digits. -/
theorem legible_toDigits {base : Nat} (large : 1 < base) (known : base ≤ 16) (n : Nat) :
    Legible (Nat.toDigits base n) := by
  have digit (k : Nat) (bound : k < base) : isLegible (Nat.digitChar k) = true := by
    have all : ∀ k : Fin 16, isLegible (Nat.digitChar k.val) = true := by decide
    exact all ⟨k, by omega⟩
  induction n using Nat.strongRecOn with
  | ind n ih =>
    rw [@Nat.toDigits_eq_if base n large]
    split
    · next one => simpa using digit n one
    · next more =>
      have smaller : n / base < n := Nat.div_lt_self (by omega) large
      simpa using ⟨ih _ smaller, digit _ (Nat.mod_lt n (by omega))⟩

/-- Zeros, and digits to the base sixteen. -/
theorem legible_hexDigits (width n : Nat) : Legible (hexDigits width n) :=
  legible_append.mpr ⟨legible_replicate (by decide), legible_toDigits (by decide) (by decide) n⟩

end Text

open Text

namespace Decimal

/-- At most a sign comes first. -/
theorem legible_signed {negative : Bool} {cs : List Char} (legible : Legible cs) :
    Legible (signed negative cs).toList := by
  unfold signed
  rw [String.toList_ofList]
  split
  · exact legible_cons.mpr ⟨by decide, legible⟩
  · exact legible

/-- The digits are some of those of the number. -/
theorem legible_ofNat (n : Nat) (place : Int) : Legible (Scientific.ofNat n place).digits := by
  have kept : Legible ((Nat.toDigits 10 n).reverse.dropWhile (· == '0')).reverse :=
    (legible_toDigits (by decide) (by decide) n).subset fun c among =>
      List.mem_reverse.mp (List.dropWhile_subset _ (List.mem_reverse.mp among))
  unfold Scientific.ofNat
  dsimp only
  split
  · simp [isLegible]
  · exact kept

/-- Whichever digits are chosen, they are those of a whole number. -/
theorem shortestDigits_eq_ofNat (mantissa : Nat) (exponent : Int) :
    ∃ n place, shortestDigits mantissa exponent = Scientific.ofNat n place := by
  unfold shortestDigits
  dsimp only
  generalize attempts : (List.range' 1 17).findSome? _ = found
  rcases found with _ | s
  · exact ⟨_, _, rfl⟩
  · obtain ⟨count, -, attempted⟩ := List.exists_of_findSome?_eq_some attempts
    split at attempted <;> cases attempted <;> exact ⟨_, _, rfl⟩

/-- Zeros are digits. -/
theorem legible_zeros (count : Nat) : Legible (zeros count) := legible_replicate (by decide)

/-- Digits, zeros and a point. -/
theorem legible_positional {s : Scientific} (digits : Legible s.digits) :
    Legible (positional s) := by
  unfold positional
  split
  · simpa [isLegible] using ⟨legible_zeros _, digits⟩
  · have padded : Legible (s.digits ++ zeros (s.exponent.toNat + 1 - s.digits.length)) :=
      legible_append.mpr ⟨digits, legible_zeros _⟩
    refine legible_append.mpr ⟨padded.subset (List.take_subset _ _),
      legible_cons.mpr ⟨by decide, ?_⟩⟩
    split
    · simp [isLegible]
    · exact padded.subset (List.drop_subset _ _)

/-- Digits, a point, a letter, a sign, and digits again. -/
theorem legible_withExponent {s : Scientific} (width : Nat) (digits : Legible s.digits) :
    Legible (withExponent width s) := by
  have power : Legible (Nat.toDigits 10 s.exponent.natAbs) := legible_toDigits (by decide) (by decide) _
  have sign : isLegible (if s.exponent < 0 then '-' else '+') = true := by
    split <;> decide
  unfold withExponent
  dsimp only
  rcases given : s.digits with _ | ⟨d, _ | ⟨e, rest⟩⟩ <;> rw [given] at digits <;>
    simp_all [isLegible, legible_zeros]

/-- By the kind of the float: a word, or its digits in one of two layouts. -/
theorem legible_shortest (x : Float) : Legible (shortest x).toList := by
  unfold shortest
  split
  · decide
  · exact legible_signed (by decide)
  · next mantissa exponent _ =>
    obtain ⟨n, place, same⟩ := shortestDigits_eq_ofNat mantissa exponent
    have digits : Legible (shortestDigits mantissa exponent).digits := same ▸ legible_ofNat n place
    dsimp only
    split
    · exact legible_signed (by decide)
    · split
      · exact legible_signed (legible_positional digits)
      · exact legible_signed (legible_withExponent _ digits)

end Decimal

/-- Digits behind a sign. -/
theorem legible_intText (i : Int) : Legible (intText i).toList :=
  Decimal.legible_signed (legible_toDigits (by decide) (by decide) _)

/-! ## Values -/

namespace Json

/-- By the cases of the escape: a character that is written as it is is visible ASCII, and escapes
consist of letters and digits. -/
theorem legible_escapeChar (c : Char) : Legible (escapeChar c) := by
  have unit (n : Nat) : Legible (unitEscape n) := by
    simpa [unitEscape, isLegible] using legible_hexDigits 4 n
  unfold escapeChar
  split
  · next quoted => rcases (by simpa using quoted : c = '"' ∨ c = '\\') with rfl | rfl <;> decide
  split
  · decide
  split
  · decide
  split
  · decide
  split
  · decide
  split
  · decide
  split
  · next visible => simpa [isLegible] using Or.inr visible
  split
  · exact unit _
  split
  · exact unit _
  · exact legible_append.mpr ⟨unit _, unit _⟩

/-- Escapes between quotes. -/
theorem legible_writeString (s : String) : Legible (writeString s).toList := by
  rw [writeString, String.toList_ofList]
  have inside : Legible (s.toList.flatMap escapeChar) := by
    intro d among
    obtain ⟨c, -, here⟩ := List.mem_flatMap.mp among
    exact legible_escapeChar c d here
  simpa [isLegible] using inside

/-- By the kind of the float. -/
theorem legible_writeFloat (x : Float) : Legible (writeFloat x).toList := by
  unfold writeFloat
  split
  · decide
  · split <;> decide
  · exact Decimal.legible_shortest x

/-- A line feed and blanks. -/
theorem legible_newLine (level : Nat) : Legible (newLine level).toList := by
  simpa [newLine, isLegible] using legible_replicate (by decide)

/-- Parts that are legible, with commas and new lines between them. -/
theorem legible_block {opening closing : String} {level : Nat} {parts : List String}
    (opens : Legible opening.toList) (closes : Legible closing.toList)
    (each : ∀ part ∈ parts, Legible part.toList) :
    Legible (block opening closing level parts).toList := by
  have inner : Legible (("," ++ newLine (level + 1)).intercalate parts).toList := by
    refine (forall_mem_intercalate (P := fun c => isLegible c = true) ?_).mpr each
    have comma : Legible ",".toList := by decide
    rw [String.toList_append]
    exact legible_append.mpr ⟨comma, legible_newLine (level + 1)⟩
  unfold block
  split
  · simpa using ⟨opens, closes⟩
  · simp only [String.toList_append, legible_append]
    exact ⟨⟨⟨⟨opens, legible_newLine _⟩, inner⟩, legible_newLine _⟩, closes⟩

mutual

/-- By recursion on the value, together with its items and members. -/
theorem legible_write (level : Nat) (v : Value) : Legible (write level v).toList := by
  cases v with
  | null => rw [write]; decide
  | bool b => cases b <;> rw [write] <;> decide
  | int i => rw [write]; exact legible_intText i
  | float x => rw [write]; exact legible_writeFloat x
  | text s => rw [write]; exact legible_writeString s
  | list items => rw [write]; exact legible_block (by decide) (by decide) (legible_writeItems _ items)
  | map entries =>
    rw [write]
    exact legible_block (by decide) (by decide) (legible_writeMembers _ entries)
  | _ => rw [write] <;> first | exact legible_writeString _ | nofun

/-- By recursion on the items. -/
theorem legible_writeItems (level : Nat) (items : List Value) :
    ∀ part ∈ writeItems level items, Legible part.toList := by
  cases items with
  | nil => rw [writeItems]; nofun
  | cons v rest =>
    rw [writeItems]
    exact List.forall_mem_cons.mpr ⟨legible_write level v, legible_writeItems level rest⟩

/-- By recursion on the members. -/
theorem legible_writeMembers (level : Nat) (entries : List (Value × Value)) :
    ∀ part ∈ writeMembers level entries, Legible part.toList := by
  cases entries with
  | nil => rw [writeMembers]; nofun
  | cons entry rest =>
    obtain ⟨k, v⟩ := entry
    rw [writeMembers]
    refine List.forall_mem_cons.mpr ⟨?_, legible_writeMembers level rest⟩
    simpa [isLegible] using ⟨legible_writeString k.display, legible_write level v⟩

end

/-- A document is made of visible ASCII characters, blanks and line feeds. -/
theorem legible_document (v : Value) : Legible (document v).toList := legible_write 0 v

end Json

end BuildBench
