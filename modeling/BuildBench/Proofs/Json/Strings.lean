import BuildBench.Json.Reading
import BuildBench.Json.Writing

/-!
# Texts written as JSON

A text that was written as a JSON string is read back. There is one exception: two halves of a pair,
one after the other, are written as two escapes, which are read as the one character that they make
up. In other texts each character is one unit for the reader, whichever way it was written.
-/

namespace BuildBench

namespace Text

/-- Whether a character stands for the first half of a pair. -/
def isFirstHalf (c : Char) : Bool := (half? c).any (· < 0xDC00)

/-- Whether a character stands for the second half of a pair. -/
def isSecondHalf (c : Char) : Bool := (half? c).any (0xDC00 ≤ ·)

/-- Nowhere does a second half of a pair follow a first one. -/
def Unpaired : List Char → Prop
  | c :: d :: rest => ¬ (isFirstHalf c ∧ isSecondHalf d) ∧ Unpaired (d :: rest)
  | _ => True

/-- The number of a half is what is left above the distance. -/
theorem half_of_half? {c : Char} {n : Nat} (found : half? c = some n) :
    isHalf n = true ∧ c.toNat = halfDistance + n := by
  unfold half? at found
  by_cases below : c.toNat < halfDistance
  · simp [below] at found
  · rw [if_neg below] at found
    by_cases half : isHalf (c.toNat - halfDistance) = true
    · obtain rfl : c.toNat - halfDistance = n := by simpa [half] using found
      exact ⟨half, by omega⟩
    · simp [half] at found

instance decidableUnpaired : (cs : List Char) → Decidable (Unpaired cs)
  | [] => isTrue trivial
  | [_] => isTrue trivial
  | c :: d :: rest =>
    have : Decidable (Unpaired (d :: rest)) := decidableUnpaired (d :: rest)
    inferInstanceAs (Decidable (¬ (isFirstHalf c ∧ isSecondHalf d) ∧ Unpaired (d :: rest)))

/-- What is nowhere is nowhere behind the first character. -/
theorem Unpaired.tail {c : Char} {rest : List Char} (unpaired : Unpaired (c :: rest)) :
    Unpaired rest := by
  cases rest with
  | nil => trivial
  | cons d more => exact unpaired.2

/-! ## Hexadecimal digits -/

/-- A number below the sixteenth power of two has four digits. -/
theorem hexDigits_four {n : Nat} (bound : n < 0x10000) : hexDigits 4 n =
    [Nat.digitChar (n / 4096), Nat.digitChar (n / 256 % 16), Nat.digitChar (n / 16 % 16),
      Nat.digitChar (n % 16)] := by
  have digits := fun m => @Nat.toDigits_eq_if 16 m (by decide)
  rw [hexDigits, digits n]
  split
  · next one =>
    have := Nat.div_eq_of_lt one
    have : n / 256 = 0 := by omega
    have : n / 4096 = 0 := by omega
    simp [*, Nat.mod_eq_of_lt one, List.replicate]
  rw [digits (n / 16)]
  split
  · next two =>
    have : n / 256 = 0 := by omega
    have : n / 4096 = 0 := by omega
    simp [*, Nat.mod_eq_of_lt two, List.replicate]
  rw [digits (n / 16 / 16)]
  have third : n / 16 / 16 = n / 256 := by omega
  rw [third]
  split
  · next three =>
    have : n / 4096 = 0 := by omega
    simp [*, Nat.mod_eq_of_lt three]
  have fourth : n / 256 / 16 = n / 4096 := by omega
  rw [fourth, Nat.toDigits_of_lt_base (by omega)]
  simp

end Text

namespace Json

open Text

/-- Digit by digit. -/
theorem hexValue_digitChar {k : Nat} (bound : k < 16) : hexValue? (Nat.digitChar k) = some k := by
  have all : ∀ k : Fin 16, hexValue? (Nat.digitChar k.val) = some k.val := by decide
  exact all ⟨k, bound⟩

/-- The four digits of a number are read as that number. -/
theorem fourHex_hexDigits {n : Nat} (bound : n < 0x10000) (rest : List Char) :
    fourHex (hexDigits 4 n ++ rest) = some (n, rest) := by
  rw [hexDigits_four bound]
  have first := hexValue_digitChar (by omega : n / 4096 < 16)
  have second := hexValue_digitChar (by omega : n / 256 % 16 < 16)
  have third := hexValue_digitChar (by omega : n / 16 % 16 < 16)
  have fourth := hexValue_digitChar (by omega : n % 16 < 16)
  have value : ((n / 4096 * 16 + n / 256 % 16) * 16 + n / 16 % 16) * 16 + n % 16 = n := by omega
  simp [fourHex, first, second, third, fourth, value]

/-! ## One character -/

/-- The ways in which a character is written inside a string. -/
inductive Writes : Char → List Char → Prop
  | plain {c : Char} (notQuote : c ≠ '"') (notMark : c ≠ '\\') (visible : 32 ≤ c.toNat) :
    Writes c [c]
  | short {c letter : Char} (means : plainEscape? letter = some c) (notUnit : letter ≠ 'u') :
    Writes c ['\\', letter]
  | unit {c : Char} {n : Nat} (bound : n < 0x10000) (means : charOfEscape n = c)
    (first : 0xD800 ≤ n → n < 0xDC00 → isFirstHalf c = true)
    (second : 0xDC00 ≤ n → n < 0xE000 → isSecondHalf c = true) : Writes c (unitEscape n)
  | pair {c : Char} {n : Nat} (bound : n < 0x100000) (means : Char.ofNat (n + 0x10000) = c) :
    Writes c (unitEscape (0xD800 + n / 0x400) ++ unitEscape (0xDC00 + n % 0x400))

/-- A character is its number. -/
theorem char_ofNat_toNat (c : Char) : Char.ofNat c.toNat = c := Char.ofNat_toNat c

/-- A character is no surrogate. -/
theorem toNat_not_surrogate (c : Char) : ¬ (0xD800 ≤ c.toNat ∧ c.toNat < 0xE000) := by
  rintro ⟨low, high⟩
  rcases c.valid with below | ⟨above, -⟩
  · exact absurd below (by simp only [Char.toNat] at low; omega)
  · exact absurd above (by simp only [Char.toNat] at high; omega)

/-- The number of the character fits into four digits, and is that of no half. -/
theorem writes_unit {c : Char} (basic : c.toNat < 0x10000) : Writes c (unitEscape c.toNat) := by
  have apart := toNat_not_surrogate c
  refine .unit basic ?_ (fun low high => ?_) (fun low high => ?_)
  · rw [charOfEscape, if_neg, char_ofNat_toNat]
    simpa [isHalf] using apart
  · exact absurd ⟨low, by omega⟩ apart
  · exact absurd ⟨by omega, high⟩ apart

/-- A character that stands for a half is written as this half. -/
theorem writes_half {c : Char} {half : Nat} (found : half? c = some half) :
    Writes c (unitEscape half) := by
  have isHalf := half_of_half? found
  have bounds : 0xD800 ≤ half ∧ half < 0xE000 := by simpa [Text.isHalf] using isHalf.1
  refine .unit (by omega) ?_ (fun low high => ?_) (fun low high => ?_)
  · rw [charOfEscape, if_pos isHalf.1, ← isHalf.2, char_ofNat_toNat]
  · simp [isFirstHalf, found, high]
  · simp [isSecondHalf, found, low]

/-- What is left of the number is split in two, and both parts fit. -/
theorem writes_pair {c : Char} {n : Nat} (beyond : c.toNat = n + 0x10000) :
    Writes c (unitEscape (0xD800 + n / 0x400) ++ unitEscape (0xDC00 + n % 0x400)) := by
  have top : c.toNat < 0x110000 := by
    rcases c.valid with below | ⟨-, above⟩
    · simp only [Char.toNat]; omega
    · exact above
  exact .pair (by omega) (by rw [← beyond, char_ofNat_toNat])

/-- By the cases of the escape. -/
theorem escapeChar_writes (c : Char) : Writes c (escapeChar c) := by
  unfold escapeChar
  split
  · next special =>
    refine .short ?_ ?_
    · rcases Bool.or_eq_true .. ▸ special with quote | mark
      · rw [eq_of_beq quote]; rfl
      · rw [eq_of_beq mark]; rfl
    · rcases Bool.or_eq_true .. ▸ special with quote | mark
      · rw [eq_of_beq quote]; decide
      · rw [eq_of_beq mark]; decide
  next common =>
  simp only [Bool.or_eq_true, beq_iff_eq, not_or] at common
  split
  · next same => rw [eq_of_beq same]; exact .short rfl (by decide)
  split
  · next same => rw [eq_of_beq same]; exact .short rfl (by decide)
  split
  · next same => rw [eq_of_beq same]; exact .short rfl (by decide)
  split
  · next same => exact .short (by rw [← char_ofNat_toNat c, same]; rfl) (by decide)
  split
  · next same => exact .short (by rw [← char_ofNat_toNat c, same]; rfl) (by decide)
  split
  · next visible =>
    simp only [Bool.and_eq_true, decide_eq_true_eq] at visible
    exact .plain common.1 common.2 visible.1
  split
  · next basic => exact writes_unit basic
  split
  · next found => exact writes_half found
  · exact writes_pair (by omega)

/-! ## The rest of a string -/

/-- Some characters begin with an escape that writes the second half of a pair. -/
def OpensSecond (cs : List Char) : Prop :=
  ∃ more m tail, cs = '\\' :: 'u' :: more ∧ fourHex more = some (m, tail) ∧
    0xDC00 ≤ m ∧ m < 0xE000

/-- An escape on its own is read as what it writes. -/
theorem unicodeEscape_single {n : Nat} {rest : List Char} (bound : n < 0x10000)
    (goesOn : rest ≠ []) (alone : 0xD800 ≤ n → n < 0xDC00 → ¬ OpensSecond rest) :
    unicodeEscape (hexDigits 4 n ++ rest) = some (charOfEscape n, rest) := by
  have more : rest.isEmpty = false := by simpa using goesOn
  simp only [unicodeEscape, fourHex_hexDigits bound, more, Option.bind_eq_bind, Option.bind_some,
    Bool.false_eq_true, if_false]
  split
  · next others =>
    split
    · next m tail read =>
      rw [if_neg]
      · rfl
      · intro joined
        simp only [Bool.and_eq_true, decide_eq_true_eq] at joined
        obtain ⟨⟨⟨⟨low, high⟩, least⟩, most⟩, -⟩ := joined
        exact alone low high ⟨others, m, tail, rfl, read, least, most⟩
    · rfl
  · rfl

/-- Two escapes that write the halves of a pair are read as one character. -/
theorem unicodeEscape_pair {n : Nat} {rest : List Char} (bound : n < 0x100000)
    (goesOn : rest ≠ []) :
    unicodeEscape (hexDigits 4 (0xD800 + n / 0x400) ++
        (unitEscape (0xDC00 + n % 0x400) ++ rest)) =
      some (Char.ofNat (n + 0x10000), rest) := by
  have more : rest.isEmpty = false := by simpa using goesOn
  have first := fourHex_hexDigits (by omega : 0xD800 + n / 0x400 < 0x10000)
    (unitEscape (0xDC00 + n % 0x400) ++ rest)
  have second := fourHex_hexDigits (by omega : 0xDC00 + n % 0x400 < 0x10000) rest
  have pair : (0xD800 ≤ 0xD800 + n / 0x400 && 0xD800 + n / 0x400 < 0xDC00 &&
      0xDC00 ≤ 0xDC00 + n % 0x400 && 0xDC00 + n % 0x400 < 0xE000 && !rest.isEmpty) = true := by
    simp only [more, Bool.not_false, Bool.and_eq_true, decide_eq_true_eq, and_true]
    omega
  have number : 0x10000 + (0xD800 + n / 0x400 - 0xD800) * 0x400 +
      (0xDC00 + n % 0x400 - 0xDC00) = n + 0x10000 := by omega
  simp only [unitEscape, List.cons_append] at first ⊢
  simp only [unicodeEscape, first, Option.bind_eq_bind, Option.bind_some, List.isEmpty_cons,
    Bool.false_eq_true, if_false, second, pair, if_true, number]
  rfl

/-- By how the character is written: the reader takes what was written and goes on behind it. -/
theorem stringRest_writes {c : Char} {written tail : List Char} (writes : Writes c written)
    (goesOn : tail ≠ []) (alone : isFirstHalf c = true → ¬ OpensSecond tail)
    (whole fuel : Nat) (done : List Char) :
    stringRest whole (fuel + 1) done (written ++ tail) =
      stringRest whole fuel (c :: done) tail := by
  cases writes with
  | plain notQuote notMark visible =>
    simp [stringRest, notQuote, notMark, Nat.not_lt.mpr visible]
  | @short letter means notUnit =>
    simp only [List.cons_append, List.nil_append, stringRest]
    simp [means]
  | @unit n bound means first second =>
    have read := unicodeEscape_single bound goesOn fun low high => alone (first low high)
    rw [means] at read
    simp [stringRest, unitEscape, read]
  | @pair n bound means =>
    have read := unicodeEscape_pair bound goesOn
    rw [means] at read
    rw [List.append_assoc]
    simp [stringRest, unitEscape] at read ⊢
    simp [read]

/-- Where a written text begins with a second half, so does the text. -/
theorem isSecondHalf_of_opensSecond {c : Char} {written tail : List Char}
    (writes : Writes c written) (opens : OpensSecond (written ++ tail)) :
    isSecondHalf c = true := by
  obtain ⟨more, m, others, same, read, least, most⟩ := opens
  cases writes with
  | plain notQuote notMark visible => exact absurd (List.cons.inj same).1 notMark
  | short means notUnit =>
    exact absurd (List.cons.inj (List.cons.inj same).2).1 notUnit
  | @unit n bound means first second =>
    obtain rfl : hexDigits 4 n ++ tail = more := by simpa [unitEscape] using same
    rw [fourHex_hexDigits bound] at read
    cases read
    exact second least most
  | @pair n bound means =>
    obtain rfl : hexDigits 4 (0xD800 + n / 0x400) ++
        (unitEscape (0xDC00 + n % 0x400) ++ tail) = more := by
      simpa [unitEscape] using same
    rw [fourHex_hexDigits (by omega)] at read
    obtain ⟨rfl, -⟩ := Prod.mk.inj (Option.some.inj read)
    omega

/-- A text without pairs that was written is read back. -/
theorem stringRest_written {cs : List Char} (unpaired : Unpaired cs) (whole fuel : Nat)
    (enough : cs.length < fuel) (done rest : List Char) :
    stringRest whole fuel done (cs.flatMap escapeChar ++ '"' :: rest) =
      .ok (String.ofList (done.reverse ++ cs), rest) := by
  induction cs generalizing fuel done with
  | nil =>
    obtain ⟨fuel, rfl⟩ := Nat.exists_eq_add_one_of_ne_zero (Nat.ne_of_gt enough)
    simp [stringRest]
  | cons c others ih =>
    obtain ⟨fuel, rfl⟩ := Nat.exists_eq_add_one_of_ne_zero (by omega : fuel ≠ 0)
    have alone : isFirstHalf c = true →
        ¬ OpensSecond (others.flatMap escapeChar ++ '"' :: rest) := by
      intro first opens
      cases others with
      | nil =>
        obtain ⟨more, m, tail, same, -⟩ := opens
        cases same
      | cons d later =>
        rw [List.flatMap_cons, List.append_assoc] at opens
        exact unpaired.1 ⟨first, isSecondHalf_of_opensSecond (escapeChar_writes d) opens⟩
    rw [List.flatMap_cons, List.append_assoc,
      stringRest_writes (escapeChar_writes c) (by simp) alone,
      ih unpaired.tail fuel (by simpa using enough)]
    simp

/-- Every character takes at least one to be written. -/
theorem length_le_flatMap_escapeChar (cs : List Char) :
    cs.length ≤ (cs.flatMap escapeChar).length := by
  induction cs with
  | nil => exact Nat.le_refl _
  | cons c others ih =>
    have some : 0 < (escapeChar c).length := by
      have writes := escapeChar_writes c
      generalize escapeChar c = written at writes
      cases writes <;> simp [unitEscape]
    rw [List.flatMap_cons, List.length_append, List.length_cons]
    omega

/-- The fuel is enough, as each character is written with one at least. -/
theorem readString_written {s : String} (unpaired : Unpaired s.toList) (rest : List Char) :
    readString (s.toList.flatMap escapeChar ++ '"' :: rest) = .ok (s, rest) := by
  have enough : s.toList.length < (s.toList.flatMap escapeChar ++ '"' :: rest).length := by
    have atLeast := length_le_flatMap_escapeChar s.toList
    rw [List.length_append, List.length_cons]
    omega
  rw [readString, stringRest_written unpaired _ _ enough]
  simp

end Json

end BuildBench
