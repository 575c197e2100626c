import BuildBench.Cache.Key
import BuildBench.Proofs.Json.Strings

/-!
# What a cache key tells

A digest is 32 bytes long, so digests that stand one after the other can be told apart, and its text
has two digits for each byte. None of them is a hyphen: where a key ends in a hyphen, nothing was
digested, and otherwise its last 64 characters are the digest. A key thus tells what was digested, as
far as the digest does.
-/

namespace BuildBench

/-- Lists of one length, written one after the other, can be told apart. -/
theorem flatten_injective {α : Type} {n : Nat} (positive : 0 < n) {one two : List (List α)}
    (sizes : ∀ block ∈ one, block.length = n) (sizes' : ∀ block ∈ two, block.length = n)
    (same : one.flatten = two.flatten) : one = two := by
  induction one generalizing two with
  | nil =>
    cases two with
    | nil => rfl
    | cons block rest =>
      have length := congrArg List.length same
      have size := sizes' block (List.mem_cons_self ..)
      simp only [List.flatten_nil, List.flatten_cons, List.length_nil, List.length_append] at length
      omega
  | cons block rest ih =>
    obtain ⟨size, others⟩ := List.forall_mem_cons.mp sizes
    cases two with
    | nil =>
      have length := congrArg List.length same
      simp only [List.flatten_nil, List.flatten_cons, List.length_nil, List.length_append] at length
      omega
    | cons block' rest' =>
      obtain ⟨size', others'⟩ := List.forall_mem_cons.mp sizes'
      obtain ⟨rfl, later⟩ := List.append_inj same (size.trans size'.symm)
      rw [ih others others' later]

/-- Lists are told apart by what a function makes of their elements, if it tells these apart. -/
theorem map_injective_on {α β : Type} {f : α → β} {one two : List α}
    (injective : ∀ a ∈ one, ∀ b ∈ two, f a = f b → a = b) (same : one.map f = two.map f) :
    one = two := by
  induction one generalizing two with
  | nil => exact (List.map_eq_nil_iff.mp same.symm).symm
  | cons a rest ih =>
    cases two with
    | nil => cases same
    | cons b rest' =>
      obtain ⟨first, others⟩ := List.cons.inj same
      rw [injective a (List.mem_cons_self ..) b (List.mem_cons_self ..) first,
        ih (fun c among d among' => injective c (List.mem_cons_of_mem _ among) d
          (List.mem_cons_of_mem _ among')) others]

namespace Digest

/-! ## The text of bytes -/

/-- By induction along the loop: each round puts one byte more in front of what was collected. -/
theorem toList_loop (bytes : ByteArray) (i : Nat) (done : List UInt8) :
    ByteArray.toList.loop bytes i done = done.reverse ++ bytes.data.toList.drop i := by
  induction i, done using ByteArray.toList.loop.induct bytes with
  | case1 i done below ih =>
    have within : i < bytes.data.toList.length := below
    have read : bytes.get! i = bytes.data.toList[i] := getElem!_pos bytes.data i below
    rw [ByteArray.toList.loop, if_pos below, ih, List.drop_eq_getElem_cons within, read]
    simp
  | case2 i done beyond =>
    have none : bytes.data.toList.length ≤ i := Nat.le_of_not_lt beyond
    rw [ByteArray.toList.loop, if_neg beyond, List.drop_eq_nil_of_le none, List.append_nil]

/-- The loop starts at the first byte. -/
theorem toList_eq (bytes : ByteArray) : bytes.toList = bytes.data.toList := by
  rw [ByteArray.toList, toList_loop]
  simp

/-- A byte has two digits. -/
theorem hexDigits_two {n : Nat} (bound : n < 256) :
    Text.hexDigits 2 n = [Nat.digitChar (n / 16), Nat.digitChar (n % 16)] := by
  have digits := fun m => @Nat.toDigits_eq_if 16 m (by decide)
  rw [Text.hexDigits, digits n]
  split
  · next one => simp [Nat.div_eq_of_lt one, Nat.mod_eq_of_lt one]
  · rw [Nat.toDigits_of_lt_base (by omega)]
    simp

/-- The two digits are the two halves of the byte. -/
theorem hexDigits_inj {b c : UInt8} (same : Text.hexDigits 2 b.toNat = Text.hexDigits 2 c.toNat) :
    b = c := by
  rw [hexDigits_two b.toNat_lt, hexDigits_two c.toNat_lt] at same
  obtain ⟨high, low⟩ : Nat.digitChar (b.toNat / 16) = Nat.digitChar (c.toNat / 16) ∧
      Nat.digitChar (b.toNat % 16) = Nat.digitChar (c.toNat % 16) := by simpa using same
  have read := fun {k l : Nat} (small : k < 16) (small' : l < 16)
      (equal : Nat.digitChar k = Nat.digitChar l) => Option.some.inj
    ((Json.hexValue_digitChar small).symm.trans
      ((congrArg Json.hexValue? equal).trans (Json.hexValue_digitChar small')))
  have tops := read (by have := b.toNat_lt; omega) (by have := c.toNat_lt; omega) high
  have rests := read (Nat.mod_lt _ (by decide)) (Nat.mod_lt _ (by decide)) low
  exact UInt8.toNat_inj.mp (by omega)

/-- Byte by byte, two digits each. -/
theorem toList_hex (bytes : ByteArray) : (hex bytes).toList =
    (bytes.data.toList.map fun b => Text.hexDigits 2 b.toNat).flatten := by
  rw [hex, String.toList_ofList, toList_eq, List.flatMap]

/-- Each byte has two digits, so the text is cut into bytes in one way only. -/
theorem hex_injective {one two : ByteArray} (same : hex one = hex two) : one = two := by
  have sizes : ∀ bytes : ByteArray, ∀ block ∈
      bytes.data.toList.map fun b => Text.hexDigits 2 b.toNat, block.length = 2 := by
    intro bytes block among
    obtain ⟨b, -, rfl⟩ := List.mem_map.mp among
    rw [hexDigits_two b.toNat_lt]
    rfl
  have texts := congrArg String.toList same
  rw [toList_hex, toList_hex] at texts
  have blocks := flatten_injective (by decide) (sizes one) (sizes two) texts
  have bytes := map_injective_on (fun _ _ _ _ => hexDigits_inj) blocks
  exact ByteArray.ext (Array.toList_inj.mp bytes)

/-- A text has as many digits as a digest is written with, and no hyphen. -/
structure IsDigest (text : String) : Prop where
  size : text.toList.length = 64
  plain : '-' ∉ text.toList

/-! ## Digests -/

/-- Eight words of four bytes. -/
theorem size_sha256 (bytes : ByteArray) : (sha256 bytes).data.toList.length = 32 := by
  simp [sha256, bigEndian]

/-- Two digits for each byte, and no digit is a hyphen. -/
theorem hex_isDigest {bytes : ByteArray} (size : bytes.data.toList.length = 32) :
    IsDigest (hex bytes) where
  size := by
    have two : ∀ b : UInt8, (Text.hexDigits 2 b.toNat).length = 2 := fun b => by
      rw [hexDigits_two b.toNat_lt]
      rfl
    rw [toList_hex, List.length_flatten, List.map_map]
    have each : (List.length ∘ fun b : UInt8 => Text.hexDigits 2 b.toNat) = fun _ => 2 :=
      funext two
    rw [each, List.map_const', size]
    rfl
  plain := by
    have digit : ∀ k < 16, Nat.digitChar k ≠ '-' := by decide
    rw [toList_hex]
    intro among
    obtain ⟨block, inside, among⟩ := List.mem_flatten.mp among
    obtain ⟨b, -, rfl⟩ := List.mem_map.mp inside
    have bound := b.toNat_lt
    rw [hexDigits_two bound] at among
    rcases List.mem_cons.mp among with high | low
    · exact digit _ (by omega) high.symm
    · exact digit _ (by omega) (List.mem_singleton.mp low).symm

/-- The digests of several contents, one after the other. -/
def chained (contents : List ByteArray) : ByteArray :=
  (contents.map sha256).foldl (· ++ ·) ByteArray.empty

/-- The digests are put one behind the other. -/
theorem toList_chained (contents : List ByteArray) : (chained contents).data.toList =
    (contents.map fun content => (sha256 content).data.toList).flatten := by
  have all : ∀ (blocks : List ByteArray) (start : ByteArray),
      (blocks.foldl (· ++ ·) start).data.toList =
        start.data.toList ++ (blocks.map fun block => block.data.toList).flatten := by
    intro blocks
    induction blocks with
    | nil => simp
    | cons block rest ih =>
      intro start
      rw [List.foldl_cons, ih, ByteArray.data_append]
      simp
  rw [chained, all, List.map_map]
  rfl

/-- No two of some inputs have the same digest. -/
def NoCollision (inputs : List ByteArray) : Prop :=
  ∀ one ∈ inputs, ∀ two ∈ inputs, sha256 one = sha256 two → one = two

/-- Fewer inputs have fewer collisions. -/
theorem NoCollision.mono {inputs more : List ByteArray} (apart : NoCollision more)
    (among : ∀ bytes ∈ inputs, bytes ∈ more) : NoCollision inputs :=
  fun one first two second => apart one (among one first) two (among two second)

/-- All that is digested for two lists of contents. -/
def digested (one two : List ByteArray) : List ByteArray :=
  chained one :: chained two :: (one ++ two)

/-- Each digest is 32 bytes long, so they are told apart, and no two contents have the same one. -/
theorem chained_injective {one two : List ByteArray} (apart : NoCollision (one ++ two))
    (same : chained one = chained two) : one = two := by
  have size : ∀ contents : List ByteArray, ∀ block ∈
      contents.map fun content => (sha256 content).data.toList, block.length = 32 := by
    intro contents block among
    obtain ⟨content, -, rfl⟩ := List.mem_map.mp among
    exact size_sha256 content
  have bytes := congrArg (fun b : ByteArray => b.data.toList) same
  simp only [toList_chained] at bytes
  have blocks := flatten_injective (by decide) (size one) (size two) bytes
  refine map_injective_on (fun content among content' among' equal => ?_) blocks
  exact apart _ (List.mem_append_left _ among) _ (List.mem_append_right _ among')
    (ByteArray.ext (Array.toList_inj.mp equal))

end Digest

namespace Cache

open Digest

/-- What the contents of lock files are digested to. -/
def contentsDigest (contents : List ByteArray) : String :=
  if contents.isEmpty then "" else digestAll contents

/-- Without contents there is no digest. -/
theorem contentsDigest_shape (contents : List ByteArray) :
    contentsDigest contents = "" ∨ IsDigest (contentsDigest contents) := by
  unfold contentsDigest
  split
  · exact .inl rfl
  · exact .inr (hex_isDigest (size_sha256 _))

/-- There is a content, so there is a digest. -/
theorem contentsDigest_cons (content : ByteArray) (rest : List ByteArray) :
    contentsDigest (content :: rest) = hex (sha256 (chained (content :: rest))) := rfl

/-- Contents are told by their digest, if no two inputs of it have the same digest. -/
theorem contentsDigest_injective {one two : List ByteArray}
    (apart : NoCollision (digested one two)) (same : contentsDigest one = contentsDigest two) :
    one = two := by
  have nonempty : ∀ bytes, hex (sha256 bytes) ≠ "" := fun bytes empty =>
    absurd (empty ▸ (hex_isDigest (size_sha256 bytes)).size) (by decide)
  cases one with
  | nil =>
    cases two with
    | nil => rfl
    | cons content rest => exact absurd same.symm (nonempty _)
  | cons content rest =>
    cases two with
    | nil => exact absurd same (nonempty _)
    | cons content' rest' =>
      rw [contentsDigest_cons, contentsDigest_cons] at same
      have outer := apart _ (List.mem_cons_self ..) _
        (List.mem_cons_of_mem _ (List.mem_cons_self ..)) (hex_injective same)
      refine chained_injective (apart.mono fun bytes among => ?_) outer
      exact List.mem_cons_of_mem _ (List.mem_cons_of_mem _ among)

/-- What ends in a hyphen does not end in a digest. -/
theorem ne_of_digest {front front' digest : String} (shape : IsDigest digest) :
    front ++ "-" ≠ front' ++ digest := by
  intro same
  have last := congrArg (fun s : String => s.toList.getLast?) same
  have nonempty : digest.toList ≠ [] := List.ne_nil_of_length_pos (by rw [shape.size]; decide)
  obtain ⟨c, ends⟩ := List.getLast?_isSome.mpr nonempty |> Option.isSome_iff_exists.mp
  simp only [String.toList_append, List.getLast?_append, ends, Option.some_or] at last
  obtain rfl : '-' = c := Option.some.inj last
  exact shape.plain (List.mem_of_getLast? ends)

/-- A key tells its start and its digest, whatever hyphens the start has in it. -/
theorem key_injective {label start start' digest digest' : String}
    (shape : digest = "" ∨ IsDigest digest) (shape' : digest' = "" ∨ IsDigest digest')
    (same : label ++ "-" ++ start ++ "-" ++ digest = label ++ "-" ++ start' ++ "-" ++ digest') :
    start = start' ∧ digest = digest' := by
  have fronts (equal : label ++ "-" ++ start ++ "-" = label ++ "-" ++ start' ++ "-") :
      start = start' := by
    have texts := congrArg String.toList equal
    simp only [String.toList_append, List.append_assoc, List.append_cancel_left_eq,
      List.append_cancel_right_eq] at texts
    exact String.toList_injective texts
  rcases shape with rfl | shape <;> rcases shape' with rfl | shape'
  · exact ⟨fronts (by simpa using same), rfl⟩
  · exact absurd (by simpa using same) (ne_of_digest shape')
  · exact absurd (by simpa using same.symm) (ne_of_digest shape)
  · have texts := congrArg String.toList same
    rw [String.toList_append, @String.toList_append _ digest'] at texts
    obtain ⟨front, digests⟩ := List.append_inj' texts (shape.size.trans shape'.size.symm)
    exact ⟨fronts (String.toList_injective front), String.toList_injective digests⟩

end Cache

end BuildBench
