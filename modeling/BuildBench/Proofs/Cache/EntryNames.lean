import BuildBench.Cache.Store
import BuildBench.Proofs.Files.MakingFolders
import BuildBench.Proofs.Files.PathNames

/-!
# Names in the cache

A key that is the name of a file and is not hidden names an entry right in the folder of the cache.
The place where the entry is written first is hidden, so it is the place of no entry. The parts of
an entry have numbers as names, which are different from each other and from the manifest's.
-/

namespace BuildBench

namespace CacheStore

variable {store : CacheStore} {key : String} {unique : String}

/-- A key that is one component of a path name, and not hidden. -/
structure IsKey (key : String) : Prop where
  plain : '/' ∉ key.toList
  nonempty : key ≠ ""
  visible : key.toList.head? ≠ some '.'

/-- A text without a slash is one component, unless it is a dot or nothing at all. -/
theorem parse_of_plain {s : String} (plain : '/' ∉ s.toList) (nonempty : s ≠ "")
    (notDot : s ≠ ".") : PathName.parse s = ⟨.current, [s]⟩ := by
  have none : s.toList.takeWhile (· == '/') = [] := by
    cases whole : s.toList with
    | nil => rfl
    | cons c rest =>
      have other : c ≠ '/' := by
        rintro rfl
        exact plain (by simp [whole])
      simp [other]
  simp [PathName.parse, none, PathName.components, Text.splitAt, Text.pieces_of_plain plain,
    nonempty, notDot]

/-- The text is read as one component. -/
theorem join_of_plain {s : String} (plain : '/' ∉ s.toList) (nonempty : s ≠ "")
    (notDot : s ≠ ".") (root : PathName) : root.join (.parse s) = root.child s := by
  rw [parse_of_plain plain nonempty notDot]
  rfl

namespace IsKey

variable (named : IsKey key)

include named

/-- A key does not begin with a dot. -/
theorem notDot : key ≠ "." := by
  rintro rfl
  exact named.visible rfl

/-- A key does not begin with a dot. -/
theorem notUp : key ≠ ".." := by
  rintro rfl
  exact named.visible rfl

/-- The entry for a key stands right in the folder of the cache. -/
theorem entryFolder_eq (store : CacheStore) : store.entryFolder key = store.root.child key :=
  join_of_plain named.plain named.nonempty named.notDot _

end IsKey

/-! ## The hidden place -/

/-- The name under which an entry is written before it is complete. -/
def stagingName (key unique : String) : String := "." ++ key ++ "-" ++ unique

/-- There is a hyphen in it. -/
theorem stagingName_ne (key unique : String) :
    stagingName key unique ≠ "." ∧ stagingName key unique ≠ ".." ∧ stagingName key unique ≠ "" := by
  have dash : '-' ∈ (stagingName key unique).toList := by
    simp [stagingName, String.toList_append]
  refine ⟨?_, ?_, ?_⟩ <;>
  · intro same
    rw [same] at dash
    simp at dash

/-- The hidden name for a key in the folder of the cache, or a name below it. -/
def hiddenFolder (store : CacheStore) (key unique : String) (more : List String) : PathName :=
  store.root.descend (stagingName key unique :: more)

/-- The hidden place is below the hidden name for the key, and right there if what makes it unique is
one component. -/
theorem stagingFolder_run (store : CacheStore) (named : IsKey key) (w : World) :
    ∃ unique more, ('/' ∉ w.unique.toList → more = []) ∧ store.stagingFolder key w =
      (.ok (store.hiddenFolder key unique more), w) := by
  let front : List Char := '.' :: key.toList ++ ['-']
  have plain : '/' ∉ front := by simp [front, named.plain]
  obtain ⟨first, more, cut⟩ := Text.pieces_append plain w.unique.toList
  have whole : ("." ++ key ++ "-" ++ w.unique).toList = front ++ w.unique.toList := by
    simp [front, String.toList_append]
  have hidden : stagingName key (String.ofList first) = String.ofList (front ++ first) := by
    apply String.toList_injective
    simp [stagingName, front, String.toList_append]
  obtain ⟨notDot, -, nonempty⟩ := stagingName_ne key (String.ofList first)
  obtain ⟨others, single, components⟩ : ∃ others, (more = [] → others = []) ∧
      PathName.components ("." ++ key ++ "-" ++ w.unique) =
        stagingName key (String.ofList first) :: others := by
    rw [PathName.components, Text.splitAt, whole, cut, List.map_cons, ← hidden,
      List.filter_cons_of_pos (by simp [notDot, nonempty])]
    exact ⟨_, fun none => by rw [none]; rfl, rfl⟩
  have relative : (front ++ w.unique.toList).takeWhile (· == '/') = [] := by simp [front]
  have parsed : PathName.parse ("." ++ key ++ "-" ++ w.unique) =
      ⟨.current, PathName.components ("." ++ key ++ "-" ++ w.unique)⟩ := by
    simp [PathName.parse, whole, relative]
  refine ⟨String.ofList first, others, fun simple => single ?_, ?_⟩
  · have uncut : Text.pieces '/' (front ++ w.unique.toList) = [front ++ w.unique.toList] :=
      Text.pieces_of_plain (by simp [front, named.plain, simple])
    exact (List.cons.inj (cut.symm.trans uncut)).2
  calc store.stagingFolder key w
      = (.ok (store.root.join (.parse ("." ++ key ++ "-" ++ w.unique))), w) := rfl
    _ = _ := by rw [parsed, components]; rfl

/-- What is shown consists of the components, slashes and dots, and only the components can hold
what no name may hold. -/
theorem isName_iff {path : PathName} : Disk.isName path = true ↔
    ∀ part ∈ path.parts, ∀ c ∈ part.toList, Text.Nameable c := by
  have plain : ∀ c ∈ ['/', '.'], Text.Nameable c := by
    simp only [List.forall_mem_cons]
    exact ⟨⟨nofun, by decide⟩, ⟨nofun, by decide⟩, nofun⟩
  rw [Disk.isName, Option.isNone_iff_eq_none, nameFault?_eq_none_iff,
    PathName.forall_mem_display (plain _ (by simp)) (plain _ (by simp))]

/-- The components of a child are those of its folder and its name. -/
theorem isName_of_child {path : PathName} {name : String}
    (named : Disk.isName (path.child name) = true) :
    Disk.isName path = true ∧ ∀ c ∈ name.toList, Text.Nameable c := by
  rw [isName_iff] at named ⊢
  exact ⟨fun part among => named part (List.mem_append_left _ among), named name (by simp [PathName.child])⟩

/-- The name of a folder above a path that can be named can be used itself. -/
theorem isName_parent {path : PathName} (named : Disk.isName path = true) :
    Disk.isName path.parent = true := by
  rw [isName_iff] at named ⊢
  intro name among
  exact named name (List.dropLast_subset _ among)

/-- What can be said in bytes below the hidden place can be said in bytes below the entry. -/
theorem isName_of_hidden {more : List String} (rest : List String)
    (named : Disk.isName ((store.hiddenFolder key unique more).descend rest) = true) :
    Disk.isName ((store.root.child key).descend rest) = true := by
  rw [isName_iff] at named ⊢
  simp only [hiddenFolder, PathName.descend, PathName.child, List.append_assoc,
    List.mem_append] at named ⊢
  rintro part (above | among | below) c there
  · exact named part (.inl above) c there
  · obtain rfl : part = key := by simpa using among
    exact named (stagingName part unique) (.inr (.inl (by simp))) c
      (by simp [stagingName, String.toList_append, there])
  · exact named part (.inr (.inr below)) c there

/-! ## Parts of an entry -/

/-- A number is shown by its decimal digits. -/
theorem isDigit_of_mem_toString {i : Nat} {c : Char} (among : c ∈ (toString i).toList) :
    c.isDigit = true := by
  have digits : (toString i).toList = Nat.toDigits 10 i := by
    simp [toString, Nat.repr]
  rw [digits] at among
  exact Nat.isDigit_of_mem_toDigits (by decide) (by decide) among

/-- Digits may stand in a name. -/
theorem isName_number {folder : PathName} (named : Disk.isName folder = true) (i : Nat) :
    Disk.isName (folder.child (toString i)) = true := by
  rw [isName_iff] at named ⊢
  simp only [PathName.child, List.mem_append, List.mem_singleton]
  rintro part (above | rfl) c among
  · exact named part above c among
  · have digit := isDigit_of_mem_toString among
    rw [Char.isDigit_iff_toNat] at digit
    have zero : '0'.toNat = 48 := rfl
    have nine : '9'.toNat = 57 := rfl
    have plain : Text.half? c = none := if_pos (by rw [Text.halfDistance]; omega)
    constructor
    · simp [plain]
    · rintro rfl
      exact absurd digit.1 (by decide)

/-- The digits of a number tell which it is. -/
theorem toString_injective {i j : Nat} (same : toString i = toString j) : i = j := by
  have digits : ∀ n : Nat, (toString n).toList = Nat.toDigits 10 n := by
    intro n
    simp [toString, Nat.repr]
  have equal : Nat.toDigits 10 i = Nat.toDigits 10 j := by rw [← digits, ← digits, same]
  rw [← @Nat.ofDigitChars_toDigits 10 i (by decide) (by decide), equal,
    Nat.ofDigitChars_toDigits (by decide) (by decide)]

/-- The other text holds a character that is no digit. -/
theorem toString_ne {i : Nat} {s : String} {c : Char} (among : c ∈ s.toList)
    (other : c.isDigit = false) : toString i ≠ s := by
  rintro rfl
  rw [isDigit_of_mem_toString among] at other
  cases other

/-- A dot is no digit. -/
theorem toString_notDot (i : Nat) : toString i ≠ "." := toString_ne (c := '.') (by simp) rfl

/-- A dot is no digit. -/
theorem toString_notUp (i : Nat) : toString i ≠ ".." := toString_ne (c := '.') (by simp) rfl

/-- A letter is no digit. -/
theorem toString_ne_manifestName (i : Nat) : toString i ≠ manifestName :=
  toString_ne (c := 'm') (by simp [manifestName]) rfl

/-- By looking at it. -/
theorem manifestName_notDot : manifestName ≠ "." := by decide

/-- By looking at it. -/
theorem manifestName_notUp : manifestName ≠ ".." := by decide

/-! ## Sizes and characters -/

/-- A digit is one byte. -/
theorem size_of_digits {s : String} (digits : ∀ c ∈ s.toList, c.isDigit = true) :
    s.utf8ByteSize = s.length := by
  have each : ∀ cs : List Char, (∀ c ∈ cs, c.isDigit = true) →
      (String.ofList cs).utf8ByteSize = cs.length := by
    intro cs digits
    induction cs with
    | nil => rfl
    | cons c rest ih =>
      have size : c.utf8Size = 1 := by
        have digit := digits c (List.mem_cons_self ..)
        simp only [Char.isDigit, Bool.and_eq_true, decide_eq_true_eq] at digit
        exact Char.utf8Size_eq_one_iff.mpr (UInt32.le_trans digit.2 (by decide))
      rw [String.ofList_cons, String.utf8ByteSize_append, String.utf8ByteSize_singleton, size,
        ih fun d among => digits d (List.mem_cons_of_mem _ among), List.length_cons, Nat.add_comm]
  simpa [← String.length_toList] using each s.toList digits

/-- A number that is no longer than the name of the manifest can name a part. -/
theorem sound_number {folder : PathName} {i : Nat} (few : i < 10 ^ 13)
    (sound : (folder.child manifestName).Sound) : (folder.child (toString i)).Sound := by
  have size : (toString i).utf8ByteSize ≤ 13 := by
    rw [size_of_digits fun c among => isDigit_of_mem_toString among]
    exact (Nat.length_repr_le_iff (by decide)).mpr few
  have longer : manifestName.utf8ByteSize = 13 := by decide
  constructor
  · have anchor : (folder.child (toString i)).anchor = (folder.child manifestName).anchor := rfl
    refine PathName.short_of_le anchor ?_ sound.short
    simp only [PathName.child, PathName.spelledSize, List.map_append, List.sum_append,
      List.map_cons, List.map_nil, List.sum_cons, List.sum_nil]
    omega
  · rw [PathName.name_child, isLongName, decide_eq_false_iff_not]
    omega

/-- A name below the entry takes no more room than the same one below the hidden place. -/
theorem sound_of_hidden {more : List String} (rest : List String) (nonempty : rest ≠ [])
    (sound : ((store.hiddenFolder key unique more).descend rest).Sound) :
    ((store.root.child key).descend rest).Sound where
  short := by
    have anchor : ((store.root.child key).descend rest).anchor =
        ((store.hiddenFolder key unique more).descend rest).anchor := rfl
    refine PathName.short_of_le anchor ?_ sound.short
    have less : key.utf8ByteSize ≤ (stagingName key unique).utf8ByteSize := by
      simp only [stagingName, String.utf8ByteSize_append]
      omega
    simp only [hiddenFolder, PathName.descend, PathName.child, PathName.spelledSize,
      List.map_append, List.sum_append, List.map_cons, List.sum_cons, List.map_nil, List.sum_nil]
    omega
  name := by
    have last : ((store.root.child key).descend rest).name =
        ((store.hiddenFolder key unique more).descend rest).name := by
      obtain ⟨final, some⟩ := Option.ne_none_iff_exists'.mp (mt List.getLast?_eq_none_iff.mp nonempty)
      simp only [hiddenFolder, PathName.name, PathName.descend, PathName.child,
        List.getLast?_append, some, Option.some_or]
    rw [last]
    exact sound.name

end CacheStore

end BuildBench
