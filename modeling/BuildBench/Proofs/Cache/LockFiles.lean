import Mathlib.Data.String.Basic
import BuildBench.Proofs.Cache.GlobPatterns
import BuildBench.Proofs.Cache.KeyDigests
import BuildBench.Proofs.Cache.Saving

/-!
# What a cache key depends on

The files that count for a key are those that the pattern selects and that are not among the files of
a version control. Their names below the root decide their order, and only their contents enter the
digest: where the root is, what else is in the tree and how its folders are listed do not matter. The
other way round, two keys are equal only if their starts are and the same contents stand in the same
order, unless two different inputs have one digest.
-/

namespace BuildBench

open BuildBench.Action

/-! ## The order of path names -/

/-- By induction on what comes first in both. -/
theorem append_lt_append_iff (front : List String) {one two : List String} :
    front ++ one < front ++ two ↔ one < two := by
  induction front with
  | nil => rfl
  | cons name rest ih =>
    rw [List.cons_append, List.cons_append, List.cons_lt_cons_iff, ih]
    simp

namespace PathName

variable {p q : PathName}

/-- What comes below stands behind in the order too. -/
theorem ordering_descend (base : PathName) (rel : List String) :
    (base.descend rel).ordering = base.ordering ++ rel := by
  unfold ordering descend isAbsolute
  split <;> simp_all

/-- The order is that of the components. -/
theorem atMost_iff : p.atMost q = true ↔ p.ordering ≤ q.ordering := by
  simp [atMost]

/-- Below one folder the names from there decide. -/
theorem lt_of_atMost {base : PathName} {one two : List String}
    (ordered : (base.descend one).atMost (base.descend two) = true) (different : one ≠ two) :
    one < two := by
  rw [atMost_iff, ordering_descend, ordering_descend] at ordered
  have apart : base.ordering ++ one ≠ base.ordering ++ two := fun same =>
    different (List.append_cancel_left same)
  exact (append_lt_append_iff _).mp (lt_of_le_of_ne ordered apart)

end PathName

namespace Action

variable {α β : Type} {w : World} {F : Fault → Prop}

/-- A question that leaves the world alone, asked of all elements of a list: those for which it was
answered with yes are kept, unless it was refused once. -/
theorem filterM_run {each : β → Action Bool} {answer : β → Bool} {items : List β}
    (asked : ∀ x ∈ items, each x w = (.ok (answer x), w) ∨ ∃ f, F f ∧ each x w = (.error f, w)) :
    items.filterM each w = (.ok (items.filter answer), w) ∨
      ∃ f, F f ∧ items.filterM each w = (.error f, w) := by
  have below : ∀ (rest kept : List β), (∀ x ∈ rest, each x w = (.ok (answer x), w) ∨
      ∃ f, F f ∧ each x w = (.error f, w)) →
      rest.filterAuxM each kept w = (.ok ((rest.filter answer).reverse ++ kept), w) ∨
        ∃ f, F f ∧ rest.filterAuxM each kept w = (.error f, w) := by
    intro rest
    induction rest with
    | nil => exact fun kept _ => .inl rfl
    | cons x more ih =>
      intro kept asked
      obtain ⟨first, others⟩ := List.forall_mem_cons.mp asked
      rw [List.filterAuxM, bind_run]
      rcases first with told | ⟨f, holds, refused⟩
      · rw [told]
        rcases ih (cond (answer x) (x :: kept) kept) others with kept | refused
        · refine .inl (kept.trans ?_)
          cases yes : answer x <;> simp [yes]
        · exact .inr refused
      · rw [refused]
        exact .inr ⟨f, holds, rfl⟩
  rw [List.filterM, bind_run]
  rcases below items [] asked with kept | ⟨f, holds, refused⟩
  · rw [kept]
    exact .inl (by simp [pure_run])
  · rw [refused]
    exact .inr ⟨f, holds, rfl⟩

/-- By induction on the items: each is asked about in the same world. -/
theorem mapM_run {each : β → Action α} {answer : β → α} {items : List β}
    (asked : ∀ x ∈ items, each x w = (.ok (answer x), w)) :
    items.mapM each w = (.ok (items.map answer), w) := by
  induction items with
  | nil => rfl
  | cons x more ih =>
    obtain ⟨first, others⟩ := List.forall_mem_cons.mp asked
    simp only [List.mapM_cons, bind_run, first, ih others, pure_run, List.map_cons]

end Action

namespace Cache

open Digest

variable {w : World} {root path : PathName} {pattern : Pattern} {files : List PathName}

/-! ## The files that count -/

/-- The names that lead from the root to a file that counts for a key, and its content. Links are
followed to the file. -/
structure Counts (w : World) (root : PathName) (pattern : Pattern) (rel : List String)
    (content : ByteArray) : Prop where
  rooted : w.files.isFolder root = .ok true
  selected : w.files.Selects pattern.foldersOnly pattern.selectors root (root.descend rel)
  named : Disk.isName (root.descend rel) = true
  held : w.files.read (root.descend rel) = .ok content
  kept : ignoredFolder ∉ rel

/-- What is at a path name, for those that lead to a file. -/
def contentAt (w : World) (path : PathName) : ByteArray :=
  match w.files.read path with
  | .ok content => content
  | .error _ => ByteArray.empty

/-- Whether a selected path name leads to a file that counts. -/
def isCounted (w : World) (root path : PathName) : Bool :=
  Disk.isName path && (w.files.isFile path).toOption == some true &&
    !(path.parts.drop root.parts.length).contains ignoredFolder

/-- By what the name leads to: only a file has a content to read. -/
theorem isFile_iff : w.files.isFile path = .ok true ↔ ∃ content, w.files.read path = .ok content := by
  rw [Files.isFile, Files.check, Files.read]
  rcases w.files.lookUp path with e | ⟨content, executable⟩ | target | f
  · simp only [bind, Except.bind, reduceCtorEq, exists_false, iff_false]
    split <;> simp
  all_goals simp [bind, Except.bind, Entry.isFile]

/-- Asks whether a selected path name leads to a file that counts. -/
def askCounted (root path : PathName) : Action Bool := do
  if ← Disk.isFile path then
    return !(path.parts.drop root.parts.length).contains ignoredFolder
  else return false

/-- The question is answered, unless the path name is too long. -/
theorem askCounted_run (root path : PathName) (w : World) :
    askCounted root path w = (.ok (isCounted w root path), w) ∨
      ∃ f, Files.IsTooLong f ∧ askCounted root path w = (.error f, w) := by
  rw [askCounted, bind_run, Disk.isFile, Disk.ask]
  cases named : Disk.isName path with
  | false => exact .inl (by simp [isCounted, named, pure_run])
  | true =>
    simp only [Bool.not_true, Bool.false_eq_true, if_false, bind_run, get_run, ofResult_run]
    rcases asked : w.files.isFile path with e | answer
    · exact .inr ⟨_, ⟨path, by rw [Files.check_error asked]; rfl⟩, rfl⟩
    · cases answer <;>
        exact .inl (by simp [isCounted, named, asked, mapError_ok, Except.toOption, pure_run])

/-- The base can be named or not, and the search fails or finds. -/
theorem glob_run (root : PathName) (pattern : Pattern) (w : World) :
    (∃ f, Files.IsTooLong f ∧ Disk.glob root pattern w = (.error f, w)) ∨
      ∃ found, Disk.glob root pattern w = (.ok found, w) := by
  rw [Disk.glob]
  cases Disk.isName root with
  | false => exact .inr ⟨[], rfl⟩
  | true =>
    simp only [Bool.not_true, Bool.false_eq_true, if_false, bind_run, get_run, ofResult_run]
    rcases globbed : w.files.glob root pattern with f | found
    · exact .inl ⟨f, Files.glob_error globbed, rfl⟩
    · exact .inr ⟨found, rfl⟩

/-- The files that count, in their order, unless a path name is too long. -/
theorem lockFiles_run (root : PathName) (pattern : Pattern) (w : World) :
    (∃ f, Files.IsTooLong f ∧ lockFiles root pattern w = (.error f, w)) ∨
      ∃ found, Disk.glob root pattern w = (.ok found, w) ∧ lockFiles root pattern w =
        (.ok ((found.filter (isCounted w root)).mergeSort PathName.atMost), w) := by
  have opened : lockFiles root pattern = do
    let found ← Disk.glob root pattern
    let counted ← found.filterM (askCounted root)
    return counted.mergeSort PathName.atMost := rfl
  rw [opened, bind_run]
  obtain ⟨f, long, refused⟩ | ⟨found, globbed⟩ := glob_run root pattern w
  · exact .inl ⟨f, long, by rw [refused]⟩
  rw [globbed]
  have asked : ∀ path ∈ found, _ := fun path _ => askCounted_run root path w
  obtain counted | ⟨f, long, refused⟩ := filterM_run asked
  · exact .inr ⟨found, rfl, by simp only [bind_run, counted, pure_run]⟩
  · exact .inl ⟨f, long, by simp only [bind_run, refused]⟩

/-- The search finds the path names that the pattern selects. -/
theorem mem_found {found : List PathName} (distinct : Entry.Distinct (.folder w.files.root))
    (globbed : Disk.glob root pattern w = (.ok found, w)) :
    (∀ path, path ∈ found ↔ Disk.isName root = true ∧ w.files.isFolder root = .ok true ∧
      w.files.Selects pattern.foldersOnly pattern.selectors root path) ∧ found.Nodup := by
  rw [Disk.glob] at globbed
  cases named : Disk.isName root with
  | false =>
    rw [named] at globbed
    cases globbed
    exact ⟨fun path => by simp, List.nodup_nil⟩
  | true =>
    simp only [named, Bool.not_true, Bool.false_eq_true, if_false, bind_run, get_run,
      ofResult_run] at globbed
    simpa using Files.mem_glob distinct (Prod.mk.inj globbed).1

/-- What is left behind the root is what was put there. -/
theorem drop_descend (root : PathName) (rel : List String) :
    (root.descend rel).parts.drop root.parts.length = rel := by
  simp [PathName.descend]

/-- What is selected counts if it can be named, is a file, and is not among the files of a version
control. -/
theorem isCounted_iff {rel : List String} (rooted : w.files.isFolder root = .ok true)
    (selected : w.files.Selects pattern.foldersOnly pattern.selectors root (root.descend rel)) :
    isCounted w root (root.descend rel) = true ↔ ∃ content, Counts w root pattern rel content := by
  have answered : (w.files.isFile (root.descend rel)).toOption = some true ↔
      w.files.isFile (root.descend rel) = .ok true := by
    rcases w.files.isFile (root.descend rel) with e | answer <;> simp [Except.toOption]
  simp only [isCounted, Bool.and_eq_true, Bool.not_eq_true', List.contains_eq_mem,
    decide_eq_false_iff_not, drop_descend, beq_iff_eq, answered, isFile_iff]
  constructor
  · rintro ⟨⟨named, content, held⟩, kept⟩
    exact ⟨content, rooted, selected, named, held, kept⟩
  · rintro ⟨content, counts⟩
    exact ⟨⟨counts.named, content, counts.held⟩, counts.kept⟩

/-! ## Their contents in order -/

/-- The contents of the files that count, in the order of the names that lead to them. -/
def Sequence (w : World) (root : PathName) (pattern : Pattern) (contents : List ByteArray) : Prop :=
  ∃ entries : List (List String × ByteArray), entries.Pairwise (fun one two => one.1 < two.1) ∧
    (∀ rel content, (rel, content) ∈ entries ↔ Counts w root pattern rel content) ∧
    contents = entries.map (·.2)

/-- A list in strict order is known by its elements. -/
theorem eq_of_ordered {one two : List (List String × ByteArray)}
    (ordered : one.Pairwise fun a b => a.1 < b.1) (ordered' : two.Pairwise fun a b => a.1 < b.1)
    (same : ∀ entry, entry ∈ one ↔ entry ∈ two) : one = two := by
  have once {entries : List (List String × ByteArray)}
      (sorted : entries.Pairwise fun a b => a.1 < b.1) : entries.Nodup :=
    sorted.imp fun less equal => absurd (equal ▸ less) (lt_irrefl _)
  refine List.Perm.eq_of_pairwise (fun a b _ _ less more => absurd less (lt_asymm more)) ordered
    ordered' ((List.perm_ext_iff_of_nodup (once ordered) (once ordered')).mpr same)

/-- Only the files that count decide about the sequence. -/
theorem Sequence.eq_of_counts {w' : World} {root' : PathName} {pattern' : Pattern}
    {contents contents' : List ByteArray} (one : Sequence w root pattern contents)
    (two : Sequence w' root' pattern' contents')
    (same : ∀ rel content, Counts w root pattern rel content ↔ Counts w' root' pattern' rel content) :
    contents = contents' := by
  obtain ⟨entries, ordered, members, rfl⟩ := one
  obtain ⟨entries', ordered', members', rfl⟩ := two
  have equal : entries = entries' := eq_of_ordered ordered ordered' fun ⟨rel, content⟩ => by
    rw [members, members', same]
  rw [equal]

/-- The content is the one that can be read. -/
theorem contentAt_eq {content : ByteArray} (held : w.files.read path = .ok content) :
    contentAt w path = content := by
  rw [contentAt, held]

/-- The path names of the files that count, in their order. -/
def listed (w : World) (root : PathName) (found : List PathName) : List PathName :=
  (found.filter (isCounted w root)).mergeSort PathName.atMost

section Listed

variable {found : List PathName} (distinct : Entry.Distinct (.folder w.files.root))
  (globbed : Disk.glob root pattern w = (.ok found, w))

include distinct globbed

/-- What is found is sorted out and put in order, and neither adds anything. -/
theorem mem_listed : path ∈ listed w root found ↔
    ∃ rel content, path = root.descend rel ∧ Counts w root pattern rel content := by
  obtain ⟨members, -⟩ := mem_found distinct globbed
  rw [listed, List.mem_mergeSort, List.mem_filter, members]
  constructor
  · rintro ⟨⟨named, rooted, selected⟩, counted⟩
    obtain ⟨rel, rfl⟩ := selected.descends
    obtain ⟨content, counts⟩ := (isCounted_iff rooted selected).mp counted
    exact ⟨rel, content, rfl, counts⟩
  · rintro ⟨rel, content, rfl, counts⟩
    have rootNamed : Disk.isName root = true := CacheStore.isName_iff.mpr fun part among =>
      CacheStore.isName_iff.mp counts.named part (List.mem_append_left _ among)
    exact ⟨⟨rootNamed, counts.rooted, counts.selected⟩,
      (isCounted_iff counts.rooted counts.selected).mpr ⟨content, counts⟩⟩

/-- The names from the root stand in strict order. -/
theorem ordered_listed : (listed w root found).Pairwise fun p q =>
    p.parts.drop root.parts.length < q.parts.drop root.parts.length := by
  have once : (listed w root found).Nodup :=
    (List.mergeSort_perm _ _).nodup_iff.mpr ((mem_found distinct globbed).2.filter _)
  have sorted : (listed w root found).Pairwise fun p q => p.atMost q = true := by
    refine List.pairwise_mergeSort (fun p q r first second => ?_) (fun p q => ?_) _
    · rw [PathName.atMost_iff] at *
      exact first.trans second
    · rw [Bool.or_eq_true, PathName.atMost_iff, PathName.atMost_iff]
      exact le_total _ _
  refine (sorted.and once).imp_of_mem fun {p q} among among' both => ?_
  obtain ⟨rel, content, rfl, -⟩ := (mem_listed distinct globbed).mp among
  obtain ⟨rel', content', rfl, -⟩ := (mem_listed distinct globbed).mp among'
  rw [drop_descend, drop_descend]
  exact PathName.lt_of_atMost both.1 fun same => both.2 (by rw [same])

/-- The listed files hold the sequence of contents. -/
theorem sequence_listed :
    Sequence w root pattern ((listed w root found).map (contentAt w)) := by
  refine ⟨(listed w root found).map fun path =>
    (path.parts.drop root.parts.length, contentAt w path), ?_, fun rel content => ?_, ?_⟩
  · exact List.pairwise_map.mpr (ordered_listed distinct globbed)
  · rw [List.mem_map]
    constructor
    · rintro ⟨path, among, same⟩
      obtain ⟨rel', content', rfl, counts⟩ := (mem_listed distinct globbed).mp among
      rw [drop_descend, contentAt_eq counts.held] at same
      cases same
      exact counts
    · intro counts
      refine ⟨root.descend rel, (mem_listed distinct globbed).mpr ⟨rel, content, rfl, counts⟩, ?_⟩
      rw [drop_descend, contentAt_eq counts.held]
  · rw [List.map_map]
    rfl

/-- All listed files can be read. -/
theorem read_listed : (listed w root found).mapM Disk.read w =
    (.ok ((listed w root found).map (contentAt w)), w) := by
  refine mapM_run fun path among => ?_
  obtain ⟨rel, content, rfl, counts⟩ := (mem_listed distinct globbed).mp among
  rw [Disk.read, bind_run, Disk.requireName_run counts.named]
  simp only [bind_run, get_run, ofResult_run, counts.held, contentAt_eq counts.held, mapError_ok]

end Listed

/-! ## Digests and keys -/

/-- The digest of the contents in order, unless a path name is too long. -/
theorem hashFiles_run (distinct : Entry.Distinct (.folder w.files.root)) {text : String}
    (parsed : Pattern.parse text = .ok pattern) (root : PathName) :
    (∃ f, Files.IsTooLong f ∧ (lockFiles root pattern w).1 = .error f) ∨
      ∃ contents, Sequence w root pattern contents ∧
        (hashFiles root (.text text) w).1 = .ok (contentsDigest contents) := by
  have accepted : patternOf (.text text) = .ok pattern := parsed
  obtain ⟨f, long, refused⟩ | ⟨found, globbed, counted⟩ := lockFiles_run root pattern w
  · exact .inl ⟨f, long, by rw [refused]⟩
  refine .inr ⟨_, sequence_listed distinct globbed, ?_⟩
  rw [hashFiles, accepted, ofResult_ok_bind, bind_run]
  have read := read_listed distinct globbed
  rw [counted]
  change ((if (listed w root found).isEmpty then pure "" else do
    let contents ← (listed w root found).mapM Disk.read
    log .debug "cache" _
    return digestAll contents : Action String) w).1 = _
  by_cases empty : (listed w root found).isEmpty = true
  · rw [if_pos empty, List.isEmpty_iff.mp empty]
    rfl
  · rw [if_neg empty, contentsDigest, List.isEmpty_map, if_neg empty]
    rw [bind_run, read]
    rfl

/-- Two keys for one system are equal exactly if their starts are and the same contents stand in the
same order, provided that no two of the inputs have one digest. Where the same files count, the digests
are the same in any case. -/
theorem key_eq_iff {w w' : World} {root root' : PathName} {pattern pattern' : Pattern}
    {text text' : String} (label start start' : String)
    (distinct : Entry.Distinct (.folder w.files.root))
    (distinct' : Entry.Distinct (.folder w'.files.root))
    (parsed : Pattern.parse text = .ok pattern) (parsed' : Pattern.parse text' = .ok pattern')
    (short : ∀ path : PathName,
      (lockFiles root pattern w).1 ≠ .error (.system .nameTooLong path.display))
    (short' : ∀ path : PathName,
      (lockFiles root' pattern' w').1 ≠ .error (.system .nameTooLong path.display)) :
    ∃ digest digest' contents contents' made made',
      (hashFiles root (.text text) w).1 = .ok digest ∧
      (hashFiles root' (.text text') w').1 = .ok digest' ∧
      Sequence w root pattern contents ∧ Sequence w' root' pattern' contents' ∧
      key label (.text start) digest = .ok made ∧ key label (.text start') digest' = .ok made' ∧
      (NoCollision (digested contents contents') →
        (made = made' ↔ start = start' ∧ contents = contents')) ∧
      ((∀ rel content, Counts w root pattern rel content ↔ Counts w' root' pattern' rel content) →
        digest = digest') := by
  obtain ⟨f, ⟨path, rfl⟩, refused⟩ | ⟨contents, sequence, hashed⟩ := hashFiles_run distinct parsed root
  · exact absurd refused (short path)
  obtain ⟨f, ⟨path, rfl⟩, refused⟩ | ⟨contents', sequence', hashed'⟩ :=
    hashFiles_run distinct' parsed' root'
  · exact absurd refused (short' path)
  refine ⟨_, _, contents, contents', _, _, hashed, hashed', sequence, sequence', rfl, rfl,
    fun apart => ⟨fun same => ?_, ?_⟩, fun same => ?_⟩
  · obtain ⟨starts, digests⟩ := key_injective (contentsDigest_shape contents)
      (contentsDigest_shape contents') same
    exact ⟨starts, contentsDigest_injective apart digests⟩
  · rintro ⟨rfl, rfl⟩
    rfl
  · rw [sequence.eq_of_counts sequence' same]

/-- A lock file below a root, and another one among the files of a version control. -/
def lockedTree : World where
  files := { root := [("p", .folder [(".git", .folder [("c.lock", .file ⟨#[9]⟩ false)]),
    ("b", .folder [("c.lock", .file ⟨#[120]⟩ false)])])] }
  processes := ⟨[], {}⟩
  replies := ⟨[], .refused .connection ""⟩

/-- The same lock file below another root, as a link, with its folder listed in another order. -/
def movedTree : World where
  files := { root := [("q", .folder [("r", .folder [("b", .folder [("z", .file ⟨#[120]⟩ false),
    ("c.lock", .link "z")])])])], current := ["q"] }
  processes := ⟨[], {}⟩
  replies := ⟨[], .refused .connection ""⟩

/-- Folder by folder. -/
theorem lockedTree_distinct : Entry.Distinct (.folder lockedTree.files.root) := by
  refine .folder (by decide) ?_
  simp only [lockedTree, List.forall_mem_cons]
  refine ⟨.folder (by decide) ?_, nofun⟩
  simp only [List.forall_mem_cons]
  refine ⟨.folder (by decide) ?_, .folder (by decide) ?_, nofun⟩ <;>
    exact List.forall_mem_cons.mpr ⟨.file _ _, nofun⟩

/-- Folder by folder. -/
theorem movedTree_distinct : Entry.Distinct (.folder movedTree.files.root) := by
  refine .folder (by decide) ?_
  simp only [movedTree, List.forall_mem_cons]
  refine ⟨.folder (by decide) ?_, nofun⟩
  simp only [List.forall_mem_cons]
  refine ⟨.folder (by decide) ?_, nofun⟩
  simp only [List.forall_mem_cons]
  refine ⟨.folder (by decide) ?_, nofun⟩
  simp only [List.forall_mem_cons]
  exact ⟨.file _ _, .link _, nofun⟩

/-- All files of one name. -/
def lockPattern : Pattern := ⟨[.deep, .exact "c.lock"], false⟩

/-- By evaluation. -/
theorem lockPattern_parsed : Pattern.parse "**/c.lock" = .ok lockPattern := by rfl

/-- What is digested for one file with one character on both sides. -/
theorem noCollision_single : NoCollision (digested [⟨#[120]⟩] [⟨#[120]⟩]) := by
  have apart : (sha256 (chained [⟨#[120]⟩])).data.toList ≠ (sha256 ⟨#[120]⟩).data.toList := by
    decide +kernel
  have differ : sha256 (chained [⟨#[120]⟩]) ≠ sha256 ⟨#[120]⟩ := fun same =>
    apart (congrArg (·.data.toList) same)
  have among : ∀ bytes ∈ digested [⟨#[120]⟩] [⟨#[120]⟩],
      bytes = chained [⟨#[120]⟩] ∨ bytes = ⟨#[120]⟩ := by
    simp [digested]
  intro one first two second same
  rcases among one first with rfl | rfl <;> rcases among two second with rfl | rfl
  · rfl
  · exact absurd same differ
  · exact absurd same.symm differ
  · rfl

/-- The one file that counts holds the sequence. -/
theorem sequence_single {content : ByteArray} {contents : List ByteArray} (path : PathName)
    (distinct : Entry.Distinct (.folder w.files.root))
    (single : (Disk.glob root pattern w).1.toOption.map (·.filter (isCounted w root)) = some [path])
    (held : w.files.read path = .ok content) (sequence : Sequence w root pattern contents) :
    contents = [content] := by
  obtain ⟨f, -, refused⟩ | ⟨found, globbed⟩ := glob_run root pattern w
  · rw [refused] at single
    cases single
  · rw [globbed] at single
    have kept : found.filter (isCounted w root) = [path] := Option.some.inj single
    have all := sequence.eq_of_counts (sequence_listed distinct globbed) fun _ _ => Iff.rfl
    rw [all, listed, kept, List.mergeSort_singleton, List.map_singleton, contentAt_eq held]

/-- The key is the same for the moved lock file. -/
theorem key_eq_iff_movedTree : ∃ digest digest' made made',
    (hashFiles ⟨.root, ["p"]⟩ (.text "**/c.lock") lockedTree).1 = .ok digest ∧
    (hashFiles ⟨.current, ["r"]⟩ (.text "**/c.lock") movedTree).1 = .ok digest' ∧
    key "Linux" (.text "cargo") digest = .ok made ∧
    key "Linux" (.text "cargo") digest' = .ok made' ∧ made = made' := by
  have here : (lockFiles ⟨.root, ["p"]⟩ lockPattern lockedTree).1.toOption.isSome = true := by
    decide +kernel
  have there : (lockFiles ⟨.current, ["r"]⟩ lockPattern movedTree).1.toOption.isSome = true := by
    decide +kernel
  obtain ⟨digest, digest', contents, contents', made, made', hashed, hashed', sequence, sequence',
    keyed, keyed', same, -⟩ := key_eq_iff "Linux" "cargo" "cargo" lockedTree_distinct
      movedTree_distinct lockPattern_parsed lockPattern_parsed
      (fun path refused => by rw [refused] at here; cases here)
      (fun path refused => by rw [refused] at there; cases there)
  obtain rfl : contents = [⟨#[120]⟩] := sequence_single ⟨.root, ["p", "b", "c.lock"]⟩
    lockedTree_distinct (by decide +kernel) rfl sequence
  obtain rfl : contents' = [⟨#[120]⟩] := sequence_single ⟨.current, ["r", "b", "c.lock"]⟩
    movedTree_distinct (by decide +kernel) rfl sequence'
  exact ⟨digest, digest', made, made', hashed, hashed', keyed, keyed',
    (same noCollision_single).mpr ⟨rfl, rfl⟩⟩

end Cache

end BuildBench
