import BuildBench.Cache.Store
import BuildBench.Proofs.History.Actions
import BuildBench.Proofs.Json.LegibleCharacters

/-!
# Manifests

A manifest is a document with the key of its entry and the list of its paths. Whoever reads it finds
the texts with which it was written.
-/

namespace BuildBench

namespace Json

open Text

variable {s : String} {texts : List String} {rest : List Char}

/-! ## Blanks -/

/-- All of the blank is skipped, and then what is left to skip. -/
theorem skipSpace_blank {blank : List Char} (spaces : ∀ c ∈ blank, isSpace c = true)
    (rest : List Char) : skipSpace (blank ++ rest) = skipSpace rest :=
  List.dropWhile_append_of_pos spaces

/-- The first character is no space. -/
theorem skipSpace_of_not {c : Char} (dense : isSpace c = false) (rest : List Char) :
    skipSpace (c :: rest) = c :: rest := by
  simp [skipSpace, dense]

/-- A new line is a line feed and some spaces. -/
theorem newLine_blank (level : Nat) : ∀ c ∈ (newLine level).toList, isSpace c = true := by
  intro c member
  simp only [newLine, String.toList_append, String.toList_ofList, List.mem_append,
    List.mem_replicate] at member
  rcases member with first | ⟨-, rfl⟩
  · have : c = '\n' := by simpa using first
    rw [this]
    rfl
  · rfl

/-! ## Texts -/

/-- A text stands between its quotes. -/
theorem toList_writeString (s : String) :
    (writeString s).toList = '"' :: s.toList.flatMap escapeChar ++ ['"'] := by
  simp [writeString]

/-- A quote begins a text, which is read back. -/
theorem readValue_text (unpaired : Unpaired s.toList) (fuel depth : Nat) (rest : List Char) :
    readValue (fuel + 1) depth ((writeString s).toList ++ rest) = .ok (.text s, rest) := by
  rw [toList_writeString, List.append_assoc, List.cons_append, List.singleton_append, readValue,
    readString_written unpaired]
  rfl

/-! ## Lists of texts -/

/-- The items of a written list. -/
def itemsText (level : Nat) (texts : List String) : List Char :=
  (("," ++ newLine level).intercalate (texts.map writeString)).toList

/-- There is nothing to put between. -/
theorem itemsText_singleton (level : Nat) (s : String) :
    itemsText level [s] = (writeString s).toList := by
  simp [itemsText]

/-- A comma and a new line stand after all but the last. -/
theorem itemsText_cons_cons (level : Nat) (s next : String) (more : List String) :
    itemsText level (s :: next :: more) =
      (writeString s).toList ++ ',' :: (newLine level).toList ++ itemsText level (next :: more) := by
  simp [itemsText, String.intercalate_cons_cons]

/-- Every item takes at least one character. -/
theorem length_le_itemsText (level : Nat) (texts : List String) :
    texts.length ≤ (itemsText level texts).length := by
  induction texts with
  | nil => exact Nat.zero_le _
  | cons s more ih =>
    have some : 0 < (writeString s).toList.length := by simp [toList_writeString]
    cases more with
    | nil => rw [itemsText_singleton]; exact some
    | cons next others =>
      rw [itemsText_cons_cons, List.length_append, List.length_append, List.length_cons]
      omega

/-- A written text does not begin with blanks. -/
theorem skipSpace_written (s : String) (rest : List Char) :
    skipSpace ((writeString s).toList ++ rest) = (writeString s).toList ++ rest := by
  rw [toList_writeString]
  exact skipSpace_of_not rfl _

/-- Blanks in front of a written text are skipped. -/
theorem skipSpace_writeString {before : List Char} (spaces : ∀ c ∈ before, isSpace c = true)
    (s : String) (rest : List Char) :
    skipSpace (before ++ ((writeString s).toList ++ rest)) = (writeString s).toList ++ rest := by
  rw [skipSpace_blank spaces, skipSpace_written]

/-- By induction on the items that are left: after each there is a comma or the end. -/
theorem readItems_texts (level : Nat) {blank : List Char}
    (spaces : ∀ c ∈ blank, isSpace c = true) (s : String) (more : List String)
    (unpaired : ∀ t ∈ s :: more, Unpaired t.toList) (fuel depth : Nat)
    (enough : more.length + 1 < fuel) {before : List Char}
    (leading : ∀ c ∈ before, isSpace c = true) (rest : List Char) :
    readItems fuel depth (before ++ (itemsText level (s :: more) ++ (blank ++ ']' :: rest))) =
      .ok ((s :: more).map .text, rest) := by
  induction more generalizing s fuel before with
  | nil =>
    obtain ⟨fuel, rfl⟩ : ∃ n, fuel = n + 2 := ⟨fuel - 2, by simp at enough; omega⟩
    have first := readValue_text (unpaired s (List.mem_cons_self ..)) fuel depth
      (blank ++ ']' :: rest)
    rw [readItems, itemsText_singleton, skipSpace_writeString leading, first]
    simp only [bind, Except.bind, skipSpace_blank spaces, skipSpace_of_not (c := ']') rfl]
    rfl
  | cons next others ih =>
    obtain ⟨fuel, rfl⟩ : ∃ n, fuel = n + 2 := ⟨fuel - 2, by simp at enough; omega⟩
    have later := ih next (fun t member => unpaired t (List.mem_cons_of_mem _ member)) (fuel + 1)
      (by simpa using enough) (newLine_blank level)
    have first := readValue_text (unpaired s (List.mem_cons_self ..)) fuel depth
      (',' :: ((newLine level).toList ++ (itemsText level (next :: others) ++
        (blank ++ ']' :: rest))))
    have regrouped : itemsText level (s :: next :: others) ++ (blank ++ ']' :: rest) =
        (writeString s).toList ++ (',' :: ((newLine level).toList ++
          (itemsText level (next :: others) ++ (blank ++ ']' :: rest)))) := by
      rw [itemsText_cons_cons]
      simp only [List.append_assoc, List.cons_append]
    rw [readItems, regrouped, skipSpace_writeString leading, first]
    simp only [bind, Except.bind, skipSpace_of_not (c := ',') rfl, later]
    rfl

/-- A list of texts as it is written. -/
def listText (level : Nat) (texts : List String) : List Char :=
  (block "[" "]" level (texts.map writeString)).toList

/-- Brackets with nothing between. -/
theorem listText_nil (level : Nat) : listText level [] = ['[', ']'] := by
  simp [listText, block]

/-- The items stand on lines of their own. -/
theorem listText_cons (level : Nat) (s : String) (more : List String) :
    listText level (s :: more) = '[' :: ((newLine (level + 1)).toList ++
      (itemsText (level + 1) (s :: more) ++ ((newLine level).toList ++ [']']))) := by
  simp [listText, block, itemsText, String.toList_append, List.append_assoc]

/-- There are brackets around the items, and each item is a character long at least. -/
theorem length_le_listText (level : Nat) (texts : List String) :
    texts.length ≤ (listText level texts).length := by
  cases texts with
  | nil => exact Nat.zero_le _
  | cons s more =>
    have items := length_le_itemsText (level + 1) (s :: more)
    simp only [listText_cons, List.length_cons, List.length_append] at items ⊢
    omega

/-- An empty list is read at once, any other item by item. -/
theorem readValue_texts (level : Nat) (texts : List String)
    (unpaired : ∀ t ∈ texts, Unpaired t.toList) (fuel depth : Nat)
    (enough : texts.length + 1 < fuel) (rest : List Char) :
    readValue fuel (depth + 1) (listText level texts ++ rest) =
      .ok (.list (texts.map .text), rest) := by
  obtain ⟨fuel, rfl⟩ : ∃ n, fuel = n + 1 := ⟨fuel - 1, by omega⟩
  cases texts with
  | nil =>
    rw [listText_nil, List.cons_append, readValue]
    simp only [Nat.add_eq_zero_iff, Nat.one_ne_zero, and_false, if_false, List.singleton_append,
      skipSpace_of_not (c := ']') rfl]
    rfl
  | cons s more =>
    have items := readItems_texts (level + 1) (newLine_blank level) s more unpaired fuel depth
      (by simpa using enough) (newLine_blank (level + 1)) rest
    have regrouped : listText level (s :: more) ++ rest = '[' :: ((newLine (level + 1)).toList ++
        (itemsText (level + 1) (s :: more) ++ ((newLine level).toList ++ ']' :: rest))) := by
      rw [listText_cons]
      simp only [List.append_assoc, List.cons_append, List.nil_append]
    have quote : ∃ tail, skipSpace ((newLine (level + 1)).toList ++
        (itemsText (level + 1) (s :: more) ++ ((newLine level).toList ++ ']' :: rest))) =
          '"' :: tail := by
      cases more with
      | nil =>
        rw [itemsText_singleton, skipSpace_writeString (newLine_blank _), toList_writeString]
        exact ⟨_, rfl⟩
      | cons next others =>
        rw [itemsText_cons_cons, List.append_assoc, List.append_assoc,
          skipSpace_writeString (newLine_blank _), toList_writeString]
        exact ⟨_, rfl⟩
    obtain ⟨tail, opens⟩ := quote
    rw [regrouped, readValue]
    simp only [Nat.add_eq_zero_iff, Nat.one_ne_zero, and_false, if_false, opens, Nat.add_sub_cancel,
      items, bind, Except.bind]
    rfl

/-! ## The document -/

/-- By induction on the texts. -/
theorem writeItems_texts (level : Nat) (texts : List String) :
    writeItems level (texts.map .text) = texts.map writeString := by
  induction texts with
  | nil => rfl
  | cons s more ih => rw [List.map_cons, writeItems, ih]; rfl

end Json

namespace CacheStore

open Json Text

/-- The two braces around an object. -/
def openingBrace : Char := Char.ofNat 0x7b

def closingBrace : Char := Char.ofNat 0x7d

/-- A member of an object whose value is already written. -/
def memberText (name : String) (value : List Char) : List Char :=
  (writeString name).toList ++ (':' :: ' ' :: value)

/-- A manifest is an object with two members. -/
theorem toList_manifestText (key : String) (paths : List String) :
    (manifestText key paths).toList =
      openingBrace :: ((newLine 1).toList ++
        (memberText "key" (writeString key).toList ++ (',' :: ((newLine 1).toList ++
          (memberText "paths" (listText 1 paths) ++
            ((newLine 0).toList ++ [closingBrace, '\n'])))))) := by
  have items := writeItems_texts 2 paths
  simp [manifestText, Json.document, Json.object, Json.write, writeMembers, items, block,
    Value.display, listText, memberText, String.intercalate_cons_cons, openingBrace,
    closingBrace]

/-- The member begins with the quote of its name. -/
theorem memberText_append (name : String) (value tail : List Char) :
    memberText name value ++ tail =
      '"' :: (name.toList.flatMap escapeChar ++ '"' :: (':' :: ' ' :: (value ++ tail))) := by
  simp [memberText, toList_writeString]

/-- A quote is no space. -/
theorem skipSpace_memberText {before : List Char} (spaces : ∀ c ∈ before, isSpace c = true)
    (name : String) (value tail : List Char) :
    skipSpace (before ++ (memberText name value ++ tail)) = memberText name value ++ tail := by
  rw [skipSpace_blank spaces, memberText_append]
  exact skipSpace_of_not rfl _

/-- One member of an object is read, and then what follows it. -/
theorem readMembers_member {name : String} {value tail : List Char} {v : Value}
    {fuel depth : Nat} (entries : List (Value × Value)) (unpaired : Unpaired name.toList)
    (dense : skipSpace (value ++ tail) = value ++ tail)
    (read : readValue fuel depth (value ++ tail) = .ok (v, tail)) :
    readMembers (fuel + 1) depth entries (memberText name value ++ tail) =
      match skipSpace tail with
      | ',' :: more =>
        readMembers fuel depth (insertEntry (.text name) v entries) (skipSpace more)
      | c :: others =>
        if c.toNat = 0x7d then .ok (insertEntry (.text name) v entries, others)
        else .error (.malformed .commaExpected (skipSpace tail).length)
      | [] => .error (.malformed .commaExpected 0) := by
  have skipped : skipSpace (' ' :: (value ++ tail)) = value ++ tail :=
    (@skipSpace_blank [' '] (by simp [isSpace]) (value ++ tail)).trans dense
  rw [memberText_append, readMembers]
  simp only [bind, Except.bind, readString_written unpaired, skipSpace_of_not (c := ':') rfl,
    skipped, read]
  rfl

/-- A brace begins an object, whose members are read to the end. -/
theorem readValue_object {fuel depth : Nat} {rest members tail : List Char}
    {entries : List (Value × Value)} (skipped : skipSpace rest = '"' :: members)
    (read : readMembers fuel depth [] ('"' :: members) = .ok (entries, tail)) :
    readValue (fuel + 1) (depth + 1) (openingBrace :: rest) = .ok (.map entries, tail) := by
  rw [openingBrace, readValue]
  · simp only [skipped, Nat.add_sub_cancel, read, bind, Except.bind]
    rfl
  · decide
  · decide

/-- What follows the members of a manifest. -/
def ending : List Char := (newLine 0).toList ++ [closingBrace, '\n']

/-- The member that lists the paths, and what follows it. -/
def pathsMember (paths : List String) : List Char := memberText "paths" (listText 1 paths) ++ ending

/-- The member that tells the key, and what follows it. -/
def keyMember (key : String) (paths : List String) : List Char :=
  memberText "key" (writeString key).toList ++ (',' :: ((newLine 1).toList ++ pathsMember paths))

/-- The entries of a manifest that is read. -/
def manifestEntries (key : String) (paths : List String) : List (Value × Value) :=
  [(.text "key", .text key), (.text "paths", .list (paths.map .text))]

/-- The members are put together. -/
theorem manifestText_eq (key : String) (paths : List String) :
    (manifestText key paths).toList = openingBrace :: ((newLine 1).toList ++ keyMember key paths) :=
  toList_manifestText key paths

/-- The name is read, then the list behind it, and then the brace that ends the object. -/
theorem readMembers_pathsMember {paths : List String} {fuel : Nat} (key : String) (depth : Nat)
    (unpaired : ∀ p ∈ paths, Unpaired p.toList) (enough : paths.length + 1 < fuel) :
    readMembers (fuel + 1) (depth + 1) [(.text "key", .text key)] (pathsMember paths) =
      .ok (manifestEntries key paths, ['\n']) := by
  have skipped : skipSpace ending = [closingBrace, '\n'] := skipSpace_blank (newLine_blank 0) _
  have dense : skipSpace (listText 1 paths ++ ending) = listText 1 paths ++ ending := by
    cases paths with
    | nil => rw [listText_nil]; exact skipSpace_of_not rfl _
    | cons p more => rw [listText_cons]; exact skipSpace_of_not rfl _
  have read := readMembers_member [(.text "key", .text key)] (by decide : Unpaired "paths".toList)
    dense (readValue_texts 1 paths unpaired fuel depth enough ending)
  rw [skipped] at read
  exact read

/-- The name is read, then the text behind it, and then the other member. -/
theorem readMembers_keyMember {key : String} {paths : List String} {fuel : Nat} (depth : Nat)
    (unpairedKey : Unpaired key.toList) (unpaired : ∀ p ∈ paths, Unpaired p.toList)
    (enough : paths.length + 1 < fuel) :
    readMembers (fuel + 2) (depth + 1) [] (keyMember key paths) =
      .ok (manifestEntries key paths, ['\n']) := by
  have skipped : skipSpace ((newLine 1).toList ++ pathsMember paths) = pathsMember paths :=
    skipSpace_memberText (newLine_blank 1) ..
  have read := readMembers_member [] (by decide : Unpaired "key".toList) (skipSpace_written key _)
    (readValue_text unpairedKey fuel (depth + 1) (',' :: ((newLine 1).toList ++ pathsMember paths)))
  simp only [skipSpace_of_not (c := ',') rfl, skipped] at read
  exact read.trans (readMembers_pathsMember key depth unpaired enough)

/-- A manifest is read as what was written into it. -/
theorem parse_manifestText {key : String} {paths : List String} (unpairedKey : Unpaired key.toList)
    (unpaired : ∀ p ∈ paths, Unpaired p.toList) :
    Json.parse (manifestText key paths) = .ok (.map
      [(.text "key", .text key), (.text "paths", .list (paths.map .text))]) := by
  have length : paths.length + 2 ≤ (manifestText key paths).toList.length := by
    have listed := length_le_listText 1 paths
    simp only [manifestText_eq, keyMember, pathsMember, ending, memberText, List.length_cons,
      List.length_append]
    omega
  obtain ⟨fuel, same, enough⟩ : ∃ fuel,
      2 * (manifestText key paths).toList.length + 2 = fuel + 3 ∧ paths.length + 1 < fuel :=
    ⟨2 * (manifestText key paths).toList.length - 1, by omega, by omega⟩
  obtain ⟨depth, limit⟩ : ∃ depth, nestingLimit = depth + 2 := ⟨988, rfl⟩
  obtain ⟨tail, opens⟩ : ∃ tail, keyMember key paths = '"' :: tail := ⟨_, memberText_append ..⟩
  have skipped : skipSpace ((newLine 1).toList ++ keyMember key paths) = '"' :: tail :=
    (skipSpace_memberText (newLine_blank 1) ..).trans opens
  have read : readValue (fuel + 3) (depth + 2) (manifestText key paths).toList =
      .ok (.map (manifestEntries key paths), ['\n']) := by
    rw [manifestText_eq]
    have members := readMembers_keyMember depth unpairedKey unpaired enough
    rw [opens] at members
    exact readValue_object skipped members
  have dense : skipSpace (manifestText key paths).toList = (manifestText key paths).toList := by
    rw [manifestText_eq]
    exact skipSpace_of_not rfl _
  have noMark : ((manifestText key paths).toList.head? == some (Char.ofNat 0xFEFF)) = false := by
    rw [manifestText_eq]
    rfl
  rw [parse]
  simp only [dense, noMark, Bool.false_eq_true, if_false, same, limit, read, bind, Except.bind]
  rfl

/-! ## Line ends -/

/-- By induction on the characters: only a carriage return would be changed. -/
theorem plainNewlines_of_none {cs : List Char} (none : '\r' ∉ cs) : plainNewlines cs = cs := by
  induction cs with
  | nil => rfl
  | cons c rest ih =>
    have notHere : c ≠ '\r' := fun same => none (same ▸ List.mem_cons_self ..)
    have later := ih fun there => none (List.mem_cons_of_mem _ there)
    rw [plainNewlines.eq_def]
    split
    · contradiction
    · next same => exact absurd (List.cons.inj same).1 notHere
    · next same =>
      obtain ⟨rfl, rfl⟩ := List.cons.inj same
      rw [later, if_neg (by simpa using notHere)]

/-- Written JSON holds visible characters, blanks and line feeds only. -/
theorem manifestText_no_return (key : String) (paths : List String) :
    '\r' ∉ (manifestText key paths).toList := by
  have legible : Legible (manifestText key paths).toList := by
    rw [manifestText, String.toList_append, legible_append]
    exact ⟨legible_document _, by decide⟩
  exact fun among => absurd (legible _ among) (by decide)

/-! ## The file -/

/-- The bytes of a text are those of its characters. -/
theorem decode_toUTF8 (s : String) : Text.decode s.toUTF8 = .ok s := by
  have valid : String.fromUTF8? s.toUTF8 = some s := by
    unfold String.fromUTF8?
    exact dif_pos s.isValidUTF8
  rw [Text.decode, valid]

/-- What is read from a manifest that was written. -/
theorem readManifest_run {store : CacheStore} {key : String} {paths : List String} {w : World}
    (named : Disk.isName (store.manifestPath key))
    (written : w.files.read (store.manifestPath key) = .ok (manifestText key paths).toUTF8)
    (unpairedKey : Unpaired key.toList) (unpaired : ∀ p ∈ paths, Unpaired p.toList) :
    store.readManifest key w = (.ok (.map
      [(.text "key", .text key), (.text "paths", .list (paths.map .text))]), w) := by
  have name : nameFault? (store.manifestPath key).display = none := by
    simpa [Disk.isName] using named
  have read : Disk.read (store.manifestPath key) w =
      (.ok (manifestText key paths).toUTF8, w) := by
    simp only [Disk.read, Disk.requireName, name, Action.bind_run, Action.pure_run,
      Action.get_run, written]
    rfl
  have text : Disk.readText (store.manifestPath key) w = (.ok (manifestText key paths), w) := by
    rw [Disk.readText, Action.bind_run, read]
    simp only [decode_toUTF8, plainNewlines_of_none (manifestText_no_return key paths),
      String.ofList_toList, Action.pure_run]
  rw [readManifest, Action.bind_run, text]
  simp only [Timing.readDocument, parse_manifestText unpairedKey unpaired]
  rfl

end CacheStore

end BuildBench
