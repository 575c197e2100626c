import BuildBench.Proofs.Cache.Saving
import BuildBench.Proofs.Files.RealPath
import BuildBench.Run.Measurement

/-!
# Paths in a benchmark command

The benchmark runs in the working directory, so the paths in its command are read from there. A path
below the working directory is shown by the components that are left of its real name, and leads to the
same place. Any other path is shown by its own name: an absolute one still leads to the same place, a
relative one only if it happens to do so from the working directory too.
-/

namespace BuildBench

open BuildBench.Action

/-! ## Texts of path names -/

namespace PathName

variable {p : PathName} {parts : List String}

/-- By evaluation. -/
theorem components_empty : components "" = [] := by decide

/-- An empty piece stands before the slash, and it is dropped. -/
theorem components_slash (s : String) : components ("/" ++ s) = components s := by
  simp [components, Text.splitAt, String.toList_append, Text.pieces]

/-- The piece before the slash is a dot, and it is dropped. -/
theorem components_dotSlash (s : String) : components ("./" ++ s) = components s := by
  simp [components, Text.splitAt, String.toList_append, Text.pieces]

/-- Without slashes in them the parts are the pieces, and none of them is empty or a dot. -/
theorem components_intercalate (components : ∀ part ∈ parts, IsComponent part)
    (notDot : ∀ part ∈ parts, part ≠ ".") :
    PathName.components ("/".intercalate parts) = parts := by
  cases parts with
  | nil => exact components_empty
  | cons part rest =>
    have cut : Text.pieces '/' ("/".intercalate (part :: rest)).toList =
        (part :: rest).map String.toList := by
      rw [String.toList_intercalate]
      refine Text.pieces_intercalate (by simp) fun piece among => ?_
      obtain ⟨name, inside, rfl⟩ := List.mem_map.mp among
      exact (components name inside).plain
    rw [PathName.components, Text.splitAt, cut, List.map_map, List.filter_eq_self.mpr]
    · simp [Function.comp_def]
    · intro name among
      have among : name ∈ part :: rest := by simpa [Function.comp_def] using among
      simp [(components name among).nonempty, notDot name among]

/-- No slash stands in front of components that were joined. -/
theorem takeWhile_intercalate (components : ∀ part ∈ parts, IsComponent part) :
    ("/".intercalate parts).toList.takeWhile (· == '/') = [] := by
  cases parts with
  | nil => rfl
  | cons part rest =>
    obtain ⟨c, cs, same⟩ := List.exists_cons_of_ne_nil
      (by simpa using (components part (by simp)).nonempty : part.toList ≠ [])
    have plain : c ≠ '/' := by
      rintro rfl
      exact (components part (by simp)).plain (by simp [same])
    have whole : ∃ more, ("/".intercalate (part :: rest)).toList = c :: more := by
      cases rest with
      | nil => exact ⟨cs, by simpa using same⟩
      | cons next others =>
        rw [String.intercalate_cons_cons, String.toList_append, String.toList_append, same]
        exact ⟨_, rfl⟩
    obtain ⟨more, whole⟩ := whole
    simp [whole, plain]

/-- An anchor is read back when no slash follows it. -/
theorem parse_anchor {text : String} (front : text.toList.takeWhile (· == '/') = [])
    (anchor : Anchor) : parse (anchor.text ++ text) = ⟨anchor, components text⟩ := by
  cases anchor with
  | current => simp [Anchor.text, parse, front]
  | root => simp [Anchor.text, parse, String.toList_append, front, components_slash]
  | doubleRoot =>
    have double : "//" ++ text = "/" ++ ("/" ++ text) := by
      rw [← String.append_assoc]
      rfl
    rw [Anchor.text, double]
    simp [parse, String.toList_append, front, components_slash]

/-- A path name is read back from its text. -/
theorem parse_display (proper : p.Proper) : parse p.display = p := by
  have cut := components_intercalate proper.component proper.notDot
  have read := parse_anchor (takeWhile_intercalate proper.component) p.anchor
  rw [cut] at read
  rw [display_eq]
  split
  · next empty =>
    rw [String.isEmpty_iff.mp empty] at read
    exact read
  · exact read

/-- The first character is no slash, and the dot is dropped. -/
theorem parse_dotSlash (s : String) : parse ("./" ++ s) = ⟨.current, components s⟩ := by
  simp [parse, String.toList_append, components_dotSlash]

/-- A relative path name with a dot and a slash in front is the same path name. -/
theorem parse_dotSlash_display (proper : Proper ⟨.current, parts⟩) :
    parse ("./" ++ display ⟨.current, parts⟩) = ⟨.current, parts⟩ := by
  have read := parse_display proper
  rw [parse_dotSlash]
  rw [parse] at read
  exact congrArg _ (PathName.mk.inj read).2

end PathName

namespace Files

variable {files : Files} {path : PathName} {base goal other : Location}

/-- The files as a process sees them that was started in a folder. -/
def startedIn (files : Files) (base : Location) : Files := { files with current := base }

/-- A name from the root does not depend on the current folder. -/
theorem locates_startedIn_of_absolute (absolute : path.isAbsolute = true) :
    (files.startedIn base).Locates path goal ↔ files.Locates path goal := by
  simp [Locates, start, startedIn, absolute]

end Files

namespace Disk

variable {w : World} {path : PathName} {goal : Location}

/-- Resolving succeeds where the name leads somewhere, and only asks. -/
theorem realPath_run (named : isName path = true) (seated : w.files.root.Straight w.files.current)
    (proper : path.Proper) (located : w.files.Locates path goal) :
    realPath path w = (.ok ⟨.root, goal⟩, w) := by
  rw [realPath, bind_run, requireName_run named]
  simp only [bind_run, get_run, ofResult_run, Files.realPath_eq located seated proper]

end Disk

namespace Measurement

variable {w : World} {path workdir : PathName} {base goal rest : Location}

/-- A text without the dot in front is the same path name. -/
theorem parse_withoutDot (shown : String) :
    PathName.parse (withoutDot shown) = PathName.parse shown := by
  by_cases stripped : (Text.beginsWith "./" shown &&
      !(String.ofList (shown.toList.drop 2)).toList.contains '/') = true
  · have same : withoutDot shown = String.ofList (shown.toList.drop 2) := if_pos stripped
    simp only [Bool.and_eq_true, Text.beginsWith, List.isPrefixOf_iff_prefix,
      Bool.not_eq_true', List.contains_eq_mem, decide_eq_false_iff_not] at stripped
    obtain ⟨⟨name, whole⟩, plain⟩ := stripped
    obtain rfl : shown = "./" ++ String.ofList name := by
      apply String.toList_injective
      simpa using whole.symm
    have dropped : String.ofList (("./" ++ String.ofList name).toList.drop 2) =
        String.ofList name := by simp [String.toList_append]
    rw [dropped] at same plain
    have relative : (String.ofList name).toList.takeWhile (· == '/') = [] := by
      cases name with
      | nil => rfl
      | cons c cs =>
        have other : c ≠ '/' := by
          rintro rfl
          simp at plain
        simp [other]
    have read := PathName.parse_anchor relative .current
    rw [same, PathName.parse_dotSlash, ← read]
    simp [Anchor.text]
  · exact congrArg PathName.parse (if_neg stripped)

/-- Below the working directory a path is shown by what is left of its real name. -/
theorem displayPath_below (seated : w.files.root.Straight w.files.current) (proper : path.Proper)
    (properBase : workdir.Proper) (named : Disk.isName path = true)
    (namedBase : Disk.isName workdir = true) (based : w.files.Locates workdir base)
    (located : w.files.Locates path (base ++ rest)) :
    displayPath path workdir w = (.ok ("./" ++ PathName.display ⟨.current, rest⟩), w) := by
  have below : (⟨.root, base⟩ : PathName).below? ⟨.root, base ++ rest⟩ = some rest := by
    simp [PathName.below?]
  simp only [displayPath, bind_run, tryCatch_run, Disk.realPath_run named seated proper located,
    Disk.realPath_run namedBase seated properBase based, pure_run, below, Option.map_some,
    Option.getD_some]

/-- Elsewhere it is shown as it is. -/
theorem displayPath_elsewhere (seated : w.files.root.Straight w.files.current)
    (proper : path.Proper) (properBase : workdir.Proper) (based : w.files.Locates workdir base)
    (located : w.files.Locates path goal)
    (outside : Disk.isName path = true → Disk.isName workdir = true → ¬ base <+: goal) :
    displayPath path workdir w = (.ok path.display, w) := by
  have refused : ∀ {name : PathName}, Disk.isName name = false →
      ∃ f, f.isInvalidValue = true ∧ Disk.realPath name w = (.error f, w) := by
    intro name unnamed
    obtain ⟨f, invalid, failed⟩ := Disk.requireName_refused unnamed w
    exact ⟨f, invalid, by rw [Disk.realPath, bind_run, failed]⟩
  rcases named : Disk.isName path with _ | _
  · obtain ⟨f, invalid, failed⟩ := refused named
    simp only [displayPath, bind_run, tryCatch_run, failed, invalid, if_true, pure_run,
      Option.getD_none]
  have real := Disk.realPath_run named seated proper located
  rcases namedBase : Disk.isName workdir with _ | _
  · obtain ⟨f, invalid, failed⟩ := refused namedBase
    simp only [displayPath, bind_run, tryCatch_run, real, failed, invalid, if_true, pure_run,
      Option.getD_none]
  · have apart : (⟨.root, base⟩ : PathName).below? ⟨.root, goal⟩ = none := by
      simp [PathName.below?, outside named namedBase]
    simp only [displayPath, bind_run, tryCatch_run, real,
      Disk.realPath_run namedBase seated properBase based, pure_run, apart, Option.map_none,
      Option.getD_none]

/-- A text keeps the meaning of a path name for a process in a folder: read from there, it leads to
where the path name leads. -/
def KeepsMeaning (w : World) (base : Location) (path : PathName) (text : String) : Prop :=
  ∀ goal, w.files.Locates path goal → (w.files.startedIn base).Locates (.parse text) goal

/-- A path name can be shown in the working directory, whose location is `base`: it is absolute, or it
leads to somewhere below, or it leads to the same place from there. -/
def Showable (w : World) (workdir : PathName) (base : Location) (path : PathName) : Prop :=
  path.isAbsolute = true ∨
    (Disk.isName path = true ∧ Disk.isName workdir = true ∧
      ∃ rest, w.files.Locates path (base ++ rest)) ∨
    ∃ goal, w.files.Locates path goal ∧ (w.files.startedIn base).Locates path goal

/-- What a path is shown as keeps its meaning exactly if it can be shown. -/
theorem displayPath_keepsMeaning (seated : w.files.root.Straight w.files.current)
    (proper : path.Proper) (properBase : workdir.Proper) (based : w.files.Locates workdir base)
    (located : w.files.Locates path goal) :
    ∃ text, displayPath path workdir w = (.ok text, w) ∧
      (KeepsMeaning w base path text ↔ Showable w workdir base path) := by
  by_cases below : Disk.isName path = true ∧ Disk.isName workdir = true ∧ base <+: goal
  · obtain ⟨named, namedBase, rest, rfl⟩ := below
    refine ⟨_, displayPath_below seated proper properBase named namedBase based located,
      iff_of_true (fun goal same => ?_) (.inr (.inl ⟨named, namedBase, rest, located⟩))⟩
    obtain rfl := located.unique same
    have straight := located.straight seated proper
    have left : PathName.Proper ⟨.current, rest⟩ :=
      ⟨fun name among => (straight.names name (List.mem_append_right _ among)).toIsComponent,
        fun name among => (straight.names name (List.mem_append_right _ among)).notDot⟩
    rw [PathName.parse_dotSlash_display left]
    exact ⟨0, straight.locates⟩
  · refine ⟨_, displayPath_elsewhere seated proper properBase based located
      fun named namedBase inside => below ⟨named, namedBase, inside⟩, ?_⟩
    rw [KeepsMeaning, PathName.parse_display proper]
    constructor
    · exact fun keeps => .inr (.inr ⟨goal, located, keeps goal located⟩)
    · rintro (absolute | ⟨named, namedBase, rest, inside⟩ | ⟨there, same, kept⟩) other led
      · exact (Files.locates_startedIn_of_absolute absolute).mpr led
      · obtain rfl := located.unique inside
        exact absurd ⟨named, namedBase, List.prefix_append base rest⟩ below
      · exact same.unique led ▸ kept

/-- A benchmark command holds two texts, for the artifact and for the fixture, each quoted. Each of
them keeps the meaning of its path for the benchmark, which runs in the working directory, exactly if
that path can be shown there. -/
theorem benchmarkCommand_keepsMeaning {w : World} {binary fixture workdir : PathName}
    {base : Location} (template : String) (loopFree : w.files.root.LoopFree)
    (seated : w.files.root.Straight w.files.current) (properBinary : binary.Proper)
    (properFixture : fixture.Proper) (properBase : workdir.Proper)
    (based : w.files.Locates workdir base) :
    ∃ binaryText fixtureText,
      benchmarkCommand (.text template) binary fixture workdir w =
        (Text.Template.expand template [("binary", .text (Text.quoteWord binaryText)),
          ("fixture", .text (Text.quoteWord fixtureText))], w) ∧
      (KeepsMeaning w base binary binaryText ↔ Showable w workdir base binary) ∧
      (KeepsMeaning w base fixture fixtureText ↔ Showable w workdir base fixture) := by
  obtain ⟨binaryGoal, binaryLocated⟩ := Files.exists_locates loopFree binary
  obtain ⟨fixtureGoal, fixtureLocated⟩ := Files.exists_locates loopFree fixture
  obtain ⟨binaryText, binaryShown, binaryKept⟩ :=
    displayPath_keepsMeaning seated properBinary properBase based binaryLocated
  obtain ⟨fixtureText, fixtureShown, fixtureKept⟩ :=
    displayPath_keepsMeaning seated properFixture properBase based fixtureLocated
  refine ⟨binaryText, withoutDot fixtureText, ?_, binaryKept, ?_⟩
  · simp only [benchmarkCommand, bind_run, binaryShown, fixtureShown, templateText, ofResult_run]
  · rw [← fixtureKept, KeepsMeaning, KeepsMeaning, parse_withoutDot]

/-- A working directory with a fixture in it, a link to the folder of its artifacts beside it, and one
tool next to both. -/
def linkedBuild : World where
  files :=
    { root := [("u", .folder [("bin", .link "w/out"), ("tool", .file ⟨#[]⟩ true),
        ("w", .folder [("in.js", .file ⟨#[]⟩ false),
          ("out", .folder [("tool", .file ⟨#[]⟩ true)])])])],
      current := ["u"] }
  processes := ⟨[], {}⟩
  replies := ⟨[], .refused .connection ""⟩

/-- The tree has one link. -/
theorem linkedBuild_link {location : Location} {target : String}
    (found : linkedBuild.files.root.kind? location = some (.link target)) :
    location = ["u", "bin"] ∧ target = "w/out" := by
  have among : location ∈ linkPlacesOf linkedBuild.files.root := Folder.mem_linkPlacesOf found
  obtain rfl : location = ["u", "bin"] := List.mem_singleton.mp among
  exact ⟨rfl, (Kind.link.inj (Option.some.inj found)).symm⟩

/-- The only link stands at the one place that is left out. -/
theorem linkedBuild_straight (location : Location) (names : ∀ name ∈ location, IsEntryName name)
    (other : ¬ ["u", "bin"] <+: location) : linkedBuild.files.root.Straight location :=
  ⟨names, fun _ top _ found => other ((linkedBuild_link found).1 ▸ top)⟩

/-- By evaluation. -/
theorem linkedBuild_seated : linkedBuild.files.root.Straight linkedBuild.files.current :=
  linkedBuild_straight _ (by decide) (by decide)

/-- The link leads to the folder of the artifacts. -/
theorem linkedBuild_behind : linkedBuild.files.root.Locates 0 (targetBase ["u"] "w/out")
    (targetComponents "w/out") ["u", "w", "out"] :=
  (linkedBuild_straight ["u", "w", "out"] (by decide) (by decide)).locates

/-- The only link leads to a folder without another. -/
theorem linkedBuild_loopFree : linkedBuild.files.root.LoopFree := by
  intro location target found
  obtain ⟨rfl, rfl⟩ := linkedBuild_link found
  exact ⟨0, _, _, found, linkedBuild_behind⟩

/-- The artifact is found through the link, and the fixture in the working directory. -/
theorem benchmarkCommand_keepsMeaning_linkedBuild :
    let workdir := PathName.parse "w"
    let binary := workdir.join (.parse "../bin/tool")
    let fixture := workdir.join (.parse "in.js")
    linkedBuild.files.Locates workdir ["u", "w"] ∧
      linkedBuild.files.Locates binary ["u", "w", "out", "tool"] ∧
      ∃ binaryText fixtureText,
        benchmarkCommand (.text "") binary fixture workdir linkedBuild =
          (Text.Template.expand "" [("binary", .text (Text.quoteWord binaryText)),
            ("fixture", .text (Text.quoteWord fixtureText))], linkedBuild) ∧
        KeepsMeaning linkedBuild ["u", "w"] binary binaryText ∧
        KeepsMeaning linkedBuild ["u", "w"] fixture fixtureText := by
  intro workdir binary fixture
  have proper : workdir.Proper := PathName.parse_proper "w"
  have based : linkedBuild.files.Locates workdir ["u", "w"] :=
    ⟨0, (linkedBuild_straight ["u", "w"] (by decide) (by decide)).locates⟩
  have tool : linkedBuild.files.root.Locates 1 ["u", "w", "out"] ["tool"] ["u", "w", "out", "tool"] :=
    ((linkedBuild_straight ["u", "w", "out", "tool"] (by decide)
      (by decide)).locates).mono (Nat.zero_le 1)
  have located : linkedBuild.files.Locates binary ["u", "w", "out", "tool"] := by
    refine ⟨1, .down (by decide : "w" ≠ ".") (by decide) (linkedBuild_straight
      ["u", "w"] (by decide) (by decide) |>.plain _ (List.prefix_refl _)) ?_⟩
    exact .up rfl (.link (by decide) (by decide) rfl linkedBuild_behind tool)
  have fixtureLocated : linkedBuild.files.Locates fixture ["u", "w", "in.js"] :=
    ⟨0, (linkedBuild_straight ["u", "w", "in.js"] (by decide) (by decide)).locates⟩
  obtain ⟨binaryText, fixtureText, shown, binaryKept, fixtureKept⟩ :=
    benchmarkCommand_keepsMeaning "" linkedBuild_loopFree linkedBuild_seated
      (proper.join (PathName.parse_proper "../bin/tool")) (proper.join (PathName.parse_proper "in.js"))
      proper based
  exact ⟨based, located, binaryText, fixtureText, shown,
    binaryKept.mpr (.inr (.inl ⟨by decide, by decide, ["out", "tool"], located⟩)),
    fixtureKept.mpr (.inr (.inl ⟨by decide, by decide, ["in.js"], fixtureLocated⟩))⟩

/-- A tool beside the working directory is shown by its own name, which leads to something else in
the working directory. -/
theorem benchmarkCommand_shows_other :
    let workdir := PathName.parse "w"
    let binary := workdir.join (.parse "../tool")
    let fixture := workdir.join (.parse "in.js")
    linkedBuild.files.Locates workdir ["u", "w"] ∧
      (benchmarkCommand (.text "\x7bbinary\x7d build \x7bfixture\x7d") binary fixture workdir
        linkedBuild).1.toOption = some "w/../tool build in.js" ∧
      ¬ KeepsMeaning linkedBuild ["u", "w"] binary "w/../tool" := by
  intro workdir binary fixture
  have straight := linkedBuild_straight
  refine ⟨⟨0, (straight ["u", "w"] (by decide) (by decide)).locates⟩, by decide +kernel,
    fun keeps => ?_⟩
  have plain := (straight ["u", "w", "w"] (by decide) (by decide)).plain
  have tool : linkedBuild.files.root.Locates 0 ["u"] ["tool"] ["u", "tool"] :=
    (straight _ (by decide) (by decide)).locates
  have inner : linkedBuild.files.root.Locates 0 ["u", "w"] ["tool"] ["u", "w", "tool"] :=
    (straight _ (by decide) (by decide)).locates
  have meant : linkedBuild.files.Locates binary ["u", "tool"] :=
    ⟨0, .down (by decide : "w" ≠ ".") (by decide) (plain ["u", "w"] (by decide)) (.up rfl tool)⟩
  have read : (linkedBuild.files.startedIn ["u", "w"]).Locates (.parse "w/../tool")
      ["u", "w", "tool"] :=
    ⟨0, .down (by decide : "w" ≠ ".") (by decide) (plain _ (List.prefix_refl _)) (.up rfl inner)⟩
  exact absurd ((keeps _ meant).unique read) (by decide)

end Measurement

end BuildBench
