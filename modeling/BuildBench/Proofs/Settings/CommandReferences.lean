import BuildBench.Proofs.Settings.AnswerableFindings
import BuildBench.Proofs.Text.TemplatePieces
import BuildBench.Proofs.Timing.BenchmarkWords
import BuildBench.Run.Installation
import BuildBench.Settings.Findings

/-!
# What the commands of accepted settings refer to

Settings are only accepted if the template of the benchmark command mentions the binary, and that of
the installer command the package. The mention is looked for in the characters of the template, where
it may be a replacement field or lie between doubled braces. Main statement:
`Settings.commands_refer`. It says which commands are made of a template, and that where all fields
are plain, what has to be mentioned is in the command unless its braces were doubled.
-/

namespace BuildBench

open Text Template

/-! ## Mentions -/

section Mentions

variable {α β ε : Type} {found : List Finding}

/-- A computation that gives a value has given one in its first part. -/
theorem ok_of_result_bind {r : Except ε α} {next : α → Except ε β} {y : β}
    (ended : (r >>= next) = .ok y) : ∃ x, r = .ok x ∧ next x = .ok y := by
  cases r with
  | error e => cases ended
  | ok x => exact ⟨x, rfl, ended⟩

/-- Nothing among some findings keeps a run from starting. -/
def Sound (found : List Finding) : Prop := ∀ f ∈ found, f.severity ≠ .error

/-- A condition is not met where its finding would be an error. -/
theorem Finding.when_sound {condition : Bool} {setting : String} {message : Except Fault String}
    (listed : Finding.when condition setting message = .ok found) (sound : Sound found) :
    condition = false := by
  cases condition with
  | false => rfl
  | true =>
    cases message <;> cases listed
    exact absurd rfl (sound _ (List.mem_singleton_self _))

/-- Findings keep a run from starting one by one. -/
theorem sound_append {more : List Finding} : Sound (found ++ more) ↔ Sound found ∧ Sound more :=
  List.forall_mem_append

/-- A name that is not mentioned would be a finding that keeps the run from starting. -/
theorem Finding.commandFindings_sound {b : BenchmarkSettings} {template : String}
    (text : b.command = .text template) (listed : Finding.commandFindings b = .ok found)
    (sound : Sound found) : holds "\x7bbinary\x7d" template = true := by
  unfold Finding.commandFindings at listed
  rw [text] at listed
  obtain ⟨mentioned, asked, listed⟩ := ok_of_result_bind listed
  cases asked
  obtain ⟨binary, first, listed⟩ := ok_of_result_bind listed
  obtain ⟨_, -, listed⟩ := ok_of_result_bind listed
  obtain ⟨fixture, -, listed⟩ := ok_of_result_bind listed
  cases listed
  simpa using Finding.when_sound first fun f among => sound f (List.mem_append_left _ among)

/-- Packages are to be installed, so the template was searched, and a name that is not mentioned
would be such a finding. -/
theorem Finding.installFindings_sound {i : InstallSettings} {tool : Value} {template : String}
    (text : i.command = .text template) (listed : Finding.installFindings i tool = .ok found)
    (sound : Sound found) (enabled : i.enabled.isPresent = true) (given : i.packages ≠ []) :
    holds "\x7bpackage\x7d" template = true := by
  have installs : (i.enabled.isPresent && !i.packages.isEmpty) = true := by simp [enabled, given]
  unfold Finding.installFindings at listed
  dsimp only at listed
  rw [if_pos installs, text] at listed
  obtain ⟨mentioned, asked, listed⟩ := ok_of_result_bind listed
  cases asked
  obtain ⟨command, first, listed⟩ := ok_of_result_bind listed
  obtain ⟨packages, -, listed⟩ := ok_of_result_bind listed
  cases listed
  simpa using Finding.when_sound first fun f among => sound f (List.mem_append_left _ among)

/-- The numbers of repetitions are not too low. -/
theorem Finding.countFindings_sound {b : BenchmarkSettings}
    (listed : Finding.countFindings b = .ok found) (sound : Sound found) :
    b.warmup.below? 0 ≠ some true ∧ b.runs.below? 2 ≠ some true := by
  obtain ⟨low, warmed, listed⟩ := ok_of_result_bind listed
  obtain ⟨warmup, first, listed⟩ := ok_of_result_bind listed
  obtain ⟨few, counted, listed⟩ := ok_of_result_bind listed
  obtain ⟨runs, second, listed⟩ := ok_of_result_bind listed
  cases listed
  obtain ⟨soundWarmup, soundRuns⟩ := sound_append.mp sound
  constructor
  · simp [← Finding.below_iff warmed, Finding.when_sound first soundWarmup]
  · simp [← Finding.below_iff counted, Finding.when_sound second soundRuns]

/-- The parts of the findings about a benchmark are sound where all of them are. -/
theorem Finding.benchmarkFindings_sound {b : BenchmarkSettings}
    (listed : Finding.benchmarkFindings b = .ok found) (sound : Sound found) :
    (∃ command, Finding.commandFindings b = .ok command ∧ Sound command) ∧
      ∃ counts, Finding.countFindings b = .ok counts ∧ Sound counts := by
  obtain ⟨tool, -, listed⟩ := ok_of_result_bind listed
  obtain ⟨command, commanded, listed⟩ := ok_of_result_bind listed
  obtain ⟨counts, counted, listed⟩ := ok_of_result_bind listed
  cases listed
  obtain ⟨soundCommand, soundCounts⟩ := sound_append.mp sound
  exact ⟨⟨command, commanded, (sound_append.mp soundCommand).2⟩, counts, counted, soundCounts⟩

/-- The findings about the commands of settings are sound where all of them are. -/
theorem Settings.sound_of_findings {s : Settings} (listed : s.findings = .ok found)
    (sound : Sound found) :
    ∃ bench install benchmark installing, s.benchmark.given = .ok bench ∧
      s.install.given = .ok install ∧
      Finding.benchmarkFindings bench = .ok benchmark ∧ Sound benchmark ∧
      Finding.installFindings install bench.tool = .ok installing ∧ Sound installing := by
  unfold Settings.findings at listed
  obtain ⟨_, -, listed⟩ := ok_of_result_bind listed
  obtain ⟨build, -, listed⟩ := ok_of_result_bind listed
  obtain ⟨_, -, listed⟩ := ok_of_result_bind listed
  obtain ⟨fixture, -, listed⟩ := ok_of_result_bind listed
  obtain ⟨bench, benchGiven, listed⟩ := ok_of_result_bind listed
  obtain ⟨benchmark, asked, listed⟩ := ok_of_result_bind listed
  obtain ⟨install, installGiven, listed⟩ := ok_of_result_bind listed
  obtain ⟨installing, installed, listed⟩ := ok_of_result_bind listed
  obtain ⟨_, -, listed⟩ := ok_of_result_bind listed
  obtain ⟨triggers, -, listed⟩ := ok_of_result_bind listed
  obtain ⟨_, -, listed⟩ := ok_of_result_bind listed
  obtain ⟨cache, -, listed⟩ := ok_of_result_bind listed
  obtain ⟨_, -, listed⟩ := ok_of_result_bind listed
  obtain ⟨checkout, -, listed⟩ := ok_of_result_bind listed
  cases listed
  simp only [sound_append] at sound
  exact ⟨bench, install, benchmark, installing, benchGiven, installGiven, asked, by tauto, installed,
    by tauto⟩

/-- Settings whose findings are sound mention what their commands are about. -/
theorem Settings.mentions_of_sound {s : Settings} {bench : BenchmarkSettings}
    {install : InstallSettings} (listed : s.findings = .ok found) (sound : Sound found)
    (benchGiven : s.benchmark.given = .ok bench) (installGiven : s.install.given = .ok install) :
    (∀ template, bench.command = .text template → holds "\x7bbinary\x7d" template = true) ∧
    ∀ template, install.command = .text template → install.enabled.isPresent = true →
      install.packages ≠ [] → holds "\x7bpackage\x7d" template = true := by
  obtain ⟨_, _, benchmark, installing, given, given', asked, soundAsked, installed, soundInstalled⟩ :=
    Settings.sound_of_findings listed sound
  cases benchGiven.symm.trans given
  cases installGiven.symm.trans given'
  obtain ⟨⟨command, commanded, soundCommand⟩, -⟩ := Finding.benchmarkFindings_sound asked soundAsked
  exact ⟨fun template text => Finding.commandFindings_sound text commanded soundCommand,
    fun template text => Finding.installFindings_sound text installed soundInstalled⟩

end Mentions

/-! ## Commands -/

section Commands

variable {names : List String} {name template : String} {ps : List Piece} {fields : Fields}

/-- These fields give every one of some names its value. -/
def Gives (fields : Fields) (name : String) (v : Value) : Prop :=
  ∀ n, lookUp fields n name.toList = .ok (.value v, n)

/-- The field is looked up under its name and shown as it is. -/
theorem Gives.text {v : Value} {expansion : Expansion} (gives : Gives fields name v) :
    (Piece.named name).text fields expansion = .ok v.display := by
  have found := gives .undecided
  change (do
    let found ← lookUp fields .undecided name.toList
    let s ← convert none found.1
    let spec ← Field.filledLayout expansion ⟨name.toList, none, []⟩
    layOutSubject spec.toList s) = _
  rw [found]
  rfl

/-- What a template makes of fields that are only names: every text of a name that is a field is in
it. A name that is only spelled out is no field, so its value makes no difference. -/
theorem exists_fill_of_onlyNames {values : String → Value} (expansion : Expansion)
    (only : OnlyNames names ps) (gives : ∀ name ∈ names, Gives fields name (values name)) :
    ∃ s, fill fields expansion ps = .ok s ∧
      ∀ name ∈ names, .named name ∈ ps → holds (values name).display s = true := by
  have given : ∀ f, .field f ∈ ps → ∃ t, f.text fields expansion = .ok t := by
    intro f among
    obtain ⟨name, inside, same⟩ := only f among
    have text : (Piece.named name).text fields expansion = .ok (values name).display :=
      (gives name inside).text
    rw [← same] at text
    exact ⟨_, text⟩
  obtain ⟨s, filled, inside⟩ := exists_fill given
  exact ⟨s, filled, fun name among isField => inside _ isField _ (gives name among).text⟩

/-- Pieces are filled in in the same way where all their fields have the same texts. -/
theorem fill_congr {others : Fields} {expansion expansion' : Expansion}
    (same : ∀ p ∈ ps, p.text fields expansion = p.text others expansion') :
    fill fields expansion ps = fill others expansion' ps := by
  induction ps with
  | nil => rfl
  | cons p rest ih =>
    obtain ⟨first, later⟩ := List.forall_mem_cons.mp same
    rw [fill, fill, first, ih later]

/-- How a command refers to something: it holds its text where the name of it is a field. Otherwise
the name was only spelled out, and the command is the same whatever the text is. -/
def Refers (name : String) (fields : Value → Fields) (v : Value) (ps : List Piece)
    (command : String) : Prop :=
  (.named name ∈ ps ∧ holds v.display command = true) ∨
    (.named name ∉ ps ∧ spelledOut name <:+: ps ∧
      ∀ other, fill (fields other) (expandLayout (fields other)) ps = .ok command)

/-- The template is expanded piece by piece. If one of its pieces is the field of that name the text
is in the command, and otherwise no piece depends on it. -/
theorem exists_refers (names : List String) (name : String) (fields : Value → Fields)
    (values : String → Value) (v : Value)
    (words : ∀ name ∈ names, IsWord name) (among : name ∈ names)
    (gives : ∀ other, ∀ n ∈ names, Gives (fields other) n (if n = name then other else values n))
    (read : Reads template.toList ps) (only : OnlyNames names ps)
    (mentioned : openBrace :: (name.toList ++ [closeBrace]) <:+: template.toList) :
    ∃ command, expand template (fields v) = .ok command ∧ Refers name fields v ps command := by
  obtain ⟨command, filled, texts⟩ :=
    exists_fill_of_onlyNames (expandLayout (fields v)) only (gives v)
  refine ⟨command, expand_ok_iff.mpr ⟨ps, read, filled⟩, ?_⟩
  by_cases isField : .named name ∈ ps
  · have held := texts name among isField
    rw [if_pos rfl] at held
    exact .inl ⟨isField, held⟩
  refine .inr ⟨isField, ?_, fun other => ?_⟩
  · refine (named_or_spelled (words name among) read (fun f inside => ?_) mentioned).resolve_left
      isField
    obtain ⟨n, known, same⟩ := only f inside
    obtain rfl := Piece.field.inj same
    exact ⟨rfl, rfl, openBrace_not_mem (words n known).letters⟩
  · rw [← filled]
    refine fill_congr fun p inside => ?_
    cases p with
    | literal c => rfl
    | field f =>
      obtain ⟨n, known, same⟩ := only f inside
      have apart : n ≠ name := by
        rintro rfl
        exact isField (same ▸ inside)
      have first := gives other n known
      have second := gives v n known
      rw [if_neg apart] at first second
      rw [same, first.text, second.text]

end Commands

/-- The fields of the benchmark command, when the fixture is shown as some text. -/
def Measurement.binaryFields (fixture : String) (binary : Value) : Fields :=
  [("binary", binary), ("fixture", .text (quoteWord (withoutDot fixture)))]

/-- The field of the installer command. -/
def Installation.packageFields (package : Value) : Fields := [("package", package)]

open Measurement in
/-- A command template is made a command exactly if it can be read as pieces that all have a text.
When the findings about settings are sound and all fields of their templates are plain names, there
is a command. It refers to the binary, or the package, unless the braces around its name are doubled:
then the command does not depend on it at all. -/
theorem Settings.commands_refer {s : Settings} {found : List Finding} {bench : BenchmarkSettings}
    {install : InstallSettings} {template line : String}
    (listed : s.findings = .ok found) (sound : Sound found)
    (benchGiven : s.benchmark.given = .ok bench) (installGiven : s.install.given = .ok install)
    (benchText : bench.command = .text template) (installText : install.command = .text line) :
    (∀ (binary fixture workdir : PathName) (w : World) (b f : String),
      displayPath binary workdir w = (.ok b, w) → displayPath fixture workdir w = (.ok f, w) →
      (∀ command, (benchmarkCommand bench.command binary fixture workdir w).1 = .ok command ↔
        ∃ ps, Reads template.toList ps ∧ fill (binaryFields f (.text (quoteWord b)))
          (expandLayout (binaryFields f (.text (quoteWord b)))) ps = .ok command) ∧
      ∀ ps, Reads template.toList ps → OnlyNames ["binary", "fixture"] ps → ∃ command,
        benchmarkCommand bench.command binary fixture workdir w = (.ok command, w) ∧
        Refers "binary" (binaryFields f) (.text (quoteWord b)) ps command) ∧
    (∀ (binary fixture workdir : PathName) (w : World), w.files.root.LoopFree →
      w.files.root.Straight w.files.current → binary.Proper → fixture.Proper → workdir.Proper →
      ∃ b f, displayPath binary workdir w = (.ok b, w) ∧ displayPath fixture workdir w = (.ok f, w)) ∧
    (install.enabled.isPresent = true → ∀ package ∈ install.packages,
      (∀ command, Installation.installCommand install package = .ok command ↔
        ∃ ps, Reads line.toList ps ∧ fill (Installation.packageFields package)
          (expandLayout (Installation.packageFields package)) ps = .ok command) ∧
      ∀ ps, Reads line.toList ps → OnlyNames ["package"] ps → ∃ command,
        Installation.installCommand install package = .ok command ∧
        Refers "package" Installation.packageFields package ps command) := by
  obtain ⟨binaryMentioned, packageMentioned⟩ :=
    Settings.mentions_of_sound listed sound benchGiven installGiven
  refine ⟨fun binary fixture workdir w b f first second => ?_,
    fun binary fixture workdir w loopFree seated properBinary properFixture properBase => ?_,
    fun enabled package among => ?_⟩
  · have run : benchmarkCommand bench.command binary fixture workdir w =
        (expand template (binaryFields f (.text (quoteWord b))), w) := by
      simp only [benchmarkCommand, Action.bind_run, first, second, benchText, templateText,
        Action.ofResult_run, binaryFields]
    rw [run]
    refine ⟨fun command => expand_ok_iff, fun ps read only => ?_⟩
    obtain ⟨command, made, refers⟩ := exists_refers ["binary", "fixture"] "binary"
      (binaryFields f) (fun _ => .text (quoteWord (withoutDot f))) (.text (quoteWord b))
      (by decide) (by decide)
      (by simpa [Gives] using fun other => ⟨fun _ => rfl, fun _ => rfl⟩) read only
      (occursIn_iff.mp (binaryMentioned template benchText))
    exact ⟨command, by rw [made], refers⟩
  · obtain ⟨b, first⟩ := exists_displayPath loopFree seated properBinary properBase
    obtain ⟨f, second⟩ := exists_displayPath loopFree seated properFixture properBase
    exact ⟨b, f, first, second⟩
  · have run : Installation.installCommand install package =
        expand line (Installation.packageFields package) := by
      simp only [Installation.installCommand, installText, Installation.packageFields]
    rw [run]
    refine ⟨fun command => expand_ok_iff, fun ps read only => ?_⟩
    exact exists_refers ["package"] "package" Installation.packageFields (fun _ => .null) package
      (by decide) (by decide)
      (fun other n known => by obtain rfl := List.mem_singleton.mp known; exact fun _ => rfl) read only
      (occursIn_iff.mp (packageMentioned line installText enabled
        (List.ne_nil_of_mem among)))

/-- Settings with these templates of commands. -/
def templateSettings (template line : String) : Settings where
  fixture := .settings { url := .text "http://h/x.log", timeout := .int 60 }
  benchmark := .settings { command := .text template }
  install := .settings { command := .text line }

/-- Both templates are made of the fields alone, so both commands are the texts of these. -/
theorem Settings.commands_refer_plain :
    let s := templateSettings "\x7bbinary\x7d \x7bfixture\x7d" "\x7bpackage\x7d"
    s.findings = .ok [] ∧ (∃ command, Measurement.benchmarkCommand
        (.text "\x7bbinary\x7d \x7bfixture\x7d") (.parse "w/t") (.parse "w/f") (.parse "w")
          Measurement.linkedBuild = (.ok command, Measurement.linkedBuild) ∧
      holds "./t" command = true) ∧
      ∃ line, Installation.installCommand { command := .text "\x7bpackage\x7d" } (.text "hyperfine") =
        .ok line ∧ holds "hyperfine" line = true := by
  intro s
  have listed : s.findings = .ok [] := rfl
  obtain ⟨commands, shown, lines⟩ := Settings.commands_refer (s := s) listed (by simp [Sound]) rfl rfl
    rfl rfl
  refine ⟨listed, ?_, ?_⟩
  · obtain ⟨b, f, first, second⟩ := shown (.parse "w/t") (.parse "w/f") (.parse "w")
      Measurement.linkedBuild Measurement.linkedBuild_loopFree Measurement.linkedBuild_seated
      (PathName.parse_proper _) (PathName.parse_proper _) (PathName.parse_proper _)
    have text : (Measurement.displayPath (.parse "w/t") (.parse "w")
        Measurement.linkedBuild).1.toOption = some "./t" := by decide +kernel
    obtain ⟨command, made, refers⟩ := (commands _ _ _ _ b f first second).2
      [.named "binary", .literal ' ', .named "fixture"]
      (.field (by decide) rfl (.plain (by decide) (by decide) (.field (by decide) rfl .nil)))
      (fun f among => by
        rcases List.mem_cons.mp among with same | among
        · exact ⟨"binary", by decide, same⟩
        rcases List.mem_cons.mp among with same | among
        · cases same
        · exact ⟨"fixture", by decide, List.mem_singleton.mp among⟩)
    refine ⟨command, made, ?_⟩
    rw [first] at text
    cases text
    rcases refers with ⟨-, held⟩ | ⟨absent, -⟩
    · exact held
    · exact absurd (List.mem_cons_self ..) absent
  · obtain ⟨line, made, refers⟩ := (lines rfl (.text "hyperfine") (List.mem_singleton_self _)).2
      [.named "package"] (.field (by decide) rfl .nil)
      fun f among => ⟨"package", by decide, List.mem_singleton.mp among⟩
    refine ⟨line, made, ?_⟩
    rcases refers with ⟨-, held⟩ | ⟨absent, -⟩
    · exact held
    · exact absurd (List.mem_cons_self ..) absent

/-- Two accepted templates that mention the binary. The one has no field for it, and the command does
not hold it. The other also asks for something by position, and there is no command. -/
theorem Settings.accepts_unreferenced :
    let made (template : String) := (Measurement.benchmarkCommand (.text template) (.parse "w/t")
      (.parse "w/f") (.parse "w") Measurement.linkedBuild).1
    let escaped := "\x7b\x7bbinary\x7d\x7d \x7bfixture\x7d"
    let positional := "\x7bbinary\x7d \x7bfixture\x7d \x7b0\x7d"
    (templateSettings escaped "\x7bpackage\x7d").findings = .ok [] ∧
    (made escaped).toOption = some "\x7bbinary\x7d f" ∧ holds "./t" "\x7bbinary\x7d f" = false ∧
    (templateSettings positional "\x7bpackage\x7d").findings = .ok [] ∧
    (made positional).toOption = none :=
  ⟨rfl, by decide +kernel, by decide, rfl, by decide +kernel⟩

end BuildBench
