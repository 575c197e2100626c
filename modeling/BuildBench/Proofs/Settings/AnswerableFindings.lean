import BuildBench.Command.Words
import BuildBench.Proofs.Settings.RefusedProfiles
import BuildBench.Settings.Findings

/-!
# Settings about which findings can be listed

Whoever lists what is doubtful about some settings asks each of them a question, and some values have
no answer: a list of words has no blanks around it, and a text is not below any number. The settings
of a profile may hold such values, since only lists, paths and variables are checked when they are
set. `Settings.Answerable` says of which values the findings can be listed; for all others the listing
fails.
-/

namespace BuildBench

/-! ## Questions -/

/-- A fault for want of an answer: a value of another type, or a number too long to be shown. -/
inductive Fault.IsMismatch : Fault → Prop where
  | member : IsMismatch .noSuchMember
  | type : IsMismatch .wrongType
  | length : IsMismatch tooLongNumber

/-- A question is answered if what it needs is given, and otherwise fails for want of an answer. -/
inductive HingesOn {α : Type} (r : Except Fault α) (needs : Prop) : Prop where
  | answered (given : needs) {a : α} (answer : r = .ok a)
  | unanswered (missing : ¬ needs) {f : Fault} (mismatch : f.IsMismatch) (fault : r = .error f)

namespace HingesOn

variable {α β : Type} {r : Except Fault α} {needs needs' : Prop}

/-- An answer that is there needs nothing. -/
theorem ok (a : α) : HingesOn (.ok a) True := .answered trivial rfl

/-- There is no answer at all. -/
theorem error {f : Fault} (mismatch : f.IsMismatch) : HingesOn (.error f : Except Fault α) False :=
  .unanswered id mismatch rfl

/-- What is needed may be said in other words. -/
theorem congr (hinges : HingesOn r needs) (same : needs ↔ needs') : HingesOn r needs' :=
  propext same ▸ hinges

/-- One of the two cases holds, and each decides both sides. -/
theorem exists_iff (hinges : HingesOn r needs) : (∃ a, r = .ok a) ↔ needs := by
  rcases hinges with ⟨given, answer⟩ | ⟨missing, -, fault⟩
  · exact iff_of_true ⟨_, answer⟩ given
  · exact iff_of_false (fun ⟨a, answer⟩ => nomatch fault.symm.trans answer) missing

/-- A question that failed had no answer, and its fault is for want of one. -/
theorem mismatch {f : Fault} (hinges : HingesOn r needs) (failed : r = .error f) : f.IsMismatch := by
  rcases hinges with ⟨-, answer⟩ | ⟨-, mismatch, fault⟩
  · cases answer.symm.trans failed
  · cases fault.symm.trans failed
    exact mismatch

/-- The second of two questions is asked only when the first one is answered. -/
theorem bind {next : α → Except Fault β} (first : HingesOn r needs)
    (second : ∀ a, r = .ok a → HingesOn (next a) needs') : HingesOn (r >>= next) (needs ∧ needs') := by
  rcases first with ⟨given, answer⟩ | ⟨missing, mismatch, fault⟩
  · rcases second _ answer with ⟨given', answer'⟩ | ⟨missing', mismatch, fault'⟩
    · exact .answered ⟨given, given'⟩ (by rw [answer]; exact answer')
    · exact .unanswered (fun both => missing' both.2) mismatch (by rw [answer]; exact fault')
  · exact .unanswered (fun both => missing both.1) mismatch (by rw [fault]; rfl)

/-- The first question is answered. -/
theorem ok_bind {a : α} {next : α → Except Fault β} (hinges : HingesOn (next a) needs) :
    HingesOn (.ok a >>= next) needs := hinges

/-- By the condition. -/
theorem bind_ite {c : Prop} [Decidable c] {r' : Except Fault α} {next : α → Except Fault β}
    (hinges : HingesOn ((if c then r else r') >>= next) needs) :
    HingesOn (if c then r >>= next else r' >>= next) needs := by
  split <;> simp_all

/-- What is made of an answer changes nothing about there being one. -/
theorem map {change : α → β} (hinges : HingesOn r needs) : HingesOn (r.map change) needs := by
  rcases hinges with ⟨given, answer⟩ | ⟨missing, mismatch, fault⟩
  · exact .answered given (by rw [answer]; rfl)
  · exact .unanswered missing mismatch (by rw [fault]; rfl)

/-- By induction on the items: the first one without an answer fails them all. -/
theorem mapM {each : α → Except Fault β} {needs : α → Prop} {xs : List α}
    (hinges : ∀ x, HingesOn (each x) (needs x)) : HingesOn (xs.mapM each) (∀ x ∈ xs, needs x) := by
  induction xs with
  | nil => exact .answered nofun rfl
  | cons x rest ih =>
    rw [List.mapM_cons]
    have all := (hinges x).bind fun y _ => ih.bind fun ys _ => ok (y :: ys)
    exact all.congr (by simp)

/-- The message of a finding is asked for only if there is a finding. -/
theorem when {condition : Bool} {setting : String} {message : Except Fault String}
    {severity : Severity} (hinges : HingesOn message needs) :
    HingesOn (Finding.when condition setting message severity) (condition = true → needs) := by
  unfold Finding.when
  split
  · next holds => exact hinges.map.congr (by simp [holds])
  · next fails => exact (ok []).congr (by simp [fails])

/-- The message is there already. -/
theorem when_ok {condition : Bool} {setting message : String} {severity : Severity} :
    HingesOn (Finding.when condition setting (.ok message) severity) True :=
  (ok message).when.congr (by simp)

end HingesOn

/-! ## What values answer -/

namespace Value

/-- Text, or bytes. -/
def isString : Value → Bool
  | .text _ | .bytes _ => true
  | _ => false

def isNumber : Value → Bool
  | .bool _ | .int _ | .float _ => true
  | _ => false

/-- Whether a value can hold a text: as a part, a member or a key. -/
def holdsTexts (v : Value) : Bool :=
  match v.bare with
  | .text _ | .list _ | .set _ | .pair _ _ | .map _ => true
  | _ => false

/-- Whether a value can be read as a digest. Bytes can only be counted. -/
def canBeDigest : Value → Bool
  | .null | .text _ => true
  | .bytes data => data.length != 64
  | _ => false

variable (v : Value)

/-- Only a number of very many digits has no text. -/
theorem textOf_hinges : HingesOn v.textOf (v.isShowable = true) := by
  unfold textOf shown
  split
  · next shown => exact (HingesOn.ok _).map.congr (by simp [shown])
  · next long => exact (HingesOn.error .length).map.congr (by simp [long])

end Value

namespace Finding

variable (v : Value)

/-- By the kind of the value: texts and bytes have blanks around them or not. -/
theorem isBlankText_hinges : HingesOn (isBlankText v) (v.isString = true) := by
  cases v <;> first
    | exact (HingesOn.ok _).congr (by simp [Value.isString])
    | exact (HingesOn.error .member).congr (by simp [Value.isString])

/-- By the kind of the value that is searched. -/
theorem mentions_hinges (s : String) : HingesOn (mentions s v) (v.holdsTexts = true) := by
  unfold mentions Value.holdsTexts
  cases v.bare <;> first
    | exact (HingesOn.ok _).congr (by simp)
    | exact (HingesOn.error .type).congr (by simp)

/-- By the kind of the value: only a text begins like an address. -/
theorem isWebAddress_hinges : HingesOn (isWebAddress v) (∃ s, v = .text s) := by
  cases v <;> first
    | exact (HingesOn.ok _).congr (by simp)
    | exact (HingesOn.error .member).congr (by simp)
    | exact (HingesOn.error .type).congr (by simp)

/-- By the kind of the value: a digest is counted and its digits are looked at. -/
theorem isDigest_hinges : HingesOn (if v.isNull then pure true else isDigest v) (v.canBeDigest = true) := by
  cases v with
  | bytes data =>
    change HingesOn (if data.length = 64 then .error .wrongType else .ok false) _
    split
    · next whole => exact (HingesOn.error .type).congr (by simp [Value.canBeDigest, whole])
    · next other => exact (HingesOn.ok _).congr (by simp [Value.canBeDigest, other])
  | null => exact (HingesOn.ok _).congr (by simp [Value.canBeDigest])
  | text s => exact (HingesOn.ok _).congr (by simp [Value.canBeDigest])
  | _ => exact (HingesOn.error .member).congr (by simp [Value.canBeDigest])

/-- By the kind of the value: only numbers are compared with numbers. -/
theorem isAtMost_hinges (bound : Int) : HingesOn (isAtMost bound v) (v.isNumber = true) := by
  cases v <;> first
    | exact (HingesOn.ok _).congr (by simp [Value.isNumber])
    | exact (HingesOn.error .type).congr (by simp [Value.isNumber])

/-- By the kind of the value: only numbers are compared with numbers. -/
theorem isBelow_hinges (bound : Int) : HingesOn (isBelow bound v) (v.isNumber = true) := by
  cases v <;> first
    | exact (HingesOn.ok _).congr (by simp [Value.isNumber])
    | exact (HingesOn.error .type).congr (by simp [Value.isNumber])

end Finding

/-! ## What settings answer -/

/-- A number that is shown if it lies below a bound, or null. -/
structure Value.CountsFrom (bound : Int) (v : Value) : Prop where
  number : v.isNull = true ∨ v.isNumber = true
  shown : v.below? bound = some true → v.isShowable = true

structure BuildSettings.Answerable (b : BuildSettings) : Prop where
  command : b.command.isString = true
  artifact : b.artifact.isString = true

structure FixtureSettings.Answerable (f : FixtureSettings) : Prop where
  url : ∃ s, f.url = .text s
  digest : f.sha256.canBeDigest = true
  timeout : f.timeout.isNumber = true
  shown : f.timeout.atMost? 0 = some true → f.timeout.isShowable = true

structure BenchmarkSettings.Answerable (b : BenchmarkSettings) : Prop where
  tool : (∀ name ∈ Finding.benchmarkTools, b.tool ≠ .text name) → b.tool.isShowable = true
  command : b.command.holdsTexts = true
  warmup : b.warmup.CountsFrom 0
  runs : b.runs.CountsFrom 2

structure InstallSettings.Answerable (i : InstallSettings) : Prop where
  command : i.enabled.isPresent = true → i.packages ≠ [] → i.command.holdsTexts = true

structure Triggers.Answerable (t : Triggers) : Prop where
  events : ∀ e ∈ t.events, (∀ name ∈ Trigger.knownEvents, e ≠ .text name) → e.isShowable = true

structure CheckoutSettings.Answerable (c : CheckoutSettings) : Prop where
  depth : c.depth.isNumber = true
  shown : c.depth.below? 1 = some true → c.depth.isShowable = true

namespace Finding

/-- A value is none of the names if it is not the text of any of them. -/
theorem any_isText {names : List String} {v : Value} :
    (!names.any (v.isText ·)) = true ↔ ∀ name ∈ names, v ≠ .text name := by
  simp [← isText_iff]

/-- The questions come one after the other, so all of them must have answers. -/
theorem buildFindings_hinges (b : BuildSettings) : HingesOn (buildFindings b) b.Answerable := by
  have all : HingesOn (buildFindings b) _ :=
    (isBlankText_hinges b.command).bind fun _ _ => .bind .when_ok fun _ _ =>
      (isBlankText_hinges b.artifact).bind fun _ _ => .bind .when_ok fun _ _ => .ok _
  exact all.congr
    ⟨fun ⟨command, _, artifact, _⟩ => ⟨command, artifact⟩, fun ⟨c, a⟩ => ⟨c, ⟨⟩, a, ⟨⟩, ⟨⟩⟩⟩

/-- A finding that shows a value. -/
theorem when_shown {condition : Bool} {setting : String} {v : Value} {wording : String → String}
    {severity : Severity} :
    HingesOn (when condition setting (do return wording (← v.textOf)) severity)
      (condition = true → v.isShowable = true) :=
  have text := (Value.textOf_hinges v).bind fun text _ => .ok (wording text)
  (text.congr (by simp)).when

/-- The comparison is answered just where it is defined. -/
theorem isAtMost_eq_ok_iff {bound : Int} {v : Value} {b : Bool} :
    isAtMost bound v = .ok b ↔ v.atMost? bound = some b := by
  unfold isAtMost
  cases v.atMost? bound <;> simp

/-- The comparison is answered just where it is defined. -/
theorem isBelow_eq_ok_iff {bound : Int} {v : Value} {b : Bool} :
    isBelow bound v = .ok b ↔ v.below? bound = some b := by
  unfold isBelow
  cases v.below? bound <;> simp

/-- One question after the other; a message that shows a value needs the text of it. -/
theorem fixtureFindings_hinges (f : FixtureSettings) :
    HingesOn (fixtureFindings f) f.Answerable := by
  have all : HingesOn (fixtureFindings f) _ :=
    (isWebAddress_hinges f.url).bind fun _ _ => .bind .when_ok fun _ _ =>
      .bind_ite <| (isDigest_hinges f.sha256).bind fun _ _ => .bind .when_ok fun _ _ =>
        (isAtMost_hinges f.timeout 0).bind fun b answer =>
          .bind (when_shown.congr (by rw [← Option.some_inj, ← isAtMost_eq_ok_iff.mp answer]))
            fun _ _ => .ok _
  exact all.congr
    ⟨fun ⟨url, _, digest, _, timeout, shown, _⟩ => ⟨url, digest, timeout, shown⟩,
      fun ⟨url, digest, timeout, shown⟩ => ⟨url, ⟨⟩, digest, ⟨⟩, timeout, shown, ⟨⟩⟩⟩

/-- The tool is only shown if it is none that is known. -/
theorem toolFindings_hinges (b : BenchmarkSettings) : HingesOn (toolFindings b)
    ((∀ name ∈ benchmarkTools, b.tool ≠ .text name) → b.tool.isShowable = true) :=
  when_shown.congr (by rw [any_isText])

/-- The command is searched once for each thing that it should mention. -/
theorem commandFindings_hinges (b : BenchmarkSettings) :
    HingesOn (commandFindings b) (b.command.holdsTexts = true) := by
  have all : HingesOn (commandFindings b) _ :=
    (mentions_hinges b.command _).bind fun _ _ => .bind .when_ok fun _ _ =>
      (mentions_hinges b.command _).bind fun _ _ => .bind .when_ok fun _ _ => .ok _
  exact all.congr (by simp)

/-- A number that is asked about only if it is there. -/
theorem isLess_hinges (bound : Int) (v : Value) :
    HingesOn (if v.isNull then pure false else isBelow bound v)
      (v.isNull = true ∨ v.isNumber = true) := by
  split
  · next null => exact (HingesOn.ok _).congr (by simp [null])
  · next given => exact (isBelow_hinges v bound).congr (by simp [given])

/-- What is asked of a number that may be shown as too low. -/
theorem below_iff {bound : Int} {v : Value} {b : Bool}
    (answer : (if v.isNull then pure false else isBelow bound v) = .ok b) :
    b = true ↔ v.below? bound = some true := by
  split at answer
  · next null =>
    cases v <;> cases null
    cases answer
    simp [Value.below?]
  · rw [isBelow_eq_ok_iff.mp answer, Option.some_inj]

/-- Each number is compared, and shown if it is too small. -/
theorem countFindings_hinges (b : BenchmarkSettings) :
    HingesOn (countFindings b) (b.warmup.CountsFrom 0 ∧ b.runs.CountsFrom 2) := by
  have all : HingesOn (countFindings b) _ :=
    (isLess_hinges 0 b.warmup).bind fun _ answer =>
      (when_shown.congr (imp_congr_left (below_iff answer))).bind fun _ _ =>
        (isLess_hinges 2 b.runs).bind fun _ answer =>
          (when_shown.congr (imp_congr_left (below_iff answer))).bind fun _ _ => .ok _
  exact all.congr
    ⟨fun ⟨number, shown, number', shown', _⟩ => ⟨⟨number, shown⟩, ⟨number', shown'⟩⟩,
      fun ⟨⟨number, shown⟩, ⟨number', shown'⟩⟩ => ⟨number, shown, number', shown', ⟨⟩⟩⟩

/-- The questions about the tool, the command and the numbers in turn. -/
theorem benchmarkFindings_hinges (b : BenchmarkSettings) :
    HingesOn (benchmarkFindings b) b.Answerable := by
  have all : HingesOn (benchmarkFindings b) _ :=
    (toolFindings_hinges b).bind fun _ _ => (commandFindings_hinges b).bind fun _ _ =>
      (countFindings_hinges b).bind fun _ _ => .ok _
  exact all.congr ⟨fun ⟨tool, command, ⟨warmup, runs⟩, _⟩ => ⟨tool, command, warmup, runs⟩,
    fun ⟨tool, command, warmup, runs⟩ => ⟨tool, command, ⟨warmup, runs⟩, ⟨⟩⟩⟩

/-- The command is only searched if something is to be installed. -/
theorem installFindings_hinges (i : InstallSettings) (tool : Value) :
    HingesOn (installFindings i tool) i.Answerable := by
  have asked : HingesOn (if i.enabled.isPresent && !i.packages.isEmpty
      then mentions "\x7bpackage\x7d" i.command else pure true)
      (i.enabled.isPresent = true → i.packages ≠ [] → i.command.holdsTexts = true) := by
    split
    · next installs => exact (mentions_hinges i.command _).congr (by simp_all)
    · next other => exact (HingesOn.ok _).congr (by simp_all)
  have all : HingesOn (installFindings i tool) _ :=
    .bind_ite <| asked.bind fun _ _ => .bind .when_ok fun _ _ => .bind .when_ok fun _ _ => .ok _
  exact all.congr ⟨fun ⟨command, _⟩ => ⟨command⟩, fun ⟨command⟩ => ⟨command, ⟨⟩, ⟨⟩, ⟨⟩⟩⟩

/-- One question for each event, and an event is only shown if it is none that is known. -/
theorem triggerFindings_hinges (t : Triggers) : HingesOn (triggerFindings t) t.Answerable := by
  have each (e : Value) : HingesOn (eventFindings e)
      ((∀ name ∈ Trigger.knownEvents, e ≠ .text name) → e.isShowable = true) :=
    when_shown.congr (by rw [any_isText])
  have all : HingesOn (triggerFindings t) _ :=
    (HingesOn.mapM each).bind fun _ _ => .bind .when_ok fun _ _ => .ok _
  exact all.congr ⟨fun ⟨events, _⟩ => ⟨events⟩, fun ⟨events⟩ => ⟨events, ⟨⟩, ⟨⟩⟩⟩

/-- The depth is compared, and shown if it is too small. -/
theorem checkoutFindings_hinges (c : CheckoutSettings) :
    HingesOn (checkoutFindings c) c.Answerable := by
  have all : HingesOn (checkoutFindings c) _ :=
    (isBelow_hinges c.depth 1).bind fun _ answer =>
      when_shown.congr (by rw [← Option.some_inj, ← isBelow_eq_ok_iff.mp answer])
  exact all.congr ⟨fun ⟨depth, shown⟩ => ⟨depth, shown⟩, fun ⟨depth, shown⟩ => ⟨depth, shown⟩⟩

end Finding

/-! ## All settings -/

namespace Settings

variable {s : Settings}

/-- Every setting that is asked about has a value with an answer. -/
structure Answerable (s : Settings) : Prop where
  build (b : BuildSettings) (held : s.build.given = .ok b) : b.Answerable
  fixture (f : FixtureSettings) (held : s.fixture.given = .ok f) : f.Answerable
  benchmark (b : BenchmarkSettings) (held : s.benchmark.given = .ok b) : b.Answerable
  install (i : InstallSettings) (held : s.install.given = .ok i) : i.Answerable
  triggers (t : Triggers) (held : s.triggers.given = .ok t) : t.Answerable
  checkout (c : CheckoutSettings) (held : s.checkout.given = .ok c) : c.Answerable

/-- A setting can only be looked up in a section that is given. -/
theorem given_of_setting {α : Type} {sec : Section α} {look : α → Setting} {old : Setting}
    (held : sec.given.map look = .ok old) : ∃ a, sec.given = .ok a := by
  rcases sec with a | _
  · exact ⟨a, rfl⟩
  · cases held

/-- The findings can be listed if every setting that is asked about has a value with an answer. -/
theorem findings_hinges (full : s.Full) : HingesOn s.findings s.Answerable := by
  have asked (sec : SectionName) (key : String) (known : key ∈ sec.keys) :=
    full (.inSection sec key) known
  obtain ⟨b, build⟩ := given_of_setting (asked .build "command" (by decide)).choose_spec
  obtain ⟨f, fixture⟩ := given_of_setting (asked .fixture "url" (by decide)).choose_spec
  obtain ⟨m, benchmark⟩ := given_of_setting (asked .benchmark "tool" (by decide)).choose_spec
  obtain ⟨i, install⟩ := given_of_setting (asked .install "command" (by decide)).choose_spec
  obtain ⟨t, triggers⟩ := given_of_setting (asked .triggers "events" (by decide)).choose_spec
  obtain ⟨h, cache⟩ := given_of_setting (asked .cache "paths" (by decide)).choose_spec
  obtain ⟨c, checkout⟩ := given_of_setting (asked .checkout "depth" (by decide)).choose_spec
  have needs : s.Answerable ↔ b.Answerable ∧ f.Answerable ∧ m.Answerable ∧ i.Answerable ∧
      t.Answerable ∧ c.Answerable := by
    refine ⟨fun all => ⟨all.build b build, all.fixture f fixture, all.benchmark m benchmark,
      all.install i install, all.triggers t triggers, all.checkout c checkout⟩, ?_⟩
    rintro ⟨b', f', m', i', t', c'⟩
    constructor <;> intro r held <;> simp_all
  rw [findings, build, fixture, benchmark, install, triggers, cache, checkout, needs]
  refine .congr (.ok_bind <| (Finding.buildFindings_hinges b).bind fun _ _ =>
    .ok_bind <| (Finding.fixtureFindings_hinges f).bind fun _ _ =>
    .ok_bind <| (Finding.benchmarkFindings_hinges m).bind fun _ _ =>
    .ok_bind <| (Finding.installFindings_hinges i m.tool).bind fun _ _ =>
    .ok_bind <| (Finding.triggerFindings_hinges t).bind fun _ _ =>
    .ok_bind <| .bind .when_ok fun _ _ =>
    .ok_bind <| (Finding.checkoutFindings_hinges c).bind fun _ _ => .ok _) (by simp)

end Settings

/-- Settings of a profile are made out of the defaults, which are all there. -/
theorem Profile.full_of_settings {p : Profile} {s : Settings} (accepted : p.settings = .ok s) :
    s.Full := by
  rw [settings] at accepted
  rcases checked : p.checkKeys with g | done <;> rw [checked] at accepted
  · cases accepted
  rcases begun : p.plainSettings with g | s0 <;> rw [begun] at accepted
  · cases accepted
  exact (foldlM_keeps applySection_keeps (full_of_plainSettings begun) accepted).1

/-- The findings about the settings of a profile can be listed exactly if every setting that is asked
about has a value with an answer; otherwise the listing fails for want of one. -/
theorem Settings.findings_listed_iff {homes : Homes} {p : Profile} {s : Settings}
    (accepted : Settings.ofProfile homes p [] = .ok s) :
    ((∃ found, s.findings = .ok found) ↔ s.Answerable) ∧
      ∀ f, s.findings = .error f → f.IsMismatch := by
  have read : p.settings = .ok s := by
    rw [Settings.ofProfile] at accepted
    rcases given : p.settings with f | s' <;> rw [given] at accepted <;> cases accepted
    rfl
  have hinges := findings_hinges (Profile.full_of_settings read)
  exact ⟨hinges.exists_iff, fun f => hinges.mismatch⟩

/-- A profile that gives one setting of the build. -/
def buildProfile (key : String) (v : Value) : Profile := [(.text "build", .map [(.text key, v)])]

/-- A command of bytes is doubtful if it holds only blanks, which is found. -/
theorem Settings.findings_listed_iff_bytes :
    ∃ s, Settings.ofProfile { own := "/root" } (buildProfile "command" (.bytes [32])) [] = .ok s ∧
      s.Answerable ∧ ∃ found, s.findings = .ok found := by
  obtain ⟨s, accepted⟩ : ∃ s, Settings.ofProfile { own := "/root" }
      (buildProfile "command" (.bytes [32])) [] = .ok s := ⟨_, rfl⟩
  have answerable : s.Answerable := by
    cases accepted
    refine ⟨?_, ?_, ?_, ?_, ?_, ?_⟩ <;> rintro _ ⟨⟩
    · exact ⟨rfl, rfl⟩
    · exact ⟨⟨_, rfl⟩, rfl, rfl, fun _ => rfl⟩
    · exact ⟨fun _ => rfl, rfl, ⟨.inl rfl, nofun⟩, ⟨.inl rfl, nofun⟩⟩
    · exact ⟨fun _ _ => rfl⟩
    · exact ⟨by simp [Value.isShowable]⟩
    · exact ⟨rfl, nofun⟩
  exact ⟨s, accepted, answerable, (Settings.findings_listed_iff accepted).1.mpr answerable⟩

/-- A command that is a list of words can be run, and is accepted, but the findings about it cannot be
listed. -/
theorem Settings.findings_fail_on_words :
    let command := Value.list [.text "cargo", .text "build"]
    Command.words command = .ok ["cargo", "build"] ∧
      ∃ s, Settings.ofProfile { own := "/root" } (buildProfile "command" command) [] = .ok s ∧
        s.findings = .error .noSuchMember :=
  ⟨by rfl, _, rfl, rfl⟩

end BuildBench
