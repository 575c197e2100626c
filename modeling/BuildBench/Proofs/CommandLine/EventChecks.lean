import BuildBench.Proofs.CommandLine.ReadSettings
import BuildBench.Proofs.Files.ConfinedChanges
import BuildBench.Proofs.Settings.Precedence

/-!
# Events that start a run

The commands `run` and `should-run` check the same event with the same triggers, although one of them
sets up log files first and overrides settings of the profile. A run that does not start has changed
no file but its log file, and has done nothing to the outside.
-/

namespace BuildBench

open BuildBench.Action

/-! ## Designated branches -/

/-- What the name of a branch is without one of the roots that may stand in front of it. -/
inductive Trigger.Shortens (ref : String) : String → Prop where
  | root {start short : String} (listed : start ∈ branchRoots) (split : ref = start ++ short) :
      Shortens ref short
  | plain (rootless : ∀ start ∈ branchRoots, ∀ rest, ref ≠ start ++ rest) : Shortens ref ref

/-- Both ways by splitting the characters behind the start. -/
theorem beginsWith_iff {start s : String} :
    Text.beginsWith start s = true ↔ ∃ rest, s = start ++ rest := by
  rw [Text.beginsWith, List.isPrefixOf_iff_prefix]
  constructor
  · rintro ⟨rest, split⟩
    exact ⟨String.ofList rest, String.toList_inj.mp (by simp [split])⟩
  · rintro ⟨rest, rfl⟩
    simp

namespace Trigger

/-- At most one root stands in front of a name. -/
theorem root_unique {ref start other : String} (one : start ∈ branchRoots)
    (two : other ∈ branchRoots) (begins : Text.beginsWith start ref)
    (alsoBegins : Text.beginsWith other ref) : start = other := by
  have apart : ∀ a ∈ branchRoots, ∀ b ∈ branchRoots, a.toList <+: b.toList → a = b := by decide
  rw [Text.beginsWith, List.isPrefixOf_iff_prefix] at begins alsoBegins
  rcases List.prefix_or_prefix_of_prefix begins alsoBegins with shorter | longer
  · exact apart start one other two shorter
  · exact (apart other two start one longer).symm

/-- By the prefix that the name has: it is cut off, or there is none to cut. -/
theorem branchName_eq_iff {ref short : String} : branchName ref = short ↔ Shortens ref short := by
  have stripped (start rest : String) :
      String.ofList ((start ++ rest).toList.drop start.length) = rest := by
    rw [String.toList_append, ← String.length_toList, List.drop_left, String.ofList_toList]
  rw [branchName]
  rcases found : branchRoots.find? fun root => Text.beginsWith root ref with _ | start
  · have rootless : ∀ start ∈ branchRoots, ∀ rest, ref ≠ start ++ rest := by
      intro start listed rest split
      have begins := beginsWith_iff.mpr ⟨rest, split⟩
      exact List.find?_eq_none.mp found start listed begins
    constructor
    · rintro rfl
      exact .plain rootless
    · rintro (⟨listed, split⟩ | _)
      · exact absurd split (rootless _ listed _)
      · rfl
  · have listed := List.mem_of_find?_eq_some found
    have begins : Text.beginsWith start ref = true :=
      List.find?_some (p := fun root => Text.beginsWith root ref) found
    obtain ⟨rest, rfl⟩ := beginsWith_iff.mp begins
    dsimp only
    rw [stripped]
    constructor
    · rintro rfl
      exact .root listed rfl
    · rintro (⟨other, split⟩ | rootless)
      · obtain rfl := root_unique listed other begins (beginsWith_iff.mpr ⟨_, split⟩)
        exact String.append_right_inj _ |>.mp split
      · exact absurd rfl (rootless start listed rest)

/-- The kinds have different names. -/
theorem ofName?_eq_some_iff {name : String} {kind : Kind} :
    Kind.ofName? name = some kind ↔ kind.name = name := by
  constructor
  · intro found
    simpa using List.find?_some (p := fun kind : Kind => kind.name == name) found
  · rintro rfl
    cases kind <;> decide

/-- A text counts as given unless it is empty. -/
theorem given_eq_some_iff {name : Option String} {s : String} :
    given name = some s ↔ name = some s ∧ s ≠ "" := by
  simp [given, Option.filter_eq_some_iff]

end Trigger

namespace CommandLine

/-- The branch that an event of some name concerns. -/
inductive TriggerEvent.Concerns (e : TriggerEvent) : String → String → Prop where
  | push {branch : String} (pushed : e.branch = some branch) : Concerns e "push" branch
  | targeted {branch : String} (target : e.base = some branch) (named : branch ≠ "") :
      Concerns e "pull_request" branch
  | source {branch : String} (untargeted : e.base = none ∨ e.base = some "")
      (merged : e.branch = some branch) : Concerns e "pull_request" branch

/-- An event that is enabled and concerns a designated branch. -/
def TriggerEvent.Designated (e : TriggerEvent) (t : Triggers) : Prop :=
  ∃ name branch short, e.name = some name ∧ .text name ∈ t.events ∧ e.Concerns name branch ∧
    branch ≠ "" ∧ Trigger.Shortens branch short ∧ .text short ∈ t.branches

end CommandLine

/-- One of the values is that text. -/
theorem holdsText_iff {values : List Value} {s : String} :
    holdsText values s = true ↔ .text s ∈ values := by
  simp only [holdsText, List.any_eq_true, isText_iff]
  exact ⟨fun ⟨v, among, same⟩ => same ▸ among, fun among => ⟨_, among, rfl⟩⟩

namespace CommandLine

namespace TriggerEvent

variable {e : TriggerEvent} {t : Triggers}

/-- The base is asked first, and the branch if there is no base. -/
theorem target_pullRequest {branch : String} :
    Trigger.target .pullRequest e.branch e.base = some branch ↔ Trigger.given e.base = some branch ∨
      Trigger.given e.base = none ∧ Trigger.given e.branch = some branch := by
  simp only [Trigger.target, Option.orElse_eq_orElse, Option.orElse_eq_or, Option.or_eq_some_iff]

/-- By the kind of the event that has the name. -/
theorem target_eq_some_iff {name branch : String} :
    (∃ kind, Trigger.Kind.ofName? name = some kind ∧
      Trigger.target kind e.branch e.base = some branch) ↔ e.Concerns name branch ∧ branch ≠ "" := by
  simp only [Trigger.ofName?_eq_some_iff]
  constructor
  · rintro ⟨kind, rfl, found⟩
    cases kind with
    | push =>
      obtain ⟨pushed, named⟩ := Trigger.given_eq_some_iff.mp found
      exact ⟨.push pushed, named⟩
    | pullRequest =>
      rcases target_pullRequest.mp found with target | ⟨missing, merged⟩
      · obtain ⟨target, named⟩ := Trigger.given_eq_some_iff.mp target
        exact ⟨.targeted target named, named⟩
      · obtain ⟨merged, named⟩ := Trigger.given_eq_some_iff.mp merged
        refine ⟨.source ?_ merged, named⟩
        cases target : e.base <;> simp_all [Trigger.given]
  · rintro ⟨concerns, named⟩
    cases concerns with
    | push pushed => exact ⟨.push, rfl, Trigger.given_eq_some_iff.mpr ⟨pushed, named⟩⟩
    | targeted target _ =>
      exact ⟨.pullRequest, rfl,
        target_pullRequest.mpr (.inl (Trigger.given_eq_some_iff.mpr ⟨target, named⟩))⟩
    | source untargeted merged =>
      have missing : Trigger.given e.base = none := by
        rcases untargeted with none | empty <;> simp [Trigger.given, *]
      exact ⟨.pullRequest, rfl, target_pullRequest.mpr
        (.inr ⟨missing, Trigger.given_eq_some_iff.mpr ⟨merged, named⟩⟩)⟩

/-- An event starts a run if it is designated to. -/
theorem starts_iff : e.starts t = true ↔ e.Designated t := by
  rcases named : e.name with _ | name
  · simp [starts, Designated, named]
  have accepted : e.starts t = true ↔ .text name ∈ t.events ∧ ∃ branch,
      (∃ kind, Trigger.Kind.ofName? name = some kind ∧
        Trigger.target kind e.branch e.base = some branch) ∧
      .text (Trigger.branchName branch) ∈ t.branches := by
    rw [starts, named]
    dsimp only
    rw [Triggers.accept, Bool.and_eq_true, holdsText_iff]
    refine and_congr_right fun _ => ?_
    rcases Trigger.Kind.ofName? name with _ | kind
    · simp
    rcases found : Trigger.target kind e.branch e.base with _ | branch
    · simp [found]
    · simp [found, holdsText_iff]
  simp only [accepted, target_eq_some_iff, Designated, named, ← Trigger.branchName_eq_iff]
  constructor
  · rintro ⟨enabled, branch, ⟨concerns, present⟩, listed⟩
    exact ⟨name, branch, _, rfl, enabled, concerns, present, rfl, listed⟩
  · rintro ⟨other, branch, short, same, enabled, concerns, present, rfl, listed⟩
    cases same
    exact ⟨enabled, branch, ⟨concerns, present⟩, listed⟩

end TriggerEvent

end CommandLine

/-! ## Setting up logs -/

/-- The place of the log file that is asked for. -/
def LogsAt (w : World) (logFile : Option PathName) (location : Location) : Prop :=
  ∃ path, logFile = some path ∧ w.files.Leads true (w.files.absolute path) location

/-- Between two worlds logging was set up: a log file was opened in some place, and made if there was
none. -/
structure SetUp (places : Location → Prop) (w u : World) : Prop where
  trail : u.trail = w.trail
  processes : u.processes = w.processes
  replies : u.replies = w.replies
  current : u.files.current = w.files.current
  kept : ∀ location n, w.files.root.node? location = some n → u.files.root.node? location = some n
  nodes : ∀ location, ¬ places location →
    u.files.root.node? location = w.files.root.node? location
  logs : ∀ location, .file location ∈ u.handlers → places location

/-- An opened log file stands where its name leads to. Nothing else has changed. -/
theorem openLogFile_ok {path : PathName} {w u : World} {location : Location}
    (opened : openLogFile path w = (.ok location, u)) :
    w.files.Leads true (w.files.absolute path) location ∧
      (u = w ∨ w.files.root.at? location = none ∧
        u = { w with files := w.files.put location (.file ByteArray.empty false) }) := by
  obtain ⟨w', t, got, afterGet⟩ := ok_of_bind_ok opened
  cases got
  obtain ⟨_, t, named, afterName⟩ := ok_of_bind_ok afterGet
  obtain rfl : w = t := by
    simpa [named] using (Disk.requireName_asks (w.files.absolute path) w).1
  rcases placed : w.files.place true (w.files.absolute path) with e | place
  · rw [placed] at afterName
    exact absurd afterName throw_not_ok
  rw [placed] at afterName
  obtain ⟨leads, entry⟩ := Files.leads_of_place placed
  rcases held : place.entry with _ | ⟨content, executable⟩ | target | folder <;>
    simp only [held] at afterName
  · cases afterName
    exact ⟨leads, .inr ⟨entry.symm.trans held, rfl⟩⟩
  · cases afterName
    exact ⟨leads, .inl rfl⟩
  · cases afterName
    exact ⟨leads, .inl rfl⟩
  · exact absurd afterName throw_not_ok

/-- By whether there is a log: opening it makes its file where there is none, and nothing else. -/
theorem setupLogging_ok {verbose quiet : Bool} {logFile : Option PathName} {w u : World}
    (done : setupLogging verbose quiet logFile w = (.ok (), u)) : SetUp (LogsAt w logFile) w u := by
  cases logFile with
  | none =>
    cases done
    exact ⟨rfl, rfl, rfl, rfl, fun _ _ held => held, fun _ _ => rfl, by simp⟩
  | some path =>
    obtain ⟨_, t, first, done⟩ := ok_of_bind_ok done
    cases first
    obtain ⟨location, t, opened, done⟩ := ok_of_bind_ok done
    cases done
    obtain ⟨leads, rfl | ⟨vacant, rfl⟩⟩ := openLogFile_ok opened
    · refine ⟨rfl, rfl, rfl, rfl, fun _ _ held => held, fun _ _ => rfl, fun other among => ?_⟩
      obtain rfl : other = location := by simpa using among
      exact ⟨path, rfl, leads⟩
    · have missing := Folder.kind?_eq_none.mpr vacant
      have nonempty := Folder.nonempty_of_vacant missing
      have closed : w.files.root.node? location ≠ some .folder := by
        rw [Folder.node?_eq_none.mpr missing]
        exact nofun
      have node := Folder.node?_put_leaf (e := .file ByteArray.empty false) rfl nonempty
        (leads.parent_folder nonempty) closed
      refine ⟨rfl, rfl, rfl, rfl, fun other n held => ?_, fun other outside => ?_,
        fun other among => ?_⟩
      · refine (node other).trans ((if_neg ?_).trans held)
        rintro rfl
        cases held.symm.trans (Folder.node?_eq_none.mpr missing)
      · refine (node other).trans (if_neg ?_)
        rintro rfl
        exact outside ⟨path, rfl, leads⟩
      · obtain rfl : other = location := by simpa using among
        exact ⟨path, rfl, leads⟩

/-- Everything that stood there still stands, and a content is changed only where a log is opened.
-/
theorem SetUp.read {places : Location → Prop} {w u : World} (setUp : SetUp places w u)
    {path : PathName} {content : ByteArray} (read : w.files.read path = .ok content) :
    u.files.read path = .ok content := by
  obtain ⟨executable, found⟩ := Files.read_eq_ok_iff.mp read
  obtain ⟨goal, leads, held⟩ := Files.lookUp_eq_file_iff.mp found
  have grows : w.files.root.Grows u.files.root := by
    intro location kind stands
    obtain ⟨n, node, rfl⟩ := Option.map_eq_some_iff.mp stands
    exact Option.map_eq_some_iff.mpr ⟨n, setUp.kept location n node, rfl⟩
  have after := setUp.kept goal (.file content executable)
    (by simp [Folder.node?, held, Entry.node])
  obtain ⟨e, heldAfter, same⟩ := Option.map_eq_some_iff.mp after
  refine Files.read_eq_ok_iff.mpr ⟨executable, Files.lookUp_eq_file_iff.mpr ⟨goal, ?_, ?_⟩⟩
  · exact leads.of_grows_held grows setUp.current (by simp [Folder.kind?_of_at? held])
  · cases e <;> cases same
    exact heldAfter

/-! ## Profiles -/

/-- The content is read, then decoded, and its line ends are made plain. -/
theorem Disk.readText_ok {path : PathName} {w v : World} {text : String}
    (read : Disk.readText path w = (.ok text, v)) :
    v = w ∧ ∃ content s, w.files.read path = .ok content ∧ Text.decode content = .ok s ∧
      text = String.ofList (Text.plainNewlines s.toList) := by
  obtain ⟨content, u, taken, decoded⟩ := ok_of_bind_ok read
  obtain rfl : w = u := by simpa [taken] using (Disk.read_asks path w).1
  obtain ⟨_, u, named, asked⟩ := ok_of_bind_ok taken
  obtain rfl : w = u := by simpa [named] using (Disk.requireName_asks path w).1
  have held : w.files.read path = .ok content := by
    rw [bind_run, get_run] at asked
    dsimp only at asked
    rw [ofResult_run] at asked
    rcases found : w.files.read path with e | held <;> rw [found] at asked <;> cases asked
    rfl
  rcases readable : Text.decode content with reason | s <;> simp only [readable] at decoded
  · exact absurd decoded throw_not_ok
  · cases decoded
    exact ⟨rfl, content, s, held, readable, rfl⟩

namespace Profile

variable {path : PathName} {w u v t : World} {p q : Profile}

/-- A profile is in the document that its file holds. -/
theorem load_ok (loaded : load path w = (.ok p, v)) :
    ∃ content s document, w.files.read path = .ok content ∧ Text.decode content = .ok s ∧
      documentValue path (String.ofList (Text.plainNewlines s.toList)) = .ok document ∧
      (document.bare = .null ∧ p = [] ∨ document.bare = .map p) := by
  obtain ⟨there, u, asked, afterAsking⟩ := ok_of_bind_ok loaded
  obtain ⟨rfl, -, -⟩ := Disk.ask_ok asked
  cases there with
  | false => exact absurd afterAsking throw_not_ok
  | true =>
    obtain ⟨text, u, read, afterText⟩ := ok_of_bind_ok afterAsking
    obtain ⟨rfl, content, s, held, readable, rfl⟩ := Disk.readText_ok read
    obtain ⟨document, u, given, afterDocument⟩ := ok_of_bind_ok afterText
    rw [ofResult_run] at given
    obtain ⟨said, -⟩ := Prod.mk.inj given
    obtain ⟨_, u, -, ended⟩ := ok_of_bind_ok afterDocument
    refine ⟨content, s, document, held, readable, said, ?_⟩
    cases shape : document.bare <;> simp only [shape] at ended <;> first
      | exact absurd ended throw_not_ok
      | (cases ended; simp)

/-- The profile in a file is the same wherever the content of the file is. -/
theorem load_same
    (kept : ∀ content, w.files.read path = .ok content → u.files.read path = .ok content)
    (one : load path w = (.ok p, v)) (other : load path u = (.ok q, t)) : p = q := by
  obtain ⟨content, s, document, held, readable, said, shape⟩ := load_ok one
  obtain ⟨content', s', document', held', readable', said', shape'⟩ := load_ok other
  cases (kept content held).symm.trans held'
  cases readable.symm.trans readable'
  cases said.symm.trans said'
  rcases shape with ⟨null, rfl⟩ | map <;> rcases shape' with ⟨null', rfl⟩ | map' <;> simp_all

/-- Reading a profile does nothing but to write a record. -/
theorem load_keeps {R : World → World → Prop} [Law R]
    (recorded : ∀ r, Keeps R (fun _ => True) (record r)) (path : PathName) :
    Keeps R (fun _ => True) (load path) := by
  have asks {α : Type} {a : Action α} (asks : Asks a) : Keeps R (fun _ => True) a :=
    asks.keeps.mono fun _ _ => trivial
  refine .bind (asks (Disk.ask_asks _ _)) fun there => ?_
  cases there with
  | false => exact fun w => ⟨Law.refl w, fun _ _ => trivial⟩
  | true =>
    refine .bind (asks (Disk.readText_asks _)) fun text => .bind (.ofResult fun _ _ => trivial)
      fun document => .bind (recorded _) fun _ => ?_
    split
    · exact .pure _
    · exact .pure _
    · exact .throw trivial

end Profile

/-! ## Triggers under overrides -/

namespace Settings

variable {s s' : Settings} {homes : Homes}

/-- Only the last step gives settings. -/
theorem triggers_of_bind {α : Type} {r : Except Fault α} {next : α → Except Fault Settings}
    (each : ∀ a, next a = .ok s' → s'.triggers = s.triggers) (done : r >>= next = .ok s') :
    s'.triggers = s.triggers := by
  rcases r with f | a
  · cases done
  · exact each a done

/-- A setting of another section leaves the triggers as they are. -/
theorem setKey_triggers {sec : SectionName} {key : String} {v : Value} (other : sec ≠ .triggers)
    (done : s.setKey sec key v = .ok s') : s'.triggers = s.triggers := by
  refine triggers_of_bind (fun _ done => ?_) done
  cases sec with
  | triggers => exact absurd rfl other
  | checkout | fixture | benchmark =>
    cases done
    rfl
  | cache =>
    dsimp only at done
    split at done
    · exact triggers_of_bind (fun dir done => by cases done; rfl) done
    split at done
    · exact triggers_of_bind (fun paths done => by cases done; rfl) done
    · cases done
      rfl
  | install =>
    dsimp only at done
    split at done
    · exact triggers_of_bind (fun packages done => by cases done; rfl) done
    · cases done
      rfl
  | build =>
    dsimp only at done
    split at done
    · exact triggers_of_bind (fun env done => by cases done; rfl) done
    · cases done
      rfl

/-- Whether an override names nothing that belongs to the triggers. -/
def sparesTriggers (name : String) : Bool :=
  match splitKey name with
  | some (first, _) => (SectionName.ofName? first).any (· ≠ .triggers)
  | none => name = "workdir"

/-- By the field that is replaced: none of those allowed belongs to the triggers. -/
theorem override_triggers {o : Override} (spares : sparesTriggers o.1 = true)
    (done : override homes s o = .ok s') : s'.triggers = s.triggers := by
  unfold override at done
  split at done
  · cases done
    rfl
  unfold sparesTriggers at spares
  rcases named : splitKey o.1 with _ | ⟨first, key⟩ <;> simp only [named] at spares done
  · obtain whole : o.1 = "workdir" := by simpa using spares
    rw [whole] at done
    change (pathSetting o.2).map _ = _ at done
    rcases taken : pathSetting o.2 with f | p <;> rw [taken] at done <;> cases done
    rfl
  · rcases known : SectionName.ofName? first with _ | sec <;> rw [known] at spares
    · cases spares
    have other : sec ≠ .triggers := by simpa using spares
    rw [setBelow, known] at done
    refine triggers_of_bind (fun _ done => ?_) done
    rw [setEntry] at done
    split at done
    · exact setKey_triggers other done
    · cases done

/-- By induction on the overrides. -/
theorem overrides_triggers {o : List Override} (spares : ∀ one ∈ o, sparesTriggers one.1 = true)
    (done : o.foldlM (override homes) s = .ok s') : s'.triggers = s.triggers := by
  induction o generalizing s with
  | nil =>
    cases done
    rfl
  | cons one rest ih =>
    rw [List.foldlM_cons] at done
    rcases first : override homes s one with f | s1 <;> rw [first] at done
    · cases done
    · rw [ih (fun o among => spares o (List.mem_cons_of_mem _ among)) done,
        override_triggers (spares one (by simp)) first]

/-- The triggers are those of the profile if no override names one, and they are there. -/
theorem ofProfile_triggers {p : Profile} {o : List Override}
    (spares : ∀ one ∈ o, sparesTriggers one.1 = true) (done : ofProfile homes p o = .ok s) :
    ∃ s0 t, p.settings = .ok s0 ∧ s.triggers = s0.triggers ∧ s0.triggers.given = .ok t := by
  unfold ofProfile at done
  rcases begun : p.settings with f | s0 <;> rw [begun] at done
  · cases done
  have full : s0.Full := by
    have given := begun
    rw [Profile.settings] at given
    rcases checked : p.checkKeys with f | _ <;> rw [checked] at given
    · cases given
    rcases plain : p.plainSettings with f | s1 <;> rw [plain] at given
    · cases given
    exact (foldlM_keeps Profile.applySection_keeps (Profile.full_of_plainSettings plain) given).1
  have known : (SettingName.inSection .triggers "branches").Known := by
    change "branches" ∈ SectionName.triggers.keys
    decide
  obtain ⟨branches, held⟩ := full (.inSection .triggers "branches") known
  change s0.triggers.given.map _ = _ at held
  rcases given : s0.triggers.given with f | t <;> rw [given] at held
  · cases held
  · exact ⟨s0, t, rfl, overrides_triggers spares done, given⟩

end Settings

namespace CommandLine

open Guarded

/-! ## Settings of a command -/

section Settings

variable {profile : Option PathName} {o : List Override} {s : Settings} {w u v : World}

/-- Settings come from the profile that is named, or from an empty one. -/
theorem settingsOf_ok (done : (settingsOf profile o).run w = (.ok (.ok s), v)) :
    ∃ p homes, Settings.ofProfile homes p o = .ok s ∧
      (profile = none ∧ p = [] ∨ ∃ path, profile = some path ∧ Profile.load path w = (.ok p, v)) := by
  cases profile with
  | some path =>
    rcases loaded : Profile.load path w with ⟨f | p, t⟩
    · rw [settingsOf, guarded_bind_run, lifted_run, attempt_run] at done
      dsimp only at done
      rw [bind_run, loaded] at done
      dsimp only [Except.map] at done
      split at done <;> cases done
    · rw [settingsOf_run loaded] at done
      rcases given : Settings.ofProfile t.homes p o with f | s' <;> simp only [given] at done
      · split at done <;> cases done
      · cases done
        exact ⟨p, _, given, .inr ⟨path, rfl, loaded⟩⟩
  | none =>
    have load : (do
        let p ← pure []
        Action.ofResult (Settings.ofProfile (← Disk.homes) p o) : Action Settings) w =
          (Settings.ofProfile w.homes [] o, w) := ofResult_run _ _
    rw [settingsOf, guarded_bind_run, lifted_run, attempt_run] at done
    dsimp only at done
    rw [load] at done
    rcases given : Settings.ofProfile w.homes [] o with f | s' <;> rw [given] at done <;>
      dsimp only [Except.map] at done
    · split at done <;> cases done
    · cases done
      exact ⟨[], _, given, .inl ⟨rfl, rfl⟩⟩

/-- The profile is read and the settings are made of it, and neither does more than record. -/
theorem settingsOf_keeps {R : World → World → Prop} [Law R]
    (recorded : ∀ r, Action.Keeps R (fun _ => True) (record r)) (profile : Option PathName)
    (o : List Override) : Keeps R (settingsOf profile o) := by
  have settled (p : Profile) : Action.Keeps R (fun _ => True)
      (do ofResult (Settings.ofProfile (← Disk.homes) p o) : Action Settings) :=
    .bind (Disk.homes_asks.keeps.mono fun _ _ => trivial) fun homes => .ofResult fun _ _ => trivial
  unfold settingsOf
  refine .bind (.lift (F := fun _ => True) (.attempt (G := fun _ => True) ?_)) fun answer => ?_
  · cases profile with
    | none => exact .bind (.pure _) settled
    | some path => exact .bind (Profile.load_keeps recorded path) settled
  · split
    · exact .pure _
    · split
      · exact .throw _
      · exact .lift (F := fun _ => True) (.throw trivial)

end Settings

/-! ## The two checks -/

/-- The event that words and variables describe. -/
def Separated.event (s : Separated) (env : Variables) : TriggerEvent :=
  let given (name source : String) : Option String :=
    s.word? name <|> (env.lookup source).filter (!·.isEmpty)
  ⟨given "--event" "GITHUB_EVENT_NAME", given "--branch" "GITHUB_REF_NAME",
    given "--base-branch" "GITHUB_BASE_REF"⟩

section Checks

variable {c : Command} {words : List String} {sep : Separated} {g : Given} {w v : World}

/-- Each of the options is a text without a default, taken from its word or from the environment. -/
theorem event_of_read {required : Bool} (plain : c.spec.Plain)
    (asked : ∀ o ∈ eventOptions required, o ∈ c.spec.options) (reads : c.Reads words w sep g) :
    TriggerEvent.ofGiven g = sep.event w.environment := by
  have texts : ∀ o ∈ eventOptions required, o.kind = .text ∧ o.default = none := by
    simp [eventOptions]
  have each {o : OptionSpec} (among : o ∈ eventOptions required) :
      g.text? o.name = sep.given? w.environment o :=
    text_of_read plain reads.known reads.given (asked o among) (.inl (texts o among).1)
      (texts o among).2
  have name := each (.head _)
  have branch := each (.tail _ (.head _))
  have base := each (.tail _ (.tail _ (.head _)))
  exact (TriggerEvent.mk.injEq ..).mpr ⟨name, branch, base⟩

/-- The option has no variable of the environment, so only its word counts. -/
theorem profile_of_read (plain : c.spec.Plain) (asked : profileOption ∈ c.spec.options)
    (reads : c.Reads words w sep g) :
    g.path? "--profile" = (sep.word? "--profile").map PathName.parse := by
  have text := text_of_read plain reads.known reads.given asked (.inr rfl) rfl
  have word : sep.given? w.environment profileOption = sep.word? "--profile" := by
    simp [Separated.given?, profileOption, OptionSpec.name]
  rw [Given.path?, ← word, ← text]
  rfl

/-- By evaluation. -/
theorem runCommand_plain : runCommand.Plain := ⟨rfl, by decide⟩

/-- By evaluation. -/
theorem shouldRunCommand_plain : shouldRunCommand.Plain := ⟨rfl, by decide⟩

/-- The command `run` accepts its words and the profile that they name. Up to its check of the event
it has made a request with settings, and has come to some world. -/
structure Prepares (words : List String) (w : World) (sep : Separated) (r : RunRequest)
    (s : Settings) (v : World) : Prop where
  given : ∃ g, Command.run.Reads words w sep g ∧ r = .ofGiven g
  opened : ∃ u, setupLogging r.verbose r.quiet r.logFile w = (.ok (), u) ∧
    r.settings.run u = (.ok (.ok s), v)

/-- The words of a command told apart, and what the command is given by them, if it accepts them. -/
def Command.readWords? (c : Command) (words : List String) (w : World) : Option (Separated × Given) :=
  match separate c.spec.allOptions true words with
  | .error _ => none
  | .ok sep =>
    if sep.uses.all (·.option ≠ helpOption) then
      match (c.spec.read sep).run w with
      | (.ok (.ok g), _) => some (sep, g)
      | _ => none
    else none

/-- Each step of the reading has succeeded. -/
theorem Command.reads_of_readWords? (found : c.readWords? words w = some (sep, g)) :
    c.Reads words w sep g := by
  unfold readWords? at found
  rcases told : separate c.spec.allOptions true words with e | sep' <;> rw [told] at found
  · cases found
  dsimp only at found
  split at found
  · next unhelped =>
    rcases read : (c.spec.read sep').run w with ⟨f | e | g', w'⟩ <;> rw [read] at found <;> cases found
    obtain ⟨-, given⟩ := yields_of_keeps (read_keeps _ _) read
    exact ⟨told, by simpa using unhelped, given⟩
  · cases found

/-- The request and the settings that the command `run` has come to, if it accepts its words. -/
def prepared? (words : List String) (w : World) :
    Option (Separated × RunRequest × Settings × World) :=
  match Command.run.readWords? words w with
  | none => none
  | some (sep, g) =>
    let r := RunRequest.ofGiven g
    match setupLogging r.verbose r.quiet r.logFile w with
    | (.ok (), u) =>
      match r.settings.run u with
      | (.ok (.ok s), v) => some (sep, r, s, v)
      | _ => none
    | _ => none

/-- Each step of the preparation has succeeded. -/
theorem prepares_of_prepared? {r : RunRequest} {s : Settings}
    (found : prepared? words w = some (sep, r, s, v)) : Prepares words w sep r s v := by
  unfold prepared? at found
  rcases read : Command.run.readWords? words w with _ | ⟨sep', g⟩ <;> rw [read] at found
  · cases found
  dsimp only at found
  rcases opened : setupLogging (RunRequest.ofGiven g).verbose (RunRequest.ofGiven g).quiet
    (RunRequest.ofGiven g).logFile w with ⟨f | _, u⟩ <;> rw [opened] at found
  · cases found
  dsimp only at found
  rcases accepted : (RunRequest.ofGiven g).settings.run u with ⟨f | e | s', v'⟩ <;>
    rw [accepted] at found <;> cases found
  exact ⟨⟨g, Command.reads_of_readWords? read, rfl⟩, u, opened, accepted⟩

/-- The command `should-run` accepts its words and the profile that they name. -/
def Questions (words : List String) (w : World) (sep : Separated) (s : Settings) : Prop :=
  ∃ g v, Command.shouldRun.Reads words w sep g ∧
    (settingsOf (g.path? "--profile") []).run w = (.ok (.ok s), v)

/-- Why a text cannot be printed. -/
def printingDefect? (text : String) : Option String :=
  Text.encodingDefect? (fun _ => false) (Text.plain text)

/-- The world after a text was printed. -/
def printed (text : String) (w : World) : World := { w with stdout := w.stdout ++ Text.plain text }

/-- By whether the text can be encoded. -/
theorem stdout_run (text : String) (w : World) :
    stdout text w = match printingDefect? text with
      | some reason => (.error (.unencodable reason), w)
      | none => (.ok (), printed text w) := by
  unfold stdout printingDefect?
  cases Text.encodingDefect? (fun _ => false) (Text.plain text) <;> rfl

variable {r : RunRequest} {s : Settings} {t : Triggers}

/-- A run that was prepared goes on if its event admits that, and otherwise says that it does not. -/
theorem act_prepared (prepares : Prepares words w sep r s v) (known : s.triggers.given = .ok t) :
    act ("run" :: words) w =
      stoppable (answering runCommand.usage runCommand.hint
        (if r.event.admits t then makeRun r s
          else do
            stdout (skipText r.event s)
            return 0)) v := by
  obtain ⟨g, reads, rfl⟩ := prepares.given
  obtain ⟨u, opened, accepted⟩ := prepares.opened
  refine (act_reads reads).trans (stoppable_congr ?_)
  change (performRun _).run w = _
  rw [performRun, guarded_bind_run, lifted_run, opened]
  dsimp only [Except.map]
  rw [guarded_bind_run, accepted]
  dsimp only
  rw [guarded_bind_run, lifted_run, ofResult_run, known]
  rfl

/-- The question whether an event starts a run is answered by the exit code. -/
theorem act_question (questions : Questions words w sep s) (known : s.triggers.given = .ok t) :
    (act ("should-run" :: words) w).1 =
      .ok (if (sep.event w.environment).starts t then 0 else 1) := by
  obtain ⟨g, v, reads, accepted⟩ := questions
  have event := event_of_read (c := .shouldRun) shouldRunCommand_plain
    (fun o (among : o ∈ eventOptions true) => List.mem_append_right _ among) reads
  have performed : ((performShouldRun (g.path? "--profile") (.ofGiven g)).run w).1 =
      .ok (.ok (if (sep.event w.environment).starts t then 0 else 1)) := by
    rw [performShouldRun, guarded_bind_run, accepted]
    dsimp only
    rw [guarded_bind_run, lifted_run, ofResult_run, known, event]
    dsimp only [Except.map]
    have yes : printingDefect? "yes\n" = none := by decide
    have no : printingDefect? "no\n" = none := by decide
    split
    · rw [guarded_bind_run, lifted_run, stdout_run, yes]
      rfl
    · rw [guarded_bind_run, lifted_run, stdout_run, no]
      rfl
  rcases ended : (performShouldRun (g.path? "--profile") (.ofGiven g)).run w with ⟨answer, u⟩
  rw [ended] at performed
  dsimp only at performed
  subst performed
  exact congrArg Prod.fst ((act_reads reads).trans (stoppable_of_ok ended))

/-- What was done before the check of an event: the log file was opened, and records were written. -/
theorem Prepares.effects (prepares : Prepares words w sep r s v) :
    ∃ u, SetUp (LogsAt w r.logFile) w u ∧ Confined nowhere u v := by
  obtain ⟨u, opened, accepted⟩ := prepares.opened
  have kept : Guarded.Keeps (Confined nowhere) r.settings := by
    refine .bind (settingsOf_keeps (fun r => record_confined r) _ _) fun s => ?_
    split <;> exact .pure _
  have confined := kept u
  rw [accepted] at confined
  exact ⟨u, setupLogging_ok opened, confined⟩

/-- No option of a run overrides a trigger. -/
theorem overrides_spare (g : Given) :
    ∀ one ∈ (RunRequest.ofGiven g).overrides, Settings.sparesTriggers one.1 = true := by
  have all : ∀ pair ∈ overridingOptions, Settings.sparesTriggers pair.2 = true := by decide
  intro one among
  obtain ⟨pair, listed, rfl⟩ := List.mem_map.mp among
  exact all pair listed

/-- Both commands have the same triggers if they have the same profile. -/
theorem triggers_eq {askWords : List String} {asked : Separated} {s' : Settings}
    (prepares : Prepares words w sep r s v) (questions : Questions askWords w asked s')
    (same : sep.word? "--profile" = asked.word? "--profile") :
    ∃ t, s.triggers.given = .ok t ∧ s'.triggers.given = .ok t := by
  obtain ⟨g, reads, rfl⟩ := prepares.given
  obtain ⟨u, opened, accepted⟩ := prepares.opened
  obtain ⟨g', t, reads', accepted'⟩ := questions
  have profile : g.path? "--profile" = g'.path? "--profile" := by
    rw [profile_of_read (c := .run) runCommand_plain (.head _) reads,
      profile_of_read (c := .shouldRun) shouldRunCommand_plain (.head _) reads', same]
  obtain ⟨s0, u', settled, ended⟩ := ran_of_bind accepted
  have cacheOnly : s.triggers = s0.triggers := by
    split at ended <;> cases ended <;> rfl
  obtain ⟨p, homes, given, source⟩ := settingsOf_ok settled
  obtain ⟨p', homes', given', source'⟩ := settingsOf_ok accepted'
  obtain rfl : p = p' := by
    change g.path? "--profile" = none ∧ _ ∨ ∃ path, g.path? "--profile" = some path ∧ _ at source
    rw [profile] at source
    rcases source with ⟨none, rfl⟩ | ⟨path, some, loaded⟩ <;>
      rcases source' with ⟨none', rfl⟩ | ⟨path', some', loaded'⟩
    · rfl
    · cases none.symm.trans some'
    · cases some.symm.trans none'
    · cases some.symm.trans some'
      exact (Profile.load_same (fun _ => (setupLogging_ok opened).read) loaded' loaded).symm
  obtain ⟨s1, known, begun, triggers, held⟩ :=
    Settings.ofProfile_triggers (overrides_spare g) given
  obtain ⟨s1', known', begun', triggers', held'⟩ := Settings.ofProfile_triggers (by simp) given'
  cases begun.symm.trans begun'
  exact ⟨known, by rw [cacheOnly, triggers, held], by rw [triggers', held]⟩

/-- A run that did not start: nothing was done to the outside, and no file was changed but the log
file that was asked for. It ended well if what is said about it can be printed. -/
structure Skipped (w : World) (r : RunRequest) (text : String)
    (result : Except Fault Int × World) : Prop where
  ending : result.1 = match printingDefect? text with
    | none => .ok 0
    | some reason => .error (.unencodable reason)
  trail : result.2.trail = w.trail
  processes : result.2.processes = w.processes
  replies : result.2.replies = w.replies
  current : result.2.files.current = w.files.current
  nodes : ∀ location, ¬ LogsAt w r.logFile location →
    result.2.files.root.node? location = w.files.root.node? location

/-- The event is refused, so the run ends with the line that says so. -/
theorem skipped_of_prepared (prepares : Prepares words w sep r s v)
    (known : s.triggers.given = .ok t) (refused : r.event.admits t = false) :
    Skipped w r (skipText r.event s) (act ("run" :: words) w) := by
  obtain ⟨u, setUp, confined⟩ := prepares.effects
  have ran := act_prepared prepares known
  rw [refused, if_neg (by simp)] at ran
  have trail := confined.trail.trans setUp.trail
  have processes := confined.processes.trans setUp.processes
  have replies := confined.replies.trans setUp.replies
  have current := confined.current.trans setUp.current
  have nodes (location : Location) (outside : ¬ LogsAt w r.logFile location) :
      v.files.root.node? location = w.files.root.node? location :=
    (confined.nodes location id fun opened => outside (setUp.logs location opened)).trans
      (setUp.nodes location outside)
  rcases defect : printingDefect? (skipText r.event s) with _ | reason
  · have told : act ("run" :: words) w = (.ok 0, printed (skipText r.event s) v) := by
      refine ran.trans (stoppable_of_ok ?_)
      rw [guarded_bind_run, lifted_run, stdout_run, defect]
      rfl
    rw [told]
    exact ⟨by rw [defect], trail, processes, replies, current, nodes⟩
  · have told : act ("run" :: words) w = (.error (.unencodable reason), v) := by
      refine ran.trans (stoppable_of_error nofun ?_)
      rw [guarded_bind_run, lifted_run, stdout_run, defect]
      rfl
    rw [told]
    exact ⟨by rw [defect], trail, processes, replies, current, nodes⟩

/-- The commands `run` and `should-run` agree about every event that has a name, if they are given the
same profile and the same event: the run goes on, and the question is answered with zero, exactly if
the event is designated to start a run. A run that does not go on leaves everything as it is. -/
theorem act_starts_iff {askWords : List String} {asked : Separated} {s' : Settings}
    (prepares : Prepares words w sep r s v) (questions : Questions askWords w asked s')
    (same : ∀ name ∈ ["--profile", "--event", "--branch", "--base-branch"],
      sep.word? name = asked.word? name)
    (named : ∃ name, (sep.event w.environment).name = some name ∧ name ≠ "") :
    ∃ t, s.triggers.given = .ok t ∧ s'.triggers.given = .ok t ∧
      let e := sep.event w.environment
      (r.event.admits t = true ↔ e.Designated t) ∧
      ((act ("should-run" :: askWords) w).1 = .ok 0 ↔ e.Designated t) ∧
      (e.Designated t → act ("run" :: words) w =
        stoppable (answering runCommand.usage runCommand.hint (makeRun r s)) v) ∧
      (¬ e.Designated t → (act ("should-run" :: askWords) w).1 = .ok 1 ∧
        Skipped w r (skipText e s) (act ("run" :: words) w)) := by
  obtain ⟨t, known, known'⟩ := triggers_eq prepares questions (same _ (by simp))
  have event : r.event = sep.event w.environment := by
    obtain ⟨g, reads, rfl⟩ := prepares.given
    exact event_of_read (c := .run) runCommand_plain
      (fun o (among : o ∈ eventOptions false) => by simp [Command.spec, runCommand, among]) reads
  have askedEvent : asked.event w.environment = sep.event w.environment := by
    simp only [Separated.event, same "--event" (by simp), same "--branch" (by simp),
      same "--base-branch" (by simp)]
  have admits : r.event.admits t = true ↔ (sep.event w.environment).Designated t := by
    obtain ⟨name, given, present⟩ := named
    have there : Trigger.given (sep.event w.environment).name = some name :=
      Trigger.given_eq_some_iff.mpr ⟨given, present⟩
    rw [← TriggerEvent.starts_iff, event, TriggerEvent.admits, there]
    simp
  have answer := act_question questions known'
  rw [askedEvent] at answer
  refine ⟨t, known, known', admits, ?_, fun designated => ?_, fun undesignated => ⟨?_, ?_⟩⟩
  · rw [answer, ← TriggerEvent.starts_iff]
    split <;> simp_all
  · rw [act_prepared prepares known, if_pos (admits.mpr designated)]
  · rw [answer, if_neg (mt TriggerEvent.starts_iff.mp undesignated)]
  · rw [← event]
    exact skipped_of_prepared prepares known (by simpa using mt admits.mp undesignated)

/-- A world whose one file, a profile, designates one branch. -/
def developmentWorld : World := profileWorld "triggers:\n  branches: [dev]\n"

/-- The words for a push to that branch. -/
def developmentPush : List String :=
  ["--profile", "/p.yaml", "--event", "push", "--branch", "refs/heads/dev"]

/-- The words are understood by both commands alike, and the profile designates the branch. -/
theorem developmentPush_understood :
    (match prepared? developmentPush developmentWorld,
      Command.shouldRun.readWords? developmentPush developmentWorld with
    | some (sep, _, s, _), some (asked, g) =>
      match (settingsOf (g.path? "--profile") []).run developmentWorld with
      | (.ok (.ok _), _) =>
        let e := sep.event developmentWorld.environment
        e = ⟨some "push", some "refs/heads/dev", none⟩ &&
          (["--profile", "--event", "--branch", "--base-branch"].all fun name =>
            sep.word? name = asked.word? name) && s.triggers.given.toOption.any e.starts
      | _ => false
    | _, _ => false) = true := by
  decide +kernel

/-- A push to the branch that the profile designates starts a run. -/
theorem act_starts_iff_developmentPush :
    let w := developmentWorld
    ∃ sep r s v, Prepares developmentPush w sep r s v ∧
      sep.event w.environment = ⟨some "push", some "refs/heads/dev", none⟩ ∧
      (act ("should-run" :: developmentPush) w).1 = .ok 0 ∧
      act ("run" :: developmentPush) w =
        stoppable (answering runCommand.usage runCommand.hint (makeRun r s)) v := by
  intro w
  have evaluated := developmentPush_understood
  split at evaluated
  · next sep r s v asked g found read =>
    split at evaluated
    · next s' v' settled =>
      simp only [Bool.and_eq_true, decide_eq_true_eq, List.all_eq_true] at evaluated
      obtain ⟨⟨event, same⟩, starts⟩ := evaluated
      have prepares := prepares_of_prepared? found
      have questions : Questions developmentPush w asked s' :=
        ⟨g, v', Command.reads_of_readWords? read, settled⟩
      obtain ⟨t, known, -, -, answer, goesOn, -⟩ :=
        act_starts_iff prepares questions same ⟨"push", by rw [event], by decide⟩
      rw [known] at starts
      have designated := TriggerEvent.starts_iff.mp starts
      exact ⟨sep, r, s, v, prepares, event, answer.mpr designated, goesOn designated⟩
    · cases evaluated
  · cases evaluated

/-- The words for an event whose name holds half a pair. -/
def unprintableEvent : List String :=
  ["--event", "x" ++ String.singleton (Text.charOfEscape 0xDCFF)]

/-- By evaluation of both commands. -/
theorem unprintableEvent_answered :
    ((act ("should-run" :: unprintableEvent) (profileWorld "")).1 matches .ok 1) = true ∧
      ((act ("run" :: unprintableEvent) (profileWorld "")).1 matches .error (.unencodable _)) = true := by
  decide +kernel

/-- An event whose name holds half a pair starts no run, and what is said about it cannot be printed:
the run fails, although it was only to be skipped. -/
theorem act_run_unprintable :
    let w := profileWorld ""
    (act ("should-run" :: unprintableEvent) w).1 = .ok 1 ∧
      ∃ reason, (act ("run" :: unprintableEvent) w).1 = .error (.unencodable reason) := by
  intro w
  obtain ⟨asked, ran⟩ := unprintableEvent_answered
  refine ⟨?_, ?_⟩
  · split at asked
    · assumption
    · cases asked
  · split at ran
    · next reason ended => exact ⟨reason, ended⟩
    · cases ran

end Checks

end CommandLine

end BuildBench
