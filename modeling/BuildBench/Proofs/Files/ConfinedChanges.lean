import BuildBench.Proofs.Files.FreshCopies
import BuildBench.Proofs.Files.WayOfName
import BuildBench.Proofs.Logging.Records

/-!
# Changes in some places

An action that works on files leaves most of them as they are. `Confined` relates two worlds that
differ, as far as files are concerned, in some places only; elsewhere open log files may have become
longer. It holds of records in no place at all, and of every change of files in the places where the
files changed.
-/

namespace BuildBench

open BuildBench.Action

variable {α : Type} {places wider : Location → Prop} {w u v : World}

/-- Two worlds whose files differ in some places. Open log files elsewhere may have become longer. -/
structure Confined (places : Location → Prop) (w v : World) : Prop extends Untouched w v where
  unique : v.unique = w.unique
  current : v.files.current = w.files.current
  kinds : ∀ location, ¬ places location →
    v.files.root.kind? location = w.files.root.kind? location
  nodes : ∀ location, ¬ places location → .file location ∉ w.handlers →
    v.files.root.node? location = w.files.root.node? location
  tidy : w.files.Tidy → v.files.Tidy

/-- No place. -/
def nowhere : Location → Prop := fun _ => False

namespace Confined

/-- What is outside of more places is outside of fewer. -/
theorem mono (confined : Confined places w v) (includes : ∀ l, places l → wider l) :
    Confined wider w v :=
  ⟨confined.toUntouched, confined.unique, confined.current,
    fun l outside => confined.kinds l fun inside => outside (includes l inside),
    fun l outside => confined.nodes l fun inside => outside (includes l inside), confined.tidy⟩

instance : Law (Confined places) where
  refl w := ⟨Law.refl w, rfl, rfl, fun _ _ => rfl, fun _ _ _ => rfl, id⟩
  trans first second :=
    ⟨Law.trans first.toUntouched second.toUntouched, second.unique.trans first.unique,
      second.current.trans first.current,
      fun l outside => (second.kinds l outside).trans (first.kinds l outside),
      fun l outside closed => (second.nodes l outside fun opened =>
        closed (first.logs l opened)).trans (first.nodes l outside closed),
      second.tidy ∘ first.tidy⟩

/-- Nothing changed. -/
theorem refl (places : Location → Prop) (w : World) : Confined places w w := Law.refl w

/-- Outside of the places nothing changed in either step. -/
theorem trans (first : Confined places w u) (second : Confined places u v) : Confined places w v :=
  Law.trans first second

end Confined

/-! ## Records -/

/-- What is added to a file is put back under the same name. -/
theorem emit_tidy (r : Record) (w : World) (handler : Handler) (tidy : w.files.Tidy) :
    (emit r w handler).files.Tidy := by
  cases handler with
  | journal => exact tidy
  | console least =>
    simp only [emit]
    split <;> exact tidy
  | file location =>
    simp only [emit, appendAt]
    split
    · next held => exact Folder.tidy_put tidy (.file _ _) (Folder.tidy_at? tidy held).2
    · exact tidy

/-- A record takes nothing away and makes nothing new. -/
theorem Logged.kind_eq (logged : Logged w v) (location : Location) :
    v.files.root.kind? location = w.files.root.kind? location := by
  rcases before : w.files.root.kind? location with _ | kind
  · rcases after : v.files.root.kind? location with _ | kind
    · rfl
    · rw [logged.fresh _ _ after] at before
      cases before
  · exact logged.kinds _ _ before

/-- What is at a location is the same, or it is an open log file that became longer. -/
def SameAt (location : Location) (w v : World) : Prop :=
  v.files.root.node? location = w.files.root.node? location ∨
    ∃ content added executable, .file location ∈ w.handlers ∧
      w.files.root.node? location = some (.file content executable) ∧
      v.files.root.node? location = some (.file (content ++ added) executable)

/-- By what stands there: a file may have become longer if it is an open log. -/
theorem Logged.sameAt (logged : Logged w v) (location : Location) : SameAt location w v := by
  have kinds := logged.kind_eq location
  rcases held : w.files.root.node? location with _ | n
  · refine .inl ?_
    rw [held, Folder.node?_eq_none, kinds, ← Folder.node?_eq_none]
    exact held
  · cases n with
    | file content executable =>
      obtain ⟨added, found, rfl | opened⟩ := logged.contents _ _ _ held
      · exact .inl (by rw [found, held, ByteArray.append_empty])
      · exact .inr ⟨content, added, executable, opened, held, found⟩
    | link text =>
      have link : v.files.root.kind? location = some (.link text) := by
        rw [kinds, Folder.kind?, held]
        rfl
      have there := Folder.at?_of_kind?_link link
      exact .inl (by rw [held]; simp [Folder.node?, there, Entry.node])
    | folder =>
      have folder : v.files.root.kind? location = some .folder := by
        rw [kinds, Folder.kind?, held]
        rfl
      exact .inl (by rw [held, Folder.kind?_eq_folder_iff.mp folder])

/-- What is not an open log file is the same after records. -/
theorem Logged.node_eq (logged : Logged w v) {location : Location}
    (closed : .file location ∉ w.handlers) :
    v.files.root.node? location = w.files.root.node? location := by
  rcases logged.sameAt location with same | ⟨content, added, executable, opened, -⟩
  · exact same
  · exact absurd opened closed

/-- Handlers use up no name. -/
theorem emit_unique (r : Record) (w : World) (handler : Handler) :
    (emit r w handler).unique = w.unique := by
  cases handler with
  | console least =>
    simp only [emit]
    split <;> rfl
  | _ => rfl

/-- All that a handler changes is an open log file. -/
theorem emit_confined (r : Record) {handler : Handler} (opened : handler ∈ w.handlers) :
    Confined nowhere w (emit r w handler) := by
  have logged := emit_logged r opened
  exact ⟨logged.toUntouched, emit_unique r w handler, logged.current,
    fun location _ => logged.kind_eq location,
    fun location _ => logged.node_eq, emit_tidy r w handler⟩

/-- Records change nothing in any place. -/
theorem record_confined {F : Fault → Prop} (r : Record) :
    Keeps (Confined nowhere) F (record r) :=
  record_keeps r fun _ _ opened => emit_confined r opened

/-- A record cannot fail. -/
theorem log_run (level : Level) (part text : String) (w : World) :
    log level part text w = (.ok (), (log level part text w).2) := rfl

/-- A line of the log is a record. -/
theorem log_confined (level : Level) (part text : String) (w : World) :
    Confined nowhere w (log level part text w).2 :=
  (record_confined (F := fun _ => False) _ w).1

/-! ## Changes of files -/

/-- The places at and below a location. -/
def beneath (location : Location) : Location → Prop := fun other => location <+: other

/-- What stands outside of the places is seen as before. -/
theorem confined_of_nodes {files : Files} (current : files.current = w.files.current)
    (nodes : ∀ location, ¬ places location →
      files.root.node? location = w.files.root.node? location)
    (tidy : w.files.Tidy → files.Tidy) : Confined places w (w.withFiles files) where
  toUntouched := withFiles_untouched w files
  unique := rfl
  current := current
  kinds location outside := by
    rw [Folder.kind?, World.withFiles, nodes location outside]
    rfl
  nodes location outside _ := nodes location outside
  tidy := tidy

/-- The change was at a location and below it. -/
theorem withFiles_confined {location : Location} {files : Files}
    (within : Files.Within location w.files files) :
    Confined (beneath location) w (w.withFiles files) :=
  confined_of_nodes within.current within.nodes within.tidy

end BuildBench
