import BuildBench.Proofs.Cache.Saving
import BuildBench.Proofs.Timing.ReportFile

/-!
# What a report makes of a timing

When the external timing program exits with zero its report is read. Most of what cannot be read
only leaves the summary out: a report that is gone, no text, no document, or lacks what a summary
needs. `Spoils` lists what ends the timing in a fault even so: a document that nests too deep, one
that is no map or whose first result is none, and a whole number too large for a float where all
numbers before it can be read.
-/

namespace BuildBench

open BuildBench.Action

variable {w v : World} {dest goal : Location} {f : Fault}

/-- The content of the file at a location. -/
def Files.contentAt? (files : Files) (location : Location) : Option ByteArray :=
  match files.root.node? location with
  | some (.file content _) => some content
  | _ => none

namespace Timing

/-! ## Reading one after the other -/

section Sequence

variable {α β γ : Type}

/-- A value is handed on. -/
theorem given_bind (z : α) (next : α → Except Fault β) : (Except.ok z >>= next) = next z := rfl

/-- A fault stops what follows. -/
theorem error_bind (next : α → Except Fault β) : (Except.error f >>= next) = .error f := rfl

/-- The two have the same first step, and behind a value of it they fail alike. -/
theorem bind_error_congr {x : Except Fault α} {one : α → Except Fault β} {other : α → Except Fault γ}
    (alike : ∀ z, x = .ok z → (one z = .error f ↔ other z = .error f)) :
    (x >>= one) = .error f ↔ (x >>= other) = .error f := by
  rcases x with g | z
  · rw [error_bind, error_bind, Except.error.injEq, Except.error.injEq]
  · exact alike z rfl

/-- What is done with the value cannot fail. -/
theorem bind_pure_error_iff {x : Except Fault α} {last : α → β} :
    (x >>= fun z => pure (last z)) = .error f ↔ x = .error f := by
  rcases x with g | z
  · rw [error_bind, Except.error.injEq, Except.error.injEq]
  · exact ⟨nofun, nofun⟩

/-- Several results fail as the first one does that fails. -/
theorem mapM_error_iff {each : α → Except Fault β} {items : List α} :
    items.mapM each = .error f ↔
      ∃ before x after, items = before ++ x :: after ∧
        (∀ y ∈ before, ∃ z, each y = .ok z) ∧ each x = .error f := by
  induction items with
  | nil =>
    refine ⟨nofun, fun ⟨before, x, after, split, _⟩ => ?_⟩
    simp at split
  | cons x rest ih =>
    rw [List.mapM_cons]
    rcases first : each x with g | z
    · rw [error_bind, Except.error.injEq]
      refine ⟨fun same => ⟨[], x, rest, rfl, nofun, same ▸ first⟩, ?_⟩
      rintro ⟨before, x', after, split, read, failed⟩
      obtain ⟨rfl, same⟩ | ⟨more, rfl, -⟩ := List.cons_eq_append_iff.mp split
      · cases same
        exact Except.error.inj (first.symm.trans failed)
      · obtain ⟨z, held⟩ := read x List.mem_cons_self
        cases first.symm.trans held
    · rw [given_bind, bind_pure_error_iff, ih]
      constructor
      · rintro ⟨before, y, after, rfl, read, failed⟩
        exact ⟨x :: before, y, after, rfl, List.forall_mem_cons.mpr ⟨⟨z, first⟩, read⟩, failed⟩
      · rintro ⟨before, x', after, split, read, failed⟩
        obtain ⟨rfl, same⟩ | ⟨more, rfl, rfl⟩ := List.cons_eq_append_iff.mp split
        · cases same
          cases first.symm.trans failed
        · exact ⟨more, x', after, rfl, (List.forall_mem_cons.mp read).2, failed⟩

end Sequence

/-! ## Documents -/

variable {document result : Value} {entries r : List (Value × Value)}

/-- What is read as a float of one result, in order. What has to be there may be missing. -/
def numbers (r : List (Value × Value)) : List (Except Fault Value) :=
  [required r "mean",
    .ok (((member? "stddev" r).filter Value.isPresent).getD (.float 0.0)),
    (required r "mean").map ((member? "median" r).getD ·),
    required r "min",
    required r "max",
    .ok ((member? "user" r).getD (.float 0.0)),
    .ok ((member? "system" r).getD (.float 0.0))] ++
  match itemsOf ((member? "times" r).getD (.list [])) with
  | .ok items => items.map .ok
  | .error f => [.error f]

/-- A summary fails as the first of its numbers does. -/
theorem summaryOfResult_error_iff :
    summaryOfResult (.map r) = .error f ↔ (numbers r).mapM (· >>= floatOf) = .error f := by
  unfold summaryOfResult numbers
  rw [entriesOf]
  simp only [List.cons_append, List.nil_append, List.mapM_cons, bind_assoc, given_bind, pure_bind]
  refine bind_error_congr fun mean found => bind_error_congr fun _ _ =>
    bind_error_congr fun _ _ => ?_
  rw [found, Except.map, given_bind]
  refine bind_error_congr fun _ _ => bind_error_congr fun _ _ => bind_error_congr fun _ _ =>
    bind_error_congr fun _ _ => bind_error_congr fun _ _ => bind_error_congr fun _ _ =>
    bind_error_congr fun _ _ => ?_
  rw [bind_pure_error_iff]
  rcases itemsOf ((member? "times" r).getD (.list [])) with g | items <;> dsimp only
  · rw [List.mapM_cons, error_bind, error_bind, error_bind, Except.error.injEq, Except.error.injEq]
  · rw [given_bind, bind_pure_error_iff, List.mapM_map]
    rfl

/-- The results in a document are there, and this is the first of them. -/
def HasFirst (entries : List (Value × Value)) (first : Value) : Prop :=
  ∃ results, (member? "results" entries).filter Value.isPresent = some results ∧
    firstOf results = .ok first

/-- Of the numbers of a result the first that cannot be read is a whole number too large for a
float. -/
def IsTooLarge (r : List (Value × Value)) : Prop :=
  ∃ before i after, numbers r = before ++ .ok (.int i) :: after ∧
    (∀ n ∈ before, ∃ x, n >>= floatOf = .ok x) ∧ Decimal.ofInt? i = none

/-- Documents that do more than leave the summary out, and the faults that they end in. -/
inductive Strays : Value → Fault → Prop
  | noMap {document : Value} (other : ∀ entries, document ≠ .map entries) :
    Strays document .noSuchMember
  | noResult {entries : List (Value × Value)} {first : Value} (held : HasFirst entries first)
    (other : ∀ r, first ≠ .map r) : Strays (.map entries) .noSuchMember
  | tooLarge {entries r : List (Value × Value)} (held : HasFirst entries (.map r))
    (large : IsTooLarge r) : Strays (.map entries) .tooLarge

/-- By the kind of the value: a whole number is too large, and every other fault is one of the kinds
that are caught. -/
theorem floatOf_error {v : Value} (failed : floatOf v = .error f) :
    isUnusable f = true ∨ f = .tooLarge ∧ ∃ i, v = .int i ∧ Decimal.ofInt? i = none := by
  unfold floatOf at failed
  cases v with
  | int i =>
    rcases large : Decimal.ofInt? i with _ | x <;> simp only [large] at failed <;> cases failed
    exact .inr ⟨rfl, i, rfl, large⟩
  | text s =>
    rcases parsed : Decimal.parseFloat? s with _ | x <;> simp only [parsed] at failed <;>
      cases failed
    exact .inl rfl
  | _ => cases failed <;> exact .inl rfl

/-- A missing member is a fault that is caught. -/
theorem required_error {name : String} (failed : required r name = .error f) :
    isUnusable f = true := by
  unfold required at failed
  split at failed <;> cases failed
  rfl

/-- By the kind of the value. -/
theorem itemsOf_error {v : Value} (failed : itemsOf v = .error f) : isUnusable f = true := by
  cases v <;> cases failed <;> rfl

/-- What is missing among the numbers of a result only leaves the summary out. -/
theorem isUnusable_of_mem_numbers (among : .error f ∈ numbers r) : isUnusable f = true := by
  unfold numbers at among
  rcases List.mem_append.mp among with settled | listed
  · simp only [List.mem_cons, List.not_mem_nil, or_false, reduceCtorEq, false_or] at settled
    obtain mean | median | least | greatest := settled
    · exact required_error mean.symm
    · rcases held : required r "mean" with g | mean <;> rw [held] at median <;> cases median
      exact required_error held
    · exact required_error least.symm
    · exact required_error greatest.symm
  · rcases read : itemsOf ((member? "times" r).getD (.list [])) with g | items <;>
      rw [read] at listed
    · cases List.mem_singleton.mp listed
      exact itemsOf_error read
    · simp at listed

/-- By the kind of the results: text and lists that are present have a first element, and what
cannot be indexed gives a fault that is caught. -/
theorem firstOf_error {results : Value} (present : results.isPresent = true)
    (failed : firstOf results = .error f) : isUnusable f = true := by
  cases results with
  | text s =>
    -- A text without characters does not count as present.
    rcases cs : s.toList with _ | ⟨c, rest⟩
    · rw [String.toList_eq_nil_iff] at cs
      subst cs
      cases present
    · simp only [firstOf, cs] at failed
      cases failed
  | list items =>
    rcases items with _ | ⟨item, rest⟩
    · cases present
    · cases failed
  | _ =>
    cases failed
    all_goals rfl

/-- The summary of a result strays exactly over a number too large. -/
theorem summaryOfResult_strays :
    summaryOfResult (.map r) = .error f ∧ isUnusable f = false ↔ f = .tooLarge ∧ IsTooLarge r := by
  rw [summaryOfResult_error_iff, mapM_error_iff]
  constructor
  · rintro ⟨⟨before, n, after, split, read, failed⟩, strays⟩
    rcases n with g | v
    · cases failed
      have among : .error f ∈ numbers r := by simp [split]
      exact absurd (isUnusable_of_mem_numbers among) (by simp [strays])
    · obtain unusable | ⟨rfl, i, rfl, large⟩ := floatOf_error failed
      · exact absurd unusable (by simp [strays])
      · exact ⟨rfl, before, i, after, split, read, large⟩
  · rintro ⟨rfl, before, i, after, split, read, large⟩
    refine ⟨⟨before, .ok (.int i), after, split, read, ?_⟩, rfl⟩
    rw [given_bind, floatOf, large]

/-- By the kind of the value. -/
theorem entriesOf_error {v : Value} (other : ∀ entries, v ≠ .map entries) :
    entriesOf v = .error .noSuchMember := by
  cases v with
  | map entries => exact absurd rfl (other entries)
  | _ => rfl

/-- The result is asked for its entries first. -/
theorem summaryOfResult_noMap (other : ∀ r, result ≠ .map r) :
    summaryOfResult result = .error .noSuchMember := by
  rw [summaryOfResult, entriesOf_error other]
  rfl

/-- The first result is found, and the summary is made of it. -/
theorem HasFirst.summaryOfExport {first : Value} (held : HasFirst entries first) :
    summaryOfExport (.map entries) = summaryOfResult first := by
  obtain ⟨results, listed, first⟩ := held
  rw [Timing.summaryOfExport, entriesOf, given_bind, listed]
  dsimp only
  rw [first, given_bind]

/-- The summary of a document strays in the ways that are listed, and in no other. -/
theorem summaryOfExport_strays :
    summaryOfExport document = .error f ∧ isUnusable f = false ↔ Strays document f := by
  constructor
  · rintro ⟨failed, strays⟩
    by_cases map : ∃ entries, document = .map entries
    · obtain ⟨entries, rfl⟩ := map
      rcases listed : (member? "results" entries).filter Value.isPresent with _ | results
      · rw [summaryOfExport, entriesOf, given_bind, listed] at failed
        cases failed
        cases strays
      rcases chosen : firstOf results with g | first
      · rw [summaryOfExport, entriesOf, given_bind, listed] at failed
        dsimp only at failed
        rw [chosen, error_bind] at failed
        cases failed
        have unusable := firstOf_error (Option.filter_eq_some_iff.mp listed).2 chosen
        exact absurd unusable (by simp [strays])
      have held : HasFirst entries first := ⟨results, listed, chosen⟩
      rw [held.summaryOfExport] at failed
      by_cases map : ∃ r, first = .map r
      · obtain ⟨r, rfl⟩ := map
        obtain ⟨rfl, large⟩ := summaryOfResult_strays.mp ⟨failed, strays⟩
        exact .tooLarge held large
      · rw [summaryOfResult_noMap (fun r same => map ⟨r, same⟩)] at failed
        cases failed
        exact .noResult held fun r same => map ⟨r, same⟩
    · rw [summaryOfExport, entriesOf_error (fun entries same => map ⟨entries, same⟩)] at failed
      cases failed
      exact .noMap fun entries same => map ⟨entries, same⟩
  · intro strays
    cases strays with
    | noMap other => exact ⟨by rw [summaryOfExport, entriesOf_error other]; rfl, rfl⟩
    | noResult held other => exact ⟨held.summaryOfExport.trans (summaryOfResult_noMap other), rfl⟩
    | tooLarge held large =>
      rw [held.summaryOfExport]
      exact summaryOfResult_strays.mpr ⟨rfl, large⟩

/-! ## Reports -/

variable {report : PathName} {content : Option ByteArray} {s : TimingSummary}

/-- The text of a report. -/
def Tells (content : ByteArray) (text : String) : Prop :=
  ∃ s, Text.decode content = .ok s ∧ text = String.ofList (Text.plainNewlines s.toList)

/-- What a report is read as. It has no content when it was deleted. -/
def reading (report : PathName) : Option ByteArray → Except Fault TimingSummary
  | none => .error (Disk.systemFault report .notFound)
  | some content =>
    match Text.decode content with
    | .error reason => .error (.undecodable reason)
    | .ok s => readDocument (String.ofList (Text.plainNewlines s.toList)) >>= summaryOfExport

/-- The contents of a report that end a timing, and the faults that they end it in. -/
inductive Spoils : Option ByteArray → Fault → Prop
  | nested {content : ByteArray} {text : String} {part : Json.Nested} (tells : Tells content text)
    (parsed : Json.parse text = .error (.nestedTooDeep part)) :
    Spoils (some content) (readFault text (.nestedTooDeep part))
  | document {content : ByteArray} {text : String} {document : Value} {f : Fault}
    (tells : Tells content text) (parsed : Json.parse text = .ok document)
    (strays : Strays document f) : Spoils (some content) f

/-- The content of a report holds a summary. -/
def HoldsSummary (content : Option ByteArray) (s : TimingSummary) : Prop :=
  ∃ bytes text document, content = some bytes ∧ Tells bytes text ∧
    Json.parse text = .ok document ∧ summaryOfExport document = .ok s

/-- Both ways by what the file holds: bytes, a text, a value, and the figures of its first result.
-/
theorem reading_ok_iff : reading report content = .ok s ↔ HoldsSummary content s := by
  constructor
  · intro read
    rcases content with _ | bytes
    · cases read
    rcases decoded : Text.decode bytes with reason | t <;> simp only [reading, decoded] at read
    · cases read
    · rcases parsed : Json.parse (String.ofList (Text.plainNewlines t.toList)) with e | document <;>
        rw [readDocument, parsed] at read
      · cases read
      · exact ⟨bytes, _, document, rfl, ⟨t, decoded, rfl⟩, parsed, read⟩
  · rintro ⟨bytes, _, document, rfl, ⟨t, decoded, rfl⟩, parsed, told⟩
    simp only [reading, decoded, readDocument, parsed]
    exact told

/-- A fault that is not caught arises in the ways listed, each at its own step of the reading, and
at no other step. -/
theorem reading_strays (report : PathName) :
    reading report content = .error f ∧ isUnusable f = false ↔ Spoils content f := by
  constructor
  · rintro ⟨failed, strays⟩
    rcases content with _ | bytes
    · cases failed
      cases strays
    rcases decoded : Text.decode bytes with reason | t <;> simp only [reading, decoded] at failed
    · cases failed
      cases strays
    · rcases parsed : Json.parse (String.ofList (Text.plainNewlines t.toList)) with e | document <;>
        rw [readDocument, parsed] at failed
      · cases failed
        cases e with
        | nestedTooDeep part => exact .nested ⟨t, decoded, rfl⟩ parsed
        | _ => cases strays
      · exact .document ⟨t, decoded, rfl⟩ parsed (summaryOfExport_strays.mp ⟨failed, strays⟩)
  · intro spoils
    cases spoils with
    | nested tells parsed =>
      obtain ⟨t, decoded, rfl⟩ := tells
      simp only [reading, decoded, readDocument, parsed]
      exact ⟨rfl, rfl⟩
    | document tells parsed strays =>
      obtain ⟨t, decoded, rfl⟩ := tells
      simp only [reading, decoded, readDocument, parsed]
      exact summaryOfExport_strays.mpr strays

/-- What a timing does with what its report is read as. -/
def received : Except Fault TimingSummary → Except Fault (Option TimingSummary)
  | .ok s => .ok (some s)
  | .error f => if isUnusable f then .ok none else .error f

/-- A fault of reading is handed on exactly if it is none of those caught. -/
theorem received_error_iff (report : PathName) :
    received (reading report content) = .error f ↔ Spoils content f := by
  rw [← reading_strays report]
  rcases reading report content with g | s
  · rw [received, Except.error.injEq]
    split
    · next unusable =>
      refine ⟨nofun, ?_⟩
      rintro ⟨rfl, strays⟩
      cases unusable.symm.trans strays
    · next other =>
      rw [Except.error.injEq]
      refine ⟨?_, fun both => both.1⟩
      rintro rfl
      exact ⟨rfl, by simpa using other⟩
  · exact ⟨nofun, nofun⟩

/-- A summary is received exactly if one was read. -/
theorem received_ok {r : Except Fault TimingSummary} {summary : Option TimingSummary}
    (ended : received r = .ok summary) : summary = some s ↔ r = .ok s := by
  rcases r with g | s'
  · rw [received] at ended
    split at ended <;> cases ended
    exact ⟨nofun, nofun⟩
  · cases ended
    rw [Option.some.injEq, Except.ok.injEq]

/-- A file, or nothing, is read as its content. -/
theorem read_eq_contentAt? {files : Files} {path : PathName} (leads : files.Leads true path goal)
    (plain : ∀ kind, files.root.kind? goal = some kind → kind = .file) :
    files.read path = (match files.contentAt? goal with
      | some content => .ok content
      | none => .error .notFound) := by
  rw [Files.read, Files.lookUp, leads.place]
  rcases held : files.root.at? goal with _ | e
  · simp only [Files.contentAt?, Folder.node?, held]
    rfl
  · have kind := plain e.node.kind (by simp [Folder.kind?, Folder.node?, held])
    cases e with
    | file content executable =>
      simp only [Files.contentAt?, Folder.node?, held]
      rfl
    | _ => cases kind

/-- A report is read where its name leads to. -/
theorem readReport_received (named : Disk.isName report = true)
    (leads : w.files.Leads true report goal)
    (plain : ∀ kind, w.files.root.kind? goal = some kind → kind = .file) :
    (readReport report w).1 = received (reading report (w.files.contentAt? goal)) := by
  have caught (f : Fault) : ((if isUnusable f then do
        log .warning "bench.hyperfine" ("Could not parse hyperfine export: " ++ f.message)
        return none
      else throw f : Action (Option TimingSummary)) w).1 = received (.error f) := by
    rw [received]
    split <;> rfl
  rw [readReport]
  rw [tryCatch_run, bind_run, Disk.readText_run named, read_eq_contentAt? leads plain]
  rcases w.files.contentAt? goal with _ | content
  · exact caught _
  dsimp only
  rw [reading]
  rcases Text.decode content with reason | s
  · exact caught _
  dsimp only
  rw [bind_run, ofResult_run]
  rcases readDocument (String.ofList (Text.plainNewlines s.toList)) with f | document
  · exact caught _
  rw [given_bind]
  dsimp only
  rw [bind_run, ofResult_run]
  rcases summaryOfExport document with f | s
  · exact caught _
  · rfl

/-! ## The whole measurement -/

variable {command warmup runs : Value} {argv : List String}

/-- What a timing gives by the content of its report: the fault that spoils it, or else what the
program printed, and the summary in the report if there is one. -/
structure Gives (content : Option ByteArray) (printed : String)
    (ended : Except Fault (Option TimingSummary × String)) : Prop where
  fails : ∀ f, ended = .error f ↔ Spoils content f
  answers : ∀ summary output, ended = .ok (summary, output) →
    output = printed ∧ ∀ s, summary = some s ↔ HoldsSummary content s

/-- By whether reading the report fails with a fault that is not caught. -/
theorem gives_of_received (report : PathName) (printed : String) :
    Gives content printed ((received (reading report content)).map (·, printed)) := by
  rcases told : received (reading report content) with g | summary <;> rw [Except.map]
  · refine ⟨fun f => ?_, nofun⟩
    rw [← received_error_iff report, told, Except.error.injEq, Except.error.injEq]
  · refine ⟨fun f => ?_, fun _ _ answered => ?_⟩
    · rw [← received_error_iff report, told]
      exact ⟨nofun, nofun⟩
    · cases answered
      exact ⟨rfl, fun s => (received_ok told).trans reading_ok_iff⟩

/-- What changes a content is an open log there, and there is none. -/
theorem contentAt?_of_logged (logged : Logged w v) (unlogged : .file goal ∉ w.handlers) :
    v.files.contentAt? goal = w.files.contentAt? goal := by
  obtain same | ⟨_, _, _, opened, -⟩ := logged.sameAt goal
  · rw [Files.contentAt?, same, Files.contentAt?]
  · exact absurd opened unlogged

/-- When the process that times a command exits with zero, the content of its report decides what the
whole timing gives. -/
theorem measureExternally_gives (room : w.HasRoom dest)
    (unlogged : .file (dest ++ [w.reportName]) ∉ w.handlers)
    (written : timerWords command w.reportPath warmup runs = .ok argv)
    (success : w.processes.next.1.exit? .null = some 0) (folder : PathName) (env : Environment) :
    let o := w.processes.next.1
    let ended := measureExternally command folder env warmup runs w
    ∃ output before, o.stdout.read = .ok output ∧
      before.Offers w.temporary dest w.reportName ∧
      Enacted w [.process (timed folder env argv) .null o before] ended.2 ∧
      (before.ReportsOnly w.temporary dest w.reportName (o.leaves argv .null before) →
        Gives ((o.leaves argv .null before).contentAt? (dest ++ [w.reportName])) output
          ended.1) := by
  intro o ended
  obtain ⟨c, known, exited⟩ := Option.map_eq_some_iff.mp success
  obtain ⟨t, p, r, q, host, -, offers, after, left, times, enacted, leaves⟩ :=
    measureExternally_timed room written folder env
  refine ⟨c.stdout, t.files, Outcome.stdout_of_end known, offers, enacted, fun reports => ?_⟩
  have offered : p.files.Offers w.temporary dest w.reportName := left ▸ reports.toOffers
  rw [(leaves (times.logged.offers offered)).1, ← left]
  cases times with
  | @reported d u ended _ logged =>
    obtain rfl : d = c := Option.some.inj (ended.symm.trans known)
    have offered := logged.offers offered
    have unlinked : ∀ text, u.files.root.kind? (dest ++ [w.reportName]) ≠ some (.link text) :=
      fun text link => by cases offered.plain _ link
    have leads := (room.leads offered.opens).followed unlinked
    have closed : .file (dest ++ [w.reportName]) ∉ p.handlers :=
      fun opened => unlogged ((host.trans after).logs _ opened)
    rw [readReport_received room.named leads offered.plain, contentAt?_of_logged logged closed]
    exact gives_of_received w.reportPath d.stdout
  | @failed d ended fails =>
    obtain rfl : d = c := Option.some.inj (ended.symm.trans known)
    exact absurd exited fails
  | unreadable launch unread =>
    rw [Outcome.end_of_started _ launch, unread] at known
    cases known
  | notFound launch | refused launch | interrupted launch =>
    simp [Outcome.end?, launch] at known

/-- The export is an empty list, which has no member to ask for. -/
theorem measureExternally_gives_list :
    let o : Outcome := { stdout := "r", report := some "[]".toUTF8 }
    let argv := ["hyperfine", "--export-json", "/tmp/binbench-hyperfine-XXXXXXXX.json", "x"]
    let ended := measureExternally (.text "x") (.parse "/") [] .null .null (lab o)
    timerWords (.text "x") (lab o).reportPath .null .null = .ok argv ∧
      (lab o).HasRoom ["tmp"] ∧ .file ["tmp", (lab o).reportName] ∉ (lab o).handlers ∧
      o.exit? .null = some 0 ∧ ∃ before,
        before.ReportsOnly (lab o).temporary ["tmp"] (lab o).reportName
          (o.leaves argv .null before) ∧
        Gives ((o.leaves argv .null before).contentAt? ["tmp", (lab o).reportName]) "r" ended.1 := by
  intro o argv ended
  have written : timerWords (.text "x") (lab o).reportPath .null .null = .ok argv := rfl
  obtain ⟨_, before, printed, offers, -, gives⟩ :=
    measureExternally_gives (lab_hasRoom o) nofun written rfl (.parse "/") []
  cases printed
  have reports := lab_reports rfl rfl offers
  exact ⟨written, lab_hasRoom o, nofun, rfl, before, reports, gives reports⟩

/-- The program exits with zero and reports an empty list, and the timing ends in a fault. -/
theorem measureExternally_fails_on_list :
    let o : Outcome := { stdout := "r", report := some "[]".toUTF8 }
    o.exit? .null = some 0 ∧
      (measureExternally (.text "x") (.parse "/") [] .null .null (lab o)).1 = .error .noSuchMember :=
  ⟨rfl, by rfl⟩

end Timing

end BuildBench
