import BuildBench.Run.Basic

/-!
# Where failures of a stage come from

A fault is the failure of a stage only if an action of a stage says so. The operations on values,
texts, paths and samples know nothing of stages: whatever they refuse, they refuse with a fault of
another kind. `Plain` says this of a result, and the lemmas go along the definitions, from the
smallest operation to those that the actions use.
-/

namespace BuildBench

variable {α β : Type}

/-- Whether a fault is the failure of a stage. -/
def Fault.isStage : Fault → Bool
  | .stage _ => true
  | _ => false

/-- A result that is not the failure of a stage. -/
def Plain (r : Except Fault α) : Prop := ∀ f, r = .error f → f.isStage = false

namespace Plain

/-- A value is no fault at all. -/
@[grind .]
theorem ok (x : α) : Plain (.ok x) := by
  intro f failed
  cases failed

/-- A value that is given back is no fault either. -/
@[grind .]
theorem pure (x : α) : Plain (pure x) := ok x

/-- A fault that is none of a stage. -/
@[grind ←]
theorem error {f : Fault} (other : f.isStage = false) : Plain (.error f : Except Fault α) := by
  intro g failed
  cases failed
  exact other

/-- One computation after the other fails with a fault of one of them. -/
@[grind ←]
theorem bind {r : Except Fault α} {next : α → Except Fault β} (first : Plain r)
    (second : ∀ x, Plain (next x)) : Plain (r >>= next) := by
  cases r with
  | error f => exact error (first f rfl)
  | ok x => exact second x

/-- A change of the value leaves the fault as it is. -/
@[grind ←]
theorem map {r : Except Fault α} {change : α → β} (plain : Plain r) : Plain (r.map change) := by
  cases r with
  | error f => exact error (plain f rfl)
  | ok x => exact ok _

/-- If no renamed fault is a stage's, it does not matter what the faults were before. -/
theorem mapError {ε : Type} {r : Except ε α} {change : ε → Fault}
    (other : ∀ e, (change e).isStage = false) : Plain (r.mapError change) := by
  cases r with
  | error e => exact error (other e)
  | ok x => exact ok _

/-- Each item may be the one whose fault is told; by induction on the items. -/
theorem mapM {items : List α} {each : α → Except Fault β} (plain : ∀ x, Plain (each x)) :
    Plain (items.mapM each) := by
  induction items with
  | nil => exact pure _
  | cons x rest ih =>
    rw [List.mapM_cons]
    exact bind (plain x) fun _ => bind ih fun _ => pure _

end Plain

attribute [local grind =] Fault.isStage

/-! ## Texts and values -/

namespace Text.Template

/-- Whatever is wrong with a template is said as an invalid value. -/
@[grind .]
theorem fail_plain (reason : String) : Plain (fail reason : Except Fault α) := .error rfl

/-- A number that is too long for a template is an invalid value. -/
@[grind .]
theorem leadingNumber_plain (cs : List Char) : Plain (leadingNumber cs) := by
  unfold leadingNumber
  grind

/-- Two signs for grouping are an invalid value. -/
@[grind .]
theorem groupingOf_plain (cs : List Char) : Plain (groupingOf cs) := by
  unfold groupingOf
  grind

/-- A point without a number behind it is an invalid value. -/
@[grind .]
theorem precisionOf_plain (cs : List Char) : Plain (precisionOf cs) := by
  unfold precisionOf
  grind

/-- All parts of a layout are read by functions that fail with invalid values only. -/
@[grind .]
theorem parse_plain (purpose : Purpose) (spec : List Char) : Plain (Layout.parse purpose spec) := by
  unfold Layout.parse
  grind

/-- Padding fails at most for a width that no text can have. -/
@[grind .]
theorem pad_plain (layout : Layout) (sign body : List Char) : Plain (layout.pad sign body) := by
  unfold Layout.pad
  grind

/-- A text is cut and padded; what has no meaning for texts is refused as an invalid value. -/
theorem apply_plain (layout : Layout) (s : String) : Plain (layout.apply s) := by
  unfold Layout.apply
  grind

/-- A layout is read first and applied then. -/
@[grind .]
theorem layOut_plain (spec : List Char) (s : String) : Plain (layOut spec s) := by
  unfold layOut
  split
  · exact .ok s
  · exact .bind (parse_plain _ _) fun layout => apply_plain layout s

/-- The digits are there already, so only the padding can fail. -/
@[grind .]
theorem applyNumeral_plain (layout : Layout) (sign : List Char) (numeral : Numeral) :
    Plain (layout.applyNumeral sign numeral) := by
  unfold Layout.applyNumeral
  grind

/-- The float that a whole number is laid out as may be too large, which is no failure of a stage.
-/
@[grind .]
theorem applyFloat_plain (layout : Layout) (i : Int) : Plain (layout.applyFloat i) := by
  unfold Layout.applyFloat
  grind

/-- A number that belongs to no character is too large. -/
@[grind .]
theorem applyCharacter_plain (layout : Layout) (i : Int) : Plain (layout.applyCharacter i) := by
  unfold Layout.applyCharacter
  grind

/-- A number is laid out by its kind, and each kind is covered by a lemma above. -/
theorem applyNumber_plain (layout : Layout) (typeName : String) (i : Int) :
    Plain (layout.applyNumber typeName i) := by
  unfold Layout.applyNumber Layout.applyBase
  grind

/-- A layout for a number is read first and applied then. -/
@[grind .]
theorem layOutNumber_plain (spec : List Char) (typeName : String) (i : Int) :
    Plain (layOutNumber spec typeName i) :=
  .bind (parse_plain _ _) fun layout => applyNumber_plain layout typeName i

end Text.Template

namespace Inspection.Subject

/-- What is not found is told as a missing member. -/
@[grind .]
theorem orNoMember_plain (s : Option Subject) : Plain (orNoMember s) := by
  unfold orNoMember
  grind

/-- A member is found, or it is missing. -/
@[grind .]
theorem member_plain (s : Subject) (name : String) : Plain (s.member name) := by
  unfold member classMember
  grind

/-- An item is missing, out of bounds, or of the wrong type; a stage has none of these faults. -/
@[grind .]
theorem item_plain (s : Subject) (index : Index) : Plain (s.item index) := by
  unfold item heldItem itemAt
  grind

end Inspection.Subject

namespace Text.Template

/-- A position that is too large is an invalid value. -/
@[grind .]
theorem position_plain (cs : List Char) : Plain (position? cs) := by
  unfold position?
  grind

/-- An unknown conversion is an invalid value. -/
@[grind .]
theorem convert_plain (conversion : Option Char) (s : Inspection.Subject) :
    Plain (convert conversion s) := by
  unfold convert
  grind

/-- What cannot be laid out says so by its type; all else is a text or a number. -/
@[grind .]
theorem layOutSubject_plain (spec : List Char) (s : Inspection.Subject) :
    Plain (layOutSubject spec s) := by
  unfold layOutSubject
  grind

/-- Fields with and without numbers in one template are an invalid value. -/
@[grind .]
theorem next_plain (numbering : Numbering) (unnamed : Bool) : Plain (numbering.next unnamed) := by
  unfold Numbering.next
  grind

/-- By induction on the accesses that are left: each looks up a member or an item. -/
@[grind .]
theorem follow_plain (fuel : Nat) (cs : List Char) (s : Inspection.Subject) :
    Plain (follow fuel cs s) := by
  fun_induction follow fuel cs s <;> grind

/-- A name leads to a field, and the accesses behind it lead on from there. -/
@[grind .]
theorem lookUp_plain (fields : Fields) (numbering : Numbering) (name : List Char) :
    Plain (lookUp fields numbering name) := by
  unfold lookUp
  grind

/-- By recursion on the characters: a field that does not end is an invalid value. -/
@[grind .]
theorem fieldName_plain (name : List Char) (bracketed : Bool) (cs : List Char) :
    Plain (fieldName name bracketed cs) := by
  fun_induction fieldName name bracketed cs <;> grind

/-- By recursion on the characters: braces that do not match are an invalid value. -/
@[grind .]
theorem fieldLayout_plain (spec : List Char) (depth : Nat) (cs : List Char) :
    Plain (fieldLayout spec depth cs) := by
  fun_induction fieldLayout spec depth cs <;> grind

/-- A field is its name, its conversion and its layout, one after the other. -/
@[grind .]
theorem readField_plain (cs : List Char) : Plain (readField cs) := by
  unfold readField
  grind

/-- By induction on the fuel: a template is cut at its fields, and each of them is looked up and
laid out. -/
theorem expandWith_plain (fields : Fields)
    (expandSpec : Numbering → List Char → Except Fault (String × Numbering))
    (inner : ∀ numbering spec, Plain (expandSpec numbering spec)) (fuel : Nat)
    (numbering : Numbering) (cs : List Char) :
    Plain (expandWith fields expandSpec fuel numbering cs) := by
  fun_induction expandWith fields expandSpec fuel numbering cs <;> grind

/-- Expanding a template fails with no failure of a stage. Layouts nest twice at most, so the rule
for one level is used three times. -/
theorem expand_plain (template : String) (fields : Fields) : Plain (expand template fields) := by
  have deepest : ∀ numbering spec, Plain (tooDeep numbering spec) := fun _ _ => fail_plain _
  refine .bind (expandWith_plain _ _ (fun numbering spec => ?_) _ _ _) fun _ => .pure _
  exact expandWith_plain _ _ deepest _ _ _

end Text.Template

/-- A number of very many digits is the only value without a text. -/
theorem Value.textOf_plain (v : Value) : Plain v.textOf := by
  refine .map ?_
  unfold Value.shown tooLongNumber
  grind

/-- A section that is a text has no fields: a missing member. -/
theorem Section.given_plain (sec : Section α) : Plain sec.given := by
  cases sec with
  | settings s => exact .ok s
  | replaced => exact .error rfl

/-- A path that is no text is of the wrong type. -/
theorem pathSetting_plain (v : Value) : Plain (pathSetting v) := by
  unfold pathSetting
  grind

/-- Quotes that do not match are an invalid value, and a value that is no text has no words. -/
theorem Command.words_plain (command : Value) : Plain (Command.words command) := by
  unfold Command.words Text.splitWords
  split
  · exact .ok []
  · exact .mapError fun _ => rfl
  · exact .mapM Value.textOf_plain
  · exact .error rfl

/-! ## Path names and files -/

/-- A name is faulty by its characters or its length. -/
theorem nameFault_plain {name : String} {f : Fault} (found : nameFault? name = some f) :
    f.isStage = false := by
  unfold nameFault? at found
  grind

/-- A home folder that is not known is the only thing that can be missing. -/
theorem Homes.replaceTilde_plain (homes : Homes) (p : PathName) :
    Plain (homes.replaceTilde p) := by
  have user : ∀ name, Plain (homes.ofUser name) := by
    intro name
    unfold Homes.ofUser
    split
    · next found => exact .error (nameFault_plain found)
    · split
      · exact .ok _
      · exact .error rfl
  unfold Homes.replaceTilde
  grind

/-- The path of the artifact is a path setting in which a tilde may be replaced. -/
theorem Settings.artifactPath_plain (s : Settings) (homes : Homes) :
    Plain (s.artifactPath homes) :=
  .bind (Section.given_plain _) fun _ => .bind (pathSetting_plain _) fun _ =>
    .bind (homes.replaceTilde_plain _) fun _ => .pure _

/-- Links that lead in a circle are told by the system. -/
theorem Files.realPath_plain (files : Files) (p : PathName) : Plain (files.realPath p) := by
  unfold Files.realPath
  grind

/-- Every selector asks about files, so what it reports is a fault of the system. -/
theorem Files.select_plain (files : Files) (foldersOnly : Bool) (selectors : List Selector)
    (base : PathName) : Plain (files.select foldersOnly selectors base) := by
  have asked : ∀ (r : Except SystemError Bool) path, Plain (r.mapError (failure path)) :=
    fun _ _ => .mapError fun _ => rfl
  induction selectors generalizing base with
  | nil => exact .ok _
  | cons selector rest ih =>
    unfold Files.select
    have continued : ∀ (found : Bool) path,
        Plain (if found then files.select foldersOnly rest path else pure []) := by
      intro found path
      cases found with
      | true => exact ih path
      | false => exact .pure _
    cases selector with
    | exact name =>
      refine .bind ?_ fun found => continued found _
      dsimp only
      split <;> exact asked _ _
    | wildcard items =>
      refine .bind (.mapM fun name => ?_) fun _ => .pure _
      dsimp only
      split
      · split
        · exact .bind (asked _ _) fun found => continued found _
        · exact continued true _
      · exact .pure _
    | deep => exact .bind (.mapM fun _ => ih _) fun _ => .pure _

/-- The base is asked whether it is a folder, and then the selectors go on from it. -/
theorem Files.glob_plain (files : Files) (base : PathName) (pattern : Pattern) :
    Plain (files.glob base pattern) := by
  refine .bind (.mapError fun _ => rfl) fun isFolder => ?_
  split
  · exact Files.select_plain _ _ _ _
  · exact .pure _

/-! ## Settings of the cache -/

namespace Cache

/-- A pattern that no path can match is an invalid value. -/
theorem patternOf_plain (v : Value) : Plain (patternOf v) := by
  have parsed : ∀ s, Plain (Pattern.parse s) := by
    intro s
    have selector : ∀ component, Plain (Selector.parse component) := by
      intro component
      unfold Selector.parse
      grind
    have selectors : ∀ parts : List String, Plain (parts.mapM Selector.parse) :=
      fun _ => .mapM selector
    unfold Pattern.parse
    simp only [throw, throwThe, MonadExceptOf.throw]
    grind
  unfold patternOf
  grind

/-- A key is put together from texts, and only the start of it may be no text. -/
theorem key_plain (label : String) (start : Value) (digest : String) :
    Plain (key label start digest) :=
  .bind start.textOf_plain fun _ => .pure _

/-- A path of the cache is a path setting with a tilde that may be replaced. -/
theorem place_plain (homes : Homes) (path : Value) (workdir : PathName) :
    Plain (place homes path workdir) :=
  .bind (pathSetting_plain _) fun _ => .bind (homes.replaceTilde_plain _) fun _ => .pure _

end Cache

/-! ## Checkouts and installation -/

namespace Checkout

/-- An argument fails only for a number of very many digits. -/
theorem arguments_plain (args : List Value) : Plain (arguments args) := by
  refine .mapM fun v => ?_
  grind

/-- The depth is the only argument that is written out as a number. -/
theorem depthOption_plain (depth : Value) : Plain (depthOption depth) :=
  .bind depth.textOf_plain fun _ => .pure _

/-- Which script is run depends on values that are asked whether they are there and match a pattern.
-/
theorem script_plain (repo : Value) (folder : PathName) (ref depth : Value) (isCheckout : Bool) :
    Plain (script repo folder ref depth isCheckout) := by
  unfold script
  grind

end Checkout

/-! ## Processes -/

/-- Why a process is not started is never told as a failure of a stage. -/
theorem Refusal.fault_isStage (program : String) (reason : Refusal) :
    (reason.fault program).isStage = false := by
  cases reason <;> rfl

namespace Program

/-- Only a time that cannot be counted, or that is no number at all, cannot be waited for. -/
theorem runsOut_error {limit : Value} {wall : Float} {f : Fault}
    (unwaited : runsOut limit wall = .error f) :
    f = .wrongType ∨ f = .tooLarge ∨ ∃ text, f = .invalid text := by
  unfold runsOut at unwaited
  split at unwaited
  · cases unwaited
  split at unwaited
  · exact .inl (Except.error.inj unwaited).symm
  · next found =>
    obtain rfl := Except.error.inj unwaited
    unfold waitFault? at found
    grind
  · cases unwaited

/-- A limit that cannot be waited for is told by the interpreter. -/
theorem runsOut_plain (limit : Value) (wall : Float) : Plain (runsOut limit wall) := by
  intro f unwaited
  rcases runsOut_error unwaited with rfl | rfl | ⟨text, rfl⟩ <;> rfl

/-- What is known of a process that has ended is what can be read of its streams. -/
theorem completed_eq_ok {o : Outcome} {p : Completed} :
    completed o = .ok p ↔
      p.exitCode = o.exitCode ∧ o.stdout.read = .ok p.stdout ∧ o.stderr.read = .ok p.stderr := by
  unfold completed
  rcases o.stdout.read with f | s
  · simp [bind, Except.bind]
  rcases o.stderr.read with f | t
  · simp [bind, Except.bind]
  cases p
  simp [bind, Except.bind, pure, Except.pure, eq_comm]

/-- A process that has ended can only be unknown because it wrote what is no text. -/
theorem completed_cases (o : Outcome) :
    (∃ p, completed o = .ok p) ∨ ∃ reason, completed o = .error (.undecodable reason) := by
  have read (written : Written) :
      (∃ s, written.read = .ok s) ∨ ∃ reason, written.read = .error (.undecodable reason) := by
    cases written with
    | text s => exact .inl ⟨s, rfl⟩
    | bytes data =>
      unfold Written.read
      dsimp only
      split
      · exact .inl ⟨_, rfl⟩
      · exact .inr ⟨_, rfl⟩
  unfold completed
  rcases read o.stdout with ⟨s, first⟩ | ⟨reason, first⟩ <;> rw [first]
  · rcases read o.stderr with ⟨t, second⟩ | ⟨reason, second⟩ <;> rw [second]
    · exact .inl ⟨_, rfl⟩
    · exact .inr ⟨_, rfl⟩
  · exact .inr ⟨_, rfl⟩

/-- What is no text is told as such, and not as a failure of a stage. -/
theorem completed_plain (o : Outcome) : Plain (completed o) := by
  rcases completed_cases o with ⟨p, read⟩ | ⟨reason, read⟩ <;> rw [read]
  · exact .ok p
  · exact .error rfl

end Program

/-- A command is a template, or it is no text at all. -/
theorem Installation.installCommand_plain (install : InstallSettings) (package : Value) :
    Plain (installCommand install package) := by
  unfold installCommand
  split
  · exact Text.Template.expand_plain _ _
  · exact .error rfl

/-- A search path that is no text cannot be searched. -/
theorem Disk.searchPathText_plain (v : Value) : Plain (searchPathText v) := by
  unfold searchPathText
  grind

/-- A benchmark command that is no text has no fields to be filled. -/
theorem Measurement.templateText_plain (v : Value) : Plain (templateText v) := by
  unfold templateText
  grind

/-! ## Downloads -/

namespace Fixture

/-- A host in brackets that is none is an invalid value. -/
theorem address_plain (address : String) : Plain (Url.fileName address) := by
  have bracketed : ∀ host, Plain (Url.checkBracketed host) := by
    intro host
    unfold Url.checkBracketed
    grind
  have hosts : ∀ host, Plain (Url.checkHost host) := by
    intro host
    unfold Url.checkHost Url.checkInside Url.badBrackets
    grind
  have misleading : ∀ host, Plain (Url.checkMisleading host) := by
    intro host
    unfold Url.checkMisleading
    grind
  refine .map ?_
  unfold Url.path
  grind

/-- An address without a name in it is told as a failure only by whoever fetches it. -/
theorem fileName_plain (url : Value) : Plain (fileName url) := by
  unfold fileName
  split
  · exact address_plain _
  · split
    · exact address_plain _
    · exact .error rfl
  · split
    · exact .error rfl
    · exact .ok _

/-- A digest that is no text has no lower case. -/
theorem expectedDigest_plain (v : Value) : Plain (expectedDigest v) := by
  unfold expectedDigest
  grind

end Fixture

/-! ## Samples and timings -/

namespace Statistics

/-- A float that is none of the numbers cannot be rounded to a whole one. -/
@[grind .]
theorem wholeNext_plain (round : Rat → Int) (x : Float) : Plain (wholeNext round x) := by
  unfold wholeNext
  grind

/-- A position beyond the list is told as such. -/
@[grind .]
theorem valueAt_plain (xs : List Float) (i : Int) : Plain (valueAt xs i) := by
  unfold valueAt
  grind

/-- A percentile is put together from two values of the list. -/
@[grind .]
theorem percentile_plain (empty : Float) (xs : List Float) (p : Float) :
    Plain (percentile empty xs p) := by
  unfold percentile
  simp only [Arithmetic.floor, Arithmetic.ceiling]
  grind

/-- A summary is made of percentiles, and of sums that cannot fail. -/
theorem summarise_plain (empty : Float) (xs : List Float) : Plain (summarise empty xs) := by
  unfold summarise
  grind

/-- A description is a summary and a deviation. -/
theorem describe_plain (xs : List Float) : Plain (describe xs) := by
  have deviated : Plain (deviation (Arithmetic.ascending xs)) := by
    unfold deviation
    grind
  have summarised := summarise_plain Decimal.notANumber xs
  unfold describe
  grind

end Statistics

namespace Timing

/-- An option is a name and a value that is shown as a text. -/
theorem optionWords_plain (name : String) (v : Value) : Plain (optionWords name v) := by
  have text := v.textOf_plain
  unfold optionWords
  grind

/-- The words of the program that times a command are its options and the command. -/
theorem timerCommand_plain (command : Value) (report : Option PathName) (warmup runs : Value)
    (program : String) : Plain (timerCommand command report warmup runs program) :=
  .bind (optionWords_plain _ _) fun _ => .bind (optionWords_plain _ _) fun _ => .pure _

/-- A count that is no number cannot be counted to. -/
theorem countOf_plain (default : Int) (v : Value) : Plain (countOf default v) := by
  unfold countOf
  grind

/-- Repetitions are described, and that is all that can fail. -/
theorem summaryOf_plain (command : Value) (measured : List Repetition) :
    Plain (summaryOf command measured) :=
  .bind (Statistics.describe_plain _) fun _ => .pure _

/-- A summary is laid out by its numbers, none of which is asked for its stage. -/
theorem layOut_plain (s : TimingSummary) (index : Int) : Plain (layOut s index) := by
  refine .bind (.bind ?_ fun _ => .pure _) fun _ => .pure _
  unfold Statistics.outliers
  grind

/-- A text that is no document is told by where it goes wrong. -/
theorem readDocument_plain (text : String) : Plain (readDocument text) :=
  .mapError fun e => by cases e <;> rfl

/-- What is no number has no float. -/
theorem floatOf_plain (v : Value) : Plain (floatOf v) := by
  unfold floatOf
  grind

/-- A name that is not among the entries is missing. -/
theorem required_plain (entries : List (Value × Value)) (name : String) :
    Plain (required entries name) := by
  unfold required
  grind

/-- What is no map has no entries. -/
theorem entriesOf_plain (v : Value) : Plain (entriesOf v) := by
  unfold entriesOf
  grind

/-- A result is read entry by entry. -/
theorem summaryOfResult_plain (result : Value) : Plain (summaryOfResult result) := by
  have items : ∀ v, Plain (itemsOf v) := by
    intro v
    unfold itemsOf
    grind
  have number : ∀ r name, Plain (required r name >>= floatOf) :=
    fun r name => .bind (required_plain r name) floatOf_plain
  exact .bind (entriesOf_plain _) fun r => .bind (required_plain r _) fun mean =>
    .bind (floatOf_plain mean) fun _ => .bind (floatOf_plain _) fun _ =>
    .bind (floatOf_plain _) fun _ => .bind (number r _) fun _ => .bind (number r _) fun _ =>
    .bind (floatOf_plain _) fun _ => .bind (floatOf_plain _) fun _ => .bind (items _) fun _ =>
    .bind (.mapM floatOf_plain) fun _ => .pure _

/-- An exported document has a list of results, of which the first is read. -/
theorem summaryOfExport_plain (document : Value) : Plain (summaryOfExport document) := by
  have first : ∀ v, Plain (firstOf v) := by
    intro v
    unfold firstOf
    grind
  refine .bind (entriesOf_plain _) fun entries => ?_
  split
  · exact .error rfl
  · exact .bind (first _) summaryOfResult_plain

end Timing

end BuildBench
