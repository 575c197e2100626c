import BuildBench.Proofs.Cache.Saving
import BuildBench.Proofs.Files.OneLeafChanges
import BuildBench.Proofs.Files.RealPath
import BuildBench.Settings.Findings

/-!
# How a download ends

A download sends one request, unless its address names no file. The answer is stored whole in one
file of the folder, and what is not whole, or does not have the digest that is wanted, is taken away
again. So a download that fails as a stage leaves nothing in its place, or has changed no file at
all.

A download fails in another way than as a stage on four occasions only: the address names no file,
the name cannot be that of a file, what stands in its place can neither be written nor be taken away,
or the digest that is wanted is no text.
-/

namespace BuildBench

open BuildBench.Action

/-! ## Taking away what may be missing -/

namespace Disk

/-- A file that is missing is no failure here. All else is that of unlinking. -/
theorem unlinkIfThere_cases {path : PathName} (named : isName path) (w : World) :
    (∃ files, w.files.unlink path = .ok files ∧
        unlinkIfThere path w = (.ok (), w.withFiles files)) ∨
      (w.files.unlink path = .error .notFound ∧ unlinkIfThere path w = (.ok (), w)) ∨
      ∃ e, w.files.unlink path = .error e ∧ e ≠ .notFound ∧
        unlinkIfThere path w = (.error (systemFault path e), w) := by
  unfold unlinkIfThere unlink
  rcases done : w.files.unlink path with e | files
  · have failed : change path (·.unlink path) w = (.error (systemFault path e), w) := by
      rw [change, bind_run, requireName_run named]
      simp only [bind_run, get_run, done, throw_run]
    rw [tryCatch_run, failed]
    cases e with
    | notFound => exact .inr (.inl ⟨rfl, rfl⟩)
    | _ => exact .inr (.inr ⟨_, rfl, by decide, rfl⟩)
  · rw [tryCatch_run, change_run named done]
    exact .inl ⟨files, rfl, rfl⟩

/-- Where a file is found, it or the link that leads to it is taken away. -/
theorem unlinkIfThere_file {path : PathName} {content : ByteArray} {executable : Bool} {w : World}
    (named : isName path) (found : w.files.lookUp path = .ok (.file content executable)) :
    ∃ v, unlinkIfThere path w = (.ok (), v) ∧ v.files.IsVacant path := by
  obtain ⟨changed, unlinked⟩ := Files.unlinks_file found
  obtain ⟨files, done, ran⟩ | ⟨none, -⟩ | ⟨e, refused, -⟩ := unlinkIfThere_cases named w
  · exact ⟨_, ran, Files.vacant_of_unlink done⟩
  · rw [unlinked] at none
    cases none
  · rw [unlinked] at refused
    cases refused

end Disk

/-- A file that was written is found, and can be written again. -/
theorem Files.found_of_write {files changed : Files} {path : PathName} {content : ByteArray}
    (written : files.write path content = .ok changed) :
    ∃ executable, changed.lookUp path = .ok (.file content executable) := by
  obtain ⟨location, executable, leads, closed, rfl⟩ := write_ok written
  exact ⟨executable, lookUp_put_file leads closed⟩

/-- A file that is found can be written again. -/
theorem Files.write_found {files : Files} {path : PathName} {content : ByteArray}
    {executable : Bool} (found : files.lookUp path = .ok (.file content executable))
    (next : ByteArray) : ∃ changed, files.write path next = .ok changed := by
  obtain ⟨goal, leads, held⟩ := lookUp_eq_file_iff.mp found
  rw [write, leads.place, held]
  exact ⟨_, rfl⟩

section Write

variable {path : PathName} {w : World}

/-- The name is checked before the files are looked at. -/
theorem Disk.write_unusable {f : Fault} (unusable : nameFault? path.display = some f)
    (content : ByteArray) : write path content w = (.error f, w) := by
  rw [write, change, bind_run, requireName, unusable]
  rfl

/-- A refusal of the files is told as a fault of the system. -/
theorem Disk.write_refused {content : ByteArray} {refusal : SystemError} (named : isName path)
    (refused : w.files.write path content = .error refusal) :
    write path content w = (.error (systemFault path refusal), w) := by
  rw [write, change, bind_run, requireName_run named]
  simp only [bind_run, get_run, refused, throw_run]

/-- A file that was written can be written again. -/
theorem Disk.write_again {files : Files} {content : ByteArray} (named : isName path)
    (written : files.write path content = .ok w.files) (next : ByteArray) :
    ∃ changed executable, write path next w = (.ok (), w.withFiles changed) ∧
      changed.lookUp path = .ok (.file next executable) := by
  obtain ⟨_, found⟩ := Files.found_of_write written
  obtain ⟨changed, again⟩ := Files.write_found found next
  obtain ⟨executable, found⟩ := Files.found_of_write again
  exact ⟨changed, executable, change_run named again, found⟩

end Write

/-- The body of an answer that is a success. -/
def Reply.body? : Reply → Option Fixture.Body
  | .answer status chunks cut => if Fixture.isSuccess status then some ⟨chunks, cut⟩ else none
  | .refused _ _ => none

namespace Fixture

variable {url sha256 : Value} {folder target : PathName} {body : Body} {w v : World}

/-! ## Storing -/

/-- How storing a body ends, and the world after it. -/
inductive Stores (target : PathName) (body : Body) (w : World) : Except Fault Unit → World → Prop
  | unusable {f : Fault} (unusable : nameFault? target.display = some f) :
    Stores target body w (.error f) w
  | stuck {refusal e : SystemError} (named : Disk.isName target)
    (refused : w.files.write target ByteArray.empty = .error refusal)
    (kept : w.files.unlink target = .error e) (there : e ≠ .notFound) :
    Stores target body w (.error (Disk.systemFault target e)) w
  | missing {refusal : SystemError} {message : String} (named : Disk.isName target)
    (refused : w.files.write target ByteArray.empty = .error refusal)
    (absent : w.files.unlink target = .error .notFound) :
    Stores target body w (.error (failure message)) w
  | cleared {refusal : SystemError} {message : String} {files : Files}
    (named : Disk.isName target)
    (refused : w.files.write target ByteArray.empty = .error refusal)
    (unlinked : w.files.unlink target = .ok files) :
    Stores target body w (.error (failure message)) (w.withFiles files)
  | cut {changed : Files} {message : String} {v : World} (named : Disk.isName target)
    (written : w.files.write target ByteArray.empty = .ok changed) (cut : body.cut ≠ none)
    (vacant : v.files.IsVacant target) : Stores target body w (.error (failure message)) v
  | stored {changed : Files} {executable : Bool} {v : World} (named : Disk.isName target)
    (written : w.files.write target ByteArray.empty = .ok changed) (uncut : body.cut = none)
    (found : v.files.lookUp target = .ok (.file body.content executable)) :
    Stores target body w (.ok ()) v

/-- By whether the name can be used and whether the file can be written. What could not be written
is unlinked. -/
theorem store_stores (url : Value) (target : PathName) (body : Body) (w : World) :
    Stores target body w (store url target body w).1 (store url target body w).2 := by
  unfold store
  rw [bind_run, tryCatch_run]
  rcases usable : nameFault? target.display with _ | f
  · have named : Disk.isName target := by simp [Disk.isName, usable]
    rcases written : w.files.write target ByteArray.empty with refusal | changed
    · have outside : (Disk.systemFault target refusal).isOutside = true := rfl
      rw [Disk.write_refused named written]
      simp only [outside, if_true]
      rw [bind_run]
      obtain ⟨files, unlinked, ran⟩ | ⟨absent, ran⟩ | ⟨e, kept, there, ran⟩ :=
        Disk.unlinkIfThere_cases named w <;> rw [ran]
      · exact .cleared named written unlinked
      · exact .missing named written absent
      · exact .stuck named written kept there
    · have opened : Disk.write target ByteArray.empty w = (.ok (), w.withFiles changed) :=
        Disk.change_run named written
      rw [opened]
      dsimp only
      rw [bind_run, note_run]
      dsimp only
      obtain ⟨again, executable, filled, found⟩ := @Disk.write_again target
        (noted (.readBody chunkSize) (w.withFiles changed)) _ _ named written body.content
      rw [bind_run, filled]
      dsimp only
      rcases cut : body.cut with _ | ⟨problem, text⟩
      · exact .stored named written cut found
      · obtain ⟨v, ran, vacant⟩ := Disk.unlinkIfThere_file
          (w := (noted (.readBody chunkSize) (w.withFiles changed)).withFiles again) named found
        dsimp only
        rw [bind_run, ran]
        exact .cut named written (by simp [cut]) vacant
  · rw [Disk.write_unusable usable]
    have inside : f.isOutside = false := by
      have invalid := isInvalidValue_of_nameFault? usable
      cases f <;> first | rfl | cases invalid
    dsimp only
    rw [inside, if_neg Bool.false_ne_true]
    exact .unusable usable

/-! ## The digest -/

/-- The fault with which a digest that is wanted cannot be read. -/
def digestFault? : Value → Option Fault
  | .null => none
  | v =>
    match expectedDigest v with
    | .error f => some f
    | .ok _ => none

/-- A digest that is no text is of the wrong type. -/
theorem digestFault_plain {f : Fault} (unread : digestFault? sha256 = some f) :
    f.isStage = false := by
  unfold digestFault? at unread
  split at unread
  · cases unread
  · rcases read : expectedDigest sha256 with g | expected <;> rw [read] at unread <;> cases unread
    exact expectedDigest_plain _ _ read

/-- How checking the digest of a stored body ends, and the world after it. -/
inductive Verifies (sha256 : Value) (target : PathName) (body : Body) (w : World) :
    Except Fault Unit → World → Prop
  | undigested {f : Fault} (unread : digestFault? sha256 = some f) :
    Verifies sha256 target body w (.error f) w
  | mismatched {message : String} {v : World} (read : digestFault? sha256 = none)
    (vacant : v.files.IsVacant target) :
    Verifies sha256 target body w (.error (failure message)) v
  | verified (wanted : hasDigest sha256 body.content)
    (read : digestFault? sha256 = none) :
    Verifies sha256 target body w (.ok ()) w

/-- Without a wanted digest nothing is checked. With another one than that of the body the file is
taken away, which it can be, because it is there. -/
theorem verify_verifies {executable : Bool} (sha256 : Value) (named : Disk.isName target)
    (found : w.files.lookUp target = .ok (.file body.content executable)) :
    Verifies sha256 target body w (verify sha256 target body w).1
      (verify sha256 target body w).2 := by
  unfold verify
  split
  · exact .verified rfl rfl
  · next given =>
    rcases read : expectedDigest sha256 with f | expected
    · exact .undigested (by simp [digestFault?, read])
    · have readable : digestFault? sha256 = none := by simp [digestFault?, read]
      rw [ofResult_ok_bind]
      split
      · next same =>
        exact .verified (by simp only [hasDigest, read, same, beq_self_eq_true]) readable
      · obtain ⟨v, ran, vacant⟩ := Disk.unlinkIfThere_file named found
        rw [bind_run, ran]
        exact .mismatched readable vacant

/-! ## The answer -/

/-- The world after a request was sent. -/
def asked (url timeout : Value) (w : World) : World :=
  { noted (.request url timeout userAgent) w with replies := w.replies.next.2 }

/-- The request stands on the trail and takes the next reply. -/
theorem asked_enacted (url timeout : Value) (w : World) :
    Enacted w [.download url w.replies.next.1 w.files] (asked url timeout w) :=
  ⟨⟨rfl, rfl, rfl, fun _ opened => opened⟩,
    [⟨.event (.request url timeout userAgent), w.files⟩], rfl, trivial, fun _ _ => rfl⟩

/-- A request gives the body of a success, and fails as a stage otherwise. -/
theorem request_run (url timeout : Value) (w : World) :
    (∃ body, w.replies.next.1.body? = some body ∧
        request url timeout w = (.ok body, asked url timeout w)) ∨
      w.replies.next.1.body? = none ∧ ∃ message,
        request url timeout w = (.error (failure message), asked url timeout w) := by
  unfold request asked
  simp only [bind_run, note_run, get_run, set_run]
  rcases replied : w.replies.next.1 with ⟨status, chunks, cut⟩ | ⟨_ | _ | _, text⟩ <;>
    simp only [noted, replied, Reply.body?]
  · by_cases success : isSuccess status
    · rw [if_pos success, if_pos success]
      exact .inl ⟨_, rfl, rfl⟩
    · rw [if_neg success, if_neg success]
      exact .inr ⟨rfl, _, rfl⟩
  all_goals exact .inr ⟨trivial, _, rfl⟩

/-! ## Faults of no stage -/

/-- The fault, other than one of the stage, with which a body is not kept: the name of its file is no
path name, what stands there can neither be written nor taken away, or the digest that is wanted is
no text. -/
def strayFault? (sha256 : Value) (target : PathName) (body : Body) (files : Files) : Option Fault :=
  match nameFault? target.display with
  | some f => some f
  | none =>
    match files.write target ByteArray.empty, files.unlink target with
    | .error _, .error .notFound => none
    | .error _, .error e => some (.system e target.display)
    | .error _, .ok _ => none
    | .ok _, _ =>
      if body.cut.isSome then none else digestFault? sha256

/-- A name is one exactly if it has no fault. -/
theorem unusable_none {path : PathName} (named : Disk.isName path) :
    nameFault? path.display = none := by
  simpa [Disk.isName] using named

/-- How keeping a body ends: it is kept, it fails as a stage and leaves nothing or all as it was, or
it fails otherwise. -/
inductive Ends (target : PathName) (w : World) (stray : Option Fault) :
    Except Fault PathName → World → Prop
  | kept {v : World} (expected : stray = none) : Ends target w stray (.ok target) v
  | failed {message : String} {v : World} (expected : stray = none)
    (clean : v = w ∨ v.files.IsVacant target) : Ends target w stray (.error (failure message)) v
  | strayed {f : Fault} {v : World} (expected : stray = some f) (other : f.isStage = false) :
    Ends target w stray (.error f) v

/-- By how storing ended, and then by how checking did. -/
theorem keep_ends (url sha256 : Value) (target : PathName) (body : Body) (w : World) :
    Ends target w (strayFault? sha256 target body w.files) (keep url sha256 target body w).1
      (keep url sha256 target body w).2 := by
  have stores := store_stores url target body w
  unfold keep
  rcases stored : store url target body w with ⟨f | x, u⟩ <;> rw [stored] at stores <;>
    rw [bind_run, stored] <;> dsimp only at stores ⊢
  · cases stores with
    | unusable unusable =>
      exact .strayed (by simp only [strayFault?, unusable]) (nameFault_plain unusable)
    | @stuck refusal e named refused kept there =>
      refine .strayed ?_ rfl
      cases e <;> first
        | exact absurd rfl there
        | simp only [strayFault?, unusable_none named, refused, kept, Disk.systemFault]
    | missing named refused absent =>
      exact .failed (by simp only [strayFault?, unusable_none named, refused, absent]) (.inl rfl)
    | cleared named refused unlinked =>
      exact .failed (by simp only [strayFault?, unusable_none named, refused, unlinked])
        (.inr (Files.vacant_of_unlink unlinked))
    | cut named written cut vacant =>
      exact .failed (by simp [strayFault?, unusable_none named, written, Option.isSome_iff_ne_none,
        cut]) (.inr vacant)
  · cases stores with
    | stored named written uncut found =>
      have verifies := verify_verifies sha256 named found
      have same : strayFault? sha256 target body w.files = digestFault? sha256 := by
        simp [strayFault?, unusable_none named, written, uncut]
      rw [bind_run]
      rcases verified : verify sha256 target body u with ⟨f | x, t⟩ <;>
        rw [verified] at verifies <;> dsimp only at verifies ⊢
      · cases verifies with
        | undigested unread => exact .strayed (same.trans unread) (digestFault_plain unread)
        | mismatched read vacant => exact .failed (same.trans read) (.inr vacant)
      · cases verifies with
        | verified wanted read =>
          rw [bind_run, log_run]
          exact .kept (same.trans read)

/-! ## The whole download -/

/-- The world after a download was announced. -/
def announced (url : Value) (w : World) : World :=
  (log .info "fixture" ("Fetching fixture " ++ url.display) w).2

/-- A download whose address names a file sends its request and goes on with the body of a success. -/
theorem fetch_run {name : String} (named : fileName url = .ok name) (folder : PathName)
    (timeout sha256 : Value) (w : World) :
    (∃ body, (announced url w).replies.next.1.body? = some body ∧
        fetch url folder timeout sha256 w =
          keep url sha256 (folder.join (.parse name)) body (asked url timeout (announced url w))) ∨
      (announced url w).replies.next.1.body? = none ∧ ∃ message,
        fetch url folder timeout sha256 w =
          (.error (failure message), asked url timeout (announced url w)) := by
  have records : log .info "fixture" ("Fetching fixture " ++ url.display) w =
      (.ok (), announced url w) := log_run _ _ _ _
  unfold fetch
  rw [named, ofResult_ok_bind, bind_run, records]
  dsimp only
  rw [bind_run]
  obtain ⟨body, answered, ran⟩ | ⟨refused, message, ran⟩ :=
    request_run url timeout (announced url w) <;> rw [ran]
  · exact .inl ⟨body, answered, rfl⟩
  · exact .inr ⟨refused, message, rfl⟩

/-- The announcement is a record. -/
theorem announced_logged (url : Value) (w : World) : Logged w (announced url w) :=
  (log_onlyLogs _ _ _ w).1

/-- A download whose address names a file sends exactly one request. -/
theorem fetch_enacted {name : String} (named : fileName url = .ok name) (folder : PathName)
    (timeout sha256 : Value) (w : World) :
    Enacted w [.download url (announced url w).replies.next.1 (announced url w).files]
      (fetch url folder timeout sha256 w).2 := by
  have requested := (announced_logged url w).idle.trans (asked_enacted url timeout _)
  obtain ⟨body, -, ran⟩ | ⟨-, message, ran⟩ := fetch_run named folder timeout sha256 w
  · rw [ran]
    exact requested.trans (keep_idle url sha256 _ body _).1
  · rw [ran]
    exact requested

/-- A download whose address names no file fails with what is wrong about the address. Any other sends
one request; it then fails as a stage, or with the fault that the state of the file in its place and
the digest that is wanted lead to, or gives the file. -/
theorem fetch_ends (url : Value) (folder : PathName) (timeout sha256 : Value) :
    (fetch url folder timeout sha256).Enacts fun w ds r _ =>
      (∃ f, fileName url = .error f ∧ ds = [] ∧ r = .error f ∧ f.isStage = false) ∨
        ∃ name reply u, fileName url = .ok name ∧ ds = [.download url reply u.files] ∧
          Logged w u ∧
          match reply.body? with
          | none => ∃ message, r = .error (failure message)
          | some body =>
            match strayFault? sha256 (folder.join (.parse name)) body u.files with
            | some f => r = .error f ∧ f.isStage = false
            | none => r = .ok (folder.join (.parse name)) ∨
                ∃ message, r = .error (failure message) := by
  intro w
  rcases named : fileName url with f | name
  · have refused : fetch url folder timeout sha256 w = (.error f, w) := by
      rw [fetch, named, bind_run, ofResult_run]
    rw [refused]
    exact ⟨[], Law.refl (R := Idle) w, .inl ⟨f, rfl, rfl, rfl, fileName_plain url f named⟩⟩
  refine ⟨_, fetch_enacted named folder timeout sha256 w,
    .inr ⟨name, _, announced url w, rfl, rfl, announced_logged url w, ?_⟩⟩
  obtain ⟨body, answered, ran⟩ | ⟨refused, message, ran⟩ :=
    fetch_run named folder timeout sha256 w
  · have ends := keep_ends url sha256 (folder.join (.parse name)) body
      (asked url timeout (announced url w))
    have there : (asked url timeout (announced url w)).files = (announced url w).files := rfl
    rw [there] at ends
    rw [answered, ran]
    dsimp only
    generalize strayFault? sha256 (folder.join (.parse name)) body (announced url w).files = stray
      at ends
    rcases kept : keep url sha256 (folder.join (.parse name)) body
      (asked url timeout (announced url w)) with ⟨r, v⟩
    rw [kept] at ends
    cases ends with
    | kept expected => rw [expected]; exact .inl rfl
    | failed expected clean => rw [expected]; exact .inr ⟨_, rfl⟩
    | strayed expected other => rw [expected]; exact ⟨rfl, other⟩
  · rw [refused, ran]
    exact ⟨message, rfl⟩

/-- A world in which a folder stands in the place of the fixture, and the server answers. -/
def blockedFixture : World where
  files := { root := [("w", .folder [("x.log", .folder [])])] }
  processes := ⟨[], {}⟩
  replies := ⟨[], .answer 200 ["abc".toUTF8] none⟩

/-- An address that is accepted, whose download fails on the folder in its place as no stage does. -/
theorem fetch_fails_on_folder :
    ({ fixture := .settings { url := .text "http://h/x.log" } } : Settings).findings = .ok [] ∧
      (fetch (.text "http://h/x.log") (.parse "/w") (.int 60) .null blockedFixture).1 =
        .error (.system .isDirectory "/w/x.log") := by
  exact ⟨rfl, by rfl⟩

end Fixture

end BuildBench
