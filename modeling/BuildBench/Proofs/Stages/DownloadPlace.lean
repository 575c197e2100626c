import BuildBench.Proofs.Files.ConfinedChanges
import BuildBench.Proofs.Stages.Download

/-!
# The place of a download

The name under which a download is stored is one component, however the address is written, so the
file stands directly in the folder. While no link stands there, that place is the only one where a
download changes files, whatever the server answers and wherever the download fails; open log files
go on growing. Two dots are the one name that leads elsewhere, to a folder, and a folder is neither
written nor taken away.
-/

namespace BuildBench

open BuildBench.Action

/-! ## The name of a download -/

namespace Fixture

/-- The components of a path name hold no slash and are no single dot, and neither does the name
that stands in for a missing one. -/
theorem fileNameOfPath_component (path : List Char) :
    IsComponent (Url.fileNameOfPath path) ∧ Url.fileNameOfPath path ≠ "." := by
  unfold Url.fileNameOfPath
  dsimp only
  generalize String.ofList (Url.unescape path.length path) = text
  split
  · exact ⟨by decide, by decide⟩
  · next nonempty =>
    have proper := PathName.parse_proper text
    unfold PathName.name at nonempty ⊢
    rcases last : (PathName.parse text).parts.getLast? with _ | part
    · simp [last] at nonempty
    · have among := List.mem_of_getLast? last
      exact ⟨proper.component part among, proper.notDot part among⟩

/-- The name is the last component of the address's path, or the name for addresses without one. -/
theorem fileName_component {url : Value} {name : String} (named : fileName url = .ok name) :
    IsComponent name ∧ name ≠ "." := by
  have ofText : ∀ s, Url.fileName s = .ok name → IsComponent name ∧ name ≠ "." := by
    intro s read
    rw [Url.fileName] at read
    rcases path : Url.path s with f | cs <;> rw [path] at read <;> cases read
    exact fileNameOfPath_component cs
  unfold fileName at named
  split at named
  · exact ofText _ named
  · split at named
    · exact ofText _ named
    · cases named
  · split at named <;> cases named
    exact ⟨by decide, by decide⟩

end Fixture

/-! ## A place in a folder -/

namespace Folder

variable {root : Folder} {last : Bool} {links : Nat} {here goal : Location}
  {parts : List String}

/-- What has something in it is a folder. -/
theorem kind?_dropLast (opened : root.kind? goal = some .folder) :
    root.kind? goal.dropLast = some .folder := by
  rcases goal.eq_nil_or_concat with rfl | ⟨front, name, rfl⟩
  · exact opened
  · rw [List.concat_eq_append, List.dropLast_concat]
    rw [List.concat_eq_append] at opened
    exact kind?_of_child opened

/-- Two dots behind a folder lead to the folder above. -/
theorem Leads.above_folder (leads : Leads root true links here parts goal)
    (opened : root.kind? goal = some .folder) :
    Leads root last links here (parts ++ [".."]) goal.dropLast := by
  induction leads with
  | here found => exact .up opened (.here (by simp [kind?_dropLast opened]))
  | dot passed next ih => exact .dot passed (ih opened)
  | up passed next ih => exact .up passed (ih opened)
  | into proper passed next ih => exact .into proper passed (ih opened)
  | stop proper passed stops => exact absurd opened stops.1
  | follow proper found further aimed next ih =>
    refine .follow proper found (.inl (by simp)) aimed ?_
    simpa using ih opened

end Folder

namespace Files

variable {files changed : Files} {folder : PathName} {dest goal : Location} {name : String}
  {last : Bool}

/-- A folder is found under its name, and no link stands in it under the other name. -/
structure Admits (files : Files) (folder : PathName) (dest : Location) (name : String) : Prop where
  opens : files.Opens folder dest
  noLink : ∀ text, files.root.kind? (dest ++ [name]) ≠ some (.link text)

namespace Admits

variable (admits : files.Admits folder dest name)

include admits

/-- What is no folder and is found under a name in the folder stands directly in it. -/
theorem goal_eq (notDot : name ≠ ".") (leads : files.Leads last (folder.child name) goal)
    (closed : files.root.kind? goal ≠ some .folder) : goal = dest ++ [name] := by
  by_cases up : name = ".."
  · subst up
    have above : files.Leads last (folder.child "..") dest.dropLast :=
      ⟨leads.short, admits.opens.leads.walks.above_folder admits.opens.folder⟩
    rw [leads.unique above] at closed
    exact absurd (Folder.kind?_dropLast admits.opens.folder) closed
  · have unfollowed := admits.opens.child notDot up leads.sound
    cases last with
    | false => exact leads.unique unfollowed
    | true => exact leads.unique (unfollowed.followed admits.noLink)

/-- The folder is found after a change in the place. -/
theorem after (alters : OneLeaf (dest ++ [name]) files changed) :
    changed.Admits folder dest name := by
  have carries : files.root.Carries changed.root := by
    intro location kind guiding held
    by_cases here : location = dest ++ [name]
    · subst here
      cases kind with
      | file => exact absurd rfl guiding
      | link text => exact absurd held (admits.noLink text)
      | folder => exact absurd held alters.closed
    · rw [alters.kinds here]
      exact held
  have walks := admits.opens.leads.walks.of_carries carries admits.opens.folder
  refine ⟨⟨⟨admits.opens.leads.short, ?_⟩, carries _ _ nofun admits.opens.folder⟩, ?_⟩
  · rw [start, alters.current]
    exact walks
  · intro text link
    cases alters.plain _ link

end Admits

variable (admits : files.Admits folder dest name)

include admits

/-- The place that is written is the one under the name: no link leads from there to another one. -/
theorem Admits.write {content : ByteArray} (notDot : name ≠ ".")
    (written : files.write (folder.child name) content = .ok changed) :
    OneLeaf (dest ++ [name]) files changed := by
  obtain ⟨goal, executable, leads, closed, rfl⟩ := write_ok written
  obtain rfl := admits.goal_eq notDot leads closed
  exact oneLeaf_of_put leads closed

/-- Unlinking follows no link at the end, so what goes is what stood under the name. -/
theorem Admits.unlink (notDot : name ≠ ".")
    (unlinked : files.unlink (folder.child name) = .ok changed) :
    OneLeaf (dest ++ [name]) files changed := by
  obtain ⟨goal, leads, closed, rfl⟩ := unlink_ok unlinked
  obtain rfl := admits.goal_eq notDot leads closed
  exact oneLeaf_of_remove closed

end Files

/-! ## Worlds that differ in one place -/

/-- Two worlds whose files are the same beyond some places. Open log files may have become longer. -/
structure SameBeyond (places : Location → Prop) (w v : World) : Prop extends SameHost w v where
  current : v.files.current = w.files.current
  kinds : ∀ location, ¬ places location →
    v.files.root.kind? location = w.files.root.kind? location
  nodes : ∀ location, ¬ places location → .file location ∉ w.handlers →
    v.files.root.node? location = w.files.root.node? location

variable {α : Type} {places : Location → Prop} {w v : World}

instance : Law (SameBeyond places) where
  refl _ := ⟨.rfl, rfl, fun _ _ => rfl, fun _ _ _ => rfl⟩
  trans first second :=
    ⟨first.toSameHost.trans second.toSameHost, second.current.trans first.current,
      fun l outside => (second.kinds l outside).trans (first.kinds l outside),
      fun l outside closed => (second.nodes l outside fun opened =>
        closed (first.logs l opened)).trans (first.nodes l outside closed)⟩

/-- Files that are the same are so beyond any places. -/
theorem SameBeyond.of_files (host : SameHost w v) (same : v.files = w.files) :
    SameBeyond places w v :=
  ⟨host, by rw [same], fun _ _ => by rw [same], fun _ _ _ => by rw [same]⟩

/-- What lies outside of more places lies outside of fewer. -/
theorem SameBeyond.mono {wider : Location → Prop} (same : SameBeyond places w v)
    (includes : ∀ l, places l → wider l) : SameBeyond wider w v :=
  ⟨same.toSameHost, same.current, fun l outside => same.kinds l fun inside => outside (includes l inside),
    fun l outside => same.nodes l fun inside => outside (includes l inside)⟩

/-- Records change no kind of entry, and only open log files become longer. -/
theorem Logged.sameBeyond (logged : Logged w v) : SameBeyond nowhere w v :=
  ⟨logged.toSameHost, logged.current, fun _ _ => logged.kind_eq _, fun _ _ => logged.node_eq⟩

/-- One leaf is the one place. -/
theorem withFiles_sameBeyond {files : Files} {goal : Location}
    (alters : Files.OneLeaf goal w.files files) : SameBeyond (· = goal) w (w.withFiles files) :=
  ⟨(withFiles_untouched w files).toSameHost, alters.current, fun _ other => alters.kinds other,
    fun location other _ => alters.others location other⟩

/-- As long as a folder admits a name, files change in that place only, and the folder goes on to
admit the name. -/
def Spares (folder : PathName) (dest : Location) (name : String) (w v : World) : Prop :=
  w.files.Admits folder dest name →
    SameBeyond (· = dest ++ [name]) w v ∧ v.files.Admits folder dest name

namespace Spares

variable {F : Fault → Prop} {folder : PathName} {dest : Location} {name : String}

instance : Law (Spares folder dest name) where
  refl w admits := ⟨Law.refl w, admits⟩
  trans first second admits := by
    obtain ⟨same, still⟩ := first admits
    obtain ⟨later, after⟩ := second still
    exact ⟨Law.trans same later, after⟩

/-- The folder admits names by the kinds of entries, and they are the same everywhere. -/
theorem of_nowhere (same : SameBeyond nowhere w v) : Spares folder dest name w v := by
  intro admits
  have kinds := fun location => same.kinds location id
  refine ⟨same.mono fun _ inside => inside.elim, ?_, fun text => ?_⟩
  · exact admits.opens.of_grows (fun location kind held => by rw [kinds]; exact held) same.current
  · rw [kinds]
    exact admits.noLink text

/-- Nothing has changed. -/
theorem of_files (host : SameHost w v) (same : v.files = w.files) : Spares folder dest name w v :=
  of_nowhere (.of_files host same)

/-- A record changes no kind. -/
theorem log (level : Level) (part text : String) :
    Keeps (Spares folder dest name) F (Action.log level part text) :=
  (record_logged _).weaken fun _ _ logged => of_nowhere logged.sameBeyond

/-- A note stands on the trail. -/
theorem note (event : Event) : Keeps (Spares folder dest name) F (Action.note event) :=
  fun w => ⟨of_files (noted_host event w) rfl, fun _ failed => by simp [note_run] at failed⟩

/-- An operation that fails changes nothing, and one that succeeds changes the one leaf. -/
theorem change {path : PathName} {operation : Files → Except SystemError Files}
    (each : ∀ files changed, files.Admits folder dest name → operation files = .ok changed →
      Files.OneLeaf (dest ++ [name]) files changed) :
    Keeps (Spares folder dest name) (fun _ => True) (Disk.change path operation) := by
  refine fun w => ⟨?_, fun _ _ => trivial⟩
  obtain ⟨f, failed⟩ | ⟨files, -, done, ran⟩ := Disk.change_cases path operation w
  · rw [failed]
    exact Law.refl w
  · rw [ran]
    intro admits
    have alters := each _ _ admits done
    exact ⟨withFiles_sameBeyond alters, admits.after alters⟩

end Spares

namespace Fixture

variable {α : Type} {folder : PathName} {dest : Location} {name : String}
  {url timeout sha256 : Value} {w : World}

/-- Writing under the name changes the leaf there. -/
theorem write_spares (notDot : name ≠ ".") (content : ByteArray) :
    Keeps (Spares folder dest name) (fun _ => True) (Disk.write (folder.child name) content) :=
  Spares.change fun _ _ admits done => admits.write notDot done

/-- So does taking it away, and the handler changes nothing. -/
theorem unlinkIfThere_spares (notDot : name ≠ ".") :
    Keeps (Spares folder dest name) (fun _ => True) (Disk.unlinkIfThere (folder.child name)) := by
  refine .tryCatch (G := fun _ => True)
    (Spares.change fun _ _ admits done => admits.unlink notDot done) fun f _ => ?_
  split
  · exact .pure _
  · exact .throw trivial

/-- The fault is thrown after the file was taken away. -/
theorem remove_spares (notDot : name ≠ ".") (f : Fault) :
    Keeps (Spares folder dest name) (fun _ => True)
      (do Disk.unlinkIfThere (folder.child name); throw f : Action α) :=
  .bind (unlinkIfThere_spares notDot) fun _ => .throw trivial

/-- The body is written under the name, and perhaps taken away from there again. -/
theorem keep_spares (notDot : name ≠ ".") (body : Body) :
    Keeps (Spares folder dest name) (fun _ => True)
      (keep url sha256 (folder.child name) body) := by
  have stored : Keeps (Spares folder dest name) (fun _ => True)
      (store url (folder.child name) body) := by
    refine .bind (.tryCatch (write_spares notDot _) fun f _ => ?_) fun _ =>
      .bind (Spares.note _) fun _ => .bind (write_spares notDot _) fun _ => ?_
    · split
      · exact remove_spares notDot _
      · exact .throw trivial
    · split
      · exact remove_spares notDot _
      · exact .pure _
  have verified : Keeps (Spares folder dest name) (fun _ => True)
      (verify sha256 (folder.child name) body) := by
    unfold verify
    split
    · exact .pure _
    · refine .bind (.ofResult fun _ _ => trivial) fun expected => ?_
      dsimp only
      split
      · exact .pure _
      · exact remove_spares notDot _
  exact .bind stored fun _ => .bind verified fun _ => .bind (Spares.log _ _ _) fun _ => .pure _

/-- Before the answer there are only a record and a request. -/
theorem asked_sameBeyond (url timeout : Value) (w : World) :
    SameBeyond nowhere w (asked url timeout (announced url w)) :=
  Law.trans (announced_logged url w).sameBeyond
    (.of_files ⟨rfl, rfl, rfl, fun _ opened => opened⟩ rfl)

/-- The name is one component and not a dot, so all that is kept or taken away is under it. -/
theorem fetch_spares (named : fileName url = .ok name) (w : World) :
    Spares folder dest name w (fetch url folder timeout sha256 w).2 := by
  obtain ⟨component, notDot⟩ := fileName_component named
  have asks : Spares folder dest name w (asked url timeout (announced url w)) :=
    Spares.of_nowhere (asked_sameBeyond url timeout w)
  obtain ⟨body, -, ran⟩ | ⟨-, message, ran⟩ := fetch_run named folder timeout sha256 w
  · rw [ran, CacheStore.join_of_plain component.plain component.nonempty notDot]
    exact Law.trans asks (keep_spares notDot body _).1
  · rw [ran]
    exact asks

/-- What a download that gave a file has to show for it. -/
structure Delivers (sha256 : Value) (target : PathName) (reply : Reply) (w v : World)
    (path : PathName) : Prop where
  placed : path = target
  whole : ∃ status chunks, reply = .answer status chunks none ∧ 200 ≤ status ∧ status < 300 ∧
    hasDigest sha256 (Body.content ⟨chunks, none⟩) ∧
    w.Holds v.files path (Body.content ⟨chunks, none⟩)

/-- A file was given, so its body was received whole, written, and found to have the digest. -/
theorem fetch_delivers {path : PathName} {v : World} (named : fileName url = .ok name)
    (fetched : fetch url folder timeout sha256 w = (.ok path, v)) :
    Delivers sha256 (folder.child name) (announced url w).replies.next.1 w v path := by
  obtain ⟨component, notDot⟩ := fileName_component named
  obtain ⟨body, answered, ran⟩ | ⟨-, message, ran⟩ := fetch_run named folder timeout sha256 w
  · rw [ran, CacheStore.join_of_plain component.plain component.nonempty notDot] at fetched
    obtain ⟨rfl, uncut, wanted, added, read, opened⟩ := keep_ok fetched
    refine ⟨rfl, ?_⟩
    have host := (asked_sameBeyond url timeout w).toSameHost
    generalize (announced url w).replies.next.1 = reply at answered ⊢
    cases reply with
    | refused problem text => cases answered
    | answer status chunks cut =>
      rw [Reply.body?] at answered
      by_cases success : isSuccess status
      · rw [if_pos success] at answered
        cases answered
        obtain rfl : cut = none := uncut
        simp only [isSuccess, Bool.and_eq_true, decide_eq_true_eq] at success
        refine ⟨status, chunks, rfl, success.1, success.2, wanted, added, read,
          opened.imp_right ?_⟩
        rintro ⟨place, placed, isLog⟩
        exact ⟨place, placed, host.logs _ isLog⟩
      · rw [if_neg success] at answered
        cases answered
  · rw [ran] at fetched
    cases fetched

/-- A download that fails as a stage has changed no file but the logs, or nothing is in its place. -/
theorem fetch_cleans {s : StageFailure} {v : World} (named : fileName url = .ok name)
    (failed : fetch url folder timeout sha256 w = (.error (.stage s), v)) :
    s.kind = .fixture ∧
      (SameBeyond nowhere w v ∨ v.files.IsVacant (folder.child name)) := by
  obtain ⟨component, notDot⟩ := fileName_component named
  obtain ⟨body, -, ran⟩ | ⟨-, message, ran⟩ := fetch_run named folder timeout sha256 w
  · rw [ran, CacheStore.join_of_plain component.plain component.nonempty notDot] at failed
    have ends := keep_ends url sha256 (folder.child name) body
      (asked url timeout (announced url w))
    rw [failed] at ends
    generalize ended : Except.error (Fault.stage s) = r at ends
    cases ends with
    | kept expected => cases ended
    | failed expected clean =>
      cases ended
      refine ⟨rfl, clean.imp_left ?_⟩
      rintro rfl
      exact asked_sameBeyond url timeout w
    | strayed expected other =>
      cases ended
      cases other
  · rw [ran] at failed
    obtain ⟨same, rfl⟩ := Prod.mk.inj failed
    cases same
    exact ⟨rfl, .inl (asked_sameBeyond url timeout w)⟩

/-- A download into a folder sends one request and changes one file, directly in the folder: it gives
the file only if that holds the whole body of a success with the digest that is wanted, and when it
fails as a stage no file has changed or nothing is in the place. Open log files go on growing. -/
theorem fetch_contained (named : fileName url = .ok name) (opens : w.files.Opens folder dest)
    (noLink : ∀ text, w.files.root.kind? (dest ++ [name]) ≠ some (.link text)) :
    let ended := fetch url folder timeout sha256 w
    '/' ∉ name.toList ∧
      (∃ reply files, Enacted w [.download url reply files] ended.2 ∧
        ∀ path, ended.1 = .ok path →
          Delivers sha256 (folder.child name) reply w ended.2 path) ∧
      (∀ s, ended.1 = .error (.stage s) → s.kind = .fixture ∧
        (SameBeyond nowhere w ended.2 ∨ ended.2.files.IsVacant (folder.child name))) ∧
      SameBeyond (· = dest ++ [name]) w ended.2 := by
  refine ⟨(fileName_component named).1.plain,
    ⟨_, _, fetch_enacted named folder timeout sha256 w, fun path fetched => ?_⟩,
    fun s failed => ?_, (fetch_spares named w ⟨opens, noLink⟩).1⟩
  · exact fetch_delivers named (Prod.ext fetched rfl)
  · exact fetch_cleans named (Prod.ext failed rfl)

/-- A world with a folder and a file in it. The server answers with the given status, and there is an
open log file. -/
def loggedDownload (status : Int) : World where
  files := { root := [("run.log", .file ByteArray.empty false),
    ("w", .folder [("x.js", .file "old".toUTF8 false)])] }
  processes := ⟨[], {}⟩
  replies := ⟨[], .answer status ["a".toUTF8, "bc".toUTF8] none⟩
  handlers := [.file ["run.log"]]

/-- The name is followed by evaluation. -/
theorem loggedDownload_opens (status : Int) :
    (loggedDownload status).files.Opens (.parse "/w") ["w"] where
  leads := (Files.place_eq_ok_iff.mp (rfl : (loggedDownload status).files.place true (.parse "/w") =
    .ok ⟨["w"], some (.folder [("x.js", .file "old".toUTF8 false)])⟩)).1
  folder := rfl

/-- The address has two dots and an escaped slash in it, and the file is stored in the folder under
the name behind them. -/
theorem fetch_contained_escapedSlash :
    fileName (.text "http://h/..%2Fx.js") = .ok "x.js" ∧
      (loggedDownload 200).files.Opens (.parse "/w") ["w"] ∧
      (∀ text, (loggedDownload 200).files.root.kind? ["w", "x.js"] ≠ some (.link text)) ∧
      SameBeyond (· = ["w", "x.js"]) (loggedDownload 200)
        (fetch (.text "http://h/..%2Fx.js") (.parse "/w") (.int 60) .null (loggedDownload 200)).2 := by
  have named : fileName (.text "http://h/..%2Fx.js") = .ok "x.js" := by rfl
  have noLink : ∀ text,
      (loggedDownload 200).files.root.kind? (["w"] ++ ["x.js"]) ≠ some (.link text) := nofun
  exact ⟨named, loggedDownload_opens 200, noLink,
    (fetch_contained named (loggedDownload_opens 200) noLink).2.2.2⟩

/-- An address that names no file is not asked for. A download that fails as a stage writes records to
an open log file, while what stood in its place is still there. -/
theorem fetch_exceptions :
    let unnamed := fetch (.text "http://[x/y") (.parse "/w") (.int 60) .null (loggedDownload 200)
    let refused := fetch (.text "http://h/x.js") (.parse "/w") (.int 60) .null (loggedDownload 404)
    ((loggedDownload 200).deedsUntil unnamed.2).isEmpty ∧
      (∃ s, refused.1 = .error (.stage s)) ∧
      (refused.2.files.read (.parse "/w/x.js")).toOption = some "old".toUTF8 ∧
      (refused.2.files.read (.parse "/run.log")).toOption ≠
        ((loggedDownload 404).files.read (.parse "/run.log")).toOption := by
  refine ⟨by decide +kernel, ?_, by decide +kernel, by decide +kernel⟩
  have failed : (match (fetch (.text "http://h/x.js") (.parse "/w") (.int 60) .null
      (loggedDownload 404)).1 with
      | .error f => f.isStage
      | .ok _ => false) = true := by decide +kernel
  split at failed
  · next f ended =>
    cases f with
    | stage s => exact ⟨s, ended⟩
    | _ => cases failed
  · cases failed

end Fixture

end BuildBench
