import BuildBench.Proofs.Cache.ReadableEntries
import BuildBench.Proofs.Cache.RestoreReach

/-!
# A cache over many calls

A cache is used by one call after the other, and in between files elsewhere change. What it holds is
then told by the answers of its calls alone: for each key the paths of the last save that was needed,
if that save went well.
-/

namespace BuildBench

open BuildBench.Action

namespace CacheStore

/-! ## Calls -/

/-- A call of a cache. -/
inductive Call where
  | has (key : String)
  | restore (key : String) (paths : List PathName)
  | save (key : String) (paths : List PathName)

namespace Call

def key : Call → String
  | has key | restore key _ | save key _ => key

def paths : Call → List PathName
  | has _ => []
  | restore _ paths | save _ paths => paths

def run (store : CacheStore) : Call → Action Bool
  | has key => store.has key
  | restore key paths => store.restore key paths
  | save key paths => store.save key paths

/-- By definition. -/
@[simp]
theorem run_has (store : CacheStore) (key : String) : (has key).run store = store.has key := rfl

/-- By definition. -/
@[simp]
theorem run_restore (store : CacheStore) (key : String) (paths : List PathName) :
    (restore key paths).run store = store.restore key paths := rfl

/-- By definition. -/
@[simp]
theorem run_save (store : CacheStore) (key : String) (paths : List PathName) :
    (save key paths).run store = store.save key paths := rfl

end Call

/-- A call with its answer. -/
structure Answered where
  call : Call
  answer : Except Fault Bool

/-- The paths of the last save under a key that was needed, if it went well. The last call is the
first of the list. -/
def saved? (key : String) : List Answered → Option (List PathName)
  | [] => none
  | ⟨.save other paths, answer⟩ :: past =>
    if other = key then
      match answer with
      | .ok true => some paths
      | .ok false => saved? key past
      | .error _ => none
    else saved? key past
  | _ :: past => saved? key past

variable {store : CacheStore} {place : Location} {key name : String} {paths : List PathName}
  {past newer : List Answered} {c : Call} {w u v : World}

/-- Before the first call the folder of the cache is missing or empty. -/
structure Begins (store : CacheStore) (place : Location) (w : World) : Prop where
  tidy : w.files.Tidy
  stands : store.Stands w.files place
  unlogged : Unlogged place w
  empty : ∀ name, w.files.root.kind? (place ++ [name]) = none

/-- A call with a key that is the name of a file, and with paths that can be named. A restore takes
place in a folder that exists, and no name at or below its paths leads into the cache. -/
structure Call.Allowed (store : CacheStore) (place : Location) (c : Call) (w : World) : Prop where
  key : IsKey c.key
  named : ∀ path ∈ c.paths, Disk.isName path = true
  steady : ∀ key paths, c = .restore key paths → w.files.Steady
  spared : ∀ key paths, c = .restore key paths → Spared place (c.run store w).2.files paths

/-- A change away from a cache. It leaves the cache alone and the way to it. -/
structure Elsewhere (store : CacheStore) (place : Location) (w v : World) : Prop where
  current : v.files.current = w.files.current
  tidy : v.files.Tidy
  way : ∀ location ∈ w.files.way store.root,
    v.files.root.kind? location = w.files.root.kind? location
  same : Same place w v
  stands : store.Stands v.files place
  unlogged : Unlogged place v

/-- Some calls, the last one first, with changes elsewhere before, between and after them. -/
inductive Calls (store : CacheStore) (place : Location) : World → List Answered → World → Prop
  | none (w : World) : Calls store place w [] w
  | call {w u : World} {past : List Answered} (earlier : Calls store place w past u) (c : Call)
    (allowed : c.Allowed store place u) :
    Calls store place w (⟨c, (c.run store u).1⟩ :: past) (c.run store u).2
  | change {w u v : World} {past : List Answered} (earlier : Calls store place w past u)
    (elsewhere : Elsewhere store place u v) : Calls store place w past v

/-! ## What a cache holds -/

/-- A cache holds the entries that its calls tell of, and nothing else. -/
structure Accounted (store : CacheStore) (place : Location) (past : List Answered) (w : World) :
    Prop where
  tidy : w.files.Tidy
  stands : store.Stands w.files place
  unlogged : Unlogged place w
  held : ∀ name, w.files.root.kind? (place ++ [name]) ≠ none →
    ∃ paths, saved? name past = some paths
  stored : ∀ key paths, saved? key past = some paths → IsKey key ∧
    Stored store place w.files key (paths.map PathName.display)

/-- No entry is told of, and none is there. -/
theorem Begins.accounted (begins : Begins store place w) : Accounted store place [] w where
  tidy := begins.tidy
  stands := begins.stands
  unlogged := begins.unlogged
  held name there := absurd (begins.empty name) there
  stored := nofun

/-- There is an entry for a key when its last save that was needed went well. -/
theorem Accounted.has_iff (accounted : Accounted store place past w) (named : IsKey key) :
    (store.has key w).1 = .ok true ↔ ∃ paths, saved? key past = some paths := by
  constructor
  · intro held
    obtain ⟨location, opens, there⟩ := opens_of_has named held
    obtain rfl : location = place := opens.unique (accounted.stands.sits opens).opens
    exact accounted.held key there
  · rintro ⟨paths, saved⟩
    rw [(accounted.stored key paths saved).2.has_run named]

/-- A question leaves the world as it is. -/
theorem has_eq_true (held : (store.has key w).1 = .ok true) : store.has key w = (.ok true, w) :=
  Prod.ext held (has_asks store key w).1.symm

/-- What does not change the cache leaves it accounted for. -/
theorem Accounted.of_same {past' : List Answered} (accounted : Accounted store place past w)
    (same : Same place w v) (sits : store.Sits w.files place → store.Sits v.files place)
    (stands : store.Stands v.files place) (tidy : v.files.Tidy) (unlogged : Unlogged place v)
    (told : ∀ key, saved? key past' = saved? key past) : Accounted store place past' v where
  tidy := tidy
  stands := stands
  unlogged := unlogged
  held name there := by
    rw [Folder.kind?, same _ (List.prefix_append place [name])] at there
    rw [told]
    exact accounted.held name there
  stored key paths saved := by
    rw [told] at saved
    obtain ⟨named, stored⟩ := accounted.stored key paths saved
    refine ⟨named, stored.of_same (sits stored.sits) (same _ ?_)⟩
    rw [List.append_assoc]
    exact List.prefix_append place _

/-- Nothing of the cache changed, and the calls tell the same. -/
theorem Accounted.of_confined (accounted : Accounted store place past w)
    (confined : Confined nowhere w v) {past' : List Answered}
    (told : ∀ key, saved? key past' = saved? key past) : Accounted store place past' v :=
  accounted.of_same (accounted.unlogged.same confined)
    (fun sits => sits.confined (confined.mono fun _ => False.elim))
    (accounted.stands.logged confined) (confined.tidy accounted.tidy)
    (accounted.unlogged.after confined.toSameHost) told

/-- The cache is the same, and its name leads to it as before. -/
theorem Accounted.change (accounted : Accounted store place past w)
    (elsewhere : Elsewhere store place w v) : Accounted store place past v := by
  refine accounted.of_same elsewhere.same (fun sits => ⟨⟨?_, ?_⟩, ?_⟩) elsewhere.stands
    elsewhere.tidy elsewhere.unlogged fun _ => rfl
  · exact (Files.leads_iff_of_way elsewhere.current elsewhere.way).mpr sits.opens.leads
  · rw [elsewhere.way place sits.opens.leads.goal_mem_way]
    exact sits.opens.folder
  · rw [Files.way_congr elsewhere.current elsewhere.way]
    exact sits.clear

/-! ## One restore -/

/-- A restore does not find an entry for its paths: it is answered with no, or fails just as the
question fails whether there is an entry. -/
def Misses (store : CacheStore) (key : String) (paths : List PathName) (w : World) : Prop :=
  (store.restore key paths w).1 = .ok false ∨
    ∃ f, store.has key w = (.error f, w) ∧ store.restore key paths w = (.error f, w)

/-- There is no entry to list anything, so the restore is over at its first question. -/
theorem restore_unheld (unheld : (store.has key w).1 ≠ .ok true) (paths : List PathName) :
    Misses store key paths w ∧ Confined nowhere w (store.restore key paths w).2 := by
  obtain ⟨answer, asked⟩ := (has_asks store key).run w
  rcases answer with f | held
  · have failed : store.restore key paths w = (.error f, w) := by
      rw [restore, bind_run, asked]
    rw [Misses, failed]
    exact ⟨.inr ⟨f, asked, rfl⟩, .refl _ w⟩
  · cases held with
    | true =>
      rw [asked] at unheld
      exact absurd rfl unheld
    | false =>
      rw [Misses, restore_of_none asked]
      exact ⟨.inl rfl, log_confined .info "cache" _ w⟩

/-- Once an entry is accepted the answer is yes or a fault. -/
theorem restoreListed_ne_miss (store : CacheStore) (key : String) (paths : List PathName)
    (w : World) : (store.restoreListed key paths w).1 ≠ .ok false := by
  rw [restoreListed, bind_run]
  rcases failingAs "prepare" ("Cache restore failed for " ++ key)
    (restoreParts (store.entryFolder key) 0 paths) w with ⟨f | x, v⟩
  · exact nofun
  · exact nofun

/-- A restore leaves the cache as it is. -/
theorem Accounted.restore (accounted : Accounted store place past w)
    (allowed : (Call.restore key paths).Allowed store place w) {past' : List Answered}
    (told : ∀ key, saved? key past' = saved? key past) :
    Same place w (store.restore key paths w).2 ∧
      Accounted store place past' (store.restore key paths w).2 := by
  have roams := (restore_roams store key paths w).1
  have spared := allowed.spared key paths rfl
  rw [Call.run_restore] at spared
  have unheld (none : (store.has key w).1 ≠ .ok true) := (restore_unheld none paths).2
  generalize (store.restore key paths w).2 = v at roams spared unheld
  by_cases held : (store.has key w).1 = .ok true
  · obtain ⟨others, saved⟩ := (accounted.has_iff allowed.key).mp held
    have sits : store.Sits w.files place := (accounted.stored key others saved).2.sits
    obtain ⟨same, after⟩ := spared_of_roams roams accounted.tidy (allowed.steady key paths rfl) sits
      accounted.unlogged spared
    exact ⟨same, accounted.of_same same (fun _ => after) after.stands (roams.tidy accounted.tidy)
      (accounted.unlogged.after roams.toSameHost) told⟩
  · have quiet := unheld held
    exact ⟨accounted.unlogged.same quiet, accounted.of_confined quiet told⟩

/-! ## One save -/

/-- A save under another key tells nothing of this one. -/
theorem saved?_of_ne {other : String} (different : other ≠ key) (answer : Except Fault Bool) :
    saved? other (⟨.save key paths, answer⟩ :: past) = saved? other past := by
  cases answer <;> simp [saved?, different.symm]

/-- A save leaves the entries for other keys alone. -/
theorem Accounted.save_others (accounted : Accounted store place past w) (named : IsKey key)
    (paths : List PathName) {other : String} (different : other ≠ key) :
    Same (place ++ [other]) w (store.save key paths w).2 := by
  have outcome := save_saved accounted.tidy accounted.stands named paths
  intro location below
  apply (outcome.onlyEntry accounted.stands accounted.unlogged).1.others
  · exact inside_of_beneath below
  · obtain ⟨rest, rfl⟩ := below
    rw [List.append_assoc]
    exact Files.not_prefix_child different.symm place rest

/-- The entry for a key lists the paths. -/
def Listed (key : String) (paths : List PathName) (past : List Answered) : Prop :=
  ∃ others, saved? key past = some others ∧
    others.map PathName.display = paths.map PathName.display

/-- A save of what is listed already does nothing. -/
theorem Accounted.save_listed (accounted : Accounted store place past w) (named : IsKey key)
    (listed : Listed key paths past) :
    (store.save key paths w).1 = .ok false ∧ Confined nowhere w (store.save key paths w).2 := by
  obtain ⟨others, saved, same⟩ := listed
  have stored := (accounted.stored key others saved).2
  have lists : store.lists key (paths.map PathName.display) w = (.ok true, w) := by
    rw [stored.lists_run named, same, decide_eq_true rfl]
  have logged := log_confined .debug "cache"
    ("Cache entry " ++ key ++ " already exists, not saving") w
  have ran : store.save key paths w = (.ok false,
      (log .debug "cache" ("Cache entry " ++ key ++ " already exists, not saving") w).2) := by
    rw [CacheStore.save, bind_run, stored.has_run named]
    simp only [if_true]
    rw [bind_run, lists]
    rfl
  rw [ran]
  exact ⟨rfl, logged⟩

/-- A save does nothing only when the paths are listed already. -/
theorem Accounted.listed_of_save (accounted : Accounted store place past w) (named : IsKey key)
    (unneeded : (store.save key paths w).1 = .ok false) : Listed key paths past := by
  have outcome := save_saved accounted.tidy accounted.stands named paths
  rw [unneeded] at outcome
  cases outcome with
  | unneeded held listed _ =>
    obtain ⟨others, saved⟩ := (accounted.has_iff named).mp (by rw [held])
    have lists := (accounted.stored key others saved).2.lists_run named (paths.map PathName.display)
    rw [listed] at lists
    have same : decide (others.map PathName.display = paths.map PathName.display) = true :=
      (Except.ok.inj (Prod.mk.inj lists).1).symm
    exact ⟨others, saved, decide_eq_true_eq.mp same⟩

/-- A restore misses unless its paths are listed. -/
theorem Accounted.misses_iff (accounted : Accounted store place past w) (named : IsKey key)
    (paths : List PathName) : Misses store key paths w ↔ ¬ Listed key paths past := by
  by_cases held : (store.has key w).1 = .ok true
  · obtain ⟨others, saved⟩ := (accounted.has_iff named).mp held
    have stored := (accounted.stored key others saved).2
    have ran := stored.restore_run named paths
    by_cases same : others.map PathName.display = paths.map PathName.display
    · rw [if_pos same] at ran
      have listed : Listed key paths past := ⟨others, saved, same⟩
      refine iff_of_false ?_ fun unlisted => unlisted listed
      rintro (missed | ⟨f, failed, -⟩)
      · rw [ran] at missed
        exact restoreListed_ne_miss store key paths w missed
      · cases (has_eq_true held).symm.trans failed
    · rw [if_neg same] at ran
      refine iff_of_true (.inl (by rw [ran])) ?_
      rintro ⟨listed, told, alike⟩
      obtain rfl : others = listed := Option.some.inj (saved.symm.trans told)
      exact same alike
  · refine iff_of_true (restore_unheld held paths).1 ?_
    rintro ⟨others, saved, -⟩
    exact held ((accounted.has_iff named).mpr ⟨others, saved⟩)

/-- After a save that failed there is no entry for its key. -/
theorem Accounted.gone {f : Fault} (accounted : Accounted store place past w)
    (named : IsKey key) (failed : Saved store place key paths w (.error f) v) :
    v.files.root.kind? (place ++ [key]) = none := by
  have within : inside place (place ++ [key]) := inside_of_beneath (List.prefix_refl _)
  by_cases there : w.files.root.kind? (place ++ [key]) = none
  · -- Nothing was there before.
    cases failed with
    | unasked _ => exact there
    | @failed g _ u _ begun wrote =>
      have before : u.files.root.kind? (place ++ [key]) = none :=
        (begun.kinds _ id).trans there
      cases wrote with
      | unmade _ => exact before
      | kept made _ same =>
        rw [same.kinds _ id, ← Folder.node?_eq_none]
        exact (((accounted.stands.logged begun).made made).2 _ within).trans
          (Folder.node?_eq_none.mpr before)
      | lost _ _ gone => exact Folder.node?_eq_none.mp (gone [])
  · -- There was an entry, so it is found, and it can be taken away.
    obtain ⟨others, saved⟩ := accounted.held key there
    have stored := (accounted.stored key others saved).2
    cases failed with
    | unasked unsaid =>
      rcases unsaid with asked | ⟨-, listed⟩
      · cases (stored.has_run named).symm.trans asked
      · cases (stored.lists_run named _).symm.trans listed
    | @failed g _ u _ begun wrote =>
      have sits : store.Sits u.files place := stored.sits.confined (begun.mono fun _ => False.elim)
      have folder := stored.hasFolder named
      cases wrote with
      | unmade closed =>
        have rootNamed := folder.named
        rw [named.entryFolder_eq] at rootNamed
        cases (isName_of_child rootNamed).1.symm.trans (closed place sits.opens)
      | kept made unheld _ =>
        refine absurd ⟨?_, folder.sound, folder.named⟩ unheld
        rw [Folder.kind?, (sits.stands.made made).2 _ within]
        exact (begun.kinds _ id).trans folder.folder
      | lost _ _ gone => exact Folder.node?_eq_none.mp (gone [])

/-- After a save there is an entry for its key only if the calls tell of one. -/
theorem Accounted.held_saved {answer : Except Fault Bool}
    (accounted : Accounted store place past w) (named : IsKey key)
    (outcome : Saved store place key paths w answer v)
    (there : v.files.root.kind? (place ++ [key]) ≠ none) :
    ∃ listed, saved? key (⟨.save key paths, answer⟩ :: past) = some listed := by
  rcases answer with f | written
  · exact absurd (accounted.gone named outcome) there
  cases written with
  | true => exact ⟨paths, by simp [saved?]⟩
  | false =>
    cases outcome with
    | unneeded _ _ quiet =>
      rw [quiet.kinds _ id] at there
      simpa [saved?] using accounted.held key there

/-- The entry that the calls tell of is there after a save for its key. -/
theorem Accounted.stored_saved {answer : Except Fault Bool} {listed : List PathName}
    (accounted : Accounted store place past w) (named : IsKey key)
    (pathsNamed : ∀ path ∈ paths, Disk.isName path = true)
    (outcome : Saved store place key paths w answer v)
    (told : saved? key (⟨.save key paths, answer⟩ :: past) = some listed) :
    IsKey key ∧ Stored store place v.files key (listed.map PathName.display) := by
  rcases answer with f | written
  · simp [saved?] at told
  cases written with
  | true =>
    obtain rfl : paths = listed := by simpa [saved?] using told
    exact ⟨named, outcome.stored accounted.stands accounted.unlogged fun path among =>
      unpaired_of_isName (pathsNamed path among)⟩
  | false =>
    cases outcome with
    | unneeded _ _ quiet =>
      have before : Accounted store place past v := accounted.of_confined quiet fun _ => rfl
      exact before.stored key listed (by simpa [saved?] using told)

/-- By how the save ended. Under its own key the entry is the new one or none; under other keys
nothing changed. -/
theorem Accounted.save (accounted : Accounted store place past w) (named : IsKey key)
    (pathsNamed : ∀ path ∈ paths, Disk.isName path = true) :
    Accounted store place (⟨.save key paths, (store.save key paths w).1⟩ :: past)
      (store.save key paths w).2 := by
  have outcome := save_saved accounted.tidy accounted.stands named paths
  have others {other : String} (different : other ≠ key) :=
    accounted.save_others named paths different
  generalize (store.save key paths w).1 = answer at outcome
  generalize (store.save key paths w).2 = v at outcome others
  have sits (before : store.Sits w.files place) : store.Sits v.files place :=
    before.confined (outcome.confined before)
  constructor
  · exact outcome.tidy accounted.tidy
  · exact (outcome.onlyEntry accounted.stands accounted.unlogged).2
  · exact accounted.unlogged.after outcome.untouched.toSameHost
  · intro other there
    by_cases same : other = key
    · subst same
      exact accounted.held_saved named outcome there
    · rw [saved?_of_ne same]
      apply accounted.held
      rwa [Folder.kind?, ← others same _ (List.prefix_refl _)]
  · intro other listed told
    by_cases same : other = key
    · subst same
      exact accounted.stored_saved named pathsNamed outcome told
    · rw [saved?_of_ne same] at told
      obtain ⟨otherNamed, stored⟩ := accounted.stored other listed told
      exact ⟨otherNamed, stored.of_same (sits stored.sits)
        (others same _ (List.prefix_append _ [manifestName]))⟩

/-! ## Many calls -/

/-- By the kind of the call: only a save changes what the cache holds. -/
theorem Accounted.call (accounted : Accounted store place past w)
    (allowed : c.Allowed store place w) :
    Accounted store place (⟨c, (c.run store w).1⟩ :: past) (c.run store w).2 := by
  cases c with
  | has key =>
    obtain ⟨answer, asked⟩ := (has_asks store key).run w
    rw [Call.run_has, asked]
    exact accounted.of_confined (.refl _ w) fun _ => rfl
  | restore key paths =>
    have told (answer : Except Fault Bool) (other : String) :
        saved? other (⟨.restore key paths, answer⟩ :: past) = saved? other past := rfl
    exact (accounted.restore allowed (told _)).2
  | save key paths => exact accounted.save allowed.key allowed.named

/-- Calls keep account of what the cache holds. -/
theorem Calls.accounted (calls : Calls store place w newer u)
    (accounted : Accounted store place past w) : Accounted store place (newer ++ past) u := by
  induction calls with
  | none => exact accounted
  | call _ c allowed ih => exact ih.call allowed
  | change _ elsewhere ih => exact ih.change elsewhere

/-- Calls other than saves leave the cache as it is. -/
theorem Accounted.quiet (accounted : Accounted store place past w)
    (allowed : c.Allowed store place w) (quiet : ∀ key paths, c ≠ .save key paths) :
    Same place w (c.run store w).2 := by
  cases c with
  | has key =>
    obtain ⟨answer, asked⟩ := (has_asks store key).run w
    rw [Call.run_has, asked]
    exact fun _ _ => rfl
  | restore key paths => exact (accounted.restore allowed fun _ => rfl).1
  | save key paths => exact absurd rfl (quiet key paths)

/-- What is below the deeper location is below the other one too. -/
theorem Same.below {deeper : Location} (same : Same place w v) (below : place <+: deeper) :
    Same deeper w v := fun location further => same location (below.trans further)

/-- A call leaves the entries for other keys as they are. -/
theorem Accounted.others (accounted : Accounted store place past w)
    (allowed : c.Allowed store place w) (different : name ≠ c.key) :
    Same (place ++ [name]) w (c.run store w).2 := by
  by_cases quiet : ∀ key paths, c ≠ .save key paths
  · exact (accounted.quiet allowed quiet).below (List.prefix_append place [name])
  · cases c with
    | save key paths => exact accounted.save_others allowed.key paths different
    | _ => exact absurd nofun quiet

/-- An entry lasts until its key is saved with another list of paths. -/
theorem Calls.lasting (calls : Calls store place w newer u)
    (accounted : Accounted store place past w) (saved : saved? key past = some paths)
    (unreplaced : ∀ answered ∈ newer, ∀ others, answered.call = .save key others →
      others.map PathName.display = paths.map PathName.display) :
    saved? key (newer ++ past) = some paths ∧ Same (place ++ [key]) w u := by
  induction calls with
  | none => exact ⟨saved, fun _ _ => rfl⟩
  | change _ elsewhere ih =>
    obtain ⟨still, same⟩ := ih unreplaced
    have later := elsewhere.same.below (List.prefix_append place [key])
    exact ⟨still, fun location below => (later location below).trans (same location below)⟩
  | @call u newer earlier c allowed ih =>
    obtain ⟨still, same⟩ := ih fun answered among =>
      unreplaced answered (List.mem_cons_of_mem _ among)
    have here := earlier.accounted accounted
    suffices step : saved? key (⟨c, (c.run store u).1⟩ :: (newer ++ past)) = some paths ∧
        Same (place ++ [key]) u (c.run store u).2 from
      ⟨step.1, fun location below => (step.2 location below).trans (same location below)⟩
    by_cases different : key = c.key
    · cases c with
      | save other others =>
        obtain rfl : key = other := different
        have alike := unreplaced _ (List.mem_cons_self ..) others rfl
        have listed : Listed key others (newer ++ past) := ⟨paths, still, alike.symm⟩
        have named : IsKey key := allowed.key
        obtain ⟨unneeded, quiet⟩ := here.save_listed named listed
        rw [Call.run_save, unneeded]
        exact ⟨by simpa [saved?] using still,
          (here.unlogged.same quiet).below (List.prefix_append place [key])⟩
      | has other =>
        exact ⟨still, (here.quiet allowed nofun).below (List.prefix_append place [key])⟩
      | restore other others =>
        exact ⟨still, (here.quiet allowed nofun).below (List.prefix_append place [key])⟩
    · refine ⟨?_, here.others allowed different⟩
      cases c with
      | save other others =>
        have other : key ≠ other := different
        rwa [saved?_of_ne other]
      | _ => exact still

/-- A cache that keeps to its calls: it holds the entries they tell of and no others, and they change
nothing but what they are to change. -/
structure Orderly (store : CacheStore) (place : Location) (past : List Answered) (w : World) :
    Prop where
  /-- Every entry was saved under its name; no hidden folder is there. -/
  entries : ∀ name, w.files.root.kind? (place ++ [name]) ≠ none →
    IsKey name ∧ ∃ paths, saved? name past = some paths
  has_iff : ∀ key, IsKey key →
    ((store.has key w).1 = .ok true ↔ ∃ paths, saved? key past = some paths)
  unneeded_iff : ∀ key paths, IsKey key →
    ((store.save key paths w).1 = .ok false ↔ Listed key paths past)
  misses_iff : ∀ key paths, IsKey key → (Misses store key paths w ↔ ¬ Listed key paths past)
  unneeded : ∀ key paths, IsKey key → Listed key paths past →
    ∀ location, .file location ∉ w.handlers →
      (store.save key paths w).2.files.root.node? location = w.files.root.node? location
  others : ∀ c : Call, c.Allowed store place w → ∀ name, name ≠ c.key →
    Same (place ++ [name]) w (c.run store w).2
  quiet : ∀ c : Call, c.Allowed store place w → (∀ key paths, c ≠ .save key paths) →
    Same place w (c.run store w).2
  lasting : ∀ newer u key paths, Calls store place w newer u → saved? key past = some paths →
    (∀ answered ∈ newer, ∀ others, answered.call = .save key others →
      others.map PathName.display = paths.map PathName.display) → Same (place ++ [key]) w u

/-- A cache keeps to its calls, however many there are and however they end. -/
theorem calls_orderly (begins : Begins store place w) (calls : Calls store place w past u) :
    Orderly store place past u := by
  have accounted : Accounted store place past u := by
    simpa using calls.accounted begins.accounted
  constructor
  · intro name there
    obtain ⟨paths, saved⟩ := accounted.held name there
    exact ⟨(accounted.stored name paths saved).1, paths, saved⟩
  · exact fun key named => accounted.has_iff named
  · intro key paths named
    exact ⟨accounted.listed_of_save named, fun listed => (accounted.save_listed named listed).1⟩
  · exact fun key paths named => accounted.misses_iff named paths
  · intro key paths named listed location closed
    exact (accounted.save_listed named listed).2.nodes location id closed
  · exact fun c allowed name different => accounted.others allowed different
  · exact fun c allowed quiet => accounted.quiet allowed quiet
  · exact fun newer u key paths further saved unreplaced =>
      (further.lasting accounted saved unreplaced).2

def plainPath : PathName := ⟨.root, ["w", "a"]⟩

/-- The folder of the cache is empty. -/
theorem emptyCache_begins : Begins sampleStore ["c"] emptyCache where
  tidy := emptyCache_tidy
  stands := emptyCache_sits.stands
  unlogged := nofun
  empty name := by
    simp only [Folder.kind?, emptyCache, List.singleton_append, Folder.node?_cons]
    rfl

/-- Names at and below a file pass the folders above it and the file. -/
theorem spared_plainPath {files : Files} (folder : files.root.kind? ["w"] = some .folder)
    (file : files.root.kind? ["w", "a"] = some .file) : Spared ["c"] files [plainPath] := by
  intro path among name below passed there
  obtain rfl := List.mem_singleton.mp among
  obtain ⟨rest, -, rfl⟩ := below
  have way : files.way (plainPath.descend rest) = [[], ["w"], ["w"], ["w", "a"]] := by
    change files.root.way 41 [] ("w" :: "a" :: rest) = _
    rw [Folder.way_name (by decide) (by decide), List.nil_append, folder]
    simp only
    rw [Folder.way_name (by decide) (by decide), List.singleton_append, file]
  rw [way] at there
  rintro ⟨within, -⟩
  revert passed
  simp only [List.forall_mem_cons]
  decide

/-- A save and a restore of one file. -/
theorem emptyCache_calls : ∃ past u, past.length = 2 ∧
    Calls sampleStore ["c"] emptyCache past u := by
  have steady : emptyCache.files.Steady := by
    rw [Files.Steady]
    decide
  have named : ∀ path ∈ [plainPath], Disk.isName path = true := by decide
  have saves : (Call.save "k" [plainPath]).Allowed sampleStore ["c"] emptyCache :=
    ⟨isKey_k, named, fun _ _ other => (by cases other), fun _ _ other => (by cases other)⟩
  have first := (Calls.none emptyCache).call _ saves
  have confined := (save_saved emptyCache_tidy emptyCache_sits.stands isKey_k
    [plainPath]).confined emptyCache_sits
  rw [Call.run_save] at first
  generalize (sampleStore.save "k" [plainPath] emptyCache).1 = answer at first
  generalize (sampleStore.save "k" [plainPath] emptyCache).2 = v at first confined
  -- The file and the folder above it are away from the cache, and a restore only adds files.
  have folder : v.files.root.kind? ["w"] = some .folder := by
    rw [confined.kinds _ (by unfold inside; decide)]
    decide
  have file : v.files.root.kind? ["w", "a"] = some .file := by
    rw [confined.kinds _ (by unfold inside; decide)]
    decide
  have tidy := confined.tidy emptyCache_tidy
  have still : v.files.Steady := by
    rw [Files.Steady, confined.current, confined.kinds _ (by unfold inside; decide)]
    exact steady
  have grows := (restore_roams sampleStore "k" [plainPath] v).1.grows tidy still
  have restores : (Call.restore "k" [plainPath]).Allowed sampleStore ["c"] v := by
    refine ⟨isKey_k, named, fun _ _ _ => still, ?_⟩
    rintro key paths ⟨⟩
    exact spared_plainPath (grows _ _ folder) (grows _ _ file)
  exact ⟨_, _, rfl, first.call _ restores⟩

/-- The two calls are a save and a restore of one file. -/
theorem calls_orderly_emptyCache : ∃ past u, past.length = 2 ∧
    Calls sampleStore ["c"] emptyCache past u ∧ Orderly sampleStore ["c"] past u := by
  obtain ⟨past, u, two, calls⟩ := emptyCache_calls
  exact ⟨past, u, two, calls, calls_orderly emptyCache_begins calls⟩

/-- A cache that is empty, and a folder and a file to save. -/
def twoPaths : World where
  files := { root := [("c", .folder []),
    ("w", .folder [("x", .folder [("f", .file "1".toUTF8 false)]), ("y", .file "2".toUTF8 false)])] }
  processes := ⟨[], {}⟩
  replies := ⟨[], .refused .connection ""⟩

/-- The name of a folder that leads through an entry of the cache. -/
def throughCache : PathName := ⟨.root, ["c", "k", "..", "..", "w", "x"]⟩

/-- A restore of a path whose name leads through an entry that is gone makes a folder in the cache,
and puts it in the place of the entry. -/
theorem restore_fills_cache :
    let one := sampleStore.save "k" [⟨.root, ["w", "y"]⟩] twoPaths
    let two := sampleStore.save "k2" [throughCache] one.2
    let three := sampleStore.save "k" [longPath] two.2
    let four := sampleStore.restore "k2" [throughCache] three.2
    one.1.toOption = some true ∧ two.1.toOption = some true ∧ three.1.toOption = none ∧
      three.2.files.root.kind? ["c", "k"] = none ∧ four.1.toOption = some true ∧
        four.2.files.root.kind? ["c", "k"] = some .folder := by
  simp only [save, writeEntry, saveParts, savePart, isFolder_longPath]
  decide +kernel

end CacheStore

end BuildBench
