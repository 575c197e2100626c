import BuildBench.Proofs.Run.SparedCache

/-!
# The changes that a run makes itself

Beside its processes and its records a run changes files in five ways: it makes room for a checkout,
restores what it cached, removes what stands at the place of the artifact, stores the fixture, and
makes and removes a temporary file. The first two only add to the tree, and leave a place alone that
their names avoid afterwards. The others change one leaf at a time, and leave a place alone that their
names avoid before.
-/

namespace BuildBench

open BuildBench.Action

/-! ## The same temporary files -/

/-- An operation changes files, and the temporary folder is known apart from them. -/
theorem Disk.change_temporary (path : PathName) (operation : Files → Except SystemError Files) :
    Keeps SameTemporary (fun f => f.isStage = false) (Disk.change path operation) := by
  refine fun w => ⟨?_, (Disk.change_quiet path operation w).2⟩
  obtain ⟨f, failed⟩ | ⟨files, -, -, changed⟩ := Disk.change_cases path operation w
  · rw [failed]
    exact Law.refl w
  · rw [changed]
    exact ⟨rfl, rfl⟩

/-- As for any change of files. -/
theorem Disk.makeFolders_temporary (path : PathName) :
    Keeps SameTemporary (fun f => f.isStage = false) (Disk.makeFolders path) := by
  refine fun w => ⟨?_, (Disk.makeFolders_quiet path w).2⟩
  obtain ⟨f, failed, -⟩ | ⟨files, -, -, made⟩ := Disk.makeFolders_cases path w
  · rw [failed]
    exact Law.refl w
  · rw [made]
    exact ⟨rfl, rfl⟩

/-- As for any change of files. -/
theorem Disk.copyTree_temporary (source target : PathName) :
    Keeps SameTemporary (fun f => f.isStage = false) (Disk.copyTree true source target) := by
  refine fun w => ⟨?_, (Disk.copyTree_quiet true source target w).2⟩
  obtain ⟨f, failed⟩ | ⟨-, -, copied⟩ := Disk.copyTree_cases true source target w
  · rw [failed]
    exact Law.refl w
  · rw [copied]
    exact ⟨rfl, rfl⟩

/-- Restoring writes records, copies and makes folders. -/
theorem CacheStore.restore_temporary (store : CacheStore) (key : String) (paths : List PathName) :
    Keeps SameTemporary (Fault.IsInternal (· = .setup)) (store.restore key paths) :=
  restore_keeps store key paths
    (fun _ => (record_recorded _).weaken fun _ _ recorded => recorded.toSameTemporary)
    (restoreParts_keeps Disk.copyTree_temporary Disk.makeFolders_temporary
      (fun _ _ => Disk.change_temporary _ _) _ _ _)

namespace Run

variable {α : Type} {plan : Plan} {start w u v : World} {place goal : Location} {files : Files}
  {path : PathName} {names : PathName → Prop}

/-! ## What only adds -/

/-- Files only grew on the ways of the names. A place that none of them passes afterwards was passed
by none before. -/
theorem backward_of_roams (roams : Roams names w v) (temporary : SameTemporary w v)
    (among : v.files.Avoids (plan.Writes start) place → v.files.Avoids names place) :
    Backward plan start place w v := by
  intro underway
  have grows := roams.grows underway.tidy underway.steady
  have current := roams.current underway.tidy
  refine ⟨underway.further roams.toSameHost temporary (roams.tidy underway.tidy)
    (roams.steady underway.tidy underway.steady), fun avoids => ⟨fun location below => ?_, ?_⟩⟩
  · -- What is different was reached by one of the names, which all keep away from the place.
    refine Classical.byContradiction fun different => ?_
    obtain ⟨name, named, passed⟩ := roams.reached underway.tidy underway.steady location different
      fun opened => underway.unlogged location opened below
    exact among avoids name named location passed below
  · intro name named passed there
    exact avoids name named passed (Files.way_mono grows current name there)

/-- The folders that are made are on the way of the working directory. -/
theorem makeRoom_backward (repo : Value) :
    (makeRoom repo plan.settings.workdir).Obeys
      (Through plan start place (Backward plan start place)) := by
  unfold makeRoom
  split
  · intro w
    have made : Keeps (Roams (· = plan.settings.workdir.parent)) (fun f => f.isStage = false)
        (Disk.makeFolders plan.settings.workdir.parent) := CacheStore.Disk.makeFolders_roams rfl
    have roams := (made w).1
    have untouched := (Disk.makeFolders_quiet plan.settings.workdir.parent w).1
    refine ⟨.of_untouched untouched (backward_of_roams roams
      (Disk.makeFolders_temporary _ w).1 ?_), fun _ _ => trivial⟩
    rintro avoids name rfl passed there
    exact avoids _ .workdir passed (Files.way_parent _ _ there)
  · exact .pure _

/-- Without a cache nothing happens. With one what is restored lies on the way of the paths. -/
theorem restoreCache_backward {key : String} {paths : List PathName}
    (placed : plan.cachePaths w.homes = .ok paths) :
    Through plan start place (Backward plan start place) w
      (restoreCache plan.store key paths w).2 := by
  have untouched := (restoreCache_quiet plan.store key paths w).1
  refine .of_untouched untouched fun underway => ?_
  rcases given : plan.store with _ | store
  · exact Law.refl (R := Backward plan start place) w underway
  · have roams := (store.restore_roams key paths w).1
    have temporary := (store.restore_temporary key paths w).1
    refine backward_of_roams roams temporary (fun avoids name around passed there => ?_) underway
    rw [homes_eq underway.toSameHost] at placed
    exact avoids name (.cached placed around) passed there

/-! ## What changes one leaf -/

/-- One leaf was changed, on the way of a name that keeps away from the place, so no name comes
nearer to it. -/
theorem forward_of_oneLeaf (alters : Files.OneLeaf goal w.files v.files) (host : SameHost w v)
    (temporary : SameTemporary w v) (named : plan.Writes start path)
    (reached : goal ∈ w.files.way path) : Forward plan start place w v := fun underway avoids =>
  ⟨underway.further host temporary (alters.tidy underway.tidy) (alters.steady underway.steady),
    alters.same avoids named reached, alters.avoids avoids⟩

/-- An operation that fails changes nothing, and one that succeeds changes one leaf. -/
theorem change_forward {operation : Files → Except SystemError Files}
    (named : plan.Writes start path)
    (each : ∀ files changed, operation files = .ok changed →
      ∃ goal ∈ files.way path, Files.OneLeaf goal files changed) :
    (Disk.change path operation).Obeys (Through plan start place (Forward plan start place)) := by
  refine fun w => ⟨?_, fun _ _ => trivial⟩
  have untouched := (Disk.change_quiet path operation w).1
  have temporary := (Disk.change_temporary path operation w).1
  refine .of_untouched untouched ?_
  obtain ⟨f, failed⟩ | ⟨files, -, done, changed⟩ := Disk.change_cases path operation w
  · rw [failed]
    exact Law.refl w
  · rw [changed] at untouched temporary ⊢
    obtain ⟨goal, reached, alters⟩ := each _ _ done
    exact forward_of_oneLeaf (v := w.withFiles files) alters untouched.toSameHost temporary named
      reached

/-- A file is written at the end of its way. -/
theorem write_forward (named : plan.Writes start path) (content : ByteArray) :
    (Disk.write path content).Obeys (Through plan start place (Forward plan start place)) :=
  change_forward named fun _ _ => Files.write_oneLeaf

/-- What is taken away stood at the end of its way. -/
theorem unlink_forward (named : plan.Writes start path) :
    (Disk.unlink path).Obeys (Through plan start place (Forward plan start place)) :=
  change_forward named fun _ _ => Files.unlink_oneLeaf

/-- The handler changes nothing more. -/
theorem unlinkIfThere_forward (named : plan.Writes start path) :
    (Disk.unlinkIfThere path).Obeys (Through plan start place (Forward plan start place)) := by
  refine .tryCatch (unlink_forward named) fun f _ => ?_
  split
  · exact .pure _
  · exact .throw trivial

/-- Records and processes leave the place alone in both ways. -/
theorem conduct_forward : Conduct (Through plan start place (Forward plan start place)) :=
  conduct_mono fun _ _ => BothWays.forward

/-! ## Building -/

/-- The artifact is asked for, and unlinked under the name that the plan has for it. -/
theorem removeStale_forward (named : plan.Writes start path) :
    (Artifact.removeStale path).Obeys (Through plan start place (Forward plan start place)) := by
  refine .bind (Artifact.isTaken_asks _).obeys fun taken => ?_
  split
  · refine .bind (conduct_forward.log _ _ _) fun _ => .tryCatch (unlink_forward named) fun f _ => ?_
    split <;> exact .throw trivial
  · exact .pure _

/-- What stands there is unlinked; the rest of a build consists of records and a process. -/
theorem buildStage_forward (plan : Plan) (workdir : PathName) (env : Environment) :
    (buildStage plan.settings workdir env).Obeys
      (Through plan start place (Forward plan start place)) := by
  intro w
  -- The place of the artifact is a name of the plan only where the homes are those of the start,
  -- and elsewhere the run is not underway.
  by_cases home : w.homes = start.homes
  · have homes : Disk.homes w = (.ok start.homes, w) := home ▸ rfl
    have built : (do
        let artifact ← ofResult (plan.settings.artifactPath start.homes)
        Artifact.build plan.settings.build artifact workdir env).Obeys
          (Through plan start place (Forward plan start place)) :=
      .of_given fun artifact placed => .bind (removeStale_forward (.artifact placed)) fun _ =>
        .bind (.given _) fun _ => conduct_forward.buildCleared _ _ _ _
    rw [buildStage, bind_run, homes]
    exact built w
  · obtain ⟨ds, enacted, -⟩ := buildStage_orderly .null plan.settings workdir env w
    exact ⟨⟨ds, enacted, fun _ underway => absurd (homes_eq underway.toSameHost) home⟩,
      fun _ _ => trivial⟩

/-! ## The fixture -/

/-- A request changes no file. -/
theorem request_forward (url timeout : Value) :
    (Fixture.request url timeout).Obeys (Through plan start place (Forward plan start place)) := by
  refine fun w => ⟨?_, fun _ _ => trivial⟩
  obtain ⟨ds, enacted, -⟩ := Fixture.request_tells url timeout w
  have same : SameDisk w (Fixture.request url timeout w).2 := by
    unfold Fixture.request
    simp only [bind_run, note_run, get_run, set_run]
    rcases replied : w.replies.next.1 with ⟨status, chunks, cut⟩ | ⟨_ | _ | _, text⟩ <;>
      simp only [noted, replied]
    · split <;> exact ⟨⟨rfl, rfl⟩, rfl⟩
    all_goals exact ⟨⟨rfl, rfl⟩, rfl⟩
  exact ⟨ds, enacted, fun _ => (bothWays_of_sameDisk enacted.toSameHost same).forward⟩

/-- A note changes no file. -/
theorem readBody_forward (size : Nat) :
    (note (.readBody size)).Obeys (Through plan start place (Forward plan start place)) := by
  refine fun w => ⟨?_, fun _ _ => trivial⟩
  have enacted : Enacted w [] (noted (.readBody size) w) :=
    ⟨noted_host _ w, [⟨.event (.readBody size), w.files⟩], rfl, trivial, fun _ _ => rfl⟩
  exact ⟨[], enacted, fun _ =>
    (bothWays_of_sameDisk enacted.toSameHost (noted_sameDisk _ w)).forward⟩

/-- The body is written to one file, and that file is taken away if it is not wanted. -/
theorem keep_forward (named : plan.Writes start path) (url sha256 : Value) (body : Fixture.Body) :
    (Fixture.keep url sha256 path body).Obeys
      (Through plan start place (Forward plan start place)) := by
  have removed : ∀ {α : Type} (f : Fault), (do Disk.unlinkIfThere path; throw f : Action α).Obeys
      (Through plan start place (Forward plan start place)) := fun f =>
    .bind (unlinkIfThere_forward named) fun _ => .throw trivial
  have stored : (Fixture.store url path body).Obeys
      (Through plan start place (Forward plan start place)) := by
    refine .bind (.tryCatch (write_forward named _) fun f _ => ?_) fun _ =>
      .bind (readBody_forward _) fun _ => .bind (write_forward named _) fun _ => ?_
    · split
      · exact removed _
      · exact .throw trivial
    · split
      · exact removed _
      · exact .pure _
  have verified : (Fixture.verify sha256 path body).Obeys
      (Through plan start place (Forward plan start place)) := by
    unfold Fixture.verify
    split
    · exact .pure _
    · refine .bind (.given _) fun _ => ?_
      dsimp only
      split
      · exact .pure _
      · exact removed _
  exact .bind stored fun _ => .bind verified fun _ => .bind (conduct_forward.log _ _ _) fun _ =>
    .pure _

/-- Everything goes to the file under the name of the fixture. -/
theorem fetch_forward {fixture : FixtureSettings}
    (given : plan.settings.fixture.given = .ok fixture) :
    (Fixture.fetch fixture.url plan.settings.workdir fixture.timeout fixture.sha256).Obeys
      (Through plan start place (Forward plan start place)) := by
  refine .of_given fun name named => ?_
  exact .bind (conduct_forward.log _ _ _) fun _ => .bind (request_forward _ _) fun _ =>
    keep_forward (.fixture given named) _ _ _

/-! ## The report of an external program -/

/-- A temporary file is new. -/
theorem makeReportFile_cases (w : World) :
    (∃ f, Timing.makeReportFile w = (.error f, w)) ∨
      ∃ goal, w.files.Leads false w.reportPath goal ∧ w.files.root.kind? goal = none ∧
        Timing.makeReportFile w = (.ok w.reportPath,
          { w with files := w.files.put goal (.file ByteArray.empty false) }) := by
  unfold Timing.makeReportFile
  rw [bind_run, get_run]
  dsimp only
  rw [show w.temporary.child ("binbench-hyperfine-" ++ w.unique ++ ".json") = w.reportPath from rfl]
  rcases placed : w.files.place false w.reportPath with e | ⟨goal, _ | entry⟩
  · exact .inl ⟨_, rfl⟩
  · obtain ⟨leads, same⟩ := Files.place_eq_ok_iff.mp placed
    exact .inr ⟨goal, leads, Folder.kind?_eq_none.mpr same.symm, rfl⟩
  · exact .inl ⟨_, rfl⟩

/-- The report file is made and taken away under a name of the plan. In between there is a process.
-/
theorem measureExternally_forward (command : Value) (folder : PathName) (env : Environment)
    (warmup runs : Value) :
    (Timing.measureExternally command folder env warmup runs).Obeys
      (Through plan start place (Forward plan start place)) := by
  refine fun w => ⟨?_, fun _ _ => trivial⟩
  -- As with the homes above, a run underway names its temporary files as at the start.
  by_cases home : w.reportPath = start.reportPath
  · have rest : (thenAlways (Timing.timeWithReport w.reportPath command folder env warmup runs)
        (Disk.unlinkIfThere w.reportPath)).Obeys
          (Through plan start place (Forward plan start place)) :=
      .thenAlways (conduct_forward.timeWithReport _ _ _ _ _ _)
        (unlinkIfThere_forward (home ▸ .report))
    have untouched := (Timing.makeReportFile_quiet w).1
    unfold Timing.measureExternally
    rw [bind_run]
    obtain ⟨f, failed⟩ | ⟨goal, leads, vacant, made⟩ := makeReportFile_cases w
    · rw [failed]
      exact Law.refl w
    · rw [made] at untouched ⊢
      have alters : Files.OneLeaf goal w.files (w.files.put goal (.file ByteArray.empty false)) :=
        Files.oneLeaf_of_put leads (by simp [vacant])
      have making : Forward plan start place w
          { w with files := w.files.put goal (.file ByteArray.empty false) } :=
        forward_of_oneLeaf alters untouched.toSameHost ⟨rfl, rfl⟩ (home ▸ .report)
          leads.goal_mem_way
      exact Law.trans (Through.of_untouched untouched making) (rest _).1
  · have told : (Timing.measureExternally command folder env warmup runs).Tells
        (Orderly .null (· = .measure)) := Timing.measureExternally_orderly _ _ _ _ _
    obtain ⟨ds, enacted, -⟩ := told w
    refine ⟨ds, enacted, fun _ underway => absurd ?_ home⟩
    rw [World.reportPath, underway.folder, underway.unique]
    rfl

/-- A download, and a measurement of either kind. -/
theorem measureStage_forward (artifact : PathName) (env : Environment) :
    (measureStage plan.settings artifact plan.settings.workdir env).Obeys
      (Through plan start place (Forward plan start place)) := by
  refine .of_given fun fixture given => ?_
  exact .bind (fetch_forward given) fun _ =>
    conduct_forward.takeOn measureExternally_forward _ _ _ _ _

end Run

end BuildBench
