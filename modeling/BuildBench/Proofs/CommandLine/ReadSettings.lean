import BuildBench.Proofs.History.QuietActions
import BuildBench.Proofs.Settings.RefusedProfiles

/-!
# What a command reads

A command reads its words before it does anything, and reading changes nothing. The value of an option
depends on the last word behind the option, on its variable and on its default alone; the other
options of the command, and the order of all of them, do not matter to it.
-/

namespace BuildBench.CommandLine

open BuildBench.Action

variable {α β : Type}

/-! ## Guarded actions -/

namespace Guarded

/-- A guarded action keeps a law, whether or not it refuses the command line. -/
def Keeps (R : World → World → Prop) (a : Guarded α) : Prop := ∀ w, R w (a.run w).2

section Keeps

variable {R : World → World → Prop} [Law R]

/-- Nothing is done. -/
theorem Keeps.pure (x : α) : Keeps R (pure x : Guarded α) := Law.refl

/-- Nothing is done. -/
theorem Keeps.throw (r : Refusal) : Keeps R (throw r : Guarded α) := Law.refl

/-- By how the first part ends: with a fault, a refusal or a value handed on. -/
theorem Keeps.bind {a : Guarded α} {next : α → Guarded β} (first : Keeps R a)
    (second : ∀ x, Keeps R (next x)) : Keeps R (a >>= next) := by
  intro w
  have before := first w
  rw [guarded_bind_run]
  rcases ran : a.run w with ⟨f | r | x, u⟩ <;> rw [ran] at before
  · exact before
  · exact before
  · exact Law.trans before (second x u)

omit [Law R] in
/-- A lifted action does what it did. -/
theorem Keeps.lift {F : Fault → Prop} {a : Action α} (kept : Action.Keeps R F a) :
    Keeps R (liftM a : Guarded α) := by
  intro w
  rw [lifted_run]
  exact (kept w).1

/-- By induction on the items. -/
theorem Keeps.mapM {each : β → Guarded α} (kept : ∀ x, Keeps R (each x)) (items : List β) :
    Keeps R (items.mapM each) := by
  induction items with
  | nil => exact .pure []
  | cons x rest ih =>
    rw [List.mapM_cons]
    exact .bind (kept x) fun _ => .bind ih fun _ => .pure _

end Keeps

/-- A guarded action gives a value and changes nothing. -/
def Yields (a : Guarded α) (w : World) (x : α) : Prop := a.run w = (.ok (.ok x), w)

/-- The world is the same before and after. -/
theorem yields_of_keeps {a : Guarded α} {w v : World} {x : α} (still : Keeps (· = ·) a)
    (done : a.run w = (.ok (.ok x), v)) : v = w ∧ Yields a w x := by
  have same : w = v := by
    have kept := still w
    rw [done] at kept
    exact kept
  subst same
  exact ⟨rfl, done⟩

/-- A bind that ended well came through its first action. -/
theorem ran_of_bind {a : Guarded α} {next : α → Guarded β} {w v : World} {y : β}
    (done : (a >>= next).run w = (.ok (.ok y), v)) :
    ∃ x u, a.run w = (.ok (.ok x), u) ∧ (next x).run u = (.ok (.ok y), v) := by
  rw [guarded_bind_run] at done
  rcases first : a.run w with ⟨f | r | x, u⟩ <;> rw [first] at done
  · cases done
  · cases done
  · exact ⟨x, u, rfl, done⟩

/-- By induction on the items: each is read in the same world. -/
theorem yields_of_mapM {each : β → Guarded α} {w v : World} {items : List β} {results : List α}
    (still : ∀ x, Keeps (· = ·) (each x)) (done : (items.mapM each).run w = (.ok (.ok results), v)) :
    v = w ∧ List.Forall₂ (fun x y => Yields (each x) w y) items results := by
  induction items generalizing results v with
  | nil =>
    cases done
    exact ⟨rfl, .nil⟩
  | cons x rest ih =>
    rw [List.mapM_cons] at done
    obtain ⟨y, u, first, behind⟩ := ran_of_bind done
    obtain ⟨rfl, one⟩ := yields_of_keeps (still x) first
    obtain ⟨more, t, others, ended⟩ := ran_of_bind behind
    obtain ⟨rfl, all⟩ := ih others
    cases ended
    exact ⟨rfl, .cons one all⟩

end Guarded

open Guarded

/-! ## Options of the words -/

section Uses

variable {options : List OptionSpec} {next : Option String}

/-- It is found in the list. -/
theorem findOption_mem {short : Bool} {spelling : String} {o : OptionSpec}
    (found : findOption short spelling options = some o) : o ∈ options :=
  List.mem_of_find?_eq_some found

/-- The only use is of the option that was given. -/
theorem useWithValue_mem {o : OptionSpec} {spelling : String} {attached : Option String}
    {found : WordUses} (known : o ∈ options)
    (done : useWithValue o spelling attached next = .ok found) :
    ∀ u ∈ found.uses, u.option ∈ options := by
  unfold useWithValue at done
  split at done <;> cases done
  all_goals
    intro u among
    obtain rfl := List.mem_singleton.mp among
    exact known

/-- By induction on the letters: each is that of an option in the list. -/
theorem letterUses_mem {cs : List Char} {found : WordUses}
    (done : letterUses options next cs = .ok found) : ∀ u ∈ found.uses, u.option ∈ options := by
  induction cs generalizing found with
  | nil =>
    cases done
    exact nofun
  | cons c rest ih =>
    rw [letterUses] at done
    split at done
    · cases done
    · next o named =>
      have known := findOption_mem named
      split at done
      · exact useWithValue_mem known done
      · rcases others : letterUses options next rest with r | more <;> rw [others] at done
        · cases done
        · cases done
          exact List.forall_mem_cons.mpr ⟨known, ih others⟩

/-- By the way the word is read: as a long option, with a value attached, or as letters. -/
theorem wordUses_mem {word : String} {found : WordUses}
    (done : wordUses options word next = .ok found) : ∀ u ∈ found.uses, u.option ∈ options := by
  unfold wordUses at done
  dsimp only at done
  split at done
  · next o named =>
    have known := findOption_mem named
    split at done
    · exact useWithValue_mem known done
    split at done
    · cases done
    · cases done
      intro u among
      obtain rfl := List.mem_singleton.mp among
      exact known
  · split at done
    · cases done
    · exact letterUses_mem done

/-- Only options that there are can be used. -/
theorem separate_mem {mixed : Bool} {words : List String} {s : Separated}
    (done : separate options mixed words = .ok s) : ∀ u ∈ s.uses, u.option ∈ options := by
  induction size : words.length using Nat.strongRecOn generalizing words s with
  | _ n ih =>
  subst size
  have shorter {fewer : List String} {t : Separated} (less : fewer.length < words.length)
      (separated : separate options mixed fewer = .ok t) : ∀ u ∈ t.uses, u.option ∈ options :=
    ih _ less separated rfl
  cases words with
  | nil =>
    rw [separate] at done
    cases done
    exact List.forall_mem_nil _
  | cons word rest =>
    rw [separate] at done
    split at done
    · cases done
      exact List.forall_mem_nil _
    split at done
    · rcases used : wordUses options word rest.head? with r | found <;> rw [used] at done
      · cases done
      have known := wordUses_mem used
      -- What follows the word is separated from `rest`, or from what is left of it.
      have joined {others : Except Refusal Separated}
          (all : ∀ t, others = .ok t → ∀ u ∈ t.uses, u.option ∈ options)
          (done : others.map (fun s => { s with uses := found.uses ++ s.uses }) = .ok s) :
          ∀ u ∈ s.uses, u.option ∈ options := by
        rcases others with r | t <;> cases done
        exact fun u among => (List.mem_append.mp among).elim (known u) (all t rfl u)
      refine joined ?_ done
      intro t separated
      split at separated
      · split at separated
        · exact shorter (by simp only [List.length_cons]; omega) separated
        · exact shorter (Nat.lt_succ_self _) separated
      · cases separated
        exact List.forall_mem_nil _
    split at done
    · rcases others : separate options mixed rest with r | t <;> rw [others] at done <;> cases done
      have known := shorter (Nat.lt_succ_self _) others
      exact known
    · cases done
      exact List.forall_mem_nil _

end Uses

/-! ## Values of options -/

section Values

variable {uses : List Use} {o : OptionSpec} {w : World}

/-- The word for an option, if there is one. -/
def wordGiven (uses : List Use) (env : Variables) (o : OptionSpec) : Option String :=
  lastWord? uses o <|> (o.variableName.bind fun name => env.lookup name).filter (!·.isEmpty) <|>
    o.default

/-- It only asks for the environment. -/
theorem wordFor_run (uses : List Use) (o : OptionSpec) (w : World) :
    wordFor uses o w = (.ok (wordGiven uses w.environment o), w) := rfl

/-- Every step only asks. -/
theorem find_asks (name : String) : Asks (Disk.find? name) := by
  refine .bind (Disk.requireName_asks _) fun _ => ?_
  split
  · exact .pure _
  · refine .bind .get fun w => ?_
    split
    · split <;> exact .pure _
    · exact .pure _

/-- By the kind of the value: a path is looked up and a number read, and both only ask. -/
theorem valueOf_keeps (place : String) (kind : ValueKind) (word : String) :
    Keeps (· = ·) (valueOf place kind word) := by
  cases kind with
  | flag => exact .pure _
  | text => exact .pure _
  | path => exact .bind (.lift (find_asks word)) fun _ => .pure _
  | number =>
    simp only [valueOf]
    split
    · exact .pure _
    · exact .throw _
  | choice names =>
    simp only [valueOf]
    split
    · exact .pure _
    · exact .throw _
  | existingFile =>
    refine .bind (.lift (find_asks word)) fun found => ?_
    split
    · exact .throw _
    · exact .pure _
    · exact .throw _
  | folder =>
    refine .bind (.lift (find_asks word)) fun found => ?_
    split
    · exact .throw _
    · exact .pure _

/-- The word is taken and read, and both only ask. -/
theorem readOption_keeps (uses : List Use) (o : OptionSpec) :
    Keeps (· = ·) (readOption uses o) := by
  unfold readOption
  split
  · exact .pure _
  · have asks : Asks (wordFor uses o) := .bind .get fun _ => .pure _
    refine .bind (.lift asks) fun word => ?_
    split
    · exact .bind (valueOf_keeps _ _ _) fun _ => .pure _
    · split
      · exact .throw _
      · exact .pure _

/-- By induction on the arguments. -/
theorem readArguments_keeps (arguments : List ArgumentSpec) (words : List String) :
    Keeps (· = ·) (readArguments arguments words) := by
  induction arguments generalizing words with
  | nil => exact .pure _
  | cons a rest ih =>
    cases words with
    | nil => exact .throw _
    | cons word words => exact .bind (valueOf_keeps _ _ _) fun _ => .bind (ih _) fun _ => .pure _

/-- Reading changes nothing. -/
theorem read_keeps (c : CommandSpec) (s : Separated) : Keeps (· = ·) (c.read s) := by
  refine .bind (.mapM (readOption_keeps _) _) fun _ => .bind (readArguments_keeps _ _) fun read => ?_
  refine .bind (.mapM (readOption_keeps _) _) fun _ => ?_
  obtain ⟨values, left⟩ := read
  dsimp only
  split
  · exact .pure _
  · exact .throw _

/-- What is read of an option stands under its name. -/
theorem name_of_readOption {x : String × Value} (read : Yields (readOption uses o) w x) :
    x.1 = o.name := by
  unfold readOption Yields at read
  split at read
  · cases read
    rfl
  · obtain ⟨word, u, -, ended⟩ := ran_of_bind read
    split at ended
    · obtain ⟨v, t, -, ended⟩ := ran_of_bind ended
      cases ended
      rfl
    · split at ended <;> cases ended
      rfl

/-- The value of an option that takes a text or a file is the word for it. -/
theorem readOption_word {x : String × Value} (kind : o.kind = .text ∨ o.kind = .existingFile)
    (read : Yields (readOption uses o) w x) :
    x = (o.name, (wordGiven uses w.environment o).elim .null .text) := by
  have taking : o.takesValue = true := by
    rcases kind with text | file <;> simp [OptionSpec.takesValue, *]
  rw [Yields, readOption, if_neg (by simp [taking])] at read
  obtain ⟨found, u, sought, behind⟩ := ran_of_bind read
  rw [lifted_run, wordFor_run] at sought
  cases sought
  generalize wordGiven uses w.environment o = found at behind ⊢
  rcases found with _ | word
  · dsimp only at behind
    split at behind <;> cases behind
    rfl
  · obtain ⟨v, u, valued, ended⟩ := ran_of_bind behind
    cases ended
    have same : v = .text word := by
      rcases kind with text | file
      · rw [text] at valued
        cases valued
        rfl
      · rw [file] at valued
        obtain ⟨entry, t, -, ended⟩ := ran_of_bind valued
        split at ended <;> cases ended
        rfl
    rw [same]
    rfl

end Values

/-! ## Values by name -/

section Named

variable {c : CommandSpec} {s : Separated} {g : Given} {w v : World}

/-- A command whose options have names of their own, and which takes no arguments. -/
structure CommandSpec.Plain (c : CommandSpec) : Prop where
  arguments : c.arguments = []
  distinct : (c.allOptions.map OptionSpec.name).Nodup

/-- The word behind the last use of the option of some name. -/
def Separated.word? (s : Separated) (name : String) : Option String :=
  (s.uses.filter (·.option.name = name)).getLast?.bind (·.value)

/-- By induction on the results: the first with the name is that of the option, for no other has its
name. -/
theorem lookup_of_results {P : OptionSpec → String × Value → Prop} {options : List OptionSpec}
    {results : List (String × Value)} (read : List.Forall₂ P options results)
    (named : ∀ o x, P o x → x.1 = o.name) {o : OptionSpec} (among : o ∈ options)
    (alone : ∀ o' ∈ options, o'.name = o.name → o' = o) :
    ∃ v, P o (o.name, v) ∧ results.lookup o.name = some v := by
  induction read with
  | nil => cases among
  | @cons o' x options results one others ih =>
    obtain ⟨name, v⟩ := x
    obtain rfl : name = o'.name := named _ _ one
    by_cases here : o'.name = o.name
    · obtain rfl := alone o' (by simp) here
      exact ⟨v, one, by simp⟩
    · have later : o ∈ options := (List.mem_cons.mp among).resolve_left fun same => here (same ▸ rfl)
      obtain ⟨v, found, held⟩ := ih later fun o' among => alone o' (List.mem_cons_of_mem _ among)
      have other : (o.name == o'.name) = false := by simpa using Ne.symm here
      exact ⟨v, found, by rw [List.lookup_cons, other]; exact held⟩

/-- The names are all different. -/
theorem CommandSpec.Plain.alone (plain : c.Plain) {o o' : OptionSpec} (one : o ∈ c.allOptions)
    (other : o' ∈ c.allOptions) (same : o.name = o'.name) : o = o' :=
  List.inj_on_of_nodup_map plain.distinct one other same

/-- Every option of a command is read by itself. -/
theorem value_of_read (plain : c.Plain) (known : ∀ u ∈ s.uses, u.option ∈ c.options)
    (done : (c.read s).run w = (.ok (.ok g), v)) {o : OptionSpec} (among : o ∈ c.options) :
    Yields (readOption s.uses o) w (o.name, g.value o.name) := by
  obtain ⟨first, u, usedOnes, afterUsed⟩ := ran_of_bind done
  obtain ⟨rfl, one⟩ := yields_of_mapM (readOption_keeps _) usedOnes
  obtain ⟨read, t, arguments, afterArguments⟩ := ran_of_bind afterUsed
  rw [plain.arguments] at arguments
  cases arguments
  obtain ⟨others, t, unusedOnes, ended⟩ := ran_of_bind afterArguments
  obtain ⟨rfl, other⟩ := yields_of_mapM (readOption_keeps _) unusedOnes
  have values : g.values = first ++ others := by
    dsimp only at ended
    split at ended <;> cases ended
    rw [List.append_nil]
  have all := List.rel_append one other
  have present : o ∈ (s.uses.map (·.option)).eraseDups ++
      c.options.filter (!(s.uses.map (·.option)).eraseDups.contains ·) := by
    by_cases used : o ∈ (s.uses.map (·.option)).eraseDups
    · exact List.mem_append_left _ used
    · exact List.mem_append_right _ (List.mem_filter.mpr ⟨among, by simpa using used⟩)
  have alone : ∀ o' ∈ (s.uses.map (·.option)).eraseDups ++
      c.options.filter (!(s.uses.map (·.option)).eraseDups.contains ·), o'.name = o.name → o' = o := by
    intro o' listed same
    refine plain.alone (List.mem_append_left _ ?_) (List.mem_append_left _ among) same
    rcases List.mem_append.mp listed with used | unused
    · obtain ⟨u, use, rfl⟩ := List.mem_map.mp (List.mem_eraseDups.mp used)
      exact known u use
    · exact List.mem_of_mem_filter unused
  obtain ⟨value, read, held⟩ := lookup_of_results all (fun _ _ => name_of_readOption) present alone
  rw [Given.value, values, held]
  exact read

/-- The option of some name is used with the same words, whichever way it is looked for. -/
theorem lastWord_eq (plain : c.Plain) (known : ∀ u ∈ s.uses, u.option ∈ c.options) {o : OptionSpec}
    (among : o ∈ c.options) : lastWord? s.uses o = s.word? o.name := by
  have same : s.uses.filter (·.option = o) = s.uses.filter (·.option.name = o.name) := by
    refine List.filter_congr fun u use => ?_
    have only : u.option = o ↔ u.option.name = o.name :=
      ⟨fun same => same ▸ rfl, plain.alone (List.mem_append_left _ (known u use))
        (List.mem_append_left _ among)⟩
    simp [only]
  rw [lastWord?, same]
  rfl

/-- The word for the option of some name: from the line, else from a variable that is not empty. -/
def Separated.given? (s : Separated) (env : Variables) (o : OptionSpec) : Option String :=
  s.word? o.name <|> (o.variableName.bind fun name => env.lookup name).filter (!·.isEmpty)

/-- An option without a default that takes a text or a file is given the word for it. -/
theorem text_of_read (plain : c.Plain) (known : ∀ u ∈ s.uses, u.option ∈ c.options)
    (done : (c.read s).run w = (.ok (.ok g), v)) {o : OptionSpec} (among : o ∈ c.options)
    (kind : o.kind = .text ∨ o.kind = .existingFile) (bare : o.default = none) :
    g.text? o.name = s.given? w.environment o := by
  have read := congrArg Prod.snd (readOption_word kind (value_of_read plain known done among))
  have word : wordGiven s.uses w.environment o = s.given? w.environment o := by
    rw [wordGiven, lastWord_eq plain known among, bare, Separated.given?]
    simp only [Option.orElse_eq_orElse, Option.orElse_eq_or, Option.or_none]
  dsimp only at read
  rw [Given.text?, read, word]
  cases s.given? w.environment o <;> rfl

end Named

/-! ## Calling a command -/

section Calling

variable {w v : World} {usage hint : String}

/-- A command reads its words, and they ask for no help. -/
structure Command.Reads (c : Command) (words : List String) (w : World) (s : Separated) (g : Given) :
    Prop where
  separated : separate c.spec.allOptions true words = .ok s
  unhelped : ∀ u ∈ s.uses, u.option ≠ helpOption
  given : (c.spec.read s).run w = (.ok (.ok g), w)

/-- The one option added to those of the command asks for help, and it was not given. -/
theorem Command.Reads.known {c : Command} {words : List String} {s : Separated} {g : Given}
    (reads : c.Reads words w s g) : ∀ u ∈ s.uses, u.option ∈ c.spec.options := by
  intro u among
  have listed := separate_mem reads.separated u among
  rcases List.mem_append.mp listed with own | help
  · exact own
  · exact absurd (List.mem_singleton.mp help) (reads.unhelped u among)

/-- What a command line ends with depends on its action alone. -/
theorem stoppable_congr {one other : Guarded Int} (same : one.run w = other.run v) :
    stoppable (answering usage hint one) w = stoppable (answering usage hint other) v := by
  have answered : answering usage hint one w = answering usage hint other v := by
    rw [answering, answering, bind_run, bind_run, same]
  rw [stoppable, stoppable, tryCatch_run, tryCatch_run, answered]

/-- Nothing is caught. -/
theorem stoppable_of_ok {action : Guarded Int} {code : Int}
    (done : action.run w = (.ok (.ok code), v)) :
    stoppable (answering usage hint action) w = (.ok code, v) := by
  rw [stoppable, tryCatch_run, answering, bind_run, done]
  rfl

/-- Only interruptions are caught. -/
theorem stoppable_of_error {action : Guarded Int} {f : Fault} (other : f ≠ .interrupted)
    (failed : action.run w = (.error f, v)) :
    stoppable (answering usage hint action) w = (.error f, v) := by
  rw [stoppable, tryCatch_run, answering, bind_run, failed]
  cases f <;> first | rfl | exact absurd rfl other

/-- The words behind that of a command are for the command. -/
theorem act_command (c : Command) (words : List String) (w : World) :
    act (c.word :: words) w = actOnCommand c words w := by
  have called : Command.ofWord? c.word = some c := by cases c <;> decide
  have separated : separate programSpec.allOptions false (c.word :: words) =
      .ok { arguments := c.word :: words } := by
    have word : c.word ≠ "--" ∧ isOptionWord c.word = false := by cases c <;> decide
    rw [separate, if_neg word.1, if_neg (by simp [word.2]), if_neg (by simp)]
  have acts : (actOnSeparated { arguments := c.word :: words }).run w =
      ((actOnCommand c words w).1.map .ok, (actOnCommand c words w).2) := by
    have called : actOnSeparated { arguments := c.word :: words } = liftM (actOnCommand c words) := by
      simp only [actOnSeparated, called]
    rw [called, lifted_run]
  rw [act, if_neg (by simp), answering, bind_run, separated, acts]
  rcases actOnCommand c words w with ⟨f | code, v⟩ <;> rfl

/-- A command that reads its words goes on to what it does. -/
theorem act_reads {c : Command} {words : List String} {s : Separated} {g : Given}
    (reads : c.Reads words w s g) :
    act (c.word :: words) w =
      stoppable (answering c.spec.usage c.spec.hint (c.perform g)) w := by
  rw [act_command, actOnCommand]
  refine stoppable_congr ?_
  have unhelped : (s.uses.any (·.option = helpOption)) = false := by
    simpa using reads.unhelped
  rw [reads.separated]
  dsimp only
  rw [unhelped, if_neg (by simp), guarded_bind_run, reads.given]

end Calling

end BuildBench.CommandLine
