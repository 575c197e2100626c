import BuildBench.World.Basic

/-!
# How actions compose

An action is followed from a world to its result and the world after it. A law that holds of a world
and itself and that composes passes from the parts of an action to the whole: one rule for each way
to put actions together. A fault class passes in the same manner, so that one derivation gives both
what an action leaves alone and how it may fail.

The rules say nothing about which result an action has. Where the result matters, an action is
opened with the equations of the first section.
-/

namespace BuildBench.Action

variable {α β : Type}

/-! ## Results -/

/-- What is given back leaves the world as it is. -/
theorem pure_run (x : α) (w : World) : (pure x : Action α) w = (.ok x, w) := rfl

/-- A fault leaves the world as it is; what was done before it stays done. -/
theorem throw_run (f : Fault) (w : World) : (throw f : Action α) w = (.error f, w) := rfl

/-- A fault is no result, so a branch that throws is none in which an action came out well. -/
theorem throw_not_ok {f : Fault} {w v : World} {x : α} :
    (throw f : Action α) w ≠ (.ok x, v) :=
  fun thrown => nomatch (Prod.mk.inj thrown).1

/-- One action after the other: the second starts in the world that the first leaves, and is not
started after a fault. -/
theorem bind_run (a : Action α) (next : α → Action β) (w : World) :
    (a >>= next) w =
      match a w with
      | (.ok x, v) => next x v
      | (.error f, v) => (.error f, v) := by
  change ExceptT.bindCont next (a w).1 (a w).2 = _
  rcases a w with ⟨_ | _, _⟩ <;> rfl

/-- A handler starts in the world that the fault has left, for nothing is undone. -/
theorem tryCatch_run (a : Action α) (handler : Fault → Action α) (w : World) :
    (tryCatch a handler) w =
      match a w with
      | (.ok x, v) => (.ok x, v)
      | (.error f, v) => handler f v := by
  change ExceptT.tryCatch (ExceptT.mk fun _ => a w) handler w = _
  rcases a w with ⟨_ | _, _⟩ <;> rfl

/-- Looking at the world changes nothing. -/
theorem get_run (w : World) : (get : Action World) w = (.ok w, w) := rfl

/-- The world is replaced as a whole. -/
theorem set_run (v w : World) : (set v : Action PUnit) w = (.ok ⟨⟩, v) := rfl

/-- A change of the world cannot fail. -/
theorem modify_run (change : World → World) (w : World) :
    (modify change : Action PUnit) w = (.ok ⟨⟩, change w) := rfl

/-- A result that was computed already does not depend on the world. -/
theorem ofResult_run (r : Except Fault α) (w : World) : ofResult r w = (r, w) := by
  cases r <;> rfl

/-- What came out well has no fault to rename. -/
theorem mapError_ok {ε : Type} (x : α) (change : ε → Fault) :
    (Except.ok x : Except ε α).mapError change = .ok x := rfl

/-- A fault that is renamed is the new one. -/
theorem mapError_error {ε : Type} (e : ε) (change : ε → Fault) :
    (Except.error e : Except ε α).mapError change = .error (change e) := rfl

/-- A result that is known can be put in the place of its name. -/
theorem ofResult_ok_bind (x : α) (next : α → Action β) : (ofResult (.ok x) >>= next) = next x := rfl

/-- An attempt always comes out well, because its result tells of the fault. -/
theorem attempt_run (a : Action α) (w : World) : attempt a w = (.ok (a w).1, (a w).2) := rfl

/-- A sequence that ends well went well in both parts. -/
theorem ok_of_bind_ok {a : Action α} {next : α → Action β} {w v : World} {y : β}
    (ended : (a >>= next) w = (.ok y, v)) :
    ∃ x u, a w = (.ok x, u) ∧ next x u = (.ok y, v) := by
  rw [bind_run] at ended
  rcases ran : a w with ⟨f | x, u⟩ <;> rw [ran] at ended
  · exact absurd (Prod.mk.inj ended).1 (by simp)
  · exact ⟨x, u, rfl, ended⟩

/-- What catches faults only to throw others ends well when the action does. -/
theorem ok_of_tryCatch_ok {a : Action α} {handler : Fault → Action α} {w v : World} {x : α}
    (ended : tryCatch a handler w = (.ok x, v))
    (throws : ∀ f u y t, handler f u ≠ (.ok y, t)) : a w = (.ok x, v) := by
  rw [tryCatch_run] at ended
  rcases ran : a w with ⟨f | y, u⟩ <;> rw [ran] at ended
  · exact absurd ended (throws _ _ _ _)
  · exact ended

/-! ## Laws that compose -/

/-- A relation between the world before and the world after that holds of doing nothing and of two
actions if it holds of each. -/
class Law (R : World → World → Prop) : Prop where
  refl : ∀ w, R w w
  trans : ∀ {u v w}, R u v → R v w → R u w

/-- An action keeps a law and fails only with faults of a class. -/
def Keeps (R : World → World → Prop) (F : Fault → Prop) (a : Action α) : Prop :=
  ∀ w, R w (a w).2 ∧ ∀ f, (a w).1 = .error f → F f

section Keeps

variable {R : World → World → Prop} {F G : Fault → Prop}

/-- An action that stays within some faults stays within more of them. -/
theorem Keeps.mono {a : Action α} (kept : Keeps R F a) (wider : ∀ f, F f → G f) : Keeps R G a :=
  fun w => ⟨(kept w).1, fun f failed => wider f ((kept w).2 f failed)⟩

/-- What is kept in a strong sense is kept in every weaker one. -/
theorem Keeps.weaken {S : World → World → Prop} {a : Action α} (kept : Keeps R F a)
    (weaker : ∀ w v, R w v → S w v) : Keeps S F a :=
  fun w => ⟨weaker _ _ (kept w).1, (kept w).2⟩

/-- A change of the world keeps what it keeps in every world, and never fails. -/
theorem Keeps.modify {change : World → World} (kept : ∀ w, R w (change w)) :
    Keeps R F (modify change : Action PUnit) :=
  fun w => ⟨kept w, fun _ failed => by simp [modify_run] at failed⟩

/-- An attempt leaves the world of its action, and its own faults are none. -/
theorem Keeps.attempt {a : Action α} (kept : Keeps R G a) : Keeps R F (attempt a) :=
  fun w => ⟨(kept w).1, fun _ failed => by simp [attempt_run] at failed⟩

variable [Law R]

/-- What is given back keeps every law, since a law holds of a world and itself. -/
theorem Keeps.pure (x : α) : Keeps R F (pure x : Action α) :=
  fun w => ⟨Law.refl w, fun _ failed => by simp [pure_run] at failed⟩

/-- A fault keeps every law, if it is among the faults that are allowed. -/
theorem Keeps.throw {f : Fault} (allowed : F f) : Keeps R F (throw f : Action α) :=
  fun w => ⟨Law.refl w, fun g failed => by
    simp only [throw_run, Except.error.injEq] at failed
    exact failed ▸ allowed⟩

/-- Laws are transitive, so two actions in a row keep what each of them keeps. -/
theorem Keeps.bind {a : Action α} {next : α → Action β} (first : Keeps R F a)
    (second : ∀ x, Keeps R F (next x)) : Keeps R F (a >>= next) := by
  intro w
  have before := first w
  rcases ran : a w with ⟨f | x, v⟩ <;> rw [ran] at before <;> simp only [bind_run, ran]
  · exact ⟨before.1, fun g failed => before.2 g (by simpa using failed)⟩
  · exact ⟨Law.trans before.1 (second x v).1, (second x v).2⟩

/-- A handler only has to deal with the faults that can arise. -/
theorem Keeps.tryCatch {a : Action α} {handler : Fault → Action α} (first : Keeps R G a)
    (handled : ∀ f, G f → Keeps R F (handler f)) : Keeps R F (tryCatch a handler) := by
  intro w
  have before := first w
  rcases ran : a w with ⟨f | x, v⟩ <;> rw [ran] at before <;> simp only [tryCatch_run, ran]
  · have after := handled f (before.2 f rfl) v
    exact ⟨Law.trans before.1 after.1, after.2⟩
  · exact ⟨before.1, fun g failed => by simp at failed⟩

/-- Looking at the world keeps every law. -/
theorem Keeps.get : Keeps R F (get : Action World) :=
  fun w => ⟨Law.refl w, fun _ failed => by simp [get_run] at failed⟩

/-- A computed result keeps every law; only its fault has to be allowed. -/
theorem Keeps.ofResult {r : Except Fault α} (allowed : ∀ f, r = .error f → F f) :
    Keeps R F (ofResult r) := by
  intro w
  rw [ofResult_run]
  exact ⟨Law.refl w, allowed⟩

/-- By induction on the items: one more action of the same kind changes nothing. -/
theorem Keeps.forM {items : List β} {each : β → Action PUnit} (kept : ∀ x, Keeps R F (each x)) :
    Keeps R F (items.forM each) := by
  induction items with
  | nil => exact .pure _
  | cons x rest ih => exact .bind (kept x) fun _ => ih

/-- By induction on the items, as for actions without results. -/
theorem Keeps.mapM {γ : Type} {items : List β} {each : β → Action γ}
    (kept : ∀ x, Keeps R F (each x)) : Keeps R F (items.mapM each) := by
  induction items with
  | nil => simpa using Keeps.pure _
  | cons x rest ih =>
    rw [List.mapM_cons]
    exact .bind (kept x) fun _ => .bind ih fun _ => .pure _

end Keeps

end BuildBench.Action
