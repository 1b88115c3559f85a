import RouteDocs.Module.Handling

namespace RouteDocs.Module

section
variable {α β : Type} {x : Run α} {f : α → Run β} {w w' w'' : World} {a : α} {b : β} {e : Object}

/-- The step gives `a` and leaves the world `w'`. -/
def Gives (x : Run α) (w : World) (a : α) (w' : World) : Prop := x.run w = (.ok a, w')

/-- The step raises `e` and leaves the world `w'`. -/
def Fails (x : Run α) (w : World) (e : Object) (w' : World) : Prop := x.run w = (.error e, w')

/-- A step that gives something raises nothing, and gives nothing else. -/
theorem Gives.unique (h : Gives x w a w') {a' : α} (h' : Gives x w a' w'') :
    a = a' ∧ w' = w'' := by
  have same := Prod.ext_iff.mp (h.symm.trans h')
  exact ⟨Except.ok.inj same.1, same.2⟩

theorem Gives.not_fails (h : Gives x w a w') : ¬ Fails x w e w'' := by
  intro h'
  cases (Prod.ext_iff.mp (h.symm.trans h')).1

/-- A step that does not fail gives what it ends with. -/
theorem gives_of_toOption (h : (x.run w).1.toOption = some a) : Gives x w a (x.run w).2 := by
  rcases ran : x.run w with ⟨_ | b, u⟩
  · simp [ran, Except.toOption] at h
  · simp only [ran, Except.toOption, Option.some.injEq] at h
    exact h ▸ ran

theorem gives_pure (a : α) (w : World) : Gives (pure a) w a w := rfl

theorem fails_throw (e : Object) (w : World) : Fails (throw e : Run α) w e w := rfl

theorem run_bind (x : Run α) (f : α → Run β) (w : World) :
    (x >>= f).run w =
      match x.run w with
      | (.ok a, w') => (f a).run w'
      | (.error e, w') => (.error e, w') := by
  unfold ExceptT.run
  simp only [bind, ExceptT.bind, ExceptT.mk, StateT.bind, ExceptT.bindCont]
  rcases x w with ⟨_ | a, w'⟩ <;> rfl

theorem Gives.bind (first : Gives x w a w') (next : Gives (f a) w' b w'') :
    Gives (x >>= f) w b w'' := by
  rw [Gives] at first ⊢
  rw [run_bind, first]
  exact next

theorem Gives.bind_fails (first : Gives x w a w') (next : Fails (f a) w' e w'') :
    Fails (x >>= f) w e w'' := by
  rw [Gives] at first
  rw [Fails, run_bind, first]
  exact next

theorem Fails.bind (first : Fails x w e w') : Fails (x >>= f) w e w' := by
  rw [Fails] at first ⊢
  rw [run_bind, first]

/-- A sequence of steps gives something only if each of them does. -/
theorem exists_of_bind (h : Gives (x >>= f) w b w'') :
    ∃ a w', Gives x w a w' ∧ Gives (f a) w' b w'' := by
  rw [Gives, run_bind] at h
  rcases ran : x.run w with ⟨_ | a, w'⟩
  · rw [ran] at h
    cases (Prod.ext_iff.mp h).1
  · rw [ran] at h
    exact ⟨a, w', ran, h⟩

theorem gives_get (w : World) : Gives get w w w := rfl

theorem gives_modify (f : World → World) (w : World) : Gives (modify f) w () (f w) := rfl

theorem gives_create (kind : Kind) (members : List (String × Object)) (w : World) :
    Gives (create kind members) w (w.add ⟨kind, .ofList members⟩).1
      (w.add ⟨kind, .ofList members⟩).2 := rfl

/-- A step that reads the world first is the step for the world that it finds. -/
theorem gives_get_bind_iff {f : World → Run β} : Gives (get >>= f) w b w' ↔ Gives (f w) w b w' :=
  Iff.rfl

theorem run_tryCatch (x : Run α) (handle : Object → Run α) (w : World) :
    (tryCatch x handle).run w =
      match x.run w with
      | (.ok a, w') => (.ok a, w')
      | (.error e, w') => (handle e).run w' := by
  unfold ExceptT.run
  simp only [tryCatch, tryCatchThe, MonadExceptOf.tryCatch, ExceptT.tryCatch, ExceptT.mk, bind,
    StateT.bind]
  rcases x w with ⟨_ | a, w'⟩ <;> rfl

theorem Gives.tryCatch (h : Gives x w a w') (handle : Object → Run α) :
    Gives (tryCatch x handle) w a w' := by
  rw [Gives] at h ⊢
  rw [run_tryCatch, h]

theorem Fails.tryCatch (h : Fails x w e w') {handle : Object → Run α}
    (handled : Gives (handle e) w' a w'') : Gives (tryCatch x handle) w a w'' := by
  rw [Fails] at h
  rw [Gives, run_tryCatch, h]
  exact handled

theorem Gives.attempt (h : Gives x w a w') : Gives (attempt x) w (.ok a) w' := by
  have returned : Gives (do return .ok (← x) : Run (Except Object α)) w (.ok a) w' :=
    h.bind (gives_pure _ w')
  exact returned.tryCatch _

theorem Fails.attempt (h : Fails x w e w') : Gives (attempt x) w (.error e) w' := by
  have raised : Fails (do return .ok (← x) : Run (Except Object α)) w e w' := h.bind
  exact raised.tryCatch (gives_pure _ w')

end

end RouteDocs.Module
