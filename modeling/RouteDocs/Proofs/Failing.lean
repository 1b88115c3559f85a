import RouteDocs.Field
import RouteDocs.Yaml.File

namespace RouteDocs

instance decidableEqExcept {ε α : Type} [DecidableEq ε] [DecidableEq α] :
    DecidableEq (Except ε α)
  | .ok _, .ok _ => decidable_of_iff _ ⟨congrArg Except.ok, Except.ok.inj⟩
  | .error _, .error _ => decidable_of_iff _ ⟨congrArg Except.error, Except.error.inj⟩
  | .ok _, .error _ => isFalse (by simp)
  | .error _, .ok _ => isFalse (by simp)

theorem ok_of_bind {ε α β : Type} {x : Except ε α} {f : α → Except ε β} {b : β}
    (h : x >>= f = .ok b) : ∃ a, x = .ok a ∧ f a = .ok b := by
  cases x with
  | error e => cases h
  | ok a => exact ⟨a, rfl, h⟩

theorem ok_of_mapError {ε ε' α : Type} {x : Except ε α} {f : ε → ε'} {a : α}
    (h : x.mapError f = .ok a) : x = .ok a := by
  cases x with
  | error e => cases h
  | ok b => exact congrArg Except.ok (Except.ok.inj h)

theorem ok_of_toOption {ε α : Type} {x : Except ε α} {a : α} (h : x.toOption = some a) :
    x = .ok a := by
  cases x with
  | error e => cases h
  | ok b => exact congrArg Except.ok (Option.some.inj h)

theorem Checked.ok_of_and {α β : Type} {a : Checked α} {b : Checked β} {p : α × β}
    (h : a.and b = .ok p) : a = .ok p.1 ∧ b = .ok p.2 := by
  cases a <;> cases b <;> cases h
  exact ⟨rfl, rfl⟩

/-- All failures of a step have a property. -/
structure FailsOnly {ε α : Type} (P : ε → Prop) (x : Except ε α) : Prop where
  holds : ∀ e, x = .error e → P e

namespace FailsOnly
variable {ε ε' α β : Type} {P : ε → Prop} {x : Except ε α}

theorem ok (a : α) : FailsOnly P (.ok a : Except ε α) := ⟨nofun⟩

theorem error {e : ε} (h : P e) : FailsOnly P (.error e : Except ε α) := by
  constructor
  rintro _ ⟨⟩
  exact h

theorem bind {f : α → Except ε β} (first : FailsOnly P x) (next : ∀ a, FailsOnly P (f a)) :
    FailsOnly P (x >>= f) := by
  cases x with
  | error e => exact .error (first.holds e rfl)
  | ok a => exact next a

theorem map {f : α → β} (h : FailsOnly P x) : FailsOnly P (x.map f) := by
  cases x with
  | error e => exact .error (h.holds e rfl)
  | ok a => exact .ok (f a)

theorem mapError {Q : ε' → Prop} {f : ε → ε'} (h : FailsOnly P x) (hf : ∀ e, P e → Q (f e)) :
    FailsOnly Q (x.mapError f) := by
  cases x with
  | error e => exact .error (hf e (h.holds e rfl))
  | ok a => exact .ok a

theorem mapM {f : α → Except ε β} (h : ∀ a, FailsOnly P (f a)) (as : List α) :
    FailsOnly P (as.mapM f) := by
  induction as with
  | nil => exact .ok []
  | cons a as ih =>
    rw [List.mapM_cons]
    exact bind (h a) fun b => bind ih fun bs => .ok (b :: bs)

theorem forM {f : α → Except ε Unit} (h : ∀ a, FailsOnly P (f a)) (as : List α) :
    FailsOnly P (as.forM f) := by
  induction as with
  | nil => exact .ok ()
  | cons a as ih => exact bind (h a) fun _ => ih

end FailsOnly

/-- Whether a controller module raised what ended the run. -/
def Failure.isOfModule : Failure → Bool
  | .trouble (.module _) => true
  | _ => false

theorem Disk.readDocument_failsOnly (disk : Disk) (p : FilePath) {malformed : Failure}
    (h : malformed.isOfModule = false) :
    FailsOnly (·.isOfModule = false) (disk.readDocument p malformed) := by
  constructor
  intro failure failed
  rw [readDocument] at failed
  split at failed
  · next cause unread =>
    cases failed
    rw [readText] at unread
    split at unread
    · next content _ =>
      simp only [decodeText] at unread
      split at unread <;> cases unread
      rfl
    · cases unread
      rfl
  · split at failed <;> cases failed
    · exact h
    · rfl

end RouteDocs
