/-
  `Proofs.Except` — when a computation that may fail succeeds.

  Each way of putting computations together has one statement of what its success
  comes from, so that a computation of several steps is taken apart one step after
  another.
-/
namespace ZeroTrust

namespace Except

variable {ε α β : Type}

theorem bind_eq_ok_iff (x : Except ε α) (f : α → Except ε β) (b : β) :
    (x >>= f) = .ok b ↔ ∃ a, x = .ok a ∧ f a = .ok b := by
  cases x with
  | error e => simp [bind, Except.bind]
  | ok a => simp [bind, Except.bind]

theorem pure_eq_ok_iff (a b : α) : (pure a : Except ε α) = .ok b ↔ b = a := by
  constructor
  · rintro ⟨⟩
    rfl
  · rintro rfl
    rfl

theorem map_eq_ok_iff (f : α → β) (x : Except ε α) (b : β) :
    x.map f = .ok b ↔ ∃ a, x = .ok a ∧ f a = b := by
  cases x with
  | error e => simp [Except.map]
  | ok a => simp [Except.map]

/-- What a refusal guards goes on exactly where nothing is refused. -/
theorem guarded_eq_ok_iff {c : Prop} [Decidable c] (e : ε) (f : α → Except ε β) (x : Except ε β)
    (b : β) : (if c then throw e >>= f else x) = .ok b ↔ ¬ c ∧ x = .ok b := by
  split
  case isTrue h => simp [h, throw, throwThe, MonadExceptOf.throw, bind, Except.bind]
  case isFalse h => simp [h]

end Except

/-- A computation that may lack a result goes on from the one it has. -/
theorem bind_of_eq_some {α β : Type} {x : Option α} {f : α → Option β} {a : α} {b : Option β}
    (hx : x = some a) (h : f a = b) : (x >>= f) = b := by
  rw [hx]
  exact h

end ZeroTrust
