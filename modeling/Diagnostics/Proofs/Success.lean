import Diagnostics.Session

/-! # Success of composed computations

A composed computation or action succeeds exactly if each of its parts does in turn.
-/
namespace Diagnostics
variable {α β : Type}

theorem bind_eq_ok_iff {x : Except Fault α} {f : α → Except Fault β} {b : β} :
    (x >>= f) = .ok b ↔ ∃ a, x = .ok a ∧ f a = .ok b := by
  cases x <;> simp [bind, Except.bind]

theorem action_bind_eq_ok_iff {x : Action α} {f : α → Action β} {s s' : Session} {b : β} :
    (x >>= f) s = .ok b s' ↔ ∃ a t, x s = .ok a t ∧ f a t = .ok b s' := by
  change EStateM.bind x f s = .ok b s' ↔ _
  unfold EStateM.bind
  cases x s <;> simp [and_assoc]

theorem action_map_eq_ok_iff {x : Action α} {f : α → β} {s s' : Session} {b : β} :
    (x >>= fun a => pure (f a)) s = .ok b s' ↔ ∃ a, x s = .ok a s' ∧ f a = b := by
  rw [action_bind_eq_ok_iff]
  constructor
  · rintro ⟨a, t, ha, heq⟩
    cases heq
    exact ⟨a, ha, rfl⟩
  · rintro ⟨a, ha, rfl⟩
    exact ⟨a, s', ha, rfl⟩

theorem ofExcept_eq_ok_iff {x : Except Fault α} {s s' : Session} {a : α} :
    Session.ofExcept x s = .ok a s' ↔ x = .ok a ∧ s = s' := by
  constructor
  · intro h
    cases x <;> cases h
    exact ⟨rfl, rfl⟩
  · rintro ⟨rfl, rfl⟩
    rfl

end Diagnostics
