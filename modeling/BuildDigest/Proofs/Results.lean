import Mathlib.Data.List.Forall2

set_option autoImplicit false

namespace BuildDigest

theorem ok_bind {ε α β : Type} (a : α) (f : α → Except ε β) :
    (Except.ok a >>= f) = f a :=
  rfl

theorem bind_ok_iff {ε α β : Type} (x : Except ε α) (f : α → Except ε β) (b : β) :
    (x >>= f) = .ok b ↔ ∃ a, x = .ok a ∧ f a = .ok b := by
  cases x with
  | error failure => exact ⟨nofun, fun ⟨a, failed, _⟩ => nomatch failed⟩
  | ok a => exact ⟨fun result => ⟨a, rfl, result⟩, fun ⟨_, same, result⟩ => Except.ok.inj same ▸ result⟩

theorem returned_iff {α β ε : Type} (x : Except ε α) (f : α → β) (b : β) :
    (do return f (← x)) = (.ok b : Except ε β) ↔ ∃ a, x = .ok a ∧ f a = b := by
  simp only [bind_ok_iff, pure, Except.pure, Except.ok.injEq]

theorem then_ok_iff {ε α : Type} (x : Except ε Unit) (y : Except ε α) (a : α) :
    (x >>= fun _ => y) = .ok a ↔ x = .ok () ∧ y = .ok a := by
  cases x with
  | error failure => exact ⟨nofun, nofun⟩
  | ok done => exact (and_iff_right rfl).symm

theorem for_each_ok_iff {α ε : Type} (f : α → Except ε Unit) (xs : List α) :
    xs.forM f = .ok () ↔ ∀ x ∈ xs, f x = .ok () := by
  induction xs with
  | nil => exact iff_of_true rfl (fun _ member => nomatch member)
  | cons x xs ih =>
    rw [List.forM, then_ok_iff, List.forall_mem_cons, ← ih]

theorem map_ok_iff {α β ε : Type} (f : α → Except ε β) (xs : List α) (ys : List β) :
    xs.mapM f = .ok ys ↔ List.Forall₂ (fun x y => f x = .ok y) xs ys := by
  induction xs generalizing ys with
  | nil =>
    rw [List.mapM_nil, List.forall₂_nil_left_iff]
    exact ⟨fun same => (Except.ok.inj same).symm, fun same => same ▸ rfl⟩
  | cons x xs ih =>
    rw [List.mapM_cons, bind_ok_iff, List.forall₂_cons_left_iff]
    constructor
    · rintro ⟨y, first, rest⟩
      obtain ⟨others, read, same⟩ := (bind_ok_iff _ _ _).1 rest
      exact ⟨y, others, first, (ih others).1 read, (Except.ok.inj same).symm⟩
    · rintro ⟨y, others, first, read, rfl⟩
      exact ⟨y, first, (bind_ok_iff _ _ _).2 ⟨others, (ih others).2 read, rfl⟩⟩

end BuildDigest
