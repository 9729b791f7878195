import Mathlib.Tactic.Use

/-!
# Outcomes of computations that can fail

When a computation made of others succeeds, and when it fails.
-/

namespace Compendium

/-- A value under a function comes from a value before it. -/
theorem map_eq_ok_iff {ε α β : Type} {f : α → β} {x : Except ε α} {b : β} :
  x.map f = .ok b ↔ ∃ a, x = .ok a ∧ f a = b
  := by
  cases x <;> simp [Except.map]

theorem exists_map_eq_ok_iff {ε α β : Type} {f : α → β} {x : Except ε α} :
  (∃ b, x.map f = .ok b) ↔ ∃ a, x = .ok a
  := by
  cases x <;> simp [Except.map]

/-- A sequence succeeds if both of its parts do. -/
theorem bind_eq_ok_iff {ε α β : Type} {x : Except ε α} {f : α → Except ε β} {b : β} :
  x >>= f = .ok b ↔ ∃ a, x = .ok a ∧ f a = .ok b
  := by
  cases x <;> simp [bind, Except.bind]

theorem map_eq_error_iff {ε α β : Type} {f : α → β} {x : Except ε α} {e : ε} :
  x.map f = .error e ↔ x = .error e
  := by
  cases x <;> simp [Except.map]

/-- A sequence fails in its first part or, after the value of this, in the second. -/
theorem bind_eq_error_iff {ε α β : Type} {x : Except ε α} {f : α → Except ε β} {e : ε} :
  x >>= f = .error e ↔ x = .error e ∨ ∃ a, x = .ok a ∧ f a = .error e
  := by
  cases x <;> simp [bind, Except.bind]

theorem toOption_eq_some_iff {ε α : Type} {x : Except ε α} {a : α} :
  x.toOption = some a ↔ x = .ok a
  := by
  cases x <;> simp [Except.toOption]

/-! ### The first fault in a list -/

/-- Whether an element of a list is the first one that a function fails on, and with which
failure. -/
def FirstFault {ε α β : Type} (f : α → Except ε β) (xs : List α) (x : α) (e : ε) : Prop :=
  ∃ before after, xs = before ++ x :: after ∧ (∀ y ∈ before, ∃ b, f y = .ok b) ∧ f x = .error e

section

variable {ε α β : Type} {f : α → Except ε β} {x : α} {e : ε}

theorem not_firstFault_nil :
  ¬FirstFault f [] x e
  := by simp [FirstFault]

/-- The first fault is on the first element, or that is none and it is further on. -/
theorem firstFault_cons_iff {y : α} {ys : List α} :
  FirstFault f (y :: ys) x e
    ↔ y = x ∧ f y = .error e ∨ (∃ b, f y = .ok b) ∧ FirstFault f ys x e
  := by
  constructor
  · rintro ⟨before, after, heq, hbefore, hx⟩
    cases before with
    | nil =>
      obtain ⟨rfl, -⟩ := List.cons.inj heq
      left
      use rfl, hx
    | cons z before =>
      obtain ⟨rfl, htail⟩ := List.cons.inj heq
      rw [List.forall_mem_cons] at hbefore
      right
      use hbefore.1, before, after, htail, hbefore.2, hx
  · rintro (⟨rfl, hx⟩ | ⟨hy, before, after, rfl, hbefore, hx⟩)
    · use [], ys, rfl, by simp, hx
    · use y :: before, after, rfl, List.forall_mem_cons.mpr ⟨hy, hbefore⟩, hx

/-- The first fault is in the first list, or that has none and it is in the second. -/
theorem firstFault_append_iff {xs ys : List α} :
  FirstFault f (xs ++ ys) x e
    ↔ FirstFault f xs x e ∨ (∀ y ∈ xs, ∃ b, f y = .ok b) ∧ FirstFault f ys x e
  := by
  induction xs with
  | nil => simp [not_firstFault_nil]
  | cons z xs ih =>
    rw [List.cons_append, firstFault_cons_iff, firstFault_cons_iff, ih, List.forall_mem_cons,
      and_or_left, and_assoc, or_assoc]

/-- The first fault in a list of images is on the image of the first fault. -/
theorem firstFault_map_iff {γ : Type} {g : γ → α} {zs : List γ} :
  FirstFault f (zs.map g) x e ↔ ∃ z, g z = x ∧ FirstFault (fun z => f (g z)) zs z e
  := by
  induction zs with
  | nil => simp [not_firstFault_nil]
  | cons z zs ih =>
    rw [List.map_cons, firstFault_cons_iff, ih]
    simp only [firstFault_cons_iff]
    constructor
    · rintro (⟨rfl, hz⟩ | ⟨hz, z', rfl, hfirst⟩)
      · use z, rfl
        left
        use rfl, hz
      · use z', rfl, .inr ⟨hz, hfirst⟩
    · rintro ⟨z', rfl, ⟨rfl, hz⟩ | ⟨hz, hfirst⟩⟩
      · left
        constructor
        · rfl
        · apply hz
      · exact .inr ⟨hz, z', rfl, hfirst⟩

end

end Compendium
