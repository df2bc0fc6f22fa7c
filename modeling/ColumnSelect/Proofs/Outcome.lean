/-
When computations that may fail succeed: steps in a row when each of them does, and a change of the
result or of the error when the computation itself does. Steps in a row fail where the first of them
fails. What a list of computations gives is related to it member by member.
-/
import Mathlib.Data.List.Forall2

namespace ColumnSelect

variable {ε ε' α β : Type}

theorem ok_bind (a : α) (f : α → Except ε β) : (.ok a >>= f) = f a := rfl

theorem bind_eq_ok_iff {x : Except ε α} {f : α → Except ε β} {b : β} :
    x >>= f = .ok b ↔ ∃ a, x = .ok a ∧ f a = .ok b := by
  cases x with
  | error e =>
    constructor
    · intro h; cases h
    · rintro ⟨a, h, -⟩; cases h
  | ok a =>
    constructor
    · intro h; exact ⟨a, rfl, h⟩
    · rintro ⟨a', h, hb⟩; cases h; exact hb

theorem map_eq_ok_iff {x : Except ε α} {f : α → β} {b : β} :
    x.map f = .ok b ↔ ∃ a, x = .ok a ∧ f a = b := by
  cases x <;> simp [Except.map]

theorem mapError_eq_ok_iff {x : Except ε α} {f : ε → ε'} {a : α} :
    x.mapError f = .ok a ↔ x = .ok a := by
  cases x with
  | error e =>
    constructor
    · intro h; cases h
    · intro h; cases h
  | ok a' =>
    constructor
    · intro h; cases h; rfl
    · intro h; cases h; rfl

theorem mapError_eq_error_iff {x : Except ε α} {f : ε → ε'} {e : ε'} :
    x.mapError f = .error e ↔ ∃ own, x = .error own ∧ f own = e := by
  cases x <;> simp [Except.mapError]

theorem map_eq_error_iff {x : Except ε α} {f : α → β} {e : ε} :
    x.map f = .error e ↔ x = .error e := by
  cases x <;> simp [Except.map]

theorem bind_eq_error_iff {x : Except ε α} {f : α → Except ε β} {e : ε} :
    x >>= f = .error e ↔ x = .error e ∨ ∃ a, x = .ok a ∧ f a = .error e := by
  cases x with
  | error e' =>
    constructor
    · rintro ⟨⟩; exact .inl rfl
    · rintro (⟨⟨⟩⟩ | ⟨a, ⟨⟩, -⟩); rfl
  | ok a =>
    constructor
    · intro h; exact .inr ⟨a, rfl, h⟩
    · rintro (⟨⟨⟩⟩ | ⟨a', ⟨⟩, h⟩); exact h

theorem exists_ok_iff {x : Except ε α} : (∃ a, x = .ok a) ↔ ∀ e, x ≠ .error e := by
  cases x <;> simp

theorem exists_of_forall₂ {R : α → β → Prop} {as : List α} {bs : List β} (h : List.Forall₂ R as bs) :
    ∀ a ∈ as, ∃ b ∈ bs, R a b := by
  induction h with
  | nil => nofun
  | @cons a b as bs hab _ ih =>
    refine List.forall_mem_cons.2 ⟨⟨b, .head _, hab⟩, fun a' ha => ?_⟩
    obtain ⟨b', hb, hr⟩ := ih a' ha
    exact ⟨b', .tail _ hb, hr⟩

/-- What is related to two lists in a row falls into what is related to each. -/
theorem forall₂_append_left_iff {R : α → β → Prop} {as as' : List α} {cs : List β} :
    List.Forall₂ R (as ++ as') cs ↔
      ∃ bs bs', List.Forall₂ R as bs ∧ List.Forall₂ R as' bs' ∧ bs ++ bs' = cs := by
  constructor
  · intro h
    induction as generalizing cs with
    | nil => exact ⟨[], cs, .nil, h, rfl⟩
    | cons a as ih =>
      cases h with
      | cons hab hrest =>
        obtain ⟨bs, bs', h, h', rfl⟩ := ih hrest
        exact ⟨_ :: bs, bs', .cons hab h, h', rfl⟩
  · rintro ⟨bs, bs', h, h', rfl⟩
    exact List.rel_append h h'

/-- What is related to a list by way of a function is the image of what is related to it. -/
theorem forall₂_image_iff {γ : Type} {R : α → β → Prop} {f : β → γ} {as : List α} {cs : List γ} :
    List.Forall₂ (fun a c => ∃ b, R a b ∧ f b = c) as cs ↔ ∃ bs, List.Forall₂ R as bs ∧ bs.map f = cs := by
  constructor
  · intro h
    induction h with
    | nil => exact ⟨[], .nil, rfl⟩
    | cons hac _ ih =>
      obtain ⟨b, hab, rfl⟩ := hac
      obtain ⟨bs, h, rfl⟩ := ih
      exact ⟨b :: bs, .cons hab h, rfl⟩
  · rintro ⟨bs, h, rfl⟩
    rw [List.forall₂_map_right_iff]
    exact h.imp fun a b hab => ⟨b, hab, rfl⟩

end ColumnSelect
