import Mathlib.Data.List.Forall2

/-!
# Computations that may fail

A computation that may fail succeeds just in case all its steps do, and ends with an
error (`IsError`) just in case one of them does. These lemmas take such a computation apart.
-/

namespace SchemaDiagram

/-- **A computation in two steps** succeeds just in case the first step has a value and the second
one succeeds from there. -/
theorem bind_eq_ok {ε α β : Type} {x : Except ε α} {f : α → Except ε β} {b : β} :
    (x >>= f) = .ok b ↔ ∃ a, x = .ok a ∧ f a = .ok b := by
  cases x with
  -- After an error the second step is never taken, so neither side can hold.
  | error e => exact iff_of_false (fun h => nomatch h) fun ⟨a, h, _⟩ => nomatch h
  | ok a =>
    constructor
    · intro h
      exact ⟨a, rfl, h⟩
    · rintro ⟨a', h, hf⟩
      obtain rfl : a = a' := Except.ok.inj h
      exact hf

/-- A pass that succeeds at every item yields all results in order. -/
theorem mapM_eq_ok {ε α β : Type} {f : α → Except ε β} {g : α → β} {items : List α}
    (h : ∀ a ∈ items, f a = .ok (g a)) : items.mapM f = .ok (items.map g) := by
  induction items with
  | nil => rfl
  | cons a items ih =>
    obtain ⟨ha, hothers⟩ := List.forall_mem_cons.1 h
    rw [List.mapM_cons, ha, ih hothers]
    rfl

/-- **A pass that succeeds** yields the results of its items, one by one. -/
theorem mapM_eq_ok_iff {ε α β : Type} {f : α → Except ε β} {items : List α} {results : List β} :
    items.mapM f = .ok results ↔ List.Forall₂ (fun a b => f a = .ok b) items results := by
  induction items generalizing results with
  | nil =>
    rw [List.forall₂_nil_left_iff, List.mapM_nil]
    exact ⟨fun h => (Except.ok.inj h).symm, fun h => congrArg Except.ok h.symm⟩
  -- The pass over the other items is only reached with the result of this one, so results are
  -- paired off from the front.
  | cons a items ih =>
    rw [List.mapM_cons, List.forall₂_cons_left_iff]
    constructor
    · intro h
      obtain ⟨b, hb, h⟩ := bind_eq_ok.1 h
      obtain ⟨others, hothers, h⟩ := bind_eq_ok.1 h
      exact ⟨b, others, hb, ih.1 hothers, (Except.ok.inj h).symm⟩
    · rintro ⟨b, others, hb, hothers, rfl⟩
      exact bind_eq_ok.2 ⟨b, hb, bind_eq_ok.2 ⟨others, ih.2 hothers, rfl⟩⟩

/-- Whatever is related item by item to another list has a partner there. -/
theorem exists_related_of_mem {α β : Type} {R : α → β → Prop} {l₁ : List α} {l₂ : List β}
    (h : List.Forall₂ R l₁ l₂) {a : α} (ha : a ∈ l₁) : ∃ b ∈ l₂, R a b := by
  induction h with
  | nil => exact absurd ha List.not_mem_nil
  | cons hrel _ ih =>
    rcases List.mem_cons.1 ha with rfl | ha
    · exact ⟨_, List.mem_cons_self, hrel⟩
    · obtain ⟨b, hb, hrel⟩ := ih ha
      exact ⟨b, List.mem_cons_of_mem _ hb, hrel⟩

/-- The same from the other side. -/
theorem exists_related_of_mem_right {α β : Type} {R : α → β → Prop} {l₁ : List α} {l₂ : List β}
    (h : List.Forall₂ R l₁ l₂) {b : β} (hb : b ∈ l₂) : ∃ a ∈ l₁, R a b :=
  -- The relation is read the other way around, so both lists change their places.
  exists_related_of_mem (List.Forall₂.flip (R := flip R) h) hb

/-- What each result says about the item that it comes from. -/
theorem map_of_mapM_ok {ε α β γ : Type} {f : α → Except ε β} {g : β → γ} {k : α → γ}
    {items : List α} {results : List β} (h : items.mapM f = .ok results)
    (hk : ∀ a b, f a = .ok b → g b = k a) : results.map g = items.map k := by
  induction items generalizing results with
  | nil =>
    obtain rfl : [] = results := Except.ok.inj h
    rfl
  | cons a items ih =>
    -- The pass has succeeded, so its first item has a result, and so have the others.
    rw [List.mapM_cons] at h
    obtain ⟨b, hb, h⟩ := bind_eq_ok.1 h
    obtain ⟨others, hothers, h⟩ := bind_eq_ok.1 h
    obtain rfl : b :: others = results := Except.ok.inj h
    rw [List.map_cons, List.map_cons, hk a b hb, ih hothers]

/-- A refusal is no value. -/
theorem throw_ne_ok {ε α : Type} {e : ε} {a : α} : (throw e : Except ε α) ≠ .ok a :=
  fun h => nomatch h

/-- Saying an error in other words does not change what is a value. -/
theorem mapError_eq_ok {ε ε' α : Type} {f : ε → ε'} {x : Except ε α} {a : α} :
    x.mapError f = .ok a ↔ x = .ok a := by
  cases x with
  | error e => exact iff_of_false (fun h => nomatch h) fun h => nomatch h
  | ok b =>
    constructor
    · intro h
      rw [show b = a from Except.ok.inj h]
    · intro h
      rw [show b = a from Except.ok.inj h]
      rfl

/-- A function of the value leaves errors alone. -/
theorem map_eq_error {ε α β : Type} {f : α → β} {x : Except ε α} {e : ε} :
    x.map f = .error e ↔ x = .error e := by
  cases x with
  | error e' =>
    constructor
    · intro h
      rw [show e' = e from Except.error.inj h]
    · intro h
      rw [show e' = e from Except.error.inj h]
      rfl
  | ok a => exact iff_of_false (fun h => nomatch h) fun h => nomatch h

/-! ### Errors -/

/-- The computation ends with an error. -/
def IsError {ε α : Type} (x : Except ε α) : Prop := ∃ e, x = .error e

/-- An error ends a computation. -/
theorem isError_error {ε α : Type} (e : ε) : IsError (.error e : Except ε α) := ⟨e, rfl⟩

/-- A value does not. -/
theorem not_isError_ok {ε α : Type} (a : α) : ¬IsError (.ok a : Except ε α) :=
  fun ⟨_, h⟩ => nomatch h

/-- A computation that does not end with an error has a value. -/
theorem not_isError_iff {ε α : Type} {x : Except ε α} : ¬IsError x ↔ ∃ a, x = .ok a := by
  cases x with
  | error e => exact iff_of_false (not_not_intro (isError_error e)) fun ⟨_, h⟩ => nomatch h
  | ok a => exact iff_of_true (not_isError_ok a) ⟨a, rfl⟩

/-- **A computation in two steps** ends with an error just in case one of the steps does. -/
theorem isError_bind {ε α β : Type} {x : Except ε α} {f : α → Except ε β} :
    IsError (x >>= f) ↔ IsError x ∨ ∃ a, x = .ok a ∧ IsError (f a) := by
  cases x with
  | error e => exact iff_of_true (isError_error e) (.inl (isError_error e))
  | ok a =>
    constructor
    · intro h
      exact .inr ⟨a, rfl, h⟩
    · rintro (h | ⟨a', h, hf⟩)
      · exact absurd h (not_isError_ok a)
      · obtain rfl : a = a' := Except.ok.inj h
        exact hf

/-- If the second step fails in any case, so does the computation: whatever the first step does,
there is no value in the end. -/
theorem isError_bind_of_forall {ε α β : Type} (x : Except ε α) {f : α → Except ε β}
    (h : ∀ a, IsError (f a)) : IsError (x >>= f) := by
  cases x with
  | error e => exact isError_error e
  | ok a => exact h a

/-- Saying an error in other words leaves it an error. -/
theorem isError_mapError {ε ε' α : Type} {f : ε → ε'} {x : Except ε α} :
    IsError (x.mapError f) ↔ IsError x := by
  cases x with
  | error e => exact iff_of_true (isError_error _) (isError_error e)
  | ok a => exact iff_of_false (not_isError_ok a) (not_isError_ok a)

/-- A pass over a list fails just in case it fails at one of the items. -/
theorem isError_mapM {ε α β : Type} {f : α → Except ε β} {items : List α} :
    IsError (items.mapM f) ↔ ∃ a ∈ items, IsError (f a) := by
  induction items with
  | nil => exact iff_of_false (not_isError_ok []) fun ⟨_, h, _⟩ => absurd h List.not_mem_nil
  | cons a items ih =>
    rw [List.mapM_cons, isError_bind]
    simp only [List.mem_cons, exists_eq_or_imp, ← ih]
    constructor
    -- The pass over the other items ends by putting the results together, which cannot fail.
    · rintro (h | ⟨b, -, h⟩)
      · exact .inl h
      · rcases isError_bind.1 h with h | ⟨others, -, h⟩
        · exact .inr h
        · exact absurd h (not_isError_ok _)
    · rintro (h | h)
      · exact .inl h
      -- The item itself may be refused first, and this is an error as well.
      · have hrest := isError_bind_of_forall (f a) fun b =>
          isError_bind.2 (.inl h : _ ∨ ∃ others, _ ∧ IsError (pure (b :: others)))
        exact isError_bind.1 hrest

/-- A check for one property has nothing to report just in case the property does not hold. -/
theorem ite_singleton_eq_nil {ε : Type} {p : Prop} [Decidable p] {e : ε} :
    (if p then [e] else []) = [] ↔ ¬p := by
  split <;> simp_all

end SchemaDiagram
