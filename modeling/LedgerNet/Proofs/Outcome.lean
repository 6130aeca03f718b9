import Mathlib.Data.List.Forall2

/-!
# Outcomes of computations in steps

A computation in steps succeeds exactly when each of its steps does, and fails where the first step
fails. The lemmas here take a computation apart, step by step, so that the functions built from such
steps are never unfolded twice. Some steps only have an outcome; others also change a state, and
leave what they changed when they fail.
-/

namespace LedgerNet.Outcome

variable {ε ε' α β γ : Type}

/-! ## One step -/

theorem ok_bind (a : α) (f : α → Except ε β) : (Except.ok a >>= f) = f a := rfl

theorem error_bind (e : ε) (f : α → Except ε β) : (Except.error e >>= f) = .error e := rfl

theorem bind_eq_ok_iff {x : Except ε α} {f : α → Except ε β} {b : β} :
    (x >>= f) = .ok b ↔ ∃ a, x = .ok a ∧ f a = .ok b := by
  cases x <;> simp [bind, Except.bind]

theorem pure_eq_ok_iff {a b : α} : (pure a : Except ε α) = .ok b ↔ a = b := by
  simp [pure, Except.pure]

theorem map_eq_ok_iff {x : Except ε α} {f : α → β} {b : β} :
    f <$> x = .ok b ↔ ∃ a, x = .ok a ∧ f a = b := by
  cases x <;> simp [Functor.map, Except.map]

theorem mapError_eq_ok_iff {x : Except ε α} {f : ε → ε'} {a : α} :
    x.mapError f = .ok a ↔ x = .ok a := by
  cases x <;> simp [Except.mapError]

/-- A step that may be refused succeeds when it is not. -/
theorem refuse_eq_ok_iff {p : Prop} [Decidable p] {e : ε} {k : α → Except ε β}
    {x : Except ε β} {b : β} :
    (if p then throw e >>= k else x) = .ok b ↔ ¬p ∧ x = .ok b := by
  split <;> rename_i h <;> simp [h, throw, throwThe, MonadExceptOf.throw, bind, Except.bind]

/-- A step that asks which of two ways to go succeeds when the way it chooses does. -/
theorem choose_eq_ok_iff {x : Except ε Bool} {y z : Except ε β} {b : β} :
    (x >>= fun chosen => if chosen then y else z) = .ok b ↔
      x = .ok true ∧ y = .ok b ∨ x = .ok false ∧ z = .ok b := by
  rw [bind_eq_ok_iff]
  constructor
  · rintro ⟨_ | _, hx, hb⟩
    · exact .inr ⟨hx, hb⟩
    · exact .inl ⟨hx, hb⟩
  · rintro (⟨hx, hy⟩ | ⟨hx, hz⟩)
    · exact ⟨true, hx, hy⟩
    · exact ⟨false, hx, hz⟩

/-! ## One step that fails -/

theorem bind_eq_error_iff {x : Except ε α} {f : α → Except ε β} {e : ε} :
    (x >>= f) = .error e ↔ x = .error e ∨ ∃ a, x = .ok a ∧ f a = .error e := by
  cases x <;> simp [bind, Except.bind]

theorem pure_ne_error {a : α} {e : ε} : (pure a : Except ε α) = .error e ↔ False := by
  simp [pure, Except.pure]

theorem map_eq_error_iff {x : Except ε α} {f : α → β} {e : ε} :
    f <$> x = .error e ↔ x = .error e := by
  cases x <;> simp [Functor.map, Except.map]

theorem mapError_eq_error_iff {x : Except ε α} {f : ε → ε'} {e' : ε'} :
    x.mapError f = .error e' ↔ ∃ e, x = .error e ∧ f e = e' := by
  cases x <;> simp [Except.mapError]

/-- Renaming the errors of two steps renames those of each. -/
theorem mapError_bind {x : Except ε α} {f : α → Except ε β} {g : ε → ε'} :
    (x >>= f).mapError g = x.mapError g >>= fun a => (f a).mapError g := by
  cases x <;> rfl

/-- A step that may be refused fails when it is, or else where the rest does. -/
theorem refuse_eq_error_iff {p : Prop} [Decidable p] {e e' : ε} {k : α → Except ε β}
    {x : Except ε β} :
    (if p then throw e >>= k else x) = .error e' ↔ p ∧ e = e' ∨ ¬p ∧ x = .error e' := by
  split <;> rename_i h <;> simp [h, throw, throwThe, MonadExceptOf.throw, bind, Except.bind]

/-! ## Many steps -/

/-- A list of steps succeeds when each step does, and the values come out in order. -/
theorem mapM_eq_ok_iff {f : α → Except ε β} {xs : List α} {ys : List β} :
    xs.mapM f = .ok ys ↔ List.Forall₂ (fun x y => f x = .ok y) xs ys := by
  induction xs generalizing ys with
  | nil => cases ys <;> simp [pure, Except.pure]
  | cons x xs ih =>
    simp only [List.mapM_cons, bind_eq_ok_iff, pure_eq_ok_iff, List.forall₂_cons_left_iff, ih]
    constructor
    · rintro ⟨y, hy, zs, hzs, rfl⟩
      exact ⟨y, zs, hy, hzs, rfl⟩
    · rintro ⟨y, zs, hy, hzs, rfl⟩
      exact ⟨y, hy, zs, hzs, rfl⟩

theorem mapM_map_eq_ok {f : α → Except ε β} {g : β → γ} {xs : List α} {ys : List β}
    (h : xs.mapM f = .ok ys) : xs.mapM (fun x => g <$> f x) = .ok (ys.map g) := by
  rw [mapM_eq_ok_iff] at h ⊢
  rw [List.forall₂_map_right_iff]
  exact h.imp fun x y hxy => map_eq_ok_iff.mpr ⟨y, hxy, rfl⟩

theorem length_of_mapM {f : α → Except ε β} {xs : List α} {ys : List β}
    (h : xs.mapM f = .ok ys) : ys.length = xs.length :=
  (mapM_eq_ok_iff.mp h).length_eq.symm

/-- A list of steps fails where one of them does. -/
theorem exists_of_mapM_eq_error {f : α → Except ε β} {xs : List α} {e : ε}
    (h : xs.mapM f = .error e) : ∃ x ∈ xs, f x = .error e := by
  induction xs with
  | nil => simp [pure, Except.pure] at h
  | cons x xs ih =>
    rw [List.mapM_cons, bind_eq_error_iff] at h
    rcases h with hx | ⟨y, -, hrest⟩
    · exact ⟨x, List.mem_cons_self, hx⟩
    · simp only [bind_eq_error_iff, pure_ne_error, and_false, exists_false, or_false] at hrest
      obtain ⟨z, hz, he⟩ := ih hrest
      exact ⟨z, List.mem_cons_of_mem x hz, he⟩

theorem exists_mapM_eq_ok_iff {f : α → Except ε β} {xs : List α} :
    (∃ ys, xs.mapM f = .ok ys) ↔ ∀ x ∈ xs, ∃ y, f x = .ok y := by
  induction xs with
  | nil => simp [pure, Except.pure]
  | cons x xs ih =>
    rw [List.forall_mem_cons, ← ih]
    simp only [List.mapM_cons, bind_eq_ok_iff, pure_eq_ok_iff]
    constructor
    · rintro ⟨_, y, hy, ys, hys, rfl⟩
      exact ⟨⟨y, hy⟩, ys, hys⟩
    · rintro ⟨⟨y, hy⟩, ys, hys⟩
      exact ⟨_, y, hy, ys, hys, rfl⟩

/-- A list of readings that may find nothing finds something when each of them does. -/
theorem mapM_eq_some_iff {f : α → Option β} {xs : List α} {ys : List β} :
    xs.mapM f = some ys ↔ List.Forall₂ (fun x y => f x = some y) xs ys := by
  induction xs generalizing ys with
  | nil => cases ys <;> simp
  | cons x xs ih =>
    simp only [List.mapM_cons, Option.bind_eq_bind, Option.bind_eq_some_iff, Option.pure_def,
      Option.some.injEq, List.forall₂_cons_left_iff, ih]
    constructor
    · rintro ⟨y, hy, zs, hzs, rfl⟩
      exact ⟨y, zs, hy, hzs, rfl⟩
    · rintro ⟨y, zs, hy, hzs, rfl⟩
      exact ⟨y, hy, zs, hzs, rfl⟩

/-! ## Steps with a state -/

section State

variable {σ : Type} {r : EStateM ε σ α} {f : α → EStateM ε σ β} {s u : σ}

theorem bind_state_eq_ok_iff {b : β} :
    (r >>= f) s = .ok b u ↔ ∃ a t, r s = .ok a t ∧ f a t = .ok b u := by
  cases h : r s <;> simp [bind, EStateM.bind, h]

theorem bind_state_eq_error_iff {e : ε} :
    (r >>= f) s = .error e u ↔ r s = .error e u ∨ ∃ a t, r s = .ok a t ∧ f a t = .error e u := by
  cases h : r s <;> simp [bind, EStateM.bind, h]

/-- After a step that succeeds, the rest runs on what it answers and leaves. -/
theorem bind_state_of_ok {a : α} (h : r s = .ok a u) : (r >>= f) s = f a u := by
  simp [bind, EStateM.bind, h]

theorem map_state_eq (g : α → β) (r : EStateM ε σ α) (s : σ) :
    (g <$> r) s =
      match r s with
      | .ok a t => .ok (g a) t
      | .error e t => .error e t := by
  cases h : r s <;> simp [Functor.map, EStateM.map, h]

theorem pure_state_eq_ok_iff {a b : α} :
    (pure a : EStateM ε σ α) s = .ok b u ↔ a = b ∧ s = u := by
  simp [pure, EStateM.pure]

/-- A step that may be refused succeeds when it is not, and a refusal changes no state. -/
theorem refuse_state_eq_ok_iff {p : Prop} [Decidable p] {e : ε} {k : β → EStateM ε σ α} {a : α} :
    (if p then throw e >>= k else r) s = .ok a u ↔ ¬p ∧ r s = .ok a u := by
  by_cases h : p
  · rw [if_pos h]
    constructor
    · intro hr
      cases hr
    · rintro ⟨hnot, -⟩
      exact absurd h hnot
  · rw [if_neg h]
    exact ⟨fun hr => ⟨h, hr⟩, fun hr => hr.2⟩

end State

end LedgerNet.Outcome
