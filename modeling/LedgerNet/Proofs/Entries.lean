import Mathlib.Data.List.Nodup

/-!
# Entries by key

Rows of a key and a value, of which the first one with a key counts. Where the keys are different
the order of the rows does not matter. `upsert` changes a key where it stands, and adds it at the
end only if it stands nowhere.

## Main statements

- `lookup_eq_some_iff_mem`, `lookup_eq_of_perm`: rows with different keys are a map.
- `lookup_map_key`, `lookup_map_value`, `lookup_filter_key`, `lookup_flatten`: what is found in rows
  that are made from others.
- `lookup_upsert`: only the changed key has another value.
- `keys_upsert`: a key that stands somewhere keeps its place.
- `lookup_putAll`, `putAll_of_nodup`: many rows are put in.
-/

namespace LedgerNet.Entries

variable {α : Type} {rows : List (String × α)}

section Keys

variable {κ : Type} [DecidableEq κ] [BEq κ] [LawfulBEq κ]

theorem lookup_cons (key k : κ) (v : α) (rows : List (κ × α)) :
    ((k, v) :: rows).lookup key = if key = k then some v else rows.lookup key := by
  by_cases h : key = k
  · simp [h]
  · simp [List.lookup_cons, h, beq_eq_false_iff_ne.mpr h]

theorem lookup_map_value {β : Type} (f : κ → α → β) (rows : List (κ × α)) (key : κ) :
    (rows.map fun row => (row.1, f row.1 row.2)).lookup key = (rows.lookup key).map (f key) := by
  induction rows with
  | nil => rfl
  | cons row rows ih =>
    rw [List.map_cons, lookup_cons, ih, lookup_cons]
    by_cases h : key = row.1 <;> simp [h]

theorem lookup_filter_key (keep : κ → Bool) (rows : List (κ × α)) (key : κ) :
    (rows.filter fun row => keep row.1).lookup key =
      if keep key then rows.lookup key else none := by
  induction rows with
  | nil => simp
  | cons row rows ih =>
    obtain ⟨k, v⟩ := row
    rw [List.filter_cons, lookup_cons]
    by_cases h : key = k
    · subst h
      cases hkeep : keep key <;> simp [ih, hkeep]
    · cases hkeep : keep k <;> simp [lookup_cons, ih, h]

end Keys

/-! ## Different keys -/

theorem lookup_eq_some_iff_mem (h : (rows.map Prod.fst).Nodup) {key : String} {v : α} :
    rows.lookup key = some v ↔ (key, v) ∈ rows := by
  induction rows with
  | nil => simp
  | cons row rows ih =>
    obtain ⟨k, w⟩ := row
    obtain ⟨hnew, hrest⟩ := List.nodup_cons.mp h
    rw [lookup_cons, List.mem_cons]
    by_cases hkey : key = k
    · subst hkey
      -- The key is new, so it has no other value further on.
      have hnot : (key, v) ∉ rows := fun hmem => hnew (List.mem_map.mpr ⟨_, hmem, rfl⟩)
      simp [hnot, eq_comm]
    · simp [hkey, ih hrest]

theorem lookup_eq_of_perm {rows' : List (String × α)} (hperm : rows.Perm rows')
    (h : (rows.map Prod.fst).Nodup) (key : String) : rows.lookup key = rows'.lookup key := by
  have h' : (rows'.map Prod.fst).Nodup := (hperm.map Prod.fst).nodup_iff.mp h
  ext v
  rw [lookup_eq_some_iff_mem h, lookup_eq_some_iff_mem h', hperm.mem_iff]

/-! ## Rows that are made from others -/

theorem lookup_map_key (keys : List String) (g : String → α) (key : String) :
    (keys.map fun k => (k, g k)).lookup key = if key ∈ keys then some (g key) else none := by
  induction keys with
  | nil => rfl
  | cons k keys ih =>
    rw [List.map_cons, lookup_cons, ih]
    by_cases h : key = k <;> simp [h]

theorem lookup_filterMap_key (keys : List String) (g : String → Option α)
    (key : String) :
    (keys.filterMap fun k => (g k).map fun v => (k, v)).lookup key =
      if key ∈ keys then g key else none := by
  induction keys with
  | nil => rfl
  | cons k keys ih =>
    by_cases h : key = k
    · subst h
      cases hg : g key with
      | none => simp [hg, ih]
      | some v => simp [hg]
    · cases hg : g k with
      | none => simp [hg, ih, h]
      | some v => simp [hg, lookup_cons, ih, h]

theorem keys_filterMap_key (keys : List String) (g : String → Option α) :
    (keys.filterMap fun k => (g k).map fun v => (k, v)).map Prod.fst =
      keys.filter fun k => (g k).isSome := by
  induction keys with
  | nil => rfl
  | cons k keys ih =>
    cases hg : g k <;> simp [hg, ih]

theorem lookup_flatten (rows : List (List (String × α))) (key : String) :
    rows.flatten.lookup key = rows.findSome? fun row => row.lookup key := by
  induction rows with
  | nil => rfl
  | cons row rows ih =>
    rw [List.flatten_cons, List.lookup_append, ih, List.findSome?_cons]
    cases row.lookup key <;> rfl

/-! ## Changes by key -/

/-- Rows with the value of a key changed, or with the key added at the end, changed from a fresh
value. -/
def upsert (key : String) (change : α → α) (fresh : α) : List (String × α) → List (String × α)
  | [] => [(key, change fresh)]
  | (k, v) :: rows =>
    if k = key then (k, change v) :: rows else (k, v) :: upsert key change fresh rows

/-- Only the key that is changed has another value. -/
theorem lookup_upsert (key k : String) (change : α → α) (fresh : α) (rows : List (String × α)) :
    (upsert key change fresh rows).lookup k =
      if k = key then some (change ((rows.lookup key).getD fresh)) else rows.lookup k := by
  induction rows with
  | nil => simp [upsert, lookup_cons]
  | cons row rows ih =>
    obtain ⟨k', v⟩ := row
    by_cases hrow : k' = key
    · subst hrow
      by_cases h : k = k' <;> simp [upsert, lookup_cons, h]
    · simp only [upsert, if_neg hrow, lookup_cons, ih, if_neg (Ne.symm hrow)]
      -- The key that is looked up cannot be both the changed one and the one in front.
      by_cases h : k = k'
      · simp [h, hrow]
      · simp [h]

/-- A key that stands somewhere keeps its place, and another one is added at the end. -/
theorem keys_upsert (key : String) (change : α → α) (fresh : α) (rows : List (String × α)) :
    (upsert key change fresh rows).map Prod.fst =
      if key ∈ rows.map Prod.fst then rows.map Prod.fst else rows.map Prod.fst ++ [key] := by
  induction rows with
  | nil => simp [upsert]
  | cons row rows ih =>
    obtain ⟨k, v⟩ := row
    by_cases hrow : k = key
    · simp [upsert, hrow]
    · simp only [upsert, if_neg hrow, List.map_cons, ih, List.mem_cons, Ne.symm hrow, false_or]
      split <;> rfl

theorem nodup_upsert (h : (rows.map Prod.fst).Nodup) (key : String) (change : α → α) (fresh : α) :
    ((upsert key change fresh rows).map Prod.fst).Nodup := by
  rw [keys_upsert]
  split
  · exact h
  case isFalse hkey =>
    rw [← List.concat_eq_append]
    exact h.concat hkey

theorem upsert_upsert (key : String) (f g : α → α) (fresh : α) (rows : List (String × α)) :
    upsert key g fresh (upsert key f fresh rows) = upsert key (g ∘ f) fresh rows := by
  induction rows with
  | nil => simp [upsert]
  | cons row rows ih =>
    by_cases h : row.1 = key <;> simp [upsert, h, ih]

theorem upsert_of_notMem {key : String} (h : key ∉ rows.map Prod.fst) (change : α → α)
    (fresh : α) : upsert key change fresh rows = rows ++ [(key, change fresh)] := by
  induction rows with
  | nil => rfl
  | cons row rows ih =>
    obtain ⟨hkey, hrest⟩ := not_or.mp (mt List.mem_cons.mpr h)
    simp [upsert, Ne.symm hkey, ih hrest]

/-! ## Rows put in one after the other -/

/-- The rows with others put in, in order. -/
def putAll (rows pairs : List (String × α)) : List (String × α) :=
  pairs.foldl (fun rows pair => upsert pair.1 (fun _ => pair.2) pair.2 rows) rows

theorem putAll_cons (rows : List (String × α)) (pair : String × α) (pairs : List (String × α)) :
    putAll rows (pair :: pairs) =
      putAll (upsert pair.1 (fun _ => pair.2) pair.2 rows) pairs := rfl

/-- The last pair with a key counts, and where there is none, what was there before. -/
theorem lookup_putAll (rows pairs : List (String × α)) (key : String) :
    (putAll rows pairs).lookup key = (pairs.reverse.lookup key).or (rows.lookup key) := by
  induction pairs generalizing rows with
  | nil => rfl
  | cons pair pairs ih =>
    rw [putAll_cons, ih, lookup_upsert, List.reverse_cons, List.lookup_append, Option.or_assoc,
      lookup_cons]
    by_cases h : key = pair.1 <;> simp [h]

theorem nodup_putAll (h : (rows.map Prod.fst).Nodup) (pairs : List (String × α)) :
    ((putAll rows pairs).map Prod.fst).Nodup := by
  induction pairs generalizing rows with
  | nil => exact h
  | cons pair pairs ih => exact ih (nodup_upsert h _ _ _)

/-- Pairs with new and different keys are added as they are. -/
theorem putAll_of_nodup {pairs : List (String × α)} (h : ((rows ++ pairs).map Prod.fst).Nodup) :
    putAll rows pairs = rows ++ pairs := by
  induction pairs generalizing rows with
  | nil => exact (List.append_nil rows).symm
  | cons pair pairs ih =>
    have hsplit : rows ++ pair :: pairs = (rows ++ [pair]) ++ pairs := by simp
    have hnew : pair.1 ∉ rows.map Prod.fst := by
      rw [List.map_append, List.nodup_append] at h
      exact fun hmem => h.2.2 _ hmem _ List.mem_cons_self rfl
    rw [putAll_cons, upsert_of_notMem hnew, ih (hsplit ▸ h), hsplit]

end LedgerNet.Entries
