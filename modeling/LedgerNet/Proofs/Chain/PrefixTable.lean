import LedgerNet.Proofs.Chain.FieldReading
import LedgerNet.Proofs.Ledger.ReadFailure
import Mathlib.Data.List.Nodup
import Mathlib.Data.List.Perm.Subperm

/-!
# Tables of prefixes

A table of prefixes has a number as the key of each row, and a number or bytes as its value. It is
accepted exactly if its keys are the numbers of the kinds, each once and no other, and each value is
a number that fits a byte or bytes of which there are some.

## Main statements

- `sameKey_of_int?`, `equal_of_int?`: numbers are compared as numbers, flags included.
- `prefixes_succeed_iff`: which tables are accepted.
- `prefixRows_error`, `prefixesOf_error`: how the others fail.
-/

namespace LedgerNet

/-! ## Numbers and bytes -/

namespace Value

/-- The byte string that the value is. -/
def bytes? : Value → Option Octets
  | bytes b | buffer b | octets b => some b
  | _ => none

theorem toRawOctets_of_bytes? (room : Nat) {v : Value} {b : Octets} (h : v.bytes? = some b) :
    v.toRawOctets room = .ok b := by
  cases v <;> cases h <;> rfl

theorem sameKey_of_int? {v : Value} {m : Int} (h : v.int? = some m) (n : Int) :
    v.sameKey (.int n) = (m == n) := by
  cases v <;> cases h <;> rfl

theorem equal_of_int? {v w : Value} {m n : Int} (hv : v.int? = some m) (hw : w.int? = some n) :
    v.equal w = .ok (m == n) := by
  cases v <;> cases hv <;> cases w <;> cases hw <;> rfl

end Value

namespace Chain.Network

open Outcome

/-! ## Prefixes -/

/-- The value is a number that fits a byte, or bytes of which there are some. -/
def IsPrefix (v : Value) : Prop :=
  (∃ n, v.int? = some n ∧ 0 ≤ n ∧ n ≤ 255) ∨ ∃ b, v.bytes? = some b ∧ b ≠ []

theorem exists_readPrefix_iff {v : Value} :
    (∃ x, readPrefix v = .ok x ∧ x ≠ []) ↔ IsPrefix v := by
  unfold readPrefix IsPrefix
  cases hint : v.int? with
  | some n =>
    have hbytes : v.bytes? = none := by cases v <;> first | rfl | cases hint
    simp only [hbytes, Option.some.injEq, reduceCtorEq, false_and, exists_false, or_false]
    split
    · rename_i hrange
      simp [hrange]
    · rename_i hrange
      simp [hrange]
  | none =>
    cases v <;> simp_all [Value.bytes?, Value.int?]

/-- A number or bytes can only fail to be a prefix as a number that fits no byte. -/
theorem readPrefix_error {v : Value} {e : NetworkError}
    (hform : v.int?.isSome ∨ v.bytes?.isSome) (h : readPrefix v = .error e) :
    ∃ n, e = .prefixNumber n := by
  unfold readPrefix at h
  split at h
  · split at h
    · cases h
    · cases h
      exact ⟨_, rfl⟩
  · cases v <;> simp_all [Value.bytes?, Value.int?]

/-! ## Rows -/

/-- The numbers of the kinds, as the keys of a table. -/
def kindKeys : List (Option Int) := PrefixKind.all.map fun kind => some (kind.number : Int)

/-- The keys of the rows are different numbers, and their values are numbers or bytes. -/
structure PrefixRows (rows : List (Value × Value)) : Prop where
  keys : ∀ row ∈ rows, ∃ n, row.1.int? = some n
  distinct : (rows.map fun row => row.1.int?).Nodup
  values : ∀ row ∈ rows, row.2.int?.isSome ∨ row.2.bytes?.isSome

/-- The keys are the numbers of the kinds, each once and no other, and each value is a prefix. -/
structure PrefixesHold (rows : List (Value × Value)) : Prop where
  kinds : (rows.map fun row => row.1.int?).Perm kindKeys
  prefixes : ∀ row ∈ rows, IsPrefix row.2

/-- The prefixes are read row by row, and keep their keys. -/
theorem prefixRows_eq_ok_iff {rows : List (Value × Value)} {read : List (Value × Octets)} :
    prefixRows (.table rows) = .ok read ↔
      List.Forall₂ (fun row r => row.1 = r.1 ∧ readPrefix row.2 = .ok r.2) rows read := by
  simp only [prefixRows, mapM_eq_ok_iff, bind_eq_ok_iff, pure_eq_ok_iff]
  constructor <;> intro h <;> refine h.imp fun row r => ?_
  · rintro ⟨x, hx, rfl⟩
    exact ⟨rfl, hx⟩
  · rintro ⟨hkey, hx⟩
    exact ⟨r.2, hx, Prod.ext hkey rfl⟩

theorem prefixRows_error {rows : List (Value × Value)} (hrows : PrefixRows rows) {e : NetworkError}
    (h : prefixRows (.table rows) = .error e) : ∃ n, e = .prefixNumber n := by
  obtain ⟨row, hrow, herror⟩ := exists_of_mapM_eq_error h
  rcases bind_eq_error_iff.mp herror with hread | ⟨x, -, hnone⟩
  · exact readPrefix_error (hrows.values row hrow) hread
  · cases hnone

/-- Prefixes that were read fail for want of a kind, or for a kind too many. -/
theorem prefixesOf_error {network : String} {read : List (Value × Octets)} {e : NetworkError}
    (h : prefixesOf network read = .error e) :
    (∃ kind, e = .noPrefix network kind) ∨ e = .extraPrefix network := by
  have hkind : ∀ {kind}, prefixOf network read kind = .error e →
      ∃ kind, e = .noPrefix network kind := by
    intro kind hk
    unfold prefixOf at hk
    split at hk
    · cases hk
    · cases hk
      exact ⟨kind, rfl⟩
  simp only [prefixesOf, bind_eq_error_iff, refuse_eq_error_iff, pure_ne_error, and_false,
    or_false] at h
  rcases h with h | ⟨-, -, h | ⟨-, -, h | ⟨-, -, h | ⟨-, -, h | ⟨-, -, -, h⟩⟩⟩⟩⟩
  all_goals first | exact .inl (hkind h) | exact .inr h.symm

/-! ## Acceptance -/

theorem mem_kindKeys (kind : PrefixKind) : some (kind.number : Int) ∈ kindKeys := by
  cases kind <;> decide

theorem exists_kind_of_mem {key : Option Int} (h : key ∈ kindKeys) :
    ∃ kind : PrefixKind, key = some (kind.number : Int) := by
  obtain ⟨kind, -, rfl⟩ := List.mem_map.mp h
  exact ⟨kind, rfl⟩

theorem int?_of_find {read : List (Value × Octets)} (hkeys : ∀ r ∈ read, ∃ n, r.1.int? = some n)
    {n : Int} {r : Value × Octets} (h : read.find? (fun row => row.1.sameKey (.int n)) = some r) :
    r ∈ read ∧ r.1.int? = some n := by
  have hmem : r ∈ read := List.mem_of_find?_eq_some h
  obtain ⟨m, hm⟩ := hkeys r hmem
  have hsame : r.1.sameKey (.int n) = true :=
    List.find?_some (p := fun row : Value × Octets => row.1.sameKey (.int n)) h
  rw [Value.sameKey_of_int? hm, beq_iff_eq] at hsame
  exact ⟨hmem, hsame ▸ hm⟩

/-- Prefixes that were read are accepted exactly if they are those of the kinds and not empty. -/
theorem prefixesOf_succeeds_iff {read : List (Value × Octets)} (network : String)
    (hkeys : ∀ r ∈ read, ∃ n, r.1.int? = some n)
    (hdistinct : (read.map fun r => r.1.int?).Nodup) :
    (∃ p, prefixesOf network read = .ok p) ↔
      (read.map fun r => r.1.int?).Perm kindKeys ∧ ∀ r ∈ read, r.2 ≠ [] := by
  constructor
  · rintro ⟨p, hp⟩
    obtain ⟨hkinds, hlength⟩ := prefixesOf_eq_ok_iff.mp hp
    -- Each kind was found under its number, and was not empty.
    have hfound : ∀ kind : PrefixKind,
        ∃ r ∈ read, r.1.int? = some (kind.number : Int) ∧ r.2 ≠ [] := by
      intro kind
      obtain ⟨hne, key, hfind⟩ := prefixOf_eq_ok_iff.mp (hkinds kind)
      obtain ⟨hmem, hkey⟩ := int?_of_find hkeys hfind
      exact ⟨_, hmem, hkey, hne⟩
    -- Five different keys, among them those of the kinds, are those of the kinds.
    have hsubset : kindKeys ⊆ read.map fun r => r.1.int? := by
      intro key hkey
      obtain ⟨kind, rfl⟩ := exists_kind_of_mem hkey
      obtain ⟨r, hr, hrkey, -⟩ := hfound kind
      exact List.mem_map.mpr ⟨r, hr, hrkey⟩
    have hperm : kindKeys.Perm (read.map fun r => r.1.int?) := by
      refine (List.subperm_of_subset (by decide) hsubset).perm_of_length_le ?_
      rw [List.length_map, hlength]
      decide
    refine ⟨hperm.symm, fun r hr => ?_⟩
    obtain ⟨kind, hkind⟩ := exists_kind_of_mem (hperm.mem_iff.mpr (List.mem_map_of_mem hr))
    obtain ⟨r', hr', hkey', hne⟩ := hfound kind
    -- A key occurs once, so the row that was found under it is the row itself.
    rw [List.inj_on_of_nodup_map hdistinct hr hr' (hkind.trans hkey'.symm)]
    exact hne
  · rintro ⟨hperm, hne⟩
    -- Each number is the key of some row, so a row is found under it.
    have hkind : ∀ kind : PrefixKind, ∃ x, prefixOf network read kind = .ok x := by
      intro kind
      obtain ⟨r, hr, hkey⟩ := List.mem_map.mp (hperm.mem_iff.mpr (mem_kindKeys kind))
      have hsome : (read.find? fun row => row.1.sameKey (.int kind.number)).isSome := by
        rw [List.find?_isSome]
        exact ⟨r, hr, by rw [Value.sameKey_of_int? hkey, beq_self_eq_true]⟩
      obtain ⟨⟨key, x⟩, hfind⟩ := Option.isSome_iff_exists.mp hsome
      have hmem : (key, x) ∈ read := List.mem_of_find?_eq_some hfind
      exact ⟨x, prefixOf_eq_ok_iff.mpr ⟨hne _ hmem, key, hfind⟩⟩
    choose x hx using hkind
    refine ⟨⟨x .pubkey, x .script, x .secret, x .extPublic, x .extSecret⟩,
      prefixesOf_eq_ok_iff.mpr ⟨fun kind => ?_, ?_⟩⟩
    · cases kind <;> exact hx _
    · simpa [kindKeys] using hperm.length_eq

theorem exists_prefixRows_iff {rows : List (Value × Value)} :
    (∃ read, prefixRows (.table rows) = .ok read ∧ ∀ r ∈ read, r.2 ≠ []) ↔
      ∀ row ∈ rows, IsPrefix row.2 := by
  simp only [prefixRows_eq_ok_iff]
  -- Row by row: a prefix for the first one, and prefixes for the others.
  induction rows with
  | nil => simp
  | cons row rows ih =>
    rw [List.forall_mem_cons, ← ih, ← exists_readPrefix_iff]
    constructor
    · rintro ⟨read, hread, hne⟩
      obtain ⟨r, rest, hr, hrest, rfl⟩ := List.forall₂_cons_left_iff.mp hread
      obtain ⟨hrne, hrestne⟩ := List.forall_mem_cons.mp hne
      exact ⟨⟨r.2, hr.2, hrne⟩, rest, hrest, hrestne⟩
    · rintro ⟨⟨x, hx, hxne⟩, rest, hrest, hrestne⟩
      exact ⟨(row.1, x) :: rest, .cons ⟨rfl, hx⟩ hrest, List.forall_mem_cons.mpr ⟨hxne, hrestne⟩⟩

theorem map_key_of_read {rows : List (Value × Value)} {read : List (Value × Octets)}
    (h : prefixRows (.table rows) = .ok read) :
    (read.map fun r => r.1.int?) = rows.map fun row => row.1.int? := by
  have hpairs := prefixRows_eq_ok_iff.mp h
  clear h
  induction hpairs with
  | nil => rfl
  | cons hrow _ ih => rw [List.map_cons, List.map_cons, ih, hrow.1]

/-- **A table of prefixes is accepted exactly if it has a prefix for each kind and no other.** -/
theorem prefixes_succeed_iff {rows : List (Value × Value)} (hrows : PrefixRows rows)
    (network : String) :
    (∃ read p, prefixRows (.table rows) = .ok read ∧ prefixesOf network read = .ok p) ↔
      PrefixesHold rows := by
  -- What is read has the keys of the table, so they are different numbers too.
  have hread : ∀ {read}, prefixRows (.table rows) = .ok read →
      ((∃ p, prefixesOf network read = .ok p) ↔
        (rows.map fun row => row.1.int?).Perm kindKeys ∧ ∀ r ∈ read, r.2 ≠ []) := by
    intro read h
    have hsame := map_key_of_read h
    rw [← hsame]
    refine prefixesOf_succeeds_iff network (fun r hr => ?_) (hsame ▸ hrows.distinct)
    have hmem : r.1.int? ∈ rows.map fun row => row.1.int? := by
      rw [← hsame]
      exact List.mem_map.mpr ⟨r, hr, rfl⟩
    obtain ⟨row, hrow, hkey⟩ := List.mem_map.mp hmem
    rw [← hkey]
    exact hrows.keys row hrow
  constructor
  · rintro ⟨read, p, h, hp⟩
    obtain ⟨hperm, hne⟩ := (hread h).mp ⟨p, hp⟩
    exact ⟨hperm, exists_prefixRows_iff.mp ⟨read, h, hne⟩⟩
  · rintro ⟨hperm, hprefixes⟩
    obtain ⟨read, h, hne⟩ := exists_prefixRows_iff.mpr hprefixes
    obtain ⟨p, hp⟩ := (hread h).mpr ⟨hperm, hne⟩
    exact ⟨read, p, h, hp⟩

end Chain.Network

end LedgerNet
