import LedgerNet.Chain.Addresses
import LedgerNet.Chain.Networks
import LedgerNet.Proofs.Base58.Laws
import LedgerNet.Proofs.Chain.PrefixTable
import Mathlib.Data.Fintype.Defs
import Mathlib.Data.List.Infix

/-!
# Reading addresses

An address is read by trying the prefixes of a network on the bytes behind its text. A prefix fits
if the bytes start with it and go on behind it. Which prefixes fit is therefore a matter of which of
them begin one another: two that begin the same bytes are comparable, and of two that are comparable
both begin the bytes of some address. Of the base-58 scheme no more is used here than that reading
inverts writing.

## Main statements

- `fits?_encode`: when a prefix fits, and what is behind it.
- `readAddress_eq`: what is read from text in which the scheme does not fail.
- `readAddress_of_unique`, `readAddress_fails_iff`: what is read where one prefix fits, or none.
- `addresses_round_trip_iff`: which networks read all of their own addresses.
- `foreign_addresses_refused_iff`: which networks refuse all addresses of another.
-/

namespace LedgerNet.Chain

open Outcome

variable {s : Base58.Scheme} {p q : Network} {kind : PrefixKind} {b body : Octets} {text : String}

instance : Fintype PrefixKind where
  elems := ⟨PrefixKind.all, by decide⟩
  complete := by
    intro kind
    cases kind <;> decide

/-! ## Comparable prefixes -/

/-- No kind has a prefix that begins that of another kind. -/
def Prefixes.PrefixFree (p : Prefixes) : Prop := ∀ j k, j ≠ k → ¬p.get j <+: p.get k

instance (p : Prefixes) : Decidable p.PrefixFree :=
  inferInstanceAs (Decidable (∀ j k, j ≠ k → ¬p.get j <+: p.get k))

/-- No prefix of the one network begins a prefix of the other. -/
def Prefixes.Apart (p q : Prefixes) : Prop :=
  ∀ j k, ¬p.get j <+: q.get k ∧ ¬q.get k <+: p.get j

instance (p q : Prefixes) : Decidable (p.Apart q) :=
  inferInstanceAs (Decidable (∀ j k, ¬p.get j <+: q.get k ∧ ¬q.get k <+: p.get j))

/-- Of two prefixes that begin the same bytes, one begins the other. -/
theorem comparable_of_append_eq {v w c e : Octets} (h : v ++ c = w ++ e) : v <+: w ∨ w <+: v :=
  List.prefix_or_prefix_of_prefix ⟨c, h⟩ (List.prefix_append w e)

/-! ## Writing -/

theorem prefixFor_number (p : Network) (kind : PrefixKind) :
    p.prefixFor (.int kind.number) = .ok (p.prefixes.get kind) := by
  cases kind <;> rfl

/-- Bytes are written behind the prefix of their kind. -/
theorem writeAddress_of_bytes? (room : Nat) {payload : Value}
    (hpayload : payload.bytes? = some b) :
    writeAddress s room p (.int kind.number) payload =
      .ok (s.encode (p.prefixes.get kind ++ b)) := by
  rw [writeAddress, prefixFor_number, Value.toRawOctets_of_bytes? room hpayload]
  rfl

/-! ## Reading -/

/-- The payload behind the prefix of a kind, if text is read and has that prefix. -/
def fits? (s : Base58.Scheme) (p : Prefixes) (text : String) (kind : PrefixKind) : Option Octets :=
  match s.split text (p.get kind).length with
  | .ok (payload, version) => if version = p.get kind then some payload else none
  | .error _ => none

/-- A prefix fits or does not, unless the scheme fails. -/
theorem payloadOf?_eq {prefixes : Prefixes} (hread : s.decode text ≠ .error .broken) :
    payloadOf? s prefixes text kind = .ok (fits? s prefixes text kind) := by
  rw [payloadOf?, fits?, Base58.Scheme.split]
  cases hdecode : s.decode text with
  | error e =>
    cases e with
    | invalid reason => rfl
    | broken => exact absurd hdecode hread
  | ok body =>
    by_cases hshort : (body.length : Int) ≤ (prefixes.get kind).length
    · simp only [Except.mapError, ok_bind, if_pos hshort]
      rfl
    · simp only [Except.mapError, ok_bind, if_neg hshort]
      rfl

/-- A prefix fits if the bytes start with it and go on behind it. -/
theorem fits?_encode (h : s.Inverts) {prefixes : Prefixes} :
    fits? s prefixes (s.encode body) kind = some b ↔
      prefixes.get kind ++ b = body ∧ b ≠ [] := by
  rw [fits?, Base58.Scheme.split_encode h]
  constructor
  · intro h
    split_ifs at h with hshort
    simp only [Option.ite_none_right_eq_some, Option.some.injEq] at h
    obtain ⟨hversion, rfl⟩ := h
    constructor
    · have hcut := List.take_append_drop (prefixes.get kind).length body
      rwa [hversion] at hcut
    · intro hnil
      exact hshort (List.drop_eq_nil_iff.mp hnil)
  · rintro ⟨rfl, hne⟩
    have hpos : 0 < b.length := List.length_pos_of_ne_nil hne
    have hlong : ¬(prefixes.get kind ++ b).length ≤ (prefixes.get kind).length := by
      rw [List.length_append]
      omega
    rw [if_neg hlong]
    simp

/-- Every kind is tried, in whatever order. -/
theorem mem_kindsByLength (prefixes : Prefixes) (kind : PrefixKind) :
    kind ∈ kindsByLength prefixes := by
  have hall : kind ∈ PrefixKind.all := by cases kind <;> decide
  exact List.mem_mergeSort.mpr hall

/-- What the first prefix that fits has behind it. -/
def found? (s : Base58.Scheme) (p : Prefixes) (text : String) : Option (PrefixKind × Octets) :=
  (kindsByLength p).findSome? fun kind =>
    (fits? s p text kind).map fun payload => (kind, payload)

/-- What is read from text in which the scheme does not fail. -/
theorem readAddress_eq (p : Network) (hread : s.decode text ≠ .error .broken) :
    readAddress s p text =
      match found? s p.prefixes text with
      | some r => .ok r
      | none => .error (.foreign text p.networkId) := by
  have htried : (kindsByLength p.prefixes).findSomeM? (fun kind =>
      return (← payloadOf? s p.prefixes text kind).map fun payload => (kind, payload)) =
        (.ok (found? s p.prefixes text) : Except AddressError _) := by
    simp only [payloadOf?_eq hread, ok_bind]
    exact List.findSomeM?_pure
  rw [readAddress, htried, ok_bind]
  cases found? s p.prefixes text <;> rfl

theorem decode_encode_ne_broken (h : s.Inverts) (body : Octets) :
    s.decode (s.encode body) ≠ .error .broken := by
  rw [h body]
  exact nofun

theorem fits_of_found? {prefixes : Prefixes} (h : found? s prefixes text = some (kind, b)) :
    fits? s prefixes text kind = some b := by
  obtain ⟨k, -, hk⟩ := List.exists_of_findSome?_eq_some h
  obtain ⟨c, hc, hpair⟩ := Option.map_eq_some_iff.mp hk
  cases hpair
  exact hc

theorem found?_eq_none_iff {prefixes : Prefixes} :
    found? s prefixes text = none ↔ ∀ k, fits? s prefixes text k = none := by
  rw [found?, List.findSome?_eq_none_iff]
  simp only [Option.map_eq_none_iff]
  exact ⟨fun h k => h k (mem_kindsByLength prefixes k), fun h k _ => h k⟩

/-- What is read where one prefix alone fits. -/
theorem readAddress_of_unique (hread : s.decode text ≠ .error .broken)
    (hfits : fits? s p.prefixes text kind = some b)
    (hothers : ∀ k, k ≠ kind → fits? s p.prefixes text k = none) :
    readAddress s p text = .ok (kind, b) := by
  have hfound : found? s p.prefixes text = some (kind, b) := by
    cases h : found? s p.prefixes text with
    | none =>
      have hnone := found?_eq_none_iff.mp h kind
      rw [hfits] at hnone
      cases hnone
    | some found =>
      obtain ⟨k, c⟩ := found
      have hc := fits_of_found? h
      -- Whatever is found comes from a prefix that fits, and there is one only.
      by_cases hkind : k = kind
      · subst hkind
        rw [hfits] at hc
        rw [Option.some.inj hc]
      · rw [hothers k hkind] at hc
        cases hc
  rw [readAddress_eq p hread, hfound]

/-- An address is refused exactly where no prefix fits. -/
theorem readAddress_fails_iff (hread : s.decode text ≠ .error .broken) :
    (∃ e, readAddress s p text = .error e) ↔ ∀ k, fits? s p.prefixes text k = none := by
  rw [← found?_eq_none_iff, readAddress_eq p hread]
  cases found? s p.prefixes text <;> simp

/-- A refusal names the network, where its identifier can be written. -/
theorem exists_message_of_refused {e : AddressError} (hread : s.decode text ≠ .error .broken)
    (h : readAddress s p text = .error e) (hid : p.networkId.isWritable) :
    ∃ m, e.message? = some m := by
  have htext : p.networkId.text? = some p.networkId.toText := if_pos hid
  rw [readAddress_eq p hread] at h
  cases hfound : found? s p.prefixes text with
  | some r =>
    rw [hfound] at h
    cases h
  | none =>
    rw [hfound] at h
    cases h
    rw [AddressError.message?, htext]
    exact ⟨_, rfl⟩

/-! ## A network's own addresses -/

/-- A network with comparable prefixes gives one text to payloads of two kinds. -/
theorem prefixFree_of_round_trip
    (h : ∀ kind b, b ≠ [] →
      readAddress s p (s.encode (p.prefixes.get kind ++ b)) = .ok (kind, b)) :
    p.prefixes.PrefixFree := by
  rintro j k hne ⟨rest, hrest⟩
  have hlong := h k [0] (List.cons_ne_nil 0 [])
  have hshort := h j (rest ++ [0]) (List.append_ne_nil_of_right_ne_nil rest (List.cons_ne_nil 0 []))
  -- The payload of the short prefix continues it into the long one.
  rw [← List.append_assoc, hrest, hlong] at hshort
  exact hne (Prod.ext_iff.mp (Except.ok.inj hshort)).1.symm

theorem round_trip_of_prefixFree (hs : s.Inverts) (h : p.prefixes.PrefixFree) (hne : b ≠ []) :
    readAddress s p (s.encode (p.prefixes.get kind ++ b)) = .ok (kind, b) := by
  apply readAddress_of_unique (decode_encode_ne_broken hs _)
  · exact (fits?_encode hs).mpr ⟨rfl, hne⟩
  · intro k hk
    rw [Option.eq_none_iff_forall_ne_some]
    intro c hc
    obtain ⟨heq, -⟩ := (fits?_encode hs).mp hc
    rcases comparable_of_append_eq heq with hbegins | hbegins
    · exact h k kind hk hbegins
    · exact h kind k hk.symm hbegins

/-- **A network reads all of its own addresses exactly if no kind has a prefix that begins that of
another.** In a scheme whose reading inverts writing, what is written for a payload of any kind is
then read as that payload and that kind, and otherwise some payload is read as one of another kind.
The networks that there are have such prefixes. -/
theorem addresses_round_trip_iff (s : Base58.Scheme) (hs : s.Inverts) (room : Nat) :
    (∀ p : Network,
      (∀ kind payload b, payload.bytes? = some b → b ≠ [] →
        ∃ text, writeAddress s room p (.int (PrefixKind.number kind)) payload = .ok text ∧
          readAddress s p text = .ok (kind, b)) ↔ p.prefixes.PrefixFree) ∧
    ∀ p ∈ Networks.all, p.prefixes.PrefixFree := by
  constructor
  · intro p
    constructor
    · intro h
      refine prefixFree_of_round_trip (s := s) fun kind b hne => ?_
      obtain ⟨text, hwrite, hread⟩ := h kind (.bytes b) b rfl hne
      rw [writeAddress_of_bytes? room rfl] at hwrite
      rw [Except.ok.inj hwrite]
      exact hread
    · intro hfree kind payload b hpayload hne
      exact ⟨_, writeAddress_of_bytes? room hpayload, round_trip_of_prefixFree hs hfree hne⟩
  · decide

/-- On the main network a payload may go on like a prefix of four bytes. With the prefix `04` for
keys it may not: some payload is then read as one of another kind. -/
theorem addresses_round_trip_main :
    let s := Base58.standard
    let room := 1024
    let main := Networks.main
    let short : Network := { main with prefixes := { main.prefixes with pubkey := [0x04] } }
    (∃ text, writeAddress s room main (.int 0) (.bytes [0x88, 0xb2, 0x1e, 7]) = .ok text ∧
      readAddress s main text = .ok (.pubkey, [0x88, 0xb2, 0x1e, 7])) ∧
    ¬∀ kind payload b, payload.bytes? = some b → b ≠ [] →
      ∃ text, writeAddress s room short (.int (PrefixKind.number kind)) payload = .ok text ∧
        readAddress s short text = .ok (kind, b) := by
  intro s room main short
  obtain ⟨hiff, hall⟩ := addresses_round_trip_iff s Base58.decode_encode_standard room
  constructor
  · have hmain := hall main List.mem_cons_self
    exact (hiff main).mpr hmain .pubkey (.bytes [0x88, 0xb2, 0x1e, 7]) _ rfl (by decide)
  · rw [hiff short]
    decide

/-! ## Addresses of another network -/

/-- If one of two comparable prefixes is another network's, that network reads some address. -/
theorem apart_of_refused (hs : s.Inverts)
    (h : ∀ kind b, ∃ e, readAddress s q (s.encode (p.prefixes.get kind ++ b)) = .error e) :
    p.prefixes.Apart q.prefixes := by
  have hfits : ∀ j k b c, q.prefixes.get k ++ c = p.prefixes.get j ++ b → c = [] := by
    intro j k b c heq
    by_contra hne
    have hnone := (readAddress_fails_iff (decode_encode_ne_broken hs _)).mp (h j b) k
    rw [(fits?_encode hs).mpr ⟨heq, hne⟩] at hnone
    cases hnone
  intro j k
  constructor
  · rintro ⟨rest, hrest⟩
    have hnil := hfits j k (rest ++ [0]) [0] (by rw [← hrest, List.append_assoc])
    cases hnil
  · rintro ⟨rest, hrest⟩
    have hnil := hfits j k [0] (rest ++ [0]) (by rw [← hrest, List.append_assoc])
    exact List.append_ne_nil_of_right_ne_nil rest (List.cons_ne_nil 0 []) hnil

theorem refused_of_apart (hs : s.Inverts) (h : p.prefixes.Apart q.prefixes) (kind : PrefixKind)
    (b : Octets) : ∃ e, readAddress s q (s.encode (p.prefixes.get kind ++ b)) = .error e := by
  rw [readAddress_fails_iff (decode_encode_ne_broken hs _)]
  intro k
  rw [Option.eq_none_iff_forall_ne_some]
  intro c hc
  obtain ⟨heq, -⟩ := (fits?_encode hs).mp hc
  obtain ⟨hforth, hback⟩ := h kind k
  exact (comparable_of_append_eq heq).elim hback hforth

/-- **A network refuses all addresses of another exactly if no prefix of the one begins a prefix of
the other.** In a scheme whose reading inverts writing, every payload of every kind is then refused,
the empty one included, with a text that names the network if its identifier can be written, as an
identifier that is text always can; and otherwise the address of some payload is read. Any two of
the networks that there are have such prefixes. -/
theorem foreign_addresses_refused_iff (s : Base58.Scheme) (hs : s.Inverts) (room : Nat) :
    (∀ p q : Network,
      (∀ kind payload b, payload.bytes? = some b →
        ∃ text e, writeAddress s room p (.int (PrefixKind.number kind)) payload = .ok text ∧
          readAddress s q text = .error e ∧
          (q.networkId.isWritable → ∃ m, e.message? = some m)) ↔
        p.prefixes.Apart q.prefixes) ∧
    ∀ p ∈ Networks.all, ∀ q ∈ Networks.all, p.name ≠ q.name → p.prefixes.Apart q.prefixes := by
  constructor
  · intro p q
    constructor
    · intro h
      refine apart_of_refused hs fun kind b => ?_
      obtain ⟨text, e, hwrite, hread, -⟩ := h kind (.bytes b) b rfl
      rw [writeAddress_of_bytes? room rfl] at hwrite
      rw [Except.ok.inj hwrite]
      exact ⟨e, hread⟩
    · intro hapart kind payload b hpayload
      obtain ⟨e, he⟩ := refused_of_apart hs hapart kind b
      exact ⟨_, e, writeAddress_of_bytes? room hpayload, he,
        exists_message_of_refused (decode_encode_ne_broken hs _) he⟩
  · decide

/-- An address of the main network without a payload is no address of the test network. -/
theorem foreign_addresses_refused_empty :
    let s := Base58.standard
    let room := 1024
    ∃ text e m, writeAddress s room Networks.main (.int 0) (.octets []) = .ok text ∧
      readAddress s Networks.test text = .error e ∧ e.message? = some m := by
  intro s room
  obtain ⟨hiff, hall⟩ := foreign_addresses_refused_iff s Base58.decode_encode_standard room
  have hmain : Networks.main ∈ Networks.all := List.mem_cons_self
  have htest : Networks.test ∈ Networks.all := List.mem_cons_of_mem _ List.mem_cons_self
  have hapart := hall Networks.main hmain Networks.test htest (by decide)
  obtain ⟨text, e, hwrite, hread, hmessage⟩ :=
    (hiff Networks.main Networks.test).mpr hapart .pubkey (.octets []) [] rfl
  obtain ⟨m, hm⟩ := hmessage rfl
  exact ⟨text, e, m, hwrite, hread, hm⟩

end LedgerNet.Chain
