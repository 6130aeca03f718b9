import LedgerNet.Proofs.Chain.AddressReading

/-!
# Which text is an address, and of which kind

Text is an address of a kind exactly if it is written for bytes behind the prefix of that kind, and
no other prefix that fits the bytes comes first: prefixes are tried from the longest to the
shortest, and those of one length in the order of their kinds. An address can be followed by blanks,
and is otherwise written in one way, as the laws of the base-58 scheme have it.

## Main statements

- `pairwise_kindsByLength`: the order in which prefixes are tried.
- `fits?_eq_some_iff`: which prefixes fit any text.
- `address_longest_match`: what is read from any text.
-/

namespace LedgerNet.Chain

open Base58 (trimmed)

variable {s : Base58.Scheme} {sum : Octets → Octets} {p : Network} {prefixes : Prefixes}
  {j k kind : PrefixKind}
  {b : Octets} {text : String}

/-! ## The order of prefixes -/

/-- The prefix of the first kind is tried before that of the second: it is longer, or as long and
its kind has the smaller number. -/
def Prefixes.Before (p : Prefixes) (j k : PrefixKind) : Prop :=
  (p.get k).length < (p.get j).length ∨
    (p.get j).length = (p.get k).length ∧ j.number < k.number

instance (p : Prefixes) (j k : PrefixKind) : Decidable (p.Before j k) :=
  inferInstanceAs (Decidable (_ ∨ _))

theorem Prefixes.not_before_self : ¬prefixes.Before k k := by
  unfold Before
  omega

theorem PrefixKind.eq_of_number_eq (h : j.number = k.number) : j = k := by
  revert j k
  decide

/-- Of two kinds one comes before the other. -/
theorem Prefixes.eq_of_not_before (hjk : ¬prefixes.Before j k) (hkj : ¬prefixes.Before k j) :
    j = k := by
  unfold Before at hjk hkj
  exact PrefixKind.eq_of_number_eq (by omega)

/-- The kinds are tried in this order, because sorting keeps kinds with prefixes of one length in
the order of their numbers. -/
theorem pairwise_kindsByLength (prefixes : Prefixes) :
    (kindsByLength prefixes).Pairwise fun j k => ¬prefixes.Before k j := by
  let le (j k : PrefixKind) : Bool := decide ((prefixes.get k).length ≤ (prefixes.get j).length)
  have htrans : ∀ i j k, le i j → le j k → le i k := by
    intro i j k hij hjk
    simp only [le, decide_eq_true_eq] at hij hjk ⊢
    omega
  have htotal : ∀ j k, le j k || le k j := by
    intro j k
    simp only [le, Bool.or_eq_true, decide_eq_true_eq]
    omega
  have hnumber : ∀ x ∈ PrefixKind.all.zipIdx, x.2 = x.1.number := by decide
  -- Sorting is stable: it sorts the kinds along with their numbers.
  have hsorted := List.pairwise_mergeSort (List.zipIdxLE_trans htrans) (List.zipIdxLE_total htotal)
    PrefixKind.all.zipIdx
  rw [kindsByLength, ← List.mergeSort_zipIdx, List.pairwise_map]
  refine hsorted.imp_of_mem fun {x y} hx hy hle => ?_
  have hxnumber := hnumber x (List.mem_mergeSort.mp hx)
  have hynumber := hnumber y (List.mem_mergeSort.mp hy)
  simp only [List.zipIdxLE, le, decide_eq_true_eq, Bool.if_false_right, Bool.if_true_right,
    Bool.and_eq_true, Bool.or_eq_true, Bool.not_eq_true', decide_eq_false_iff_not, hxnumber,
    hynumber] at hle
  unfold Prefixes.Before
  omega

/-! ## Prefixes that fit -/

/-- The prefix of the kind begins the bytes, and something is left behind it. -/
def Prefixes.Begins (p : Prefixes) (kind : PrefixKind) (body : Octets) : Prop :=
  p.get kind <+: body ∧ p.get kind ≠ body

instance (p : Prefixes) (kind : PrefixKind) (body : Octets) : Decidable (p.Begins kind body) :=
  inferInstanceAs (Decidable (_ ∧ _))

theorem Prefixes.begins_iff_exists {body : Octets} :
    prefixes.Begins kind body ↔ ∃ b, prefixes.get kind ++ b = body ∧ b ≠ [] := by
  constructor
  · rintro ⟨⟨b, hb⟩, hne⟩
    refine ⟨b, hb, ?_⟩
    rintro rfl
    exact hne (by rwa [List.append_nil] at hb)
  · rintro ⟨b, rfl, hne⟩
    exact ⟨List.prefix_append _ b, fun h => hne (List.self_eq_append_right.mp h)⟩

/-- A prefix fits text that is written, up to blanks, for bytes that start with it and go on. -/
theorem fits?_eq_some_iff (hs : s.IsChecked sum) :
    fits? s prefixes text kind = some b ↔
      trimmed text = s.encode (prefixes.get kind ++ b) ∧ b ≠ [] := by
  rw [← hs.decode_eq_ok_iff]
  cases hread : s.decode text with
  | error e => simp [fits?, Base58.Scheme.split, hread, Except.mapError, Outcome.error_bind]
  | ok body =>
    -- The text is read as the text that is written for the same bytes.
    have hsame : s.decode text = s.decode (s.encode body) := by
      rw [hread, hs.inverts body]
    have hpayload : fits? s prefixes text kind = fits? s prefixes (s.encode body) kind := by
      rw [fits?, fits?, Base58.Scheme.split, Base58.Scheme.split, hsame]
    rw [hpayload, fits?_encode hs.inverts, Except.ok.injEq]
    exact and_congr_left fun _ => eq_comm

/-- Beside a prefix that fits, those fit that begin the same bytes. -/
theorem exists_fits?_iff (hs : s.IsChecked sum) (hfits : fits? s prefixes text kind = some b) :
    (∃ c, fits? s prefixes text j = some c) ↔ prefixes.Begins j (prefixes.get kind ++ b) := by
  obtain ⟨hwritten, -⟩ := (fits?_eq_some_iff hs).mp hfits
  rw [Prefixes.begins_iff_exists]
  refine exists_congr fun c => ?_
  rw [fits?_eq_some_iff hs, hwritten]
  refine and_congr_left fun _ => ⟨fun h => ?_, fun h => by rw [h]⟩
  exact (hs.inverts.encode_injective h).symm

/-- What is read is what is behind a prefix that fits, no other that fits coming before it. -/
theorem found?_eq_some_iff :
    found? s prefixes text = some (kind, b) ↔
      fits? s prefixes text kind = some b ∧
        ∀ j c, fits? s prefixes text j = some c → ¬prefixes.Before j kind := by
  have hfirst : ∀ {k c}, found? s prefixes text = some (k, c) →
      ∀ j e, fits? s prefixes text j = some e → ¬prefixes.Before j k := by
    intro k c h j e hj
    obtain ⟨before, k', after, hsplit, hfound, hnone⟩ := List.findSome?_eq_some_iff.mp h
    obtain ⟨_, -, hpair⟩ := Option.map_eq_some_iff.mp hfound
    obtain rfl : k' = k := (Prod.mk.inj hpair).1
    have hmem := mem_kindsByLength prefixes j
    rw [hsplit, List.mem_append, List.mem_cons] at hmem
    rcases hmem with hbefore | rfl | hafter
    · -- The prefixes tried before do not fit.
      have hmap := hnone j hbefore
      rw [hj] at hmap
      cases hmap
    · exact Prefixes.not_before_self
    · have hordered := pairwise_kindsByLength prefixes
      rw [hsplit] at hordered
      exact List.rel_of_pairwise_cons (List.pairwise_append.mp hordered).2.1 hafter
  constructor
  · intro h
    exact ⟨fits_of_found? h, hfirst h⟩
  · rintro ⟨hfits, hothers⟩
    cases h : found? s prefixes text with
    | none =>
      rw [found?_eq_none_iff.mp h kind] at hfits
      cases hfits
    | some found =>
      obtain ⟨k, c⟩ := found
      have hc := fits_of_found? h
      -- Neither of the two kinds comes before the other.
      obtain rfl := Prefixes.eq_of_not_before (hothers k c hc) (hfirst h kind b hfits)
      rw [hfits] at hc
      rw [Option.some.inj hc]

theorem readAddress_eq_ok_iff (hread : s.decode text ≠ .error .broken) :
    readAddress s p text = .ok (kind, b) ↔ found? s p.prefixes text = some (kind, b) := by
  rw [readAddress_eq p hread]
  cases found? s p.prefixes text <;> simp

/-! ## What is read from any text -/

/-- **Reading an address picks the first prefix in the order of matching.** Let the scheme be
checked base 58. From any text a kind and a payload are read exactly if there is a payload, the text
is, up to blanks at its end, the address of the payload of that kind, and no other kind whose prefix
begins the same bytes comes before: one with a longer prefix, or with one as long and a smaller
number. All other text is refused with a text that shows it and the network's identifier, which can
be written whenever it is text. -/
theorem address_longest_match (s : Base58.Scheme) (sum : Octets → Octets) (hs : s.IsChecked sum)
    (room : Nat) (p : Network) (text : String) :
    (∀ kind b, readAddress s p text = .ok (kind, b) ↔
      b ≠ [] ∧
      writeAddress s room p (.int kind.number) (.octets b) = .ok (trimmed text) ∧
      ∀ j, j ≠ kind → p.prefixes.Begins j (p.prefixes.get kind ++ b) →
        ¬p.prefixes.Before j kind) ∧
    ((∀ kind b, readAddress s p text ≠ .ok (kind, b)) →
      readAddress s p text = .error (.foreign text p.networkId) ∧
        ∀ id, p.networkId.text? = some id →
          (AddressError.foreign text p.networkId).message? =
            some s!"{text} is not a {id} address") := by
  have hread := hs.decode_ne_broken text
  -- A prefix fits if it begins the bytes that were read, and the first one that fits is found.
  constructor
  · intro kind b
    rw [writeAddress_of_bytes? room rfl, Except.ok.injEq, readAddress_eq_ok_iff hread,
      found?_eq_some_iff]
    constructor
    · rintro ⟨hfits, hfirst⟩
      obtain ⟨hwritten, hne⟩ := (fits?_eq_some_iff hs).mp hfits
      refine ⟨hne, hwritten.symm, fun j _ hbegins => ?_⟩
      obtain ⟨c, hc⟩ := (exists_fits?_iff hs hfits).mpr hbegins
      exact hfirst j c hc
    · rintro ⟨hne, hwritten, hfirst⟩
      have hfits := (fits?_eq_some_iff hs).mpr ⟨hwritten.symm, hne⟩
      refine ⟨hfits, fun j c hc hbefore => ?_⟩
      have hother : j ≠ kind := by
        rintro rfl
        exact Prefixes.not_before_self hbefore
      exact hfirst j hother ((exists_fits?_iff hs hfits).mp ⟨c, hc⟩) hbefore
  · intro hnone
    constructor
    · cases hfound : found? s p.prefixes text with
      | none => rw [readAddress_eq p hread, hfound]
      | some found =>
        exact absurd ((readAddress_eq_ok_iff hread).mpr hfound) (hnone found.1 found.2)
    · intro id hid
      rw [AddressError.message?, hid]
      rfl

/-- Beside the prefix `04` for keys, what is written behind the four bytes of the main network's
prefix for extended keys is read as an extended key, and the line end behind it does not count. Text
with a character that is no digit is refused. -/
theorem address_longest_match_extended :
    let s := Base58.standard
    let main := Networks.main
    let short : Network := { main with prefixes := { main.prefixes with pubkey := [0x04] } }
    let text := s.encode [0x04, 0x88, 0xb2, 0x1e, 7] ++ "\n"
    readAddress s short text = .ok (.extPublic, [7]) ∧
      (∀ b, readAddress s short text ≠ .ok (.pubkey, b)) ∧
      ∃ e, readAddress s short "zer0" = .error e ∧
        e.message? = some "zer0 is not a main address" := by
  intro s main short text
  have hs := Base58.isChecked_standard
  have htrimmed : trimmed text = s.encode [0x04, 0x88, 0xb2, 0x1e, 7] := by
    have hblank : ∀ c ∈ "\n".toList, Text.isBlank c = true := by
      intro c hc
      rw [List.mem_singleton.mp hc]
      rfl
    rw [Base58.trimmed_append_blanks hblank, hs.trimmed_encode]
  obtain ⟨hread, -⟩ := address_longest_match s _ hs 1024 short text
  have hextended : readAddress s short text = .ok (.extPublic, [7]) := by
    refine (hread .extPublic [7]).mpr ⟨by decide, ?_, ?_⟩
    · rw [htrimmed]
      exact writeAddress_of_bytes? 1024 rfl
    · decide
  refine ⟨hextended, fun b h => ?_, ?_⟩
  · rw [hextended] at h
    cases h
  · obtain ⟨hall, hrefused⟩ := address_longest_match s _ hs 1024 short "zer0"
    have hnone : ∀ kind b, readAddress s short "zer0" ≠ .ok (kind, b) := by
      intro kind b h
      obtain ⟨-, hwritten, -⟩ := (hall kind b).mp h
      rw [writeAddress_of_bytes? 1024 rfl] at hwritten
      have hdecode := hs.decode_eq_ok_iff.mpr (Except.ok.inj hwritten).symm
      cases hdecode
    obtain ⟨he, hmessage⟩ := hrefused hnone
    exact ⟨_, he, hmessage "main" rfl⟩

end LedgerNet.Chain
