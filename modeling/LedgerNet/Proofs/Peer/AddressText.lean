import LedgerNet.Peer.Resolve
import LedgerNet.Proofs.Outcome
import LedgerNet.Proofs.Peer.IpReading
import Mathlib.Data.List.Basic
import Mathlib.Tactic.SplitIfs

/-!
# Addresses and their text

The text of an address leads back to it, and its key tells its bytes and its port. In a key the host
ends where the first separator stands that it cannot hold: a colon after a dotted host, a closing
bracket after a host with colons. The port is a numeral, so neither stands in it again.

## Main statements

- `key_eq_iff`: keys are equal exactly if bytes and ports are.
- `address_survives_text`: an address is resolved from its text and from its short form, and is told
  apart by its key.
-/

namespace LedgerNet.Peer

open Octets
open Outcome (bind_eq_ok_iff pure_eq_ok_iff)

variable {a b : Address}

/-! ## Resolving -/

theorem resolve_eq_ok_iff {host : Value} {port services timestamp : Int} :
    Address.resolve host port services timestamp = .ok a ↔
      ∃ bytes ip, hostBytes host = .ok bytes ∧ Address.widen? bytes = some ip ∧
        a = { ip, port, services, timestamp } := by
  rw [Address.resolve, bind_eq_ok_iff]
  constructor
  · rintro ⟨bytes, hhost, h⟩
    cases hwide : Address.widen? bytes with
    | none => simp [hwide] at h
    | some ip =>
      simp only [hwide, pure_eq_ok_iff] at h
      exact ⟨bytes, ip, hhost, hwide, h.symm⟩
  · rintro ⟨bytes, ip, hhost, hwide, rfl⟩
    exact ⟨bytes, hhost, by rw [hwide]; rfl⟩

theorem widen?_of_length_four {ip : Octets} (h : ip.length = 4) :
    Address.widen? ip = some (mappedPrefix ++ ip) := if_pos h

theorem widen?_of_length_sixteen {ip : Octets} (h : ip.length = 16) :
    Address.widen? ip = some ip := by
  rw [Address.widen?, if_neg (by omega), if_pos h]

theorem length_mappedPrefix_append {ip : Octets} (h : ip.length = 4) :
    (mappedPrefix ++ ip).length = 16 := by
  rw [List.length_append, h]
  rfl

theorem length_of_widen? {bytes ip : Octets} (h : Address.widen? bytes = some ip) :
    ip.length = 16 := by
  unfold Address.widen? at h
  split_ifs at h with hfour hsixteen
  · cases h
    exact length_mappedPrefix_append hfour
  · cases h
    exact hsixteen

/-! ## The text of the host -/

theorem ip_eq_of_isMapped (h : a.isMapped = true) : a.ip = mappedPrefix ++ a.ip.drop 12 := by
  rw [← beq_iff_eq.mp h, List.take_append_drop]

theorem readIp_ipText (h : a.ip.length = 16) :
    ∃ bytes, readIp a.ipText = .ok bytes ∧ Address.widen? bytes = some a.ip := by
  by_cases hmapped : a.isMapped = true
  · have hfour : (a.ip.drop 12).length = 4 := by rw [List.length_drop, h]
    refine ⟨a.ip.drop 12, ?_, ?_⟩
    · rw [Address.ipText, if_pos hmapped, readIp_writeDotted hfour]
    · rw [widen?_of_length_four hfour, ← ip_eq_of_isMapped hmapped]
  · refine ⟨a.ip, ?_, widen?_of_length_sixteen h⟩
    rw [Address.ipText, if_neg hmapped, readIp_writeColons h]

theorem resolve_ipText (h : a.ip.length = 16) :
    Address.resolve (.text a.ipText) a.port a.services a.timestamp = .ok a := by
  obtain ⟨bytes, hread, hwide⟩ := readIp_ipText h
  refine resolve_eq_ok_iff.mpr ⟨bytes, a.ip, ?_, hwide, rfl⟩
  rw [hostBytes, hread]
  rfl

theorem ip_eq_of_ipText (ha : a.ip.length = 16) (hb : b.ip.length = 16)
    (h : a.ipText = b.ipText) : a.ip = b.ip := by
  obtain ⟨bytes, hread, hwide⟩ := readIp_ipText ha
  obtain ⟨bytes', hread', hwide'⟩ := readIp_ipText hb
  rw [h, hread'] at hread
  cases hread
  exact Option.some.inj (hwide.symm.trans hwide')

/-! ## Keys -/

theorem toList_toString (n : Int) :
    (toString n).toList =
      if 0 ≤ n then Nat.toDigits 10 n.toNat else '-' :: Nat.toDigits 10 (-n).toNat := by
  rw [Int.toString_eq_repr, Int.repr_eq_if]
  split_ifs
  · exact Nat.toList_repr
  · rw [String.toList_append, Nat.toList_repr]
    rfl

/-- A character that is neither a sign nor a digit stands in no number. -/
theorem notMem_toString {c : Char} (hsign : c ≠ '-') (hdigit : ∀ d < 16, d.digitChar ≠ c)
    (n : Int) : c ∉ (toString n).toList := by
  have hnumeral (m : Nat) : c ∉ Nat.toDigits 10 m :=
    notMem_numeral (by decide) (by decide) hdigit m
  rw [toList_toString]
  split_ifs
  · exact hnumeral n.toNat
  · exact List.not_mem_cons_of_ne_of_not_mem hsign (hnumeral (-n).toNat)

/-- An integer is known from its text. -/
theorem toString_injective {m n : Int} (h : (toString m).toList = (toString n).toList) : m = n := by
  have hdigits {j k : Nat} (h : Nat.toDigits 10 j = Nat.toDigits 10 k) : j = k := by
    rw [← Nat.ofDigitChars_toDigits (n := j) (by decide) (Nat.le_refl 10), h,
      Nat.ofDigitChars_toDigits (by decide) (Nat.le_refl 10)]
  have hminus (k : Nat) : '-' ∉ Nat.toDigits 10 k :=
    notMem_numeral (by decide) (by decide) (by decide) k
  rw [toList_toString, toList_toString] at h
  -- A sign stands in front of one number, so it stands in front of the other.
  split_ifs at h with hm hn hn
  · have hsame := hdigits h
    omega
  · exact absurd (h ▸ List.mem_cons_self) (hminus m.toNat)
  · exact absurd (h ▸ List.mem_cons_self) (hminus n.toNat)
  · have hsame := hdigits (List.cons.inj h).2
    omega

theorem toList_key_of_isMapped (h : a.isMapped = true) :
    a.key.toList = a.ipText.toList ++ ':' :: (toString a.port).toList := by
  simp [Address.key, h, toString]

theorem toList_key_of_not_isMapped (h : ¬a.isMapped = true) :
    a.key.toList = '[' :: (a.ipText.toList ++ ']' :: ':' :: (toString a.port).toList) := by
  simp [Address.key, h, toString]

theorem notMem_ipText_of_isMapped {c : Char} (hpoint : c ≠ '.')
    (hdigit : ∀ d < 16, d.digitChar ≠ c) (h : a.isMapped = true) : c ∉ a.ipText.toList := by
  rw [Address.ipText, if_pos h, String.toList_ofList]
  exact notMem_writeDotted hpoint hdigit _

/-- A key in brackets is no key without them. -/
theorem key_ne_of_isMapped (ha : a.isMapped = true) (hb : ¬b.isMapped = true) : a.key ≠ b.key := by
  intro h
  have hmem : '[' ∈ a.key.toList := by
    rw [h, toList_key_of_not_isMapped hb]
    exact List.mem_cons_self
  rw [toList_key_of_isMapped ha, List.mem_append, List.mem_cons] at hmem
  rcases hmem with hhost | hcolon | hport
  · exact notMem_ipText_of_isMapped (by decide) (by decide) ha hhost
  · exact absurd hcolon (by decide)
  · exact notMem_toString (by decide) (by decide) a.port hport

theorem ipText_port_of_key (h : a.key = b.key) : a.ipText = b.ipText ∧ a.port = b.port := by
  by_cases ha : a.isMapped = true <;> by_cases hb : b.isMapped = true
  · have hlist := congrArg String.toList h
    rw [toList_key_of_isMapped ha, toList_key_of_isMapped hb] at hlist
    obtain ⟨htext, -, hport⟩ := (List.append_cons_inj_of_notMem
      (notMem_ipText_of_isMapped (by decide) (by decide) ha)
      (notMem_toString (by decide) (by decide) a.port)).mp hlist
    exact ⟨String.toList_inj.mp htext, toString_injective hport⟩
  · exact absurd h (key_ne_of_isMapped ha hb)
  · exact absurd h.symm (key_ne_of_isMapped hb ha)
  · have hlist := congrArg String.toList h
    rw [toList_key_of_not_isMapped ha, toList_key_of_not_isMapped hb] at hlist
    have hhost : ']' ∉ a.ipText.toList := by
      rw [Address.ipText, if_neg ha, String.toList_ofList]
      exact notMem_writeColons (by decide) (by decide) a.ip
    have hrest : ']' ∉ ':' :: (toString a.port).toList :=
      List.not_mem_cons_of_ne_of_not_mem (by decide)
        (notMem_toString (by decide) (by decide) a.port)
    obtain ⟨htext, -, hport⟩ :=
      (List.append_cons_inj_of_notMem hhost hrest).mp (List.cons.inj hlist).2
    exact ⟨String.toList_inj.mp htext, toString_injective (List.cons.inj hport).2⟩

/-- **Keys are equal exactly if bytes and ports are.** -/
theorem key_eq_iff (ha : a.ip.length = 16) (hb : b.ip.length = 16) :
    a.key = b.key ↔ a.ip = b.ip ∧ a.port = b.port := by
  constructor
  · intro h
    obtain ⟨htext, hport⟩ := ipText_port_of_key h
    exact ⟨ip_eq_of_ipText ha hb htext, hport⟩
  · cases a
    cases b
    rintro ⟨rfl, rfl⟩
    rfl

/-! ## Addresses and what is written of them -/

/-- **An address survives its text.** Every address is resolved from the text of its host, whatever
its other parts. Four bytes and their form of sixteen give one address. Addresses whose ports can be
written have keys, and these are equal exactly if bytes and ports are. -/
theorem address_survives_text :
    (∀ a : Address, a.ip.length = 16 →
      Address.resolve (.text a.ipText) a.port a.services a.timestamp = .ok a) ∧
    (∀ (short long : Value) (ip : Octets), ip.length = 4 →
      hostBytes short = .ok ip → hostBytes long = .ok (mappedPrefix ++ ip) →
      ∀ port services timestamp, ∃ a : Address,
        Address.resolve short port services timestamp = .ok a ∧
        Address.resolve long port services timestamp = .ok a) ∧
    (∀ a b : Address, a.ip.length = 16 → b.ip.length = 16 →
      Text.isWritable a.port → Text.isWritable b.port →
      ∃ s t, a.key? = some s ∧ b.key? = some t ∧ (s = t ↔ a.ip = b.ip ∧ a.port = b.port)) := by
  refine ⟨fun _ => resolve_ipText, ?_, ?_⟩
  · intro short long ip hlength hshort hlong port services timestamp
    have hwide := widen?_of_length_sixteen (length_mappedPrefix_append hlength)
    exact ⟨{ ip := mappedPrefix ++ ip, port, services, timestamp },
      resolve_eq_ok_iff.mpr ⟨_, _, hshort, widen?_of_length_four hlength, rfl⟩,
      resolve_eq_ok_iff.mpr ⟨_, _, hlong, hwide, rfl⟩⟩
  · intro a b ha hb haport hbport
    exact ⟨a.key, b.key, if_pos haport, if_pos hbport, key_eq_iff ha hb⟩

/-- The last address of all and the loopback address of four bytes, on one port. -/
theorem address_survives_text_one_port :
    let last : Address := ⟨List.replicate 16 0xff, 17000, 0, 1⟩
    let loopback : Address := ⟨mappedPrefix ++ [127, 0, 0, 1], 17000, 0, 1⟩
    Address.resolve (.text last.ipText) 17000 0 1 = .ok last ∧
    (∃ a, Address.resolve (.bytes [127, 0, 0, 1]) 17000 0 1 = .ok a ∧
      Address.resolve (.text "::ffff:7f00:1") 17000 0 1 = .ok a) ∧
    ∃ s t, last.key? = some s ∧ loopback.key? = some t ∧ s ≠ t := by
  intro last loopback
  obtain ⟨htext, hforms, hkeys⟩ := address_survives_text
  obtain ⟨s, t, hlast, hloopback, hkey⟩ :=
    hkeys last loopback rfl rfl (by decide +kernel) (by decide +kernel)
  refine ⟨htext last rfl, hforms _ _ [127, 0, 0, 1] rfl rfl (by decide +kernel) 17000 0 1,
    s, t, hlast, hloopback, ?_⟩
  intro h
  exact absurd (hkey.mp h).1 (by decide +kernel)

/-- A port of too many digits: the address has no key, so that not even with itself it has one in
common. -/
theorem no_key_of_long_port :
    ¬∀ a b : Address, a.ip.length = 16 → b.ip.length = 16 →
      ((∃ s, a.key? = some s ∧ b.key? = some s) ↔ a.ip = b.ip ∧ a.port = b.port) := by
  intro h
  let a : Address := ⟨mappedPrefix ++ [1, 2, 3, 4], (Nat.pow 10 Text.digitLimit : Nat), 1, 1⟩
  have hunwritable : ¬Text.isWritable a.port = true := by decide +kernel
  have hnone : a.key? = none := if_neg hunwritable
  obtain ⟨s, hsome, -⟩ := (h a a rfl rfl).mpr ⟨rfl, rfl⟩
  rw [hnone] at hsome
  cases hsome

end LedgerNet.Peer
