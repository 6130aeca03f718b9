import LedgerNet.Memory
import LedgerNet.Proofs.Entries
import LedgerNet.Proofs.Outcome
import Mathlib.Data.List.GetD

/-!
# What happens to memory

A program works on registers by steps, and gives what a register holds a second name. Each action
that succeeds has one of few effects: it leaves everything as it is, writes one cell in place, lets
a register share the cell of another one, sets a register to something in a new cell, or takes bytes
from an object, which then has a new cell of its own. `Effect` lists them, and everything else about
memory follows from the list. An action that fails leaves everything as it is.

## Main statements

- `Extends.bytesOf`, `Extends.cellOf`: memory that grows keeps what was there.
- `run_extend_object`, `run_pop`: what sums are, and what is popped.
- `effect_of_perform`: the effects of the actions that succeed.
-/

namespace LedgerNet.Memory

open Outcome
open LedgerNet.Entries (lookup_cons lookup_filter_key)

variable {m m' : Memory} {c : Cell} {b : Octets} {g h : Handle} {name : String}

/-! ## What is there -/

/-- A handle refers to something that is there. -/
def Has (m : Memory) : Handle → Prop
  | .buffer c => c < m.cells.length
  | .object o => o < m.objects.length

/-- Everything that objects and registers refer to is there. -/
structure WellFormed (m : Memory) : Prop where
  objects : ∀ c ∈ m.objects, c < m.cells.length
  registers : ∀ name h, m.handle name = .ok h → m.Has h

theorem WellFormed.cellOf_lt (hm : m.WellFormed) (hg : m.Has g) : m.cellOf g < m.cells.length := by
  cases g with
  | buffer c => exact hg
  | object o =>
    have ho : o < m.objects.length := hg
    rw [cellOf, List.getD_eq_getElem m.objects 0 ho]
    exact hm.objects _ (List.getElem_mem ho)

theorem handle_bind (m : Memory) (name n : String) (h : Handle) :
    (m.bind name h).handle n = if n = name then .ok h else m.handle n := by
  -- The row that the register had is dropped, so that the new one behind the others is found.
  have hothers : (m.registers.filter fun r => r.1 != name).lookup n =
      if n = name then none else m.registers.lookup n := by
    rw [lookup_filter_key fun k => k != name]
    by_cases hn : n = name <;> simp [hn]
  rw [handle, handle, bind, List.lookup_append, hothers, lookup_cons]
  by_cases hn : n = name <;> simp [hn]

theorem handle_bind_self (m : Memory) (name : String) (h : Handle) :
    (m.bind name h).handle name = .ok h := by
  rw [handle_bind, if_pos rfl]

/-- A register that was set holds what it was set to, and any other one what it held. -/
theorem eq_or_handle_of_bind {n : String} (hg : (m.bind name h).handle n = .ok g) :
    n = name ∧ h = g ∨ m.handle n = .ok g := by
  rw [handle_bind] at hg
  split at hg
  · rename_i hn
    exact .inl ⟨hn, Except.ok.inj hg⟩
  · exact .inr hg

theorem cellOf_bind (m : Memory) (name : String) (h g : Handle) :
    (m.bind name h).cellOf g = m.cellOf g := by
  cases g <;> rfl

/-! ## Growing -/

/-- Memory with more cells and objects, which refer to cells that are there. -/
structure Extends (m m' : Memory) : Prop where
  cells : m.cells <+: m'.cells
  objects : m.objects <+: m'.objects
  registers : m'.registers = m.registers
  placed : ∀ c ∈ m'.objects, c ∈ m.objects ∨ c < m'.cells.length

namespace Extends

theorem refl (m : Memory) : m.Extends m where
  cells := List.prefix_refl m.cells
  objects := List.prefix_refl m.objects
  registers := rfl
  placed _ hc := .inl hc

theorem trans {m₁ m₂ m₃ : Memory} (h : m₁.Extends m₂) (h' : m₂.Extends m₃) : m₁.Extends m₃ where
  cells := h.cells.trans h'.cells
  objects := h.objects.trans h'.objects
  registers := h'.registers.trans h.registers
  placed c hc := by
    rcases h'.placed c hc with hold | hnew
    · exact (h.placed c hold).imp_right fun hlt => Nat.lt_of_lt_of_le hlt h'.cells.length_le
    · exact .inr hnew

theorem allocate (m : Memory) (b : Octets) : m.Extends (m.allocate b).1 where
  cells := List.prefix_append m.cells [b]
  objects := List.prefix_refl m.objects
  registers := rfl
  placed _ hc := .inl hc

theorem wrap (hc : c < m.cells.length) : m.Extends (m.wrap c).1 where
  cells := List.prefix_refl m.cells
  objects := List.prefix_append m.objects [c]
  registers := rfl
  placed d hd := by
    rcases List.mem_append.mp hd with hold | hnew
    · exact .inl hold
    · rw [List.mem_singleton.mp hnew]
      exact .inr hc

theorem handle (h : m.Extends m') (name : String) : m'.handle name = m.handle name := by
  rw [Memory.handle, h.registers, Memory.handle]

theorem has (h : m.Extends m') (hg : m.Has g) : m'.Has g := by
  cases g with
  | buffer c => exact Nat.lt_of_lt_of_le hg h.cells.length_le
  | object o => exact Nat.lt_of_lt_of_le hg h.objects.length_le

/-- What was there keeps its bytes. -/
theorem bytesOf (h : m.Extends m') (hc : c < m.cells.length) : m'.bytesOf c = m.bytesOf c := by
  obtain ⟨more, hmore⟩ := h.cells
  rw [Memory.bytesOf, Memory.bytesOf, ← hmore, List.getD_append _ _ _ _ hc]

/-- What was there keeps its cell. -/
theorem cellOf (h : m.Extends m') (hg : m.Has g) : m'.cellOf g = m.cellOf g := by
  cases g with
  | buffer c => rfl
  | object o =>
    obtain ⟨more, hmore⟩ := h.objects
    rw [Memory.cellOf, Memory.cellOf, ← hmore, List.getD_append _ _ _ _ hg]

end Extends

theorem WellFormed.extend (hm : m.WellFormed) (h : m.Extends m') : m'.WellFormed where
  objects c hc := by
    rcases h.placed c hc with hold | hnew
    · exact Nat.lt_of_lt_of_le (hm.objects c hold) h.cells.length_le
    · exact hnew
  registers name g hg := h.has (hm.registers name g (by rwa [← h.handle]))

theorem WellFormed.bind (hm : m.WellFormed) (hh : m.Has h) (name : String) :
    (m.bind name h).WellFormed where
  objects := hm.objects
  registers n g hg := by
    rcases eq_or_handle_of_bind hg with ⟨-, rfl⟩ | hold
    · exact hh
    · exact hm.registers n g hold

/-- Memory has grown by what a handle refers to, and by no other object. -/
structure Adds (m m' : Memory) (g : Handle) : Prop where
  grown : m.Extends m'
  has : m'.Has g
  only : ∀ o, m'.Has (.object o) → m.Has (.object o) ∨ g = .object o

/-- Memory has grown by something that refers to a new cell. -/
structure AddsNew (m m' : Memory) (g : Handle) : Prop extends m.Adds m' g where
  isNew : m.cells.length ≤ m'.cellOf g

theorem adds_wrap (hc : c < m.cells.length) : m.Adds (m.wrap c).1 (m.wrap c).2 where
  grown := Extends.wrap hc
  has := by simp [wrap, Has]
  only o ho := by
    have hlt : o < m.objects.length + 1 := by simpa [wrap, Has] using ho
    rcases Nat.lt_succ_iff_lt_or_eq.mp hlt with hold | rfl
    · exact .inl hold
    · exact .inr rfl

theorem allocate_lt (m : Memory) (b : Octets) :
    (m.allocate b).2 < (m.allocate b).1.cells.length := by
  simp [allocate]

theorem addsNew_wrapNew (m : Memory) (b : Octets) : m.AddsNew (m.wrapNew b).1 (m.wrapNew b).2 where
  grown := (Extends.allocate m b).trans (adds_wrap (m.allocate_lt b)).grown
  has := (adds_wrap (m.allocate_lt b)).has
  only := (adds_wrap (m.allocate_lt b)).only
  isNew := by simp [wrapNew, wrap, allocate, cellOf]

/-- A register that is set to a new object has its bytes. -/
theorem contents_wrapNew (m : Memory) (name : String) (b : Octets) :
    ((m.wrapNew b).1.bind name (m.wrapNew b).2).contents (m.wrapNew b).2 = b := by
  simp [Memory.bind, wrapNew, wrap, allocate, contents, cellOf, bytesOf]

theorem addsNew_bufferNew (m : Memory) (b : Octets) :
    m.AddsNew (m.bufferNew b).1 (m.bufferNew b).2 where
  grown := Extends.allocate m b
  has := by simp [bufferNew, allocate, Has]
  only _ ho := .inl ho
  isNew := Nat.le_refl _

theorem addsNew_alike (m : Memory) (like : Handle) (b : Octets) :
    m.AddsNew (m.alike like b).1 (m.alike like b).2 := by
  cases like with
  | buffer c => exact addsNew_bufferNew m b
  | object o => exact addsNew_wrapNew m b

/-! ## Writing -/

theorem has_write (hg : m.Has g) (c : Cell) (b : Octets) : (m.write c b).Has g := by
  cases g with
  | buffer d => simpa only [write, Has, List.length_set] using hg
  | object o => exact hg

theorem bytesOf_write_of_ne {d : Cell} (hne : d ≠ c) (b : Octets) :
    (m.write d b).bytesOf c = m.bytesOf c := by
  simp only [write, bytesOf, List.getD_eq_getElem?_getD, List.getElem?_set_ne hne]

theorem WellFormed.write (hm : m.WellFormed) (c : Cell) (b : Octets) :
    (m.write c b).WellFormed where
  objects d hd := by simpa only [Memory.write, List.length_set] using hm.objects d hd
  registers name g hg := has_write (hm.registers name g hg) c b

/-! ## Moving -/

/-- Memory in which an object has a new cell of its own, with the given bytes. -/
def moved (m : Memory) (o : Nat) (b : Octets) : Memory :=
  (m.allocate b).1.redirect o (m.allocate b).2

theorem cellOf_moved_self {o : Nat} (ho : m.Has (.object o)) (b : Octets) :
    (m.moved o b).cellOf (.object o) = m.cells.length := by
  have hlt : o < m.objects.length := ho
  simp only [moved, redirect, allocate, cellOf, List.getD_eq_getElem?_getD,
    List.getElem?_set_self hlt, Option.getD_some]

/-- All others keep their cells. -/
theorem cellOf_moved_of_ne {o : Nat} (hg : g ≠ .object o) (b : Octets) :
    (m.moved o b).cellOf g = m.cellOf g := by
  cases g with
  | buffer c => rfl
  | object p =>
    have hne : o ≠ p := fun heq => hg (by rw [heq])
    simp only [moved, redirect, allocate, cellOf, List.getD_eq_getElem?_getD,
      List.getElem?_set_ne hne]

theorem has_object_moved {p : Nat} (m : Memory) (o : Nat) (b : Octets) :
    (m.moved o b).Has (.object p) ↔ m.Has (.object p) := by
  simp only [moved, redirect, allocate, Has, List.length_set]

theorem has_moved (hg : m.Has g) (o : Nat) (b : Octets) : (m.moved o b).Has g := by
  cases g with
  | buffer c =>
    have hgrown : c < (m.allocate b).1.cells.length := (Extends.allocate m b).has hg
    exact hgrown
  | object p => exact (has_object_moved m o b).mpr hg

theorem bytesOf_moved (hc : c < m.cells.length) (o : Nat) (b : Octets) :
    (m.moved o b).bytesOf c = m.bytesOf c :=
  (Extends.allocate m b).bytesOf hc

theorem handle_moved (m : Memory) (o : Nat) (b : Octets) (name : String) :
    (m.moved o b).handle name = m.handle name := rfl

theorem WellFormed.moved (hm : m.WellFormed) (o : Nat) (b : Octets) :
    (m.moved o b).WellFormed where
  objects c hc := by
    have hlength : (m.moved o b).cells.length = m.cells.length + 1 := List.length_append
    rw [hlength]
    rcases List.mem_or_eq_of_mem_set hc with hold | rfl
    · exact Nat.lt_succ_of_lt (hm.objects c hold)
    · exact Nat.lt_succ_self _
  registers name g hg := has_moved (hm.registers name g hg) o b

/-! ## Actions -/

/-- What a program does: a step, or a register set to what another one holds. -/
inductive Action where
  | step (s : Step)
  | name (register target : String)

/-- What an action leads to. -/
def perform (m : Memory) : Action → Except Fault Memory
  | .step s => Prod.fst <$> m.run s
  | .name register target => m.bind target <$> m.handle register

/-- What is there after an action; one that fails changes nothing. -/
def after (m : Memory) (a : Action) : Memory :=
  match m.perform a with
  | .ok m' => m'
  | .error _ => m

/-- An action does not fail. -/
def Succeeds (m : Memory) (a : Action) : Prop := ∃ m', m.perform a = .ok m'

/-- An action only asks a question. -/
inductive Asks : Action → Prop where
  | sameCell {register other} : Asks (.step (.sameCell register other))
  | equal {register source} : Asks (.step (.equal register source))

/-- An action writes or extends a buffer in place, whose cell this is. -/
inductive Writes (m : Memory) : Action → Cell → Prop where
  | poke {register position value} {c : Cell} : m.handle register = .ok (.buffer c) →
      Writes m (.step (.poke register position value)) c
  | extend {register source} {c : Cell} : m.handle register = .ok (.buffer c) →
      Writes m (.step (.extend register source)) c

/-- The operand is not taken as it is: it is copied, or is no register. -/
def Copies (source : Source) (copy : Bool) : Prop := ∀ name, source = .register name → copy = true

/-- An action sets a register without a copy and without a length, from another one. A length of
zero counts as none. -/
inductive Shares : Action → (source target : String) → Prop where
  | construct {source target length} : length = none ∨ length = some 0 →
      Shares (.step (.construct target (.register source) false length)) source target
  | decode {source target} : Shares (.step (.decode target (.register source) false)) source target

/-- An action sets a register to a result of its own: a new buffer, a sum, a slice, what was popped,
a copy, a reversal, or what was constructed or decoded with a copy or with a length. -/
inductive Makes (m : Memory) : Action → (target : String) → Prop where
  | construct_copy {target source copy length} : Copies source copy →
      Makes m (.step (.construct target source copy length)) target
  | construct_length {target source copy length} : length ≠ 0 →
      Makes m (.step (.construct target source copy (some length))) target
  | buffer {target contents} : Makes m (.step (.buffer target contents)) target
  | decode {target source copy} : Copies source copy →
      Makes m (.step (.decode target source copy)) target
  | sum {target source o} : m.handle target = .ok (.object o) →
      Makes m (.step (.extend target source)) target
  | pop {register count target} : Makes m (.step (.pop register count target)) target
  | slice {register target slice} : Makes m (.step (.slice register target slice)) target
  | copy {register target} : Makes m (.step (.copy register target)) target
  | reversed {register target} : Makes m (.step (.reversed register target)) target

/-- An action takes bytes from what a register holds, with success. -/
def Pops (m : Memory) (a : Action) (g : Handle) : Prop :=
  ∃ register count target, a = .step (.pop register count target) ∧
    m.handle register = .ok g ∧ m.Succeeds a

/-! ## Effects -/

/-- What an action does to memory when it succeeds. -/
inductive Effect (m : Memory) (a : Action) : Memory → Prop where
  | ask : Asks a → Effect m a m
  | write {c : Cell} (b : Octets) : Writes m a c → Effect m a (m.write c b)
  | name {register target} {h : Handle} : a = .name register target → m.handle register = .ok h →
      Effect m a (m.bind target h)
  | share {source target} {h g : Handle} {m' : Memory} : Shares a source target →
      m.handle source = .ok h → m.Adds m' g → m'.cellOf g = m.cellOf h →
      Effect m a (m'.bind target g)
  | make {target} {g : Handle} {m' : Memory} : Makes m a target → m.AddsNew m' g →
      Effect m a (m'.bind target g)
  | pop {register count target o} {g : Handle} {m' : Memory} (rest : Octets) :
      a = .step (.pop register count target) → m.handle register = .ok (.object o) →
      m.AddsNew m' g →
      Effect m a ((m'.moved o rest).bind target g)

/-- Decoding takes a register's cell as it is, or allocates a new one. -/
theorem decode_eq_ok {source : Source} {copy : Bool}
    (hdecode : m.decode source copy = .ok (m', c)) :
    (∃ name h, source = .register name ∧ copy = false ∧ m.handle name = .ok h ∧
        m' = m ∧ c = m.cellOf h) ∨
      Copies source copy ∧ ∃ b, m.allocate b = (m', c) := by
  cases source with
  | register name =>
    obtain ⟨h, hname, hout⟩ := bind_eq_ok_iff.mp hdecode
    cases copy with
    | false =>
      cases hout
      exact .inl ⟨name, h, rfl, rfl, hname, rfl, rfl⟩
    | true => exact .inr ⟨fun _ _ => rfl, m.contents h, pure_eq_ok_iff.mp hout⟩
  | value v =>
    obtain ⟨b, -, hout⟩ := bind_eq_ok_iff.mp hdecode
    exact .inr ⟨nofun, b, pure_eq_ok_iff.mp hout⟩

theorem perform_step_eq_ok {s : Step} :
    m.perform (.step s) = .ok m' ↔ ∃ answer, m.run s = .ok (m', answer) := by
  rw [perform, map_eq_ok_iff]
  constructor
  · rintro ⟨⟨_, answer⟩, hrun, rfl⟩
    exact ⟨answer, hrun⟩
  · rintro ⟨answer, hrun⟩
    exact ⟨_, hrun, rfl⟩

section Steps

variable {s : Step} {register target : String} {source : Source} {copy : Bool}
  {answer : Option Bool}

theorem effect_construct (hm : m.WellFormed) {length : Option Int}
    (h : m.run (.construct target source copy length) = .ok (m', answer)) :
    Effect m (.step (.construct target source copy length)) m' := by
  simp only [run.eq_def] at h
  split at h
  case h_1 | h_2 =>
    -- Without a length the cell of the operand is kept, unless it is copied or has none.
    obtain ⟨⟨m₁, c⟩, hdecode, hout⟩ := bind_eq_ok_iff.mp h
    cases hout
    obtain ⟨name, g, rfl, rfl, hname, rfl, rfl⟩ | ⟨hcopies, b, hnew⟩ := decode_eq_ok hdecode
    · have hlt := hm.cellOf_lt (hm.registers name g hname)
      exact .share (.construct (by simp)) hname (adds_wrap hlt) (by simp [wrap, cellOf])
    · cases hnew
      exact .make (.construct_copy hcopies) (addsNew_wrapNew m b)
  case h_3 n hn =>
    obtain ⟨v, -, hsized⟩ := bind_eq_ok_iff.mp h
    obtain ⟨b, -, hout⟩ := bind_eq_ok_iff.mp hsized
    cases hout
    exact .make (.construct_length (by simpa using hn)) (addsNew_wrapNew m b)

theorem effect_decode (hm : m.WellFormed)
    (h : m.run (.decode target source copy) = .ok (m', answer)) :
    Effect m (.step (.decode target source copy)) m' := by
  obtain ⟨⟨m₁, c⟩, hdecode, hout⟩ := bind_eq_ok_iff.mp h
  cases hout
  obtain ⟨name, g, rfl, rfl, hname, rfl, rfl⟩ | ⟨hcopies, b, hnew⟩ := decode_eq_ok hdecode
  · have hlt := hm.cellOf_lt (hm.registers name g hname)
    exact .share .decode hname ⟨Extends.refl m₁, hlt, fun _ ho => .inl ho⟩ rfl
  · cases hnew
    exact .make (.decode hcopies) (addsNew_bufferNew m b)

theorem effect_poke {position value : Int}
    (h : m.run (.poke register position value) = .ok (m', answer)) :
    Effect m (.step (.poke register position value)) m' := by
  obtain ⟨g, hregister, hpoked⟩ := bind_eq_ok_iff.mp h
  -- Only a buffer is written in place.
  cases g with
  | object o => cases hpoked
  | buffer c =>
    obtain ⟨b, -, hout⟩ := bind_eq_ok_iff.mp hpoked
    cases hout
    exact .write b (.poke hregister)

/-- A sum is a new object, with the bytes of the old one in front of those of the operand. -/
theorem run_extend_object {o : Nat} (hregister : m.handle register = .ok (.object o))
    (h : m.run (.extend register source) = .ok (m', answer)) :
    ∃ v b, m.sourceValue source = .ok v ∧ v.toOctets = .ok b ∧
      m' = (m.wrapNew (m.contents (.object o) ++ b)).1.bind register
        (m.wrapNew (m.contents (.object o) ++ b)).2 := by
  obtain ⟨_, hhandle, hsource⟩ := bind_eq_ok_iff.mp h
  obtain rfl := Except.ok.inj (hregister.symm.trans hhandle)
  obtain ⟨v, hv, hbytes⟩ := bind_eq_ok_iff.mp hsource
  obtain ⟨b, hb, hout⟩ := bind_eq_ok_iff.mp hbytes
  cases hout
  exact ⟨v, b, hv, mapError_eq_ok_iff.mp hb, rfl⟩

theorem effect_extend (h : m.run (.extend register source) = .ok (m', answer)) :
    Effect m (.step (.extend register source)) m' := by
  obtain ⟨g, hregister, hsource⟩ := bind_eq_ok_iff.mp h
  cases g with
  | object o =>
    -- An object is not extended: the register is set to a sum.
    obtain ⟨_, b, -, -, rfl⟩ := run_extend_object hregister h
    exact .make (.sum hregister) (addsNew_wrapNew m _)
  | buffer c =>
    obtain ⟨v, -, hbytes⟩ := bind_eq_ok_iff.mp hsource
    obtain ⟨b, -, hout⟩ := bind_eq_ok_iff.mp hbytes
    obtain ⟨-, hwritten⟩ := refuse_eq_ok_iff.mp hout
    cases hwritten
    exact .write _ (.extend hregister)

/-- What is popped is a new object, and the one that it is popped from moves to the rest. -/
theorem run_pop {count : Int} (h : m.run (.pop register count target) = .ok (m', answer)) :
    ∃ o taken rest, m.handle register = .ok (.object o) ∧
      Ledger.Reader.pop count (m.contents (.object o)) = .ok taken rest ∧
      m' = ((m.wrapNew taken).1.moved o rest).bind target (m.wrapNew taken).2 := by
  obtain ⟨g, hregister, hpopped⟩ := bind_eq_ok_iff.mp h
  cases g with
  | buffer c => cases hpopped
  | object o =>
    cases htaken : Ledger.Reader.pop count (m.contents (.object o)) with
    | error e rest =>
      simp only [htaken] at hpopped
      cases hpopped
    | ok taken rest =>
      simp only [htaken] at hpopped
      cases hpopped
      exact ⟨o, taken, rest, hregister, htaken, rfl⟩

theorem effect_pop {count : Int} (h : m.run (.pop register count target) = .ok (m', answer)) :
    Effect m (.step (.pop register count target)) m' := by
  obtain ⟨o, taken, rest, hregister, -, rfl⟩ := run_pop h
  exact .pop rest rfl hregister (addsNew_wrapNew m taken)

theorem effect_slice {slice : Slice} (h : m.run (.slice register target slice) = .ok (m', answer)) :
    Effect m (.step (.slice register target slice)) m' := by
  obtain ⟨g, -, hsliced⟩ := bind_eq_ok_iff.mp h
  obtain ⟨b, -, hout⟩ := bind_eq_ok_iff.mp hsliced
  cases hout
  exact .make .slice (addsNew_alike m g b)

theorem effect_copy (h : m.run (.copy register target) = .ok (m', answer)) :
    Effect m (.step (.copy register target)) m' := by
  obtain ⟨g, -, hout⟩ := bind_eq_ok_iff.mp h
  cases hout
  exact .make .copy (addsNew_alike m g (m.contents g))

theorem effect_reversed (h : m.run (.reversed register target) = .ok (m', answer)) :
    Effect m (.step (.reversed register target)) m' := by
  obtain ⟨g, -, hreversed⟩ := bind_eq_ok_iff.mp h
  cases g with
  | buffer c => cases hreversed
  | object o =>
    cases hreversed
    exact .make .reversed (addsNew_wrapNew m _)

/-- Both questions leave memory as it is. -/
theorem eq_of_asks (hasks : Asks (.step s)) (h : m.run s = .ok (m', answer)) : m' = m := by
  cases hasks with
  | sameCell =>
    obtain ⟨g, -, hother⟩ := bind_eq_ok_iff.mp h
    obtain ⟨g', -, hout⟩ := bind_eq_ok_iff.mp hother
    cases hout
    rfl
  | equal =>
    obtain ⟨g, -, hsource⟩ := bind_eq_ok_iff.mp h
    obtain ⟨v, -, hequal⟩ := bind_eq_ok_iff.mp hsource
    obtain ⟨equal, -, hout⟩ := bind_eq_ok_iff.mp hequal
    cases hout
    rfl

end Steps

/-- An action that succeeds has one of the effects. -/
theorem effect_of_perform (hm : m.WellFormed) {a : Action} (h : m.perform a = .ok m') :
    Effect m a m' := by
  cases a with
  | name register target =>
    obtain ⟨g, hregister, rfl⟩ := map_eq_ok_iff.mp h
    exact .name rfl hregister
  | step s =>
    obtain ⟨answer, hrun⟩ := perform_step_eq_ok.mp h
    cases s with
    | construct target source copy length => exact effect_construct hm hrun
    | buffer target contents =>
      cases hrun
      exact .make .buffer (addsNew_bufferNew m contents)
    | decode target source copy => exact effect_decode hm hrun
    | poke register position value => exact effect_poke hrun
    | extend register source => exact effect_extend hrun
    | pop register count target => exact effect_pop hrun
    | slice register target slice => exact effect_slice hrun
    | copy register target => exact effect_copy hrun
    | reversed register target => exact effect_reversed hrun
    | sameCell register other =>
      rw [eq_of_asks .sameCell hrun]
      exact .ask .sameCell
    | equal register source =>
      rw [eq_of_asks .equal hrun]
      exact .ask .equal

end LedgerNet.Memory
