import LedgerNet.Proofs.Memory.Effects

/-!
# What an action leaves as it is

No operation on an object writes to a cell that is there. The bytes of an object change only when
bytes are taken from it, or when a buffer that shares its cell is written or extended in place. A
sum is a new object, and the old one stays as it was. Results of an operation have a cell that
nothing else has, and so has an object from which bytes were taken, while everything that shared its
cell keeps that cell and its bytes.

## Main statements

- `Effect.bytesOf`, `cellOf_of_perform`: what keeps its bytes, and what keeps its cell.
- `held_of_perform`: what a register holds afterwards.
- `frame`: what an action leaves as it is.
-/

namespace LedgerNet.Memory

variable {m m' : Memory} {a : Action} {c : Cell} {g x : Handle} {o : Nat}
  {name source target : String}

/-! ## What stays -/

theorem Effect.wellFormed (hm : m.WellFormed) (h : Effect m a m') : m'.WellFormed := by
  cases h with
  | ask => exact hm
  | write b => exact hm.write _ b
  | name _ hregister => exact hm.bind (hm.registers _ _ hregister) _
  | share _ _ hadds => exact (hm.extend hadds.grown).bind hadds.has _
  | make _ hadds => exact (hm.extend hadds.grown).bind hadds.has _
  | pop rest _ _ hadds =>
    exact ((hm.extend hadds.grown).moved _ rest).bind (has_moved hadds.has _ rest) _

theorem Effect.has (h : Effect m a m') (hx : m.Has x) : m'.Has x := by
  cases h with
  | ask => exact hx
  | write b => exact has_write hx _ b
  | name => exact hx
  | share _ _ hadds => exact hadds.grown.has hx
  | make _ hadds => exact hadds.grown.has hx
  | pop rest _ _ hadds => exact has_moved (hadds.grown.has hx) _ rest

/-- Only writing in place changes the bytes of a cell that is there. -/
theorem Effect.bytesOf (h : Effect m a m') (hc : c < m.cells.length) (hnot : ¬Writes m a c) :
    m'.bytesOf c = m.bytesOf c := by
  cases h with
  | ask => rfl
  | write b hwrites =>
    -- The cell that is written is another one.
    refine bytesOf_write_of_ne ?_ b
    rintro rfl
    exact hnot hwrites
  | name => rfl
  | share _ _ hadds => exact hadds.grown.bytesOf hc
  | make _ hadds => exact hadds.grown.bytesOf hc
  | @pop _ _ _ o _ m₁ rest _ _ hadds =>
    have hlt : c < m₁.cells.length := Nat.lt_of_lt_of_le hc hadds.grown.cells.length_le
    exact (bytesOf_moved hlt o rest).trans (hadds.grown.bytesOf hc)

/-- Only taking bytes from an object changes its cell. -/
theorem cellOf_of_perform (hm : m.WellFormed) (h : m.perform a = .ok m') (hx : m.Has x)
    (hnot : ¬Pops m a x) : m'.cellOf x = m.cellOf x := by
  cases effect_of_perform hm h with
  | ask => rfl
  | write => rfl
  | name => rfl
  | share _ _ hadds => exact hadds.grown.cellOf hx
  | make _ hadds => exact hadds.grown.cellOf hx
  | pop rest haction hregister hadds =>
    -- The object that moves away is the one that is popped.
    refine (cellOf_moved_of_ne ?_ rest).trans (hadds.grown.cellOf hx)
    rintro rfl
    exact hnot ⟨_, _, _, haction, hregister, _, h⟩

/-! ## What is new -/

/-- No handle of what was there has the cell of this one. -/
def Apart (m m' : Memory) (g : Handle) : Prop := ∀ x, m.Has x → m'.cellOf g ≠ m'.cellOf x

theorem Apart.bind (h : m.Apart m' g) (name : String) (x : Handle) : m.Apart (m'.bind name x) g := h

theorem AddsNew.apart (hm : m.WellFormed) (h : m.AddsNew m' g) : m.Apart m' g := by
  intro x hx heq
  have hlt := hm.cellOf_lt hx
  rw [← h.grown.cellOf hx, ← heq] at hlt
  exact absurd h.isNew (Nat.not_le_of_lt hlt)

/-- The object that moves away goes to another new cell. -/
theorem AddsNew.apart_moved (hm : m.WellFormed) (h : m.AddsNew m' g) (ho : m.Has (.object o))
    (rest : Octets) : m.Apart (m'.moved o rest) g := by
  have hne : g ≠ .object o := by
    rintro rfl
    exact h.apart hm _ ho rfl
  intro x hx
  rw [cellOf_moved_of_ne hne]
  -- The cell that the object moves to was allocated later than that of the result.
  by_cases hxo : x = .object o
  · rw [hxo, cellOf_moved_self (h.grown.has ho)]
    exact Nat.ne_of_lt ((hm.extend h.grown).cellOf_lt h.has)
  · rw [cellOf_moved_of_ne hxo]
    exact h.apart hm x hx

/-- A register holds what one held before, or an own result, or what shares a cell by construction
or decoding. -/
theorem held_of_perform (hm : m.WellFormed) (h : m.perform a = .ok m')
    (hheld : m'.handle name = .ok g) :
    (∃ n, m.handle n = .ok g) ∨ (Makes m a name ∧ m.Apart m' g) ∨
      ∃ source x, Shares a source name ∧ m.handle source = .ok x ∧ m'.cellOf g = m.cellOf x := by
  cases effect_of_perform hm h with
  | ask => exact .inl ⟨name, hheld⟩
  | write => exact .inl ⟨name, hheld⟩
  | name _ hregister =>
    rcases eq_or_handle_of_bind hheld with ⟨-, rfl⟩ | hold
    · exact .inl ⟨_, hregister⟩
    · exact .inl ⟨name, hold⟩
  | share hshares hsource hadds hcell =>
    rcases eq_or_handle_of_bind hheld with ⟨rfl, rfl⟩ | hold
    · exact .inr (.inr ⟨_, _, hshares, hsource, hcell⟩)
    · exact .inl ⟨name, by rwa [← hadds.grown.handle]⟩
  | make hmakes hadds =>
    rcases eq_or_handle_of_bind hheld with ⟨rfl, rfl⟩ | hold
    · exact .inr (.inl ⟨hmakes, (hadds.apart hm).bind _ _⟩)
    · exact .inl ⟨name, by rwa [← hadds.grown.handle]⟩
  | pop rest haction hregister hadds =>
    rcases eq_or_handle_of_bind hheld with ⟨rfl, rfl⟩ | hold
    · subst haction
      exact .inr (.inl ⟨.pop, hadds.apart_moved hm (hm.registers _ _ hregister) rest⟩)
    · rw [handle_moved, hadds.grown.handle] at hold
      exact .inl ⟨name, hold⟩

/-- An object is only made to be held by a register. -/
theorem has_or_held_of_perform (hm : m.WellFormed) (h : m.perform a = .ok m')
    (ho : m'.Has (.object o)) : m.Has (.object o) ∨ ∃ n, m'.handle n = .ok (.object o) := by
  cases effect_of_perform hm h with
  | ask => exact .inl ho
  | write => exact .inl ho
  | name => exact .inl ho
  | share _ _ hadds =>
    rcases hadds.only o ho with hold | rfl
    · exact .inl hold
    · exact .inr ⟨_, handle_bind_self _ _ _⟩
  | make _ hadds =>
    rcases hadds.only o ho with hold | rfl
    · exact .inl hold
    · exact .inr ⟨_, handle_bind_self _ _ _⟩
  | pop rest _ _ hadds =>
    rcases hadds.only o ((has_object_moved _ _ rest).mp ho) with hold | rfl
    · exact .inl hold
    · exact .inr ⟨_, handle_bind_self _ _ _⟩

theorem Makes.unique (h : Makes m a target) (h' : Makes m a name) : target = name := by
  cases h <;> cases h' <;> rfl

theorem Shares.unique {source' target' : String} (h : Shares a source target)
    (h' : Shares a source' target') : source = source' ∧ target = target' := by
  cases h <;> cases h' <;> exact ⟨rfl, rfl⟩

/-- Nothing is made without a copy and without a length. -/
theorem Makes.not_shares (h : Makes m a target) : ¬Shares a source name := by
  intro hshares
  cases hshares with
  | construct hlength =>
    cases h with
    | construct_copy hcopies => cases hcopies source rfl
    | construct_length hne => simp [hne] at hlength
  | decode =>
    cases h with
    | decode hcopies => cases hcopies source rfl

/-- An action that makes something sets the register to it. -/
theorem exists_result (hm : m.WellFormed) (h : m.perform a = .ok m') (hmakes : Makes m a target) :
    ∃ g, m'.handle target = .ok g ∧ m.Apart m' g := by
  cases effect_of_perform hm h with
  | ask hasks => cases hasks <;> cases hmakes
  | write _ hwrites =>
    cases hwrites with
    | poke => cases hmakes
    | extend hbuffer =>
      cases hmakes with
      | sum hobject => cases hbuffer.symm.trans hobject
  | name haction =>
    subst haction
    cases hmakes
  | share hshares => exact absurd hshares hmakes.not_shares
  | make hmakes' hadds =>
    obtain rfl := hmakes'.unique hmakes
    exact ⟨_, handle_bind_self _ _ _, (hadds.apart hm).bind _ _⟩
  | pop rest haction hregister hadds =>
    subst haction
    cases hmakes
    exact ⟨_, handle_bind_self _ _ _,
      hadds.apart_moved hm (hm.registers _ _ hregister) rest⟩

/-- What is constructed or decoded without a copy and without a length has the cell of its
operand. -/
theorem cellOf_of_shares (hm : m.WellFormed) (h : m.perform a = .ok m')
    (hshares : Shares a source target) (hsource : m.handle source = .ok x)
    (htarget : m'.handle target = .ok g) : m'.cellOf g = m.cellOf x := by
  cases effect_of_perform hm h with
  | ask hasks => cases hasks <;> cases hshares
  | write _ hwrites => cases hwrites <;> cases hshares
  | name haction =>
    subst haction
    cases hshares
  | share hshares' hsource' _ hcell =>
    obtain ⟨rfl, rfl⟩ := hshares'.unique hshares
    obtain rfl := Except.ok.inj (hsource'.symm.trans hsource)
    rw [handle_bind_self] at htarget
    cases htarget
    exact hcell
  | make hmakes => exact absurd hshares hmakes.not_shares
  | pop _ haction =>
    subst haction
    cases hshares

/-! ## Afterwards -/

theorem Succeeds.perform (h : m.Succeeds a) : m.perform a = .ok (m.after a) := by
  obtain ⟨m', hm'⟩ := h
  rw [after, hm']

theorem after_of_not_succeeds (h : ¬m.Succeeds a) : m.after a = m := by
  cases hperform : m.perform a with
  | ok m' => exact absurd ⟨m', hperform⟩ h
  | error e => rw [after, hperform]

theorem WellFormed.after (hm : m.WellFormed) (a : Action) : (m.after a).WellFormed := by
  by_cases h : m.Succeeds a
  · exact (effect_of_perform hm h.perform).wellFormed hm
  · rwa [after_of_not_succeeds h]

theorem has_after (hm : m.WellFormed) (hx : m.Has x) (a : Action) : (m.after a).Has x := by
  by_cases h : m.Succeeds a
  · exact (effect_of_perform hm h.perform).has hx
  · rwa [after_of_not_succeeds h]

theorem bytesOf_after (hm : m.WellFormed) (hc : c < m.cells.length) (hnot : ¬Writes m a c) :
    (m.after a).bytesOf c = m.bytesOf c := by
  by_cases h : m.Succeeds a
  · exact (effect_of_perform hm h.perform).bytesOf hc hnot
  · rw [after_of_not_succeeds h]

theorem cellOf_after (hm : m.WellFormed) (hx : m.Has x) (hnot : ¬Pops m a x) :
    (m.after a).cellOf x = m.cellOf x := by
  by_cases h : m.Succeeds a
  · exact cellOf_of_perform hm h.perform hx hnot
  · rw [after_of_not_succeeds h]

theorem contents_after (hm : m.WellFormed) (hx : m.Has x) (hpops : ¬Pops m a x)
    (hwrites : ¬Writes m a (m.cellOf x)) : (m.after a).contents x = m.contents x := by
  rw [contents, contents, cellOf_after hm hx hpops, bytesOf_after hm (hm.cellOf_lt hx) hwrites]

theorem Pops.unique (h : Pops m a g) (h' : Pops m a x) : g = x := by
  obtain ⟨register, count, target, rfl, hregister, -⟩ := h
  obtain ⟨_, _, _, haction, hregister', -⟩ := h'
  cases haction
  exact Except.ok.inj (hregister.symm.trans hregister')

theorem Pops.not_writes (h : Pops m a g) (c : Cell) : ¬Writes m a c := by
  obtain ⟨register, count, target, rfl, -⟩ := h
  nofun

/-- An object from which bytes are taken has another cell than everything else that was there. -/
theorem cellOf_ne_of_pops (hm : m.WellFormed) (hpops : Pops m a g) (hx : m.Has x) (hne : x ≠ g) :
    (m.after a).cellOf x ≠ (m.after a).cellOf g := by
  obtain ⟨register, count, target, rfl, hregister, hsucceeds⟩ := hpops
  obtain ⟨answer, hrun⟩ := perform_step_eq_ok.mp hsucceeds.perform
  obtain ⟨o, taken, rest, hobject, -, hout⟩ := run_pop hrun
  obtain rfl := Except.ok.inj (hobject.symm.trans hregister)
  have hadds := addsNew_wrapNew m taken
  have hthere := hadds.grown.has (hm.registers _ _ hobject)
  rw [hout, cellOf_bind, cellOf_bind, cellOf_moved_self hthere, cellOf_moved_of_ne hne]
  exact Nat.ne_of_lt ((hm.extend hadds.grown).cellOf_lt (hadds.grown.has hx))

/-! ## The frame of an action -/

/-- What an action leaves of memory as it is. -/
structure Frame (m : Memory) (a : Action) : Prop where
  /-- Only a buffer that is written or extended in place changes the bytes of a cell. -/
  cells : ∀ c < m.cells.length, (m.after a).bytesOf c ≠ m.bytesOf c → Writes m a c
  /-- The bytes of an object change only by taking some from it, or through a buffer of its cell. -/
  objects : ∀ o, m.Has (.object o) →
    (m.after a).contents (.object o) ≠ m.contents (.object o) →
    Pops m a (.object o) ∨ Writes m a (m.cellOf (.object o))
  /-- A sum is a new object, and the old one stays as it was. -/
  sums : ∀ target operand o, a = .step (.extend target operand) →
    m.handle target = .ok (.object o) → m.Succeeds a →
    ∃ o' v b, (m.after a).handle target = .ok (.object o') ∧ ¬m.Has (.object o') ∧
      m.sourceValue operand = .ok v ∧ v.toOctets = .ok b ∧
      (m.after a).contents (.object o') = m.contents (.object o) ++ b ∧
      (m.after a).contents (.object o) = m.contents (.object o)
  /-- An object from which bytes were taken shares its cell no more, and all others keep theirs,
  with its bytes. -/
  pops : ∀ g, Pops m a g → ∀ x, m.Has x → x ≠ g →
    (m.after a).cellOf x ≠ (m.after a).cellOf g ∧ (m.after a).cellOf x = m.cellOf x ∧
      (m.after a).contents x = m.contents x
  /-- A result has a cell that nothing had before and nothing else has afterwards. -/
  results : ∀ target, Makes m a target → m.Succeeds a →
    ∃ g, (m.after a).handle target = .ok g ∧ m.Apart (m.after a) g

/-- A sum is a new object, with the bytes of the old one in front of those of the operand. -/
theorem exists_sum {operand : Source} (htarget : m.handle target = .ok (.object o))
    (h : m.perform (.step (.extend target operand)) = .ok m') :
    ∃ o' v b, m'.handle target = .ok (.object o') ∧ ¬m.Has (.object o') ∧
      m.sourceValue operand = .ok v ∧ v.toOctets = .ok b ∧
      m'.contents (.object o') = m.contents (.object o) ++ b := by
  obtain ⟨answer, hrun⟩ := perform_step_eq_ok.mp h
  obtain ⟨v, b, hv, hb, rfl⟩ := run_extend_object htarget hrun
  exact ⟨m.objects.length, v, b, handle_bind_self _ _ _, Nat.lt_irrefl _, hv, hb,
    contents_wrapNew m _ _⟩

/-- **What an action leaves as it is.** -/
theorem frame (hm : m.WellFormed) (a : Action) : m.Frame a where
  cells c hc hchanged := by
    by_contra hnot
    exact hchanged (bytesOf_after hm hc hnot)
  objects o ho hchanged := by
    by_contra hnot
    rw [not_or] at hnot
    exact hchanged (contents_after hm ho hnot.1 hnot.2)
  sums target operand o haction htarget hsucceeds := by
    subst haction
    obtain ⟨o', v, b, hheld, hnew, hv, hb, hsum⟩ := exists_sum htarget hsucceeds.perform
    -- The old object is neither popped nor written, since its register holds no buffer.
    refine ⟨o', v, b, hheld, hnew, hv, hb, hsum, contents_after hm (hm.registers _ _ htarget) ?_ ?_⟩
    · rintro ⟨_, _, _, haction, -⟩
      cases haction
    · intro hwrites
      cases hwrites with
      | extend hbuffer => cases hbuffer.symm.trans htarget
  pops g hpops x hx hne :=
    have hnot : ¬Pops m a x := fun h => hne (h.unique hpops)
    ⟨cellOf_ne_of_pops hm hpops hx hne, cellOf_after hm hx hnot,
      contents_after hm hx hnot (hpops.not_writes _)⟩
  results _ hmakes hsucceeds := exists_result hm hsucceeds.perform hmakes

end LedgerNet.Memory
