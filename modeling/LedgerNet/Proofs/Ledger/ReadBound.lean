import LedgerNet.Proofs.Ledger.ReadRest
import LedgerNet.Proofs.Ledger.WrittenSize

/-!
# How much is read before reading ends

The wire can announce more parts than it has. Reading ends all the same, because every part takes
bytes: a loop over announced parts is bounded by the bytes that are left, and the parts that a run
reads, until it returns or fails, are paid for by the bytes that it takes.

To speak of a run that fails, the readers of a block are given again with a log of the parts that
were read whole. They read as the readers without a log do (`readsAs_block`).

## Main statements

- `Exact.takes`: an exact reader takes at least what the shortest written form takes.
- `Reader.times_eq_min`: an announced count matters only up to the bytes that are left.
- `LoggingReader.Pays.bind`: what a reader logs is paid for if this holds of its steps.
- `block_reading_bounded`: how many parts of a block are read.
-/

namespace LedgerNet.Ledger

open Outcome (bind_state_eq_ok_iff bind_state_eq_error_iff pure_state_eq_ok_iff
  refuse_state_eq_ok_iff)

/-! ## Progress -/

namespace Reader

variable {α : Type} {r : Reader α} {n : Nat}

/-- The reader takes at least `n` bytes when it returns. -/
def Takes (n : Nat) (r : Reader α) : Prop :=
  ∀ b x rest, r b = .ok x rest → n + rest.length ≤ b.length

/-- With too few bytes for so many turns of a loop, more turns make no difference. -/
theorem times_eq_of_short (hr : Takes n r) {turns count : Nat} {b : Octets}
    (hshort : b.length < n * turns) (hle : turns ≤ count) : times r count b = times r turns b := by
  induction turns generalizing count b with
  | zero => omega
  | succ turns ih =>
    obtain ⟨count, rfl⟩ := Nat.exists_eq_add_of_le' (Nat.le_trans (Nat.le_add_left 1 turns) hle)
    simp only [times, bind, EStateM.bind]
    cases hread : r b with
    | error e rest => rfl
    | ok x rest =>
      -- The turn that returned took its bytes, so what is left is short for the other turns.
      have htaken := hr b x rest hread
      rw [Nat.mul_succ] at hshort
      have hrest : times r count rest = times r turns rest := ih (by omega) (by omega)
      simp only [hrest]

/-- A loop over announced parts takes at most one turn more than there are bytes for. -/
theorem times_eq_min (hr : Takes n r) (hn : 0 < n) (count : Nat) (b : Octets) :
    times r count b = times r (min count (b.length / n + 1)) b := by
  rcases Nat.le_total count (b.length / n + 1) with hle | hle
  · -- There may be bytes for all turns.
    rw [Nat.min_eq_left hle]
  · rw [Nat.min_eq_right hle]
    exact times_eq_of_short hr (Nat.lt_mul_div_succ b.length hn) hle

end Reader

open Reader

theorem Reader.Leaves.takes {α : Type} {r : Reader α} (hr : Leaves r) : Takes 0 r := by
  intro b x rest hread
  have hleft := hr b
  rw [outcome, hread] at hleft
  have hlength : rest.length ≤ b.length := hleft.length_le
  omega

theorem Exact.takes {α : Type} {read : Reader α} {range : α → Prop}
    {write : α → Except Octets.FieldError Octets} {n : Nat} (h : Exact read range write)
    (hsize : ∀ x c, write x = .ok c → n ≤ c.length) : Takes n read := by
  intro b x rest hread
  -- What was taken is a written form of what was read.
  obtain ⟨-, c, hc, rfl⟩ := (h b x rest).mp hread
  have hleast := hsize x c hc
  rw [List.length_append]
  omega

theorem takes_number (w : Nat) : Takes w (number w) := by
  intro b n rest hread
  obtain ⟨c, hc, rfl⟩ := number_eq_ok_iff.mp hread
  rw [List.length_append, Octets.length_of_fieldLE hc]

theorem takes_varInt : Takes 1 VarInt.read :=
  exact_varInt.takes fun _ _ hc => length_pos_of_varInt hc

theorem takes_input : Takes minInputSize Input.decode :=
  exact_input.takes fun _ _ hc => Nat.le_of_add_right_le (Input.size_le hc)

theorem takes_output : Takes minOutputSize Output.decode :=
  exact_output.takes fun _ _ hc => Nat.le_of_add_right_le (Output.size_le hc)

theorem takes_tx : Takes minTxSize Tx.decode :=
  exact_tx.takes fun _ _ hc =>
    Nat.le_of_add_right_le (Nat.le_of_add_right_le (Tx.size_le hc))

/-! ## Parts and their log -/

/-- The parts of a block of which the wire announces a number. -/
inductive Part where
  | transaction
  | input
  | output
  deriving DecidableEq, Repr

/-- The fewest bytes of a part. -/
def Part.size : Part → Nat
  | transaction => minTxSize
  | input => minInputSize
  | output => minOutputSize

/-- The parts that a transaction consists of, in the order in which they are complete. -/
def Tx.parts (t : Tx) : List Part :=
  t.inputs.map (fun _ => Part.input) ++ t.outputs.map (fun _ => Part.output) ++ [.transaction]

/-- The parts of a block, in the order in which they are complete. -/
def Block.parts (b : Block) : List Part := b.transactions.flatMap Tx.parts

/-- The parts of one kind in a log take their share of the bytes of all. -/
theorem count_mul_size_le (part : Part) (log : List Part) :
    part.size * log.count part ≤ (log.map Part.size).sum := by
  induction log with
  | nil => exact Nat.le_refl 0
  | cons p log ih =>
    rw [List.map_cons, List.sum_cons, List.count_cons]
    by_cases hp : p = part
    · subst hp
      rw [if_pos (beq_self_eq_true p), Nat.mul_succ]
      omega
    · rw [if_neg (by simpa using hp), Nat.add_zero]
      omega

/-- A reader that keeps a log of the parts that it has read whole, on failure too. -/
abbrev LoggingReader := EStateM ReadError (Octets × List Part)

namespace LoggingReader

variable {α β : Type}

/-- A reader that logs nothing. -/
def quiet (r : Reader α) : LoggingReader α := fun s =>
  match r s.1 with
  | .ok x rest => .ok x (rest, s.2)
  | .error e rest => .error e (rest, s.2)

/-- Logs a part when it has been read. -/
def logging (part : Part) (r : LoggingReader α) : LoggingReader α := fun s =>
  match r s with
  | .ok x t => .ok x (t.1, t.2 ++ [part])
  | .error e t => .error e t

/-- A reader run `count` times. -/
def times (r : LoggingReader α) : (count : Nat) → LoggingReader (List α)
  | 0 => pure []
  | count + 1 => do
    let x ← r
    let xs ← times r count
    return x :: xs

/-- The value or the error with the bytes left, and the parts that were read on the way. -/
def run (r : LoggingReader α) (b : Octets) : (Except ReadError α × Octets) × List Part :=
  match r (b, []) with
  | .ok x s => ((.ok x, s.1), s.2)
  | .error e s => ((.error e, s.1), s.2)

end LoggingReader

open LoggingReader (quiet logging)

/-- The next input, logged. -/
def Input.decodeLogged : LoggingReader Input := logging .input (quiet Input.decode)

/-- The next output, logged. -/
def Output.decodeLogged : LoggingReader Output := logging .output (quiet Output.decode)

/-- The next transaction, logged with its inputs and outputs. -/
def Tx.decodeLogged : LoggingReader Tx := logging .transaction do
  let version ← quiet (Reader.number 4)
  let time ← quiet (Reader.number 4)
  let inputCount ← quiet VarInt.read
  if maxInputs < inputCount then throw (.tooManyInputs inputCount maxInputs)
  let inputs ← LoggingReader.times Input.decodeLogged inputCount
  let outputCount ← quiet VarInt.read
  if maxOutputs < outputCount then throw (.tooManyOutputs outputCount maxOutputs)
  let outputs ← LoggingReader.times Output.decodeLogged outputCount
  let lockTime ← quiet (Reader.number 4)
  return { version, time, inputs, outputs, lockTime }

/-- The next block, its parts logged. -/
def Block.decodeLogged : LoggingReader Block := do
  let header ← quiet Header.decode
  let count ← quiet VarInt.read
  let transactions ← LoggingReader.times Tx.decodeLogged count
  let signature ← quiet (VarBytes.read maxSignatureSize "block signature")
  return { header, transactions, signature }

namespace LoggingReader

variable {α β : Type} {l : LoggingReader α} {r : Reader α}

/-! ## The log changes nothing -/

/-- The result of a logging reader without its log. -/
def forget : EStateM.Result ReadError (Octets × List Part) α → EStateM.Result ReadError Octets α
  | .ok x s => .ok x s.1
  | .error e s => .error e s.1

/-- The logging reader reads what the other one reads, and leaves the same bytes. -/
def ReadsAs (l : LoggingReader α) (r : Reader α) : Prop := ∀ s, forget (l s) = r s.1

theorem readsAs_pure (x : α) : ReadsAs (pure x) (pure x) := fun _ => rfl

theorem readsAs_quiet (r : Reader α) : ReadsAs (quiet r) r := by
  intro s
  cases h : r s.1 <;> simp [quiet, forget, h]

theorem ReadsAs.bind (hl : ReadsAs l r) {f : α → LoggingReader β} {g : α → Reader β}
    (hf : ∀ x, ReadsAs (f x) (g x)) : ReadsAs (l >>= f) (r >>= g) := by
  intro s
  have hfirst := hl s
  simp only [Bind.bind, EStateM.bind, ← hfirst]
  cases l s with
  | ok x t => exact hf x t
  | error e t => rfl

theorem ReadsAs.logging (hl : ReadsAs l r) (part : Part) : ReadsAs (logging part l) r := by
  intro s
  have hread := hl s
  rw [← hread]
  simp only [LoggingReader.logging]
  cases l s <;> rfl

theorem readsAs_refuse {p : Prop} [Decidable p] {e : ReadError} {k : β → LoggingReader α}
    {k' : β → Reader α} (hl : ReadsAs l r) :
    ReadsAs (if p then throw e >>= k else l) (if p then throw e >>= k' else r) := by
  intro s
  split_ifs
  · rfl
  · exact hl s

theorem ReadsAs.times (hl : ReadsAs l r) (count : Nat) :
    ReadsAs (LoggingReader.times l count) (Reader.times r count) := by
  induction count with
  | zero => exact readsAs_pure []
  | succ count ih => exact hl.bind fun x => ih.bind fun xs => readsAs_pure (x :: xs)

theorem ReadsAs.run (hl : ReadsAs l r) (b : Octets) : (l.run b).1 = r.outcome b := by
  have hread := hl (b, [])
  rw [LoggingReader.run, outcome, ← hread]
  cases l (b, []) <;> rfl

theorem readsAs_input : ReadsAs Input.decodeLogged Input.decode :=
  (readsAs_quiet _).logging .input

theorem readsAs_output : ReadsAs Output.decodeLogged Output.decode :=
  (readsAs_quiet _).logging .output

theorem readsAs_tx : ReadsAs Tx.decodeLogged Tx.decode := by
  apply ReadsAs.logging
  refine (readsAs_quiet _).bind fun _ => (readsAs_quiet _).bind fun _ =>
    (readsAs_quiet _).bind fun inputCount => readsAs_refuse ?_
  refine (readsAs_input.times inputCount).bind fun _ =>
    (readsAs_quiet _).bind fun outputCount => readsAs_refuse ?_
  exact (readsAs_output.times outputCount).bind fun _ =>
    (readsAs_quiet _).bind fun _ => readsAs_pure _

/-- With and without a log the same block is read. -/
theorem readsAs_block : ReadsAs Block.decodeLogged Block.decode :=
  (readsAs_quiet _).bind fun _ => (readsAs_quiet _).bind fun _ =>
    (readsAs_tx.times _).bind fun _ => (readsAs_quiet _).bind fun _ => readsAs_pure _

/-! ## The log of a block that is read -/

variable {s t : Octets × List Part} {x : α} {e : ReadError} {part : Part}

theorem quiet_eq_ok_iff : quiet r s = .ok x t ↔ r s.1 = .ok x t.1 ∧ s.2 = t.2 := by
  obtain ⟨b, log⟩ := s
  obtain ⟨rest, log'⟩ := t
  cases h : r b <;> simp [quiet, h, and_assoc]

theorem quiet_eq_error_iff : quiet r s = .error e t ↔ r s.1 = .error e t.1 ∧ s.2 = t.2 := by
  obtain ⟨b, log⟩ := s
  obtain ⟨rest, log'⟩ := t
  cases h : r b <;> simp [quiet, h, and_assoc]

theorem logging_eq_ok_iff :
    logging part l s = .ok x t ↔ ∃ u, l s = .ok x u ∧ (u.1, u.2 ++ [part]) = t := by
  cases h : l s <;> simp [logging, h, and_assoc]

theorem logging_eq_error_iff : logging part l s = .error e t ↔ l s = .error e t := by
  cases h : l s <;> simp [logging, h]

/-- The reader logs the parts of what it returns. -/
def Logs (parts : α → List Part) (l : LoggingReader α) : Prop :=
  ∀ {s x t}, l s = .ok x t → t.2 = s.2 ++ parts x

theorem Logs.times {parts : α → List Part} (hl : Logs parts l) (count : Nat) :
    Logs (List.flatMap parts) (times l count) := by
  induction count with
  | zero =>
    intro s xs t h
    cases h
    simp
  | succ count ih =>
    intro s xs t h
    obtain ⟨x, u, hx, hothers⟩ := bind_state_eq_ok_iff.mp h
    obtain ⟨xs, v, hxs, hreturn⟩ := bind_state_eq_ok_iff.mp hothers
    cases hreturn
    rw [ih hxs, hl hx, List.flatMap_cons, List.append_assoc]

theorem logs_input : Logs (fun _ => [.input]) Input.decodeLogged := by
  intro s i t h
  obtain ⟨u, hread, rfl⟩ := logging_eq_ok_iff.mp h
  rw [(quiet_eq_ok_iff.mp hread).2]

theorem logs_output : Logs (fun _ => [.output]) Output.decodeLogged := by
  intro s o t h
  obtain ⟨u, hread, rfl⟩ := logging_eq_ok_iff.mp h
  rw [(quiet_eq_ok_iff.mp hread).2]

theorem logs_tx : Logs Tx.parts Tx.decodeLogged := by
  intro s tx t h
  obtain ⟨u, hread, rfl⟩ := logging_eq_ok_iff.mp h
  simp only [bind_state_eq_ok_iff, refuse_state_eq_ok_iff, pure_state_eq_ok_iff,
    quiet_eq_ok_iff] at hread
  obtain ⟨version, s₁, ⟨-, h₁⟩, time, s₂, ⟨-, h₂⟩, m, s₃, ⟨-, h₃⟩, -, inputs, s₄, hinputs,
    n, s₅, ⟨-, h₅⟩, -, outputs, s₆, houtputs, lockTime, s₇, ⟨-, h₇⟩, rfl, rfl⟩ := hread
  -- The loops log; what is read between them leaves the log as it is.
  have hin := logs_input.times _ hinputs
  have hout := logs_output.times _ houtputs
  rw [← List.map_eq_flatMap] at hin hout
  simp only [Tx.parts, ← h₇, hout, ← h₅, hin, ← h₃, ← h₂, ← h₁, List.append_assoc]

/-- A block that is read is logged as the parts that it has. -/
theorem logs_block : Logs Block.parts Block.decodeLogged := by
  intro s block t h
  simp only [Block.decodeLogged, bind_state_eq_ok_iff, pure_state_eq_ok_iff,
    quiet_eq_ok_iff] at h
  obtain ⟨header, s₁, ⟨-, h₁⟩, count, s₂, ⟨-, h₂⟩, transactions, s₃, htransactions,
    signature, s₄, ⟨-, h₄⟩, rfl, rfl⟩ := h
  rw [← h₄, logs_tx.times _ htransactions, ← h₂, ← h₁, Block.parts]

theorem log_of_run {b rest : Octets} {block : Block} (h : Block.decode b = .ok block rest) :
    (Block.decodeLogged.run b).2 = block.parts := by
  have hread := readsAs_block (b, [])
  rw [h] at hread
  unfold run
  cases hlogged : Block.decodeLogged (b, []) with
  | ok x s =>
    rw [hlogged] at hread
    cases hread
    exact logs_block hlogged
  | error e s =>
    rw [hlogged] at hread
    cases hread

/-! ## What the log costs -/

/-- The bytes that are left and the least sizes of all that is logged. -/
def account (s : Octets × List Part) : Nat := s.1.length + (s.2.map Part.size).sum

/-- Whatever the reader logs is paid for by the bytes that it takes, with `n` bytes to spare when
it returns. -/
structure Pays (n : Nat) (l : LoggingReader α) : Prop where
  ok : ∀ {s x t}, l s = .ok x t → n + account t ≤ account s
  error : ∀ {s e t}, l s = .error e t → account t ≤ account s

theorem pays_pure (x : α) : Pays 0 (pure x : LoggingReader α) where
  ok h := by
    cases h
    exact Nat.le_of_eq (Nat.zero_add _)
  error h := by cases h

theorem pays_quiet {n : Nat} (htakes : Takes n r) (hleaves : Leaves r) : Pays n (quiet r) where
  ok h := by
    obtain ⟨hread, hlog⟩ := quiet_eq_ok_iff.mp h
    have htaken := htakes _ _ _ hread
    simp only [account, hlog]
    omega
  error {s e t} h := by
    obtain ⟨hread, hlog⟩ := quiet_eq_error_iff.mp h
    have hleft := hleaves s.1
    rw [outcome, hread] at hleft
    simp only [account, hlog]
    exact Nat.add_le_add_right hleft.length_le _

theorem Pays.bind {m n : Nat} (hl : Pays m l) {f : α → LoggingReader β} (hf : ∀ x, Pays n (f x)) :
    Pays (m + n) (l >>= f) where
  ok h := by
    obtain ⟨x, mid, hfirst, hsecond⟩ := bind_state_eq_ok_iff.mp h
    have hpaid := hl.ok hfirst
    have hrest := (hf x).ok hsecond
    omega
  error h := by
    rcases bind_state_eq_error_iff.mp h with hfirst | ⟨x, mid, hfirst, hsecond⟩
    · exact hl.error hfirst
    · have hpaid := hl.ok hfirst
      have hrest := (hf x).error hsecond
      omega

theorem Pays.logging {n : Nat} {part : Part} (hl : Pays (n + part.size) l) :
    Pays n (logging part l) where
  ok h := by
    obtain ⟨u, hread, rfl⟩ := logging_eq_ok_iff.mp h
    have hpaid := hl.ok hread
    simp only [account, List.map_append, List.sum_append, List.map_singleton,
      List.sum_singleton] at hpaid ⊢
    omega
  error h := hl.error (logging_eq_error_iff.mp h)

theorem pays_refuse {n : Nat} {p : Prop} [Decidable p] {e : ReadError} {k : β → LoggingReader α}
    (hl : Pays n l) : Pays n (if p then throw e >>= k else l) where
  ok h := hl.ok (refuse_state_eq_ok_iff.mp h).2
  error h := by
    split_ifs at h
    · -- A refusal takes nothing and logs nothing.
      cases h
      exact Nat.le_refl _
    · exact hl.error h

theorem Pays.times (hl : Pays 0 l) (count : Nat) : Pays 0 (times l count) := by
  induction count with
  | zero => exact pays_pure []
  | succ count ih => exact hl.bind fun x => ih.bind fun xs => pays_pure (x :: xs)

theorem pays_input : Pays 0 Input.decodeLogged :=
  Pays.logging (pays_quiet (n := 0 + Part.input.size) takes_input leaves_input)

theorem pays_output : Pays 0 Output.decodeLogged :=
  Pays.logging (pays_quiet (n := 0 + Part.output.size) takes_output leaves_output)

theorem pays_number (w : Nat) : Pays w (quiet (number w)) :=
  pays_quiet (takes_number w) (leaves_number w)

theorem pays_varInt : Pays 1 (quiet VarInt.read) := pays_quiet takes_varInt leaves_varInt

/-- The fields of a transaction pay for it, and its inputs and outputs for themselves. -/
theorem pays_tx : Pays 0 Tx.decodeLogged := by
  apply Pays.logging
  -- Version, time, the number of inputs, the inputs, the same for outputs, and the lock time.
  change Pays (4 + (4 + (1 + (0 + (1 + (0 + (4 + 0))))))) _
  exact (pays_number 4).bind fun _ => (pays_number 4).bind fun _ =>
    pays_varInt.bind fun inputCount => pays_refuse <|
      (pays_input.times inputCount).bind fun _ =>
        pays_varInt.bind fun outputCount => pays_refuse <|
          (pays_output.times outputCount).bind fun _ =>
            (pays_number 4).bind fun _ => pays_pure _

theorem pays_block : Pays (0 + (1 + (0 + (0 + 0)))) Block.decodeLogged :=
  (pays_quiet leaves_header.takes leaves_header).bind fun _ =>
    pays_varInt.bind fun count => (pays_tx.times count).bind fun _ =>
      (pays_quiet (leaves_varBytes _ _).takes (leaves_varBytes _ _)).bind fun _ => pays_pure _

/-- The parts that are logged from an empty log on, their least sizes added up, are no more than
the bytes that there are. -/
theorem Pays.run {n : Nat} (hl : Pays n l) (b : Octets) :
    ((l.run b).2.map Part.size).sum ≤ b.length := by
  have haccount : account (b, []) = b.length := Nat.add_zero _
  unfold LoggingReader.run
  cases h : l (b, []) with
  | ok x s =>
    have hpaid := hl.ok h
    rw [haccount, account] at hpaid
    show (s.2.map Part.size).sum ≤ b.length
    omega
  | error e s =>
    have hpaid := hl.error h
    rw [haccount, account] at hpaid
    show (s.2.map Part.size).sum ≤ b.length
    omega

end LoggingReader

/-! ## Bounds -/

theorem count_log_le (part : Part) (b : Octets) :
    (Block.decodeLogged.run b).2.count part ≤ b.length / part.size := by
  have hpos : 0 < part.size := by cases part <;> decide
  have hcount := count_mul_size_le part (Block.decodeLogged.run b).2
  have hlog := LoggingReader.pays_block.run b
  rw [Nat.le_div_iff_mul_le hpos, Nat.mul_comm]
  exact Nat.le_trans hcount hlog

/-- **Reading a block ends, however many parts are announced.** An input that is read takes at least
41 bytes, an output 9 and a transaction 14. So a loop over announced parts makes no more turns than
there are bytes for, and one that fails: a greater count reads the same. And of `n` bytes at most
`n / 14` transactions, `n / 41` inputs and `n / 9` outputs are read in all until the reader returns,
with the parts of the block, or fails, with a text. -/
theorem block_reading_bounded (b : Octets) :
    (∀ i rest, Input.decode b = .ok i rest → 41 + rest.length ≤ b.length) ∧
    (∀ o rest, Output.decode b = .ok o rest → 9 + rest.length ≤ b.length) ∧
    (∀ t rest, Tx.decode b = .ok t rest → 14 + rest.length ≤ b.length) ∧
    (∀ count,
      Reader.times Input.decode count b =
        Reader.times Input.decode (min count (b.length / 41 + 1)) b ∧
      Reader.times Output.decode count b =
        Reader.times Output.decode (min count (b.length / 9 + 1)) b ∧
      Reader.times Tx.decode count b =
        Reader.times Tx.decode (min count (b.length / 14 + 1)) b) ∧
    (Block.decodeLogged.run b).1 = Block.decode.outcome b ∧
    (∀ B rest, Block.decode b = .ok B rest → (Block.decodeLogged.run b).2 = B.parts) ∧
    (∀ e rest, Block.decode b = .error e rest → ∃ m, e.message? = some m) ∧
    (Block.decodeLogged.run b).2.count .transaction ≤ b.length / 14 ∧
    (Block.decodeLogged.run b).2.count .input ≤ b.length / 41 ∧
    (Block.decodeLogged.run b).2.count .output ≤ b.length / 9 := by
  refine ⟨takes_input b, takes_output b, takes_tx b, fun count => ⟨?_, ?_, ?_⟩,
    LoggingReader.readsAs_block.run b, ?parts, tells_block b, count_log_le .transaction b,
    count_log_le .input b, count_log_le .output b⟩
  · exact times_eq_min takes_input (by decide) count b
  · exact times_eq_min takes_output (by decide) count b
  · exact times_eq_min takes_tx (by decide) count b
  case parts =>
    intro B rest hread
    exact LoggingReader.log_of_run hread

/-- A block that announces `2 ^ 64 - 1` transactions and has one, with a second one that announces
two inputs and is cut behind the first. -/
theorem block_reading_bounded_announced :
    let one := Octets.zeros 14
    let cut := Octets.zeros 8 ++ [2] ++ Octets.zeros 41
    let b := Octets.zeros headerSize ++ List.replicate 9 0xff ++ one ++ cut
    (∃ t rest, Tx.decode (one ++ cut) = .ok t rest ∧ 14 + rest.length ≤ (one ++ cut).length) ∧
    Block.decode b = .error (.short 32 0) [] ∧
    (∃ m, (ReadError.short 32 0).message? = some m) ∧
    (Block.decodeLogged.run b).2 = [.transaction, .input] := by
  intro one cut b
  have htx : Tx.decode (one ++ cut) = .ok { version := 0 } cut := rfl
  have hrun : Block.decodeLogged.run b =
      ((.error (.short 32 0), []), [.transaction, .input]) := by decide +kernel
  obtain ⟨-, -, htakes, -⟩ := block_reading_bounded (one ++ cut)
  obtain ⟨-, -, -, -, houtcome, -, htells, -⟩ := block_reading_bounded b
  rw [hrun, outcome] at houtcome
  cases hread : Block.decode b with
  | ok block rest =>
    rw [hread] at houtcome
    cases houtcome
  | error e rest =>
    rw [hread] at houtcome
    cases houtcome
    exact ⟨⟨_, cut, htx, htakes _ cut htx⟩, rfl, htells _ _ hread, by rw [hrun]⟩

end LedgerNet.Ledger
