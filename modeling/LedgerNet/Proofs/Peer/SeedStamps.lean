import LedgerNet.Peer.Seed
import LedgerNet.Proofs.Chain.PrefixTable
import LedgerNet.Proofs.Peer.AddressText

/-!
# Seeds and their time stamps

Seeds are taken one after the other. Each one of sixteen bytes asks the random source once, and is
then an address with its bytes, its port and a stamp between two weeks and one week back. The first
one that has another size is refused, and with it all of them: the source is not asked for it, nor
for those behind it.

## Main statements

- `stampSeeds_cons_of_length`, `stampSeeds_cons_of_misfit`: what is done with one seed.
- `stampSeeds_append`: what is done with the seeds in front of others.
- `offset_mem_range`: the answers of the source, whenever it is asked.
- `seeds_keep_records`: the addresses and their stamps, or the first seed that is refused.
-/

namespace LedgerNet.Peer

variable {σ : Type} {draw : Int → σ → Int × σ} {now : Int} {source : σ} {seed : Seed}
  {seeds rest : List Seed} {record : Octets × Int} {records : List (Octets × Int)}

/-! ## The random source -/

/-- Every answer is a number from zero up to below the number that is asked for. -/
def Answers (draw : Int → σ → Int × σ) : Prop :=
  ∀ n source, 0 < n → 0 ≤ (draw n source).1 ∧ (draw n source).1 < n

/-- The random source after as many questions for a second of a week. -/
def sourceAfter (draw : Int → σ → Int × σ) : Nat → σ → σ
  | 0, source => source
  | count + 1, source => sourceAfter draw count (draw week source).2

/-- The answers to as many questions for a second of a week, in order. -/
def offsets (draw : Int → σ → Int × σ) : Nat → σ → List Int
  | 0, _ => []
  | count + 1, source => (draw week source).1 :: offsets draw count (draw week source).2

theorem length_offsets (draw : Int → σ → Int × σ) (count : Nat) (source : σ) :
    (offsets draw count source).length = count := by
  induction count generalizing source with
  | zero => rfl
  | succ count ih => rw [offsets, List.length_cons, ih]

theorem offset_mem_range (hdraw : Answers draw) {count : Nat} {offset : Int}
    (h : offset ∈ offsets draw count source) : 0 ≤ offset ∧ offset < week := by
  induction count generalizing source with
  | zero => cases h
  | succ count ih =>
    rcases List.mem_cons.mp h with rfl | hrest
    · exact hdraw week source (by decide)
    · exact ih hrest

/-! ## One seed -/

/-- The seed is a record of bytes and a port: its host is the byte string, in any form. -/
structure Seed.IsRecord (seed : Seed) (record : Octets × Int) : Prop where
  host : seed.host.bytes? = some record.1
  port : seed.port = record.2

/-- The address of a record, stamped two weeks back and an offset later. -/
def stamped (now : Int) (record : Octets × Int) (offset : Int) : Address where
  ip := record.1
  port := record.2
  timestamp := seedStamp now offset

theorem Seed.IsRecord.checkSeed_eq (h : seed.IsRecord record) :
    checkSeed seed.host =
      if record.1.length = 16 then .ok () else .error (.length record.1.length) := by
  have hsize : seed.host.size? = some record.1.length := by
    obtain ⟨hhost, -⟩ := h
    cases hform : seed.host <;> rw [hform] at hhost <;> cases hhost <;> rfl
  rw [checkSeed, hsize]

theorem Seed.IsRecord.resolve_eq (h : seed.IsRecord record) (hlength : record.1.length = 16)
    (offset : Int) :
    Address.resolve seed.host seed.port fullNode (seedStamp now offset) =
      .ok (stamped now record offset) := by
  have hbytes : hostBytes seed.host = .ok record.1 := by
    obtain ⟨hhost, -⟩ := h
    cases hform : seed.host <;> rw [hform] at hhost <;> cases hhost <;> rfl
  refine resolve_eq_ok_iff.mpr ⟨record.1, record.1, hbytes, widen?_of_length_sixteen hlength, ?_⟩
  rw [stamped, h.port]

/-- A seed of sixteen bytes asks the source once, and is an address in front of those of the
others. -/
theorem stampSeeds_cons_of_length (h : seed.IsRecord record) (hlength : record.1.length = 16)
    (seeds : List Seed) (source : σ) :
    stampSeeds draw now (seed :: seeds) source =
      let outcome := stampSeeds draw now seeds (draw week source).2
      (outcome.1.map (stamped now record (draw week source).1 :: ·), outcome.2) := by
  have hcheck : checkSeed seed.host = .ok () := by rw [h.checkSeed_eq, if_pos hlength]
  rw [stampSeeds]
  simp only [hcheck, h.resolve_eq hlength]
  rcases stampSeeds draw now seeds (draw week source).2 with ⟨_ | _, _⟩ <;> rfl

/-- A seed of another size is refused before the source is asked. -/
theorem stampSeeds_cons_of_misfit (h : seed.IsRecord record) (hlength : record.1.length ≠ 16)
    (seeds : List Seed) (source : σ) :
    stampSeeds draw now (seed :: seeds) source = (.error (.length record.1.length), source) := by
  have hcheck : checkSeed seed.host = .error (.length record.1.length) := by
    rw [h.checkSeed_eq, if_neg hlength]
  rw [stampSeeds]
  simp only [hcheck]

/-! ## All seeds -/

/-- Seeds of sixteen bytes are addresses in front of those of the others, which find the source
asked once for each of these. -/
theorem stampSeeds_append (hseeds : List.Forall₂ Seed.IsRecord seeds records)
    (hlength : ∀ record ∈ records, record.1.length = 16) (rest : List Seed) (source : σ) :
    stampSeeds draw now (seeds ++ rest) source =
      let outcome := stampSeeds draw now rest (sourceAfter draw records.length source)
      (outcome.1.map
        (List.zipWith (stamped now) records (offsets draw records.length source) ++ ·),
        outcome.2) := by
  induction hseeds generalizing source with
  | nil =>
    rw [List.nil_append]
    simp only [List.length_nil, sourceAfter, offsets, List.zipWith_nil_left, List.nil_append]
    rcases stampSeeds draw now rest source with ⟨_ | _, _⟩ <;> rfl
  | cons hseed _ ih =>
    obtain ⟨hfirst, hothers⟩ := List.forall_mem_cons.mp hlength
    rw [List.cons_append, stampSeeds_cons_of_length hseed hfirst, ih hothers]
    simp only [List.length_cons, sourceAfter, offsets, List.zipWith_cons_cons]
    rcases stampSeeds draw now rest _ with ⟨_ | _, _⟩ <;> rfl

theorem stampSeeds_of_length (hseeds : List.Forall₂ Seed.IsRecord seeds records)
    (hlength : ∀ record ∈ records, record.1.length = 16) (source : σ) :
    stampSeeds draw now seeds source =
      (.ok (List.zipWith (stamped now) records (offsets draw records.length source)),
        sourceAfter draw records.length source) := by
  rw [← List.append_nil seeds, stampSeeds_append hseeds hlength]
  simp only [stampSeeds, Except.map, List.append_nil]

/-- A seed of another size refuses all, and finds the source asked once for each seed before it. -/
theorem stampSeeds_of_misfit {before after : List (Octets × Int)} {misfit : Octets × Int}
    (hseeds : List.Forall₂ Seed.IsRecord seeds (before ++ misfit :: after))
    (hbefore : ∀ record ∈ before, record.1.length = 16) (hmisfit : misfit.1.length ≠ 16)
    (source : σ) :
    stampSeeds draw now seeds source =
      (.error (.length misfit.1.length), sourceAfter draw before.length source) := by
  have hfront := List.forall₂_take_append seeds before (misfit :: after) hseeds
  have hback := List.forall₂_drop_append seeds before (misfit :: after) hseeds
  obtain ⟨seed, rest, hseed, -, hdrop⟩ := List.forall₂_cons_right_iff.mp hback
  have hsplit : seeds = seeds.take before.length ++ seed :: rest := by
    rw [← hdrop, List.take_append_drop]
  rw [hsplit, stampSeeds_append hfront hbefore, stampSeeds_cons_of_misfit hseed hmisfit]
  rfl

/-- Records that have not all sixteen bytes have a first one of another size. -/
theorem exists_first_misfit (h : ∃ record ∈ records, record.1.length ≠ 16) :
    ∃ before misfit after, records = before ++ misfit :: after ∧
      (∀ record ∈ before, record.1.length = 16) ∧ misfit.1.length ≠ 16 := by
  let p (record : Octets × Int) : Bool := decide (record.1.length ≠ 16)
  have hsome : (records.find? p).isSome := by
    rw [List.find?_isSome]
    exact h.imp fun _ hrecord => ⟨hrecord.1, decide_eq_true hrecord.2⟩
  obtain ⟨misfit, hfound⟩ := Option.isSome_iff_exists.mp hsome
  obtain ⟨hmisfit, before, after, hsplit, hbefore⟩ := List.find?_eq_some_iff_append.mp hfound
  refine ⟨before, misfit, after, hsplit, fun record hrecord => ?_, of_decide_eq_true hmisfit⟩
  simpa [p] using hbefore record hrecord

/-- With a time and a source that are given and count, nothing of the program's own is used. -/
theorem convertSeeds_of_given (ambient : Ambient σ) (seeds : List Seed) (now : Int)
    {given : RandomSource σ} (h : given.isTrue = true) :
    convertSeeds ambient seeds (some now) (some given) = stampSeeds given.draw now seeds := by
  rw [convertSeeds, Option.filter_some, if_pos h]
  rfl

/-! ## Records and their addresses -/

/-- **Seeds keep their records and are stamped between two weeks and one week back.** If all of them
have sixteen bytes, there is an address for each, in order, with the bytes and the port of the
record and a stamp that the source decides, which has been asked once for each. Otherwise the first
one of another size is refused with a message, and the source has been asked once for each one
before it. -/
theorem seeds_keep_records (hdraw : Answers draw)
    (hseeds : List.Forall₂ Seed.IsRecord seeds records) (now : Int) (source : σ) :
    ((∀ record ∈ records, record.1.length = 16) →
      ∃ addresses : List Address,
        stampSeeds draw now seeds source =
          (.ok addresses, sourceAfter draw records.length source) ∧
        addresses.length = records.length ∧
        ∀ (i : Nat) (address : Address), addresses[i]? = some address →
          ∃ record offset, records[i]? = some record ∧
            (offsets draw records.length source)[i]? = some offset ∧
            address.ip = record.1 ∧ address.port = record.2 ∧ address.services = fullNode ∧
            address.timestamp = now - 2 * week + offset ∧
            now - 2 * week ≤ address.timestamp ∧ address.timestamp < now - week) ∧
    ((∃ record ∈ records, record.1.length ≠ 16) →
      ∃ before misfit after, records = before ++ misfit :: after ∧
        (∀ record ∈ before, record.1.length = 16) ∧ misfit.1.length ≠ 16 ∧
        ∃ e : SeedError,
          stampSeeds draw now seeds source = (.error e, sourceAfter draw before.length source) ∧
          e.message? = some s!"seed address must be 16 bytes, got {misfit.1.length}") := by
  constructor
  · intro hlength
    refine ⟨_, stampSeeds_of_length hseeds hlength source, ?_, fun i address haddress => ?_⟩
    · rw [List.length_zipWith, length_offsets, Nat.min_self]
    · obtain ⟨record, offset, hrecord, hoffset, rfl⟩ :=
        List.getElem?_zipWith_eq_some.mp haddress
      obtain ⟨hlow, hhigh⟩ := offset_mem_range hdraw (List.mem_of_getElem? hoffset)
      refine ⟨record, offset, hrecord, hoffset, rfl, rfl, rfl, rfl, ?_, ?_⟩ <;>
        simp only [stamped, seedStamp] <;> omega
  · intro hsome
    obtain ⟨before, misfit, after, rfl, hbefore, hmisfit⟩ := exists_first_misfit hsome
    exact ⟨before, misfit, after, rfl, hbefore, hmisfit, _,
      stampSeeds_of_misfit hseeds hbefore hmisfit source, rfl⟩

/-- An address of four bytes in its long form and one of sixteen, from a source that gives the last
second of the week and then the first one. A third seed that is cut short refuses them all. -/
theorem seeds_keep_records_two :
    let draw (n k : Int) : Int × Int := (k % n, k + 1)
    let mapped : Octets := mappedPrefix ++ [1, 2, 3, 4]
    let long : Octets := List.replicate 16 0x20
    let seeds : List Seed := [⟨.bytes mapped, 17000⟩, ⟨.buffer long, 17100⟩]
    (∃ first second, stampSeeds draw 0 seeds 604799 = (.ok [first, second], 604801) ∧
      first.ip = mapped ∧ first.timestamp = -604801 ∧
      second.ip = long ∧ second.timestamp = -1209600) ∧
    ∃ e : SeedError,
      stampSeeds draw 0 (seeds ++ [⟨.octets [1, 2, 3, 4], 17000⟩]) 604799 = (.error e, 604801) ∧
      e.message? = some "seed address must be 16 bytes, got 4" := by
  intro draw mapped long seeds
  have hdraw : Answers draw := fun n k hn => ⟨Int.emod_nonneg k hn.ne', Int.emod_lt_of_pos k hn⟩
  have hseeds : List.Forall₂ Seed.IsRecord seeds [(mapped, 17000), (long, 17100)] :=
    .cons ⟨rfl, rfl⟩ (.cons ⟨rfl, rfl⟩ .nil)
  have hmore : List.Forall₂ Seed.IsRecord (seeds ++ [⟨.octets [1, 2, 3, 4], 17000⟩])
      [(mapped, 17000), (long, 17100), ([1, 2, 3, 4], 17000)] :=
    .cons ⟨rfl, rfl⟩ (.cons ⟨rfl, rfl⟩ (.cons ⟨rfl, rfl⟩ .nil))
  constructor
  · obtain ⟨addresses, hok, hlength, hkeeps⟩ :=
      (seeds_keep_records hdraw hseeds 0 604799).1 (by decide)
    obtain ⟨first, second, rfl⟩ := List.length_eq_two.mp hlength
    obtain ⟨_, _, hrecord₁, hoffset₁, hip₁, -, -, hstamp₁, -⟩ := hkeeps 0 first rfl
    obtain ⟨_, _, hrecord₂, hoffset₂, hip₂, -, -, hstamp₂, -⟩ := hkeeps 1 second rfl
    cases hrecord₁
    cases hrecord₂
    cases hoffset₁
    cases hoffset₂
    exact ⟨first, second, hok, hip₁, hstamp₁, hip₂, hstamp₂⟩
  · obtain ⟨before, misfit, after, hsplit, hbefore, hmisfit, e, herror, hmessage⟩ :=
      (seeds_keep_records hdraw hmore 0 604799).2 (by decide)
    -- Only the third record has not sixteen bytes.
    rcases before with _ | ⟨_, _ | ⟨_, _ | ⟨_, before⟩⟩⟩
    · cases hsplit
      exact absurd rfl hmisfit
    · cases hsplit
      exact absurd rfl hmisfit
    · cases hsplit
      exact ⟨e, herror, hmessage⟩
    · simp at hsplit

end LedgerNet.Peer
