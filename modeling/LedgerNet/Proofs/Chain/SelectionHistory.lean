import LedgerNet.Proofs.Chain.SelectionSteps
import Mathlib.Data.List.Induction
import Mathlib.Data.List.TakeWhile

/-!
# Histories of a selection

A program selects networks and seals the selection, in any order and any number of times. Which of
the selections succeed is decided by the networks that are found and by the first sealing alone, and
what is active in the end and what was logged follows from those that succeed.

## Main statements

- `trail_concat`: what is logged for one more network.
- `Reflects.perform`: what every step keeps true of the history so far.
- `history_of_selections`: what a history leads to, and what the next step can do.
-/

namespace LedgerNet.Chain.Selection

open Outcome

variable {find : Finder} {c : Choice} {p default : Network}

/-! ## What is logged -/

/-- What is logged for networks that are selected one after the other. -/
def trail : List Network → List Log.Record
  | [] => []
  | [p] => [selectedRecord p]
  | p :: q :: rest => selectedRecord p :: reselectedRecord p q :: trail (q :: rest)

/-- One more network is announced, behind the change to it if there was one before. -/
theorem trail_concat (ps : List Network) (q : Network) :
    trail (ps ++ [q]) =
      trail ps ++
        ((ps.getLast?.map fun p => reselectedRecord p q).toList ++ [selectedRecord q]) := by
  induction ps with
  | nil => rfl
  | cons p ps ih =>
    -- The change to the new network is behind the last one before it, so a single one stands alone.
    cases ps with
    | nil => rfl
    | cons p' rest =>
      rw [List.cons_append, List.cons_append, trail, ← List.cons_append, ih, trail,
        List.getLast?_cons_cons]
      rfl

/-! ## Histories -/

/-- The network that a step selects, where selections are open. -/
def Step.target? (find : Finder) : Step → Option Network
  | .select c => (c.target find).toOption
  | .close => none

/-- The networks that a history selects: the targets of the choices before the first sealing. -/
def chosen (find : Finder) (steps : List Step) : List Network :=
  (steps.takeWhile (· ≠ .close)).filterMap (Step.target? find)

/-- The networks that the answers name. -/
def networks (answers : List (Except SelectionError (Option Network))) : List Network :=
  answers.filterMap fun answer => answer.toOption.join

variable {steps : List Step} {j : Journal}
  {answers : List (Except SelectionError (Option Network))}

theorem networks_concat (answers : List (Except SelectionError (Option Network)))
    (answer : Except SelectionError (Option Network)) :
    networks (answers ++ [answer]) = networks answers ++ answer.toOption.join.toList := by
  simp only [networks, List.filterMap_append, List.filterMap_cons, List.filterMap_nil]
  cases answer.toOption.join <;> rfl

theorem chosen_concat_of_open (h : .close ∉ steps) (step : Step) :
    chosen find (steps ++ [step]) = chosen find steps ++ (step.target? find).toList := by
  -- Nothing is cut off before the new step.
  have hopen : ∀ x ∈ steps, decide (x ≠ Step.close) = true := by
    intro x hx
    exact decide_eq_true fun hclose => h (hclose ▸ hx)
  rw [chosen, chosen, List.takeWhile_append_of_pos hopen, List.filterMap_append,
    List.takeWhile_eq_self_iff.mpr hopen]
  cases step with
  | select c => cases h : Step.target? find (.select c) <;> simp [h]
  | close => rfl

theorem chosen_concat_of_sealed (h : .close ∈ steps) (step : Step) :
    chosen find (steps ++ [step]) = chosen find steps := by
  -- The cut is at the first sealing, and the new step is behind it.
  have hcut : (steps ++ [step]).takeWhile (· ≠ .close) = steps.takeWhile (· ≠ .close) := by
    induction steps with
    | nil => cases h
    | cons first steps ih =>
      rw [List.cons_append, List.takeWhile_cons, List.takeWhile_cons]
      by_cases hfirst : first = .close
      · simp [hfirst]
      · rw [ih ((List.mem_cons.mp h).resolve_left (Ne.symm hfirst))]
  rw [chosen, chosen, hcut]

theorem chosen_concat_close (steps : List Step) :
    chosen find (steps ++ [.close]) = chosen find steps := by
  by_cases h : .close ∈ steps
  · exact chosen_concat_of_sealed h .close
  · rw [chosen_concat_of_open h]
    exact List.append_nil _

/-- What a history has led to. The state and the log follow from the networks that were chosen. -/
structure Reflects (find : Finder) (default : Network) (steps : List Step) (j : Journal)
    (answers : List (Except SelectionError (Option Network))) : Prop where
  networks : networks answers = chosen find steps
  current : j.selection.current = (chosen find steps).getLast?.getD default
  selected : j.selection.selected = !(chosen find steps).isEmpty
  isSealed : j.selection.isSealed = true ↔ .close ∈ steps
  writable : j.selection.current.networkId.isWritable
  records : j.records =
    trail (chosen find steps) ++
      List.replicate (steps.count .close) (sealedRecord j.selection.current)

namespace Reflects

theorem start (h : default.networkId.isWritable) :
    Reflects find default [] { selection := { current := default } } [] where
  networks := rfl
  current := rfl
  selected := rfl
  isSealed := by simp
  writable := h
  records := rfl

/-- The announcement of a network, after those that were chosen before. -/
theorem trail_concat (h : Reflects find default steps j answers) (p : Network) :
    trail (chosen find steps ++ [p]) =
      trail (chosen find steps) ++ announcement j.selection p := by
  rw [Selection.trail_concat, announcement, h.selected, h.current]
  cases hlast : (chosen find steps).getLast? with
  | none =>
    rw [List.getLast?_eq_none_iff.mp hlast]
    rfl
  | some q =>
    have hne : (chosen find steps).isEmpty = false := by
      rw [List.isEmpty_eq_false_iff]
      intro hnil
      rw [hnil] at hlast
      cases hlast
    rw [hne]
    rfl

/-- Sealing, once more or for the first time, is announced and changes no more. -/
theorem concat_close (h : Reflects find default steps j answers) :
    Reflects find default (steps ++ [.close])
      ⟨j.selection.sealed, j.records ++ [sealedRecord j.selection.current]⟩
      (answers ++ [.ok none]) := by
  constructor
  case networks =>
    rw [networks_concat, h.networks, chosen_concat_close]
    exact List.append_nil _
  case current => rw [chosen_concat_close, sealed, h.current]
  case selected => rw [chosen_concat_close, sealed, h.selected]
  case isSealed => simp [sealed]
  case writable => exact h.writable
  case records =>
    rw [h.records, chosen_concat_close, List.count_append, List.count_singleton_self,
      List.replicate_succ', ← List.append_assoc]
    rfl

/-- A selection that fails leaves what a history has led to. -/
theorem concat_error (h : Reflects find default steps j answers) {e : SelectionError}
    (hchosen : chosen find (steps ++ [.select c]) = chosen find steps) :
    Reflects find default (steps ++ [.select c]) j (answers ++ [.error e]) := by
  constructor
  case networks =>
    rw [networks_concat, h.networks, hchosen]
    exact List.append_nil _
  case current => rw [hchosen, h.current]
  case selected => rw [hchosen, h.selected]
  case isSealed => simp [h.isSealed]
  case writable => exact h.writable
  case records =>
    rw [h.records, hchosen, List.count_append]
    rfl

/-- A network that is chosen, before the first sealing, is announced and active. -/
theorem concat_activate (h : Reflects find default steps j answers)
    (hopen : .close ∉ steps) (htarget : c.target find = .ok p) (hp : p.networkId.isWritable) :
    Reflects find default (steps ++ [.select c])
      ⟨j.selection.activate p, j.records ++ announcement j.selection p⟩
      (answers ++ [.ok (some p)]) := by
  have hchosen : chosen find (steps ++ [.select c]) = chosen find steps ++ [p] := by
    rw [chosen_concat_of_open hopen, Step.target?, htarget]
    rfl
  constructor
  case networks =>
    rw [networks_concat, h.networks, hchosen]
    rfl
  case current =>
    rw [hchosen, List.getLast?_concat]
    rfl
  case selected => simp [hchosen, activate]
  case isSealed => simp [activate, h.isSealed]
  case writable => exact hp
  case records =>
    -- No sealing was logged yet, so the announcement joins the trail.
    have hnone : steps.count .close = 0 := List.count_eq_zero.mpr hopen
    rw [h.records, hchosen, h.trail_concat, List.count_append, hnone]
    simp

/-- Every step keeps what a history has led to. -/
theorem perform (hfind : find.Lawful) (h : Reflects find default steps j answers) (step : Step) :
    Reflects find default (steps ++ [step]) (j.perform find step).1
      (answers ++ [(j.perform find step).2]) := by
  cases step with
  | close =>
    rw [Journal.perform_close h.writable]
    exact h.concat_close
  | select c =>
    -- A seal is looked at before the choice is.
    by_cases hsealed : .close ∈ steps
    · rw [Journal.perform_of_sealed (h.isSealed.mpr hsealed)]
      exact h.concat_error (chosen_concat_of_sealed hsealed _)
    · have hopen : j.selection.isSealed = false := by
        rw [← Bool.not_eq_true, h.isSealed]
        exact hsealed
      cases htarget : c.target find with
      | error e =>
        rw [Journal.perform_of_target_error hopen htarget]
        refine h.concat_error ?_
        rw [chosen_concat_of_open hsealed, Step.target?, htarget]
        exact List.append_nil _
      | ok p =>
        have hp := hfind.target_writable htarget
        rw [Journal.perform_of_target_ok hopen htarget h.writable hp]
        exact h.concat_activate hsealed htarget hp

end Reflects

theorem reflects_run (hfind : find.Lawful) (hdefault : default.networkId.isWritable)
    (steps : List Step) :
    Reflects find default steps (Journal.run find { selection := { current := default } } steps).1
      (Journal.run find { selection := { current := default } } steps).2 := by
  induction steps using List.reverseRecOn with
  | nil => exact Reflects.start hdefault
  | append_singleton steps step ih =>
    rw [Journal.run_concat]
    exact ih.perform hfind step

/-- **What a selection is and what was logged follow from the selections that succeeded.** Let
networks be found lawfully, and let the log be able to tell the network at the start. After any
history, the networks of the selections that succeeded are those chosen before the first sealing;
the last of them is active, or else the network at the start; and the log announces each of them,
behind a warning that names the one before and it if there was one before, and after them only the
sealings. Before the first sealing, the next selection fails exactly if two networks are wanted or
none has the name, and then says so. After it, every selection fails with the network that is fixed,
whatever is chosen. A selection that fails changes nothing and logs nothing. -/
theorem history_of_selections (hfind : find.Lawful) (hdefault : default.networkId.isWritable)
    (steps : List Step) :
    let j := (Journal.run find { selection := { current := default } } steps).1
    let answers := (Journal.run find { selection := { current := default } } steps).2
    networks answers = chosen find steps ∧
    j.selection.current = (networks answers).getLast?.getD default ∧
    j.records = trail (networks answers) ++
      List.replicate (steps.count .close) (sealedRecord j.selection.current) ∧
    (.close ∉ steps → ∀ c,
      ((∃ e, (j.perform find (.select c)).2 = .error e) ↔
        c.isConflict ∨ ∃ e, find (.text c.wanted) = .error e) ∧
      ∀ e, (j.perform find (.select c)).2 = .error e → e.IsUnknown) ∧
    (.close ∈ steps → ∀ c,
      (j.perform find (.select c)).2 = .error (.isSealed j.selection.current.networkId) ∧
      ∃ id, j.selection.current.networkId.text? = some id ∧
        (SelectionError.isSealed j.selection.current.networkId).message? =
          some s!"network already fixed to {id}. cannot select after startup") ∧
    (∀ c e, (j.perform find (.select c)).2 = .error e →
      (j.perform find (.select c)).1 = j) := by
  intro j answers
  -- What a whole run keeps; the rest is about one more selection in the state that it leads to.
  have h : Reflects find default steps j answers := reflects_run hfind hdefault steps
  refine ⟨h.networks, ?current, ?records, fun hclose c => ?before, fun hclose c => ?after,
    fun c e he => Journal.perform_eq_of_error hfind h.writable he⟩
  case current => rw [h.networks, h.current]
  case records => rw [h.networks, h.records]
  case before =>
    have hopen : j.selection.isSealed = false := by
      rw [← Bool.not_eq_true, h.isSealed]
      exact hclose
    exact ⟨Journal.perform_fails_iff hfind h.writable hopen,
      fun e he => Journal.perform_unknown hfind h.writable hopen he⟩
  case after =>
    have htext : j.selection.current.networkId.text? =
        some j.selection.current.networkId.toText := if_pos h.writable
    rw [Journal.perform_of_sealed (h.isSealed.mpr hclose), SelectionError.message?, htext]
    exact ⟨rfl, _, rfl, rfl⟩

/-- Two selections, one that contradicts itself, the sealing and a name of no network: the log has
the two selections, the change between them, and the sealing. -/
theorem history_of_selections_networks :
    let steps : List Step :=
      [.select (.name "testnet"), .select (.flags true true), .select (.flags false true), .close,
        .select (.name "nowhere")]
    let r := Journal.run findNetwork { selection := { current := Networks.main } } steps
    networks r.2 = [Networks.test, Networks.regtest] ∧
      r.1.records = [
        ⟨"NETS", Log.info, "selected network testnet"⟩,
        ⟨"NETS", Log.warning, "network reselected from testnet to regtest"⟩,
        ⟨"NETS", Log.info, "selected network regtest"⟩,
        ⟨"NETS", Log.debug, "network selection sealed on regtest"⟩] := by
  intro steps r
  obtain ⟨hnetworks, hcurrent, hrecords, -⟩ :=
    @history_of_selections findNetwork Networks.main findNetwork_lawful rfl steps
  have hchosen : chosen findNetwork steps = [Networks.test, Networks.regtest] := rfl
  rw [hchosen] at hnetworks
  refine ⟨hnetworks, ?_⟩
  rw [hrecords, hcurrent, hnetworks]
  rfl

end LedgerNet.Chain.Selection
