import ContainerDesk.View.Gate
import Mathlib.Data.List.Induction
import Mathlib.Data.List.Range

/-!
# Whole histories of a gate

Requests are made and results come in, in any order, and a result may come with any
number: of a request whose result was let through already, of an older one, of one that
was never made, or with no number of a request at all.

What the gate answers is decided by what it answered before.  The gate remembers only two
numbers: `Recounts` says that the one is the last number given out and the other the
greatest number let through.
-/

namespace ContainerDesk

namespace Gate

/-!
# Results by their number
-/

section Results

variable {gate : Gate} {generation : Int}

theorem accept_of_unissued (h : gate.requested < generation) :
    gate.accept generation = .error (.badValue
      (Text.of "Generation " ++ integerNumeral generation ++ Text.of " was never requested")) := by
  unfold accept
  rw [if_pos h]

theorem accept_of_le_applied (hissued : generation ≤ gate.requested)
    (h : generation ≤ gate.applied) :
    gate.accept generation = .ok (false, gate, [gate.staleEntry generation]) := by
  unfold accept
  rw [if_neg (Int.not_lt.mpr hissued), if_pos h]

theorem accept_of_applied_lt (hissued : generation ≤ gate.requested)
    (h : gate.applied < generation) :
    gate.accept generation = .ok (true, { gate with applied := generation.toNat }, []) := by
  unfold accept
  rw [if_neg (Int.not_lt.mpr hissued), if_neg (Int.not_le.mpr h)]

end Results

/-!
# Calls and answers
-/

inductive Call where
  | next
  | accept (generation : Int)
deriving DecidableEq

inductive Answer where
  | number (generation : Nat)
  | verdict (isNew : Bool)

def answer (gate : Gate) : Call → Except Fault Answer × Gate
  | .next => (.ok (.number gate.next.1), gate.next.2)
  | .accept generation =>
      match gate.accept generation with
      | .error fault => (.error fault, gate)
      | .ok (isNew, after, _) => (.ok (.verdict isNew), after)

def after (gate : Gate) (calls : List Call) : Gate :=
  calls.foldl (fun gate call => (gate.answer call).2) gate

abbrev Exchange := Call × Except Fault Answer

def exchanges (gate : Gate) : List Call → List Exchange
  | [] => []
  | call :: rest => (call, (gate.answer call).1) :: (gate.answer call).2.exchanges rest

def number? : Exchange → Option Nat
  | (_, .ok (.number generation)) => some generation
  | _ => none

def accepted? : Exchange → Option Int
  | (.accept generation, .ok (.verdict true)) => some generation
  | _ => none

def numbers (history : List Exchange) : List Nat :=
  history.filterMap number?

def accepted (history : List Exchange) : List Int :=
  history.filterMap accepted?

theorem after_concat (gate : Gate) (calls : List Call) (call : Call) :
    gate.after (calls ++ [call]) = ((gate.after calls).answer call).2 := by
  unfold after
  rw [List.foldl_concat]

theorem exchanges_concat (gate : Gate) (calls : List Call) (call : Call) :
    gate.exchanges (calls ++ [call]) =
      gate.exchanges calls ++ [(call, ((gate.after calls).answer call).1)] := by
  induction calls generalizing gate with
  | nil => rfl
  | cons first rest ih => exact congrArg (List.cons _) (ih (gate.answer first).2)

theorem filterMap_concat {β : Type} (f : Exchange → Option β) (history : List Exchange)
    (exchange : Exchange) :
    (history ++ [exchange]).filterMap f = history.filterMap f ++ (f exchange).toList := by
  rw [List.filterMap_append]
  cases h : f exchange with
  | none => rw [List.filterMap_cons_none h, List.filterMap_nil, Option.toList_none]
  | some b => rw [List.filterMap_cons_some h, List.filterMap_nil, Option.toList_some]

theorem numbers_concat (history : List Exchange) (exchange : Exchange) :
    numbers (history ++ [exchange]) = numbers history ++ (number? exchange).toList :=
  filterMap_concat number? history exchange

theorem accepted_concat (history : List Exchange) (exchange : Exchange) :
    accepted (history ++ [exchange]) = accepted history ++ (accepted? exchange).toList :=
  filterMap_concat accepted? history exchange

section Answers

variable {gate : Gate} {generation : Int}

theorem answer_of_unissued (h : gate.requested < generation) :
    gate.answer (.accept generation) = (.error (.badValue
      (Text.of "Generation " ++ integerNumeral generation ++ Text.of " was never requested")),
        gate) := by
  unfold answer
  dsimp only
  rw [accept_of_unissued h]

theorem answer_of_le_applied (hissued : generation ≤ gate.requested)
    (h : generation ≤ gate.applied) :
    gate.answer (.accept generation) = (.ok (.verdict false), gate) := by
  unfold answer
  dsimp only
  rw [accept_of_le_applied hissued h]

theorem answer_of_applied_lt (hissued : generation ≤ gate.requested)
    (h : gate.applied < generation) :
    gate.answer (.accept generation) =
      (.ok (.verdict true), { gate with applied := generation.toNat }) := by
  unfold answer
  dsimp only
  rw [accept_of_applied_lt hissued h]

end Answers

/-!
# What a gate remembers
-/

/-- Is the gate what is left after certain numbers were given out and certain ones let through?  It
has the last one given out, and the greatest one let through, or zero. -/
structure Recounts (gate : Gate) (numbers : List Nat) (accepted : List Int) : Prop where
  numbers : numbers = List.range' 1 gate.requested
  bounds : ∀ generation ∈ accepted, 1 ≤ generation ∧ generation ≤ gate.applied
  applied : gate.applied = 0 ∨ (gate.applied : Int) ∈ accepted
  issued : gate.applied ≤ gate.requested
  rising : accepted.Pairwise (· < ·)

theorem recounts_fresh : fresh.Recounts [] [] where
  numbers := rfl
  bounds := fun _ hmem => absurd hmem List.not_mem_nil
  applied := .inl rfl
  issued := Nat.le_refl 0
  rising := .nil

namespace Recounts

variable {gate : Gate} {numbers : List Nat} {accepted : List Int}
  (h : gate.Recounts numbers accepted)

include h

theorem request : gate.next.2.Recounts (numbers ++ [gate.next.1]) accepted where
  numbers := by
    rw [h.numbers]
    show _ = List.range' 1 (gate.requested + 1)
    rw [List.range'_concat, Nat.one_mul, Nat.add_comm 1 gate.requested]
    rfl
  bounds := h.bounds
  applied := h.applied
  issued := Nat.le_succ_of_le h.issued
  rising := h.rising

theorem take {generation : Int} (hissued : generation ≤ gate.requested)
    (hnewer : gate.applied < generation) :
    ({ gate with applied := generation.toNat } : Gate).Recounts numbers
      (accepted ++ [generation]) where
  numbers := h.numbers
  bounds := by
    intro other hother
    dsimp only
    rcases List.mem_append.mp hother with hmem | hmem
    · have hbounds := h.bounds other hmem
      omega
    · rw [List.mem_singleton.mp hmem]
      omega
  applied := by
    refine .inr (List.mem_append_right _ (List.mem_singleton.mpr ?_))
    dsimp only
    omega
  issued := by
    dsimp only
    omega
  rising := by
    refine List.pairwise_append.mpr ⟨h.rising, List.pairwise_singleton _ _, ?_⟩
    intro other hother newest hnewest
    have hbounds := h.bounds other hother
    rw [List.mem_singleton.mp hnewest]
    omega

theorem answer (call : Call) :
    (gate.answer call).2.Recounts (numbers ++ (number? (call, (gate.answer call).1)).toList)
      (accepted ++ (accepted? (call, (gate.answer call).1)).toList) := by
  cases call with
  | next => simpa [Gate.answer, number?, accepted?] using h.request
  | accept generation =>
      rcases Int.lt_or_le gate.requested generation with hunissued | hissued
      · rw [answer_of_unissued hunissued]
        simpa [number?, accepted?] using h
      · rcases Int.lt_or_le gate.applied generation with hnewer | hstale
        · rw [answer_of_applied_lt hissued hnewer]
          simpa [number?, accepted?] using h.take hissued hnewer
        · rw [answer_of_le_applied hissued hstale]
          simpa [number?, accepted?] using h

/-- A number is above all that were let through exactly if it is above the one that is
remembered. -/
theorem applied_lt_iff {generation : Int} :
    gate.applied < generation ↔ 1 ≤ generation ∧ ∀ earlier ∈ accepted, earlier < generation := by
  constructor
  · intro hnewer
    refine ⟨by omega, ?_⟩
    intro earlier hearlier
    have hbounds := h.bounds earlier hearlier
    omega
  · rintro ⟨hpositive, hearlier⟩
    rcases h.applied with hzero | hmem
    · omega
    · exact hearlier _ hmem

theorem hasApplied_iff : gate.hasApplied = true ↔ accepted ≠ [] := by
  rw [hasApplied, decide_eq_true_eq]
  constructor
  · intro hpositive hnone
    rcases h.applied with hzero | hmem
    · omega
    · rw [hnone] at hmem
      cases hmem
  · intro hsome
    rcases List.exists_mem_of_ne_nil _ hsome with ⟨generation, hmem⟩
    have hbounds := h.bounds generation hmem
    omega

end Recounts

theorem recounts_after (calls : List Call) :
    (fresh.after calls).Recounts (numbers (fresh.exchanges calls))
      (accepted (fresh.exchanges calls)) := by
  induction calls using List.reverseRecOn with
  | nil => exact recounts_fresh
  | append_singleton calls call ih =>
      rw [after_concat, exchanges_concat, numbers_concat, accepted_concat]
      exact ih.answer call

theorem requested_answer (gate : Gate) (call : Call) :
    (gate.answer call).2.requested = gate.requested + if call = .next then 1 else 0 := by
  cases call with
  | next => rfl
  | accept generation =>
      rcases Int.lt_or_le gate.requested generation with hunissued | hissued
      · rw [answer_of_unissued hunissued]
        rfl
      · rcases Int.lt_or_le gate.applied generation with hnewer | hstale
        · rw [answer_of_applied_lt hissued hnewer]
          rfl
        · rw [answer_of_le_applied hissued hstale]
          rfl

theorem requested_after (gate : Gate) (calls : List Call) :
    (gate.after calls).requested = gate.requested + calls.count .next := by
  induction calls using List.reverseRecOn with
  | nil => rfl
  | append_singleton calls call ih =>
      rw [after_concat, requested_answer, ih, List.count_append, List.count_singleton,
        Nat.add_assoc]
      simp only [beq_iff_eq]

/-!
# The answers of a gate
-/

/-- Requests are numbered from one without a gap.  A result with a number that was not given out
yet is a fault; any other is let through exactly if its number is positive and above all that were
let through before, so what is let through rises and was given out before.  A result that is not
let through leaves the gate as it was. -/
theorem answers_by_history (calls : List Call) :
    let history := fresh.exchanges calls
    let gate := fresh.after calls
    let requests := calls.count .next
    numbers history = List.range' 1 requests ∧
    (accepted history).Pairwise (· < ·) ∧
    (gate.hasApplied = true ↔ accepted history ≠ []) ∧
    ∀ generation : Int,
      (requests < generation → gate.answer (.accept generation) =
        (.error (.badValue (Text.of "Generation " ++ integerNumeral generation ++
          Text.of " was never requested")), gate)) ∧
      (generation ≤ requests →
        (1 ≤ generation ∧ (∀ earlier ∈ accepted history, earlier < generation) →
          (gate.answer (.accept generation)).1 = .ok (.verdict true) ∧
            ∃ number ∈ numbers history, generation = number) ∧
        (¬ (1 ≤ generation ∧ ∀ earlier ∈ accepted history, earlier < generation) →
          gate.answer (.accept generation) = (.ok (.verdict false), gate))) := by
  intro history gate requests
  have h : gate.Recounts (numbers history) (accepted history) := recounts_after calls
  have hrequested : gate.requested = requests :=
    (requested_after fresh calls).trans (Nat.zero_add _)
  rw [← hrequested]
  refine ⟨h.numbers, h.rising, h.hasApplied_iff, ?_⟩
  intro generation
  refine ⟨answer_of_unissued, ?_⟩
  intro hissued
  rw [← h.applied_lt_iff]
  constructor
  · intro hnewer
    rw [answer_of_applied_lt hissued hnewer]
    refine ⟨rfl, generation.toNat, ?_, by omega⟩
    rw [h.numbers, List.mem_range'_1]
    omega
  · intro hstale
    exact answer_of_le_applied hissued (Int.not_lt.mp hstale)

/-- An older result, a repeated one and one before its time do not get through. -/
example :
    accepted (fresh.exchanges
      [.next, .next, .accept 2, .accept 1, .accept 2, .accept 3, .next, .accept 3]) = [2, 3] := by
  rfl

end Gate

end ContainerDesk
