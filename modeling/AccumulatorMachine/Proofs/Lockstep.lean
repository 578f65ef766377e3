import Mathlib.Data.List.Forall2
import AccumulatorMachine.Proofs.Slicing

/-!
# Machines in lockstep

Two machines run in lockstep if a relation between them is kept by every step: both
fail with the same fault, both end in the same way, or both go on, and then they are
related again and have written lines that correspond to one another.  What one step
keeps is kept by any number of steps, as long as the first machine meets a condition
on which the step may depend.

Results that may fail are compared with `Matches`, which allows no difference between
faults and goes through computations in the same way as they do.
-/

namespace AccumulatorMachine

/-- Two results are the same fault, or values that are related. -/
inductive Matches {α β : Type} (related : α → β → Prop) :
    Except Fault α → Except Fault β → Prop
  | ok {first : α} {second : β} : related first second →
      Matches related (.ok first) (.ok second)
  | error (fault : Fault) : Matches related (.error fault) (.error fault)

namespace Matches

variable {α β γ δ : Type} {related : α → β → Prop} {later : γ → δ → Prop}

theorem bind {first : Except Fault α} {second : Except Fault β}
    {firstNext : α → Except Fault γ} {secondNext : β → Except Fault δ}
    (matching : Matches related first second)
    (next : ∀ left right, related left right →
      Matches later (firstNext left) (secondNext right)) :
    Matches later (first >>= firstNext) (second >>= secondNext) := by
  cases matching with
  | ok holds => exact next _ _ holds
  | error fault => exact Matches.error fault

/-- The same computation can go on in two ways that match for each of its values. -/
theorem bind_same {computed : Except Fault α} {firstNext : α → Except Fault γ}
    {secondNext : α → Except Fault δ}
    (next : ∀ value, Matches later (firstNext value) (secondNext value)) :
    Matches later (computed >>= firstNext) (computed >>= secondNext) := by
  cases computed with
  | error fault => exact Matches.error fault
  | ok value => exact next value

theorem mapError {first : Except Fault α} {second : Except Fault β}
    (matching : Matches related first second) (change : Fault → Fault) :
    Matches related (first.mapError change) (second.mapError change) := by
  cases matching with
  | ok holds => exact Matches.ok holds
  | error fault => exact Matches.error (change fault)

end Matches

/-- Two programs of the same length whose lines are related one by one. -/
def Program.Linewise (related : Line → Line → Prop) (first second : Program) : Prop :=
  List.Forall₂ related first.lines.toList second.lines.toList

theorem Program.Linewise.line? {related : Line → Line → Prop} {first second : Program}
    (lines : Linewise related first second) (address : Nat) :
    Option.Rel related (first.line? address) (second.line? address) := by
  unfold Linewise at lines
  simp only [Program.line?, ← Array.getElem?_toList]
  generalize first.lines.toList = left at lines ⊢
  generalize second.lines.toList = right at lines ⊢
  induction lines generalizing address with
  | nil => exact Option.Rel.none
  | cons holds _ inductionHypothesis =>
      cases address with
      | zero => exact Option.Rel.some holds
      | succ address => exact inductionHypothesis address

section

variable (related : Machine → Machine → Prop) (alike : String → String → Prop)

/-- Two steps that end in the same way, or go on to related machines and write lines
that are alike. -/
inductive Transition.Related : Transition → Transition → Prop
  | finish (ending : Ending) : Related (.finish ending) (.finish ending)
  | advance {first second : Machine} {lines others : List String} :
      related first second → List.Forall₂ alike lines others →
      Related (.advance first lines) (.advance second others)

/-- Two entries that are the same fault, or lines that are alike. -/
inductive Entry.Related : Entry → Entry → Prop
  | output {first second : String} : alike first second →
      Related (.output first) (.output second)
  | fault (cause : Fault) : Related (.fault cause) (.fault cause)

/-- Two runs that have ended in the same way, with related machines and logs that are
alike entry by entry. -/
structure Outcome.Related (first second : Outcome) : Prop where
  machine : related first.machine second.machine
  log : List.Forall₂ (Entry.Related alike) first.log.toList second.log.toList
  result_eq : second.result = first.result

/-- A relation that a step keeps if the first machine meets a condition. -/
def KeptByStep (condition : Machine → Prop) : Prop :=
  ∀ ⦃first second : Machine⦄, related first second → condition first →
    Matches (Transition.Related related alike) first.step second.step

end

variable {related : Machine → Machine → Prop} {alike : String → String → Prop}

theorem Transition.Related.silent {first second : Machine} (holds : related first second) :
    Transition.Related related alike (.silent first) (.silent second) :=
  Transition.Related.advance holds List.Forall₂.nil

theorem Entry.Related.eq {first second : Entry} (same : Entry.Related Eq first second) :
    first = second := by
  cases same with
  | output same => rw [same]
  | fault cause => rfl

theorem Entry.Related.append {log other : Array Entry}
    (logs : List.Forall₂ (Entry.Related alike) log.toList other.toList)
    {lines others : List String} (written : List.Forall₂ alike lines others) :
    List.Forall₂ (Entry.Related alike) (log ++ (lines.map Entry.output).toArray).toList
      (other ++ (others.map Entry.output).toArray).toList := by
  have entries : List.Forall₂ (Entry.Related alike) (lines.map Entry.output)
      (others.map Entry.output) := by
    rw [List.forall₂_map_left_iff, List.forall₂_map_right_iff]
    exact written.imp fun _ _ => Entry.Related.output
  rw [Array.toList_append, Array.toList_append]
  exact List.rel_append logs entries

theorem Outcome.Related.log_eq {first second : Outcome}
    (same : Outcome.Related related Eq first second) : first.log = second.log := by
  have entries : List.Forall₂ Eq first.log.toList second.log.toList :=
    same.log.imp fun _ _ => Entry.Related.eq
  rw [List.forall₂_eq_eq_eq] at entries
  exact Array.toList_inj.mp entries

theorem KeptByStep.steps {condition : Machine → Prop}
    (kept : KeptByStep related alike condition) {first second : Machine}
    (holds : related first second) {log other : Array Entry}
    (logs : List.Forall₂ (Entry.Related alike) log.toList other.toList) (cycles : Nat)
    (met : ∀ taken < cycles, (first.steps log taken).result = .ok .running →
      condition (first.steps log taken).machine) :
    Outcome.Related related alike (first.steps log cycles) (second.steps other cycles) := by
  induction cycles generalizing first second log other with
  | zero => exact ⟨holds, logs, rfl⟩
  | succ cycles inductionHypothesis =>
      have matching := kept holds (met 0 (Nat.zero_lt_succ cycles) rfl)
      -- what the first machine meets after a step, it meets one step later on its own run
      have laterMet {next : Machine} {lines : List String}
          (advanced : first.step = .ok (.advance next lines)) (taken : Nat)
          (smaller : taken < cycles) :
          (next.steps (log ++ (lines.map Entry.output).toArray) taken).result =
              .ok .running →
            condition (next.steps (log ++ (lines.map Entry.output).toArray) taken).machine := by
        have after := met (taken + 1) (Nat.succ_lt_succ smaller)
        rw [Machine.steps_succ, advanced] at after
        exact after
      rw [Machine.steps_succ, Machine.steps_succ]
      generalize first.step = firstResult at matching laterMet ⊢
      generalize second.step = secondResult at matching ⊢
      cases matching with
      | error fault =>
          refine ⟨holds, ?_, rfl⟩
          simp only [Outcome.failed, Array.toList_push]
          exact List.rel_append logs (List.Forall₂.cons (Entry.Related.fault fault) .nil)
      | ok transitions =>
          cases transitions with
          | finish ending => exact ⟨holds, logs, rfl⟩
          | advance laterHolds written =>
              exact inductionHypothesis laterHolds (Entry.Related.append logs written)
                (laterMet rfl)

end AccumulatorMachine
