import Mathlib.Data.List.Induction
import PoliteCrawl.Politeness.Gate

namespace PoliteCrawl

inductive GateCall where
  | grant (instant : Nat)
  | raise (interval : Nat)

namespace GateCall

def instant? : GateCall → Option Nat
  | grant instant => some instant
  | raise _ => none

def interval? : GateCall → Option Nat
  | grant _ => none
  | raise interval => some interval

end GateCall

namespace FetchGate

/-- What is to be said at each time of a gate with this last grant and interval. -/
structure Remaining (last? : Option Nat) (interval : Nat) (wait? : Nat → Option Nat) : Prop where
  isOpen : ∀ now, (∀ last ∈ last?, last ≤ now) →
    (wait? now = none ↔ last? = none ∨ ∃ last ∈ last?, last + interval ≤ now)
  runsDown : ∀ now wait, (∀ last ∈ last?, last ≤ now) → wait? now = some wait →
    0 < wait ∧ (∀ d < wait, wait? (now + d) = some (wait - d)) ∧
      ∀ later, now + wait ≤ later → wait? later = none
  /-- Before the last grant the whole interval is to come. -/
  early : ∀ last ∈ last?, ∀ now < last,
    wait? now = if interval = 0 then none else some interval

variable {g : FetchGate}

/-- What a gate says is what remains of its interval. -/
theorem remaining_untilOpen (g : FetchGate) :
    Remaining g.lastGrant g.minInterval g.untilOpen where
  isOpen now hnow := by
    rw [untilOpen_eq_none_iff]
    cases hlast : g.lastGrant with
    | none => simp
    | some last =>
      have hle : last ≤ now := hnow last hlast
      simp only [Option.mem_some_iff, forall_eq', reduceCtorEq, false_or, exists_eq_left']
      omega
  runsDown now wait hnow hwait := by
    obtain ⟨last, hlast, hpos, hsum⟩ := untilOpen_eq_some_iff.mp hwait
    have hle := hnow last hlast
    refine ⟨hpos, fun d hd => ?_, fun later hlater => ?_⟩
    · exact untilOpen_eq_some_iff.mpr ⟨last, hlast, by omega, by omega⟩
    · rw [untilOpen_eq_none_iff]
      intro last' hlast'
      obtain rfl : last = last' := Option.some.inj (hlast.symm.trans hlast')
      omega
  early last hlast now hlt := by
    split
    · rw [untilOpen_eq_none_iff]
      intro last' hlast'
      omega
    · exact untilOpen_eq_some_iff.mpr ⟨last, hlast, by omega, by omega⟩

def call (g : FetchGate) : GateCall → FetchGate
  | .grant instant => g.grant instant
  | .raise interval => g.raise interval

def after (base : Nat) (calls : List GateCall) : FetchGate :=
  calls.foldl call { minInterval := base }

theorem after_snoc (base : Nat) (calls : List GateCall) (c : GateCall) :
    after base (calls ++ [c]) = (after base calls).call c := by
  rw [after, List.foldl_append, ← after, List.foldl_cons, List.foldl_nil]

/-- What some calls leave of themselves: the last instant, how many of these there were, and the
longest interval. -/
theorem after_eq (base : Nat) (calls : List GateCall) :
    after base calls =
      { minInterval := (calls.filterMap GateCall.interval?).foldl max base
        lastGrant := (calls.filterMap GateCall.instant?).getLast?
        grants := (calls.filterMap GateCall.instant?).length } := by
  induction calls using List.reverseRecOn with
  | nil => rfl
  | append_singleton calls c ih =>
    rw [after_snoc, ih]
    cases c with
    | grant instant =>
      simp [call, grant, GateCall.instant?, GateCall.interval?, List.filterMap_cons]
    | raise interval =>
      simp [call, raise, GateCall.instant?, GateCall.interval?, List.filterMap_cons]

/-- What is said to raise a gate does change it, and nothing else does. -/
theorem raises_iff {interval : Nat} : g.raises interval = true ↔ g.raise interval ≠ g := by
  rw [raises, decide_eq_true_eq]
  constructor
  · intro hlt heq
    have hinterval : max g.minInterval interval = g.minInterval := congrArg minInterval heq
    omega
  · intro hne
    by_contra hle
    refine hne ?_
    rw [raise, Nat.max_eq_left (Nat.not_lt.mp hle)]

/-- A gate is exact whatever happened to it: it says what remains, since its last grant, of the
longest interval that it was given, and after a raise what remains of the longer of the two. -/
theorem remaining_of_calls (base : Nat) (calls : List GateCall) :
    let g := after base calls
    let last? := (calls.filterMap GateCall.instant?).getLast?
    let interval := (calls.filterMap GateCall.interval?).foldl max base
    Remaining last? interval g.untilOpen ∧ g.lastGrant = last? ∧
      g.grants = (calls.filterMap GateCall.instant?).length ∧ g.minInterval = interval ∧
      ∀ raised, Remaining last? (max interval raised) (g.raise raised).untilOpen ∧
        (g.raise raised).lastGrant = g.lastGrant ∧ (g.raise raised).grants = g.grants ∧
        (g.raises raised = true ↔ g.raise raised ≠ g) := by
  intro g last? interval
  have hlast : g.lastGrant = last? := congrArg lastGrant (after_eq base calls)
  have hgrants : g.grants = _ := congrArg grants (after_eq base calls)
  have hinterval : g.minInterval = interval := congrArg minInterval (after_eq base calls)
  rw [← hlast, ← hinterval]
  exact ⟨g.remaining_untilOpen, rfl, hgrants, rfl, fun raised =>
    ⟨(g.raise raised).remaining_untilOpen, rfl, rfl, raises_iff⟩⟩

/-- A grant may be stamped with an earlier time than the one before. -/
example : (after 1000 [.grant 70, .raise 1500, .grant 20]).untilOpen 420 = some 1100 := by decide

end FetchGate

end PoliteCrawl
