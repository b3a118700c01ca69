import PoliteCrawl.Jitter
import PoliteCrawl.Schedule.Machine

namespace PoliteCrawl

inductive Admission where
  | below
  | passed
  deriving DecidableEq, Repr

structure Valve where
  threshold : Nat
  baseWait : Nat
  jitter : Jitter
  inside : Nat := 0

namespace Valve

/-- Lets an item in if few enough are inside. -/
def enterBelow? (v : Valve) : Option Valve :=
  if v.inside < v.threshold then some { v with inside := v.inside + 1 } else none

/-- How long a predicate gets: at most half more than the base. -/
def drawTimeout (v : Valve) : Nat × Valve :=
  let (timeout, jitter) := v.jitter.around v.baseWait (v.baseWait / 2)
  (timeout, { v with jitter })

def count (v : Valve) : Valve := { v with inside := v.inside + 1 }

/-- Lets an item out; nothing happens if none is inside. -/
def release (v : Valve) : Valve := { v with inside := v.inside - 1 }

end Valve

/-- A question that takes a while: whether an item may enter. It is asked over a state that it
shares with others. -/
structure WaitPredicate (ι ψ σ : Type) where
  /-- The first phase of the wait for an item, which should not take longer than a timeout. -/
  start : ι → (timeout : Nat) → ψ
  step : (now task : Nat) → ψ → σ → Option (Progress ψ σ)
  alarms : ψ → List Nat
  verdict? : ψ → Option Bool
  /-- Gives the wait up in a phase where it has to wait. -/
  cancel : (task : Nat) → ψ → σ → σ

def WaitPredicate.fixed {ι σ : Type} (verdict : Bool) : WaitPredicate ι Unit σ where
  start _ _ := ()
  step _ _ _ _ := none
  alarms _ := []
  verdict? _ := some verdict
  cancel _ _ s := s

end PoliteCrawl
