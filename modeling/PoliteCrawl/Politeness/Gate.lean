import PoliteCrawl.Time.Clock

namespace PoliteCrawl

structure FetchGate where
  minInterval : Nat
  lastGrant : Option Nat := none
  grants : Nat := 0
  deriving DecidableEq, Repr

namespace FetchGate

/-- How long the gate stays shut; `none` if it is open. Before the last grant it counts as if no
time had passed since. -/
def untilOpen (g : FetchGate) (now : Nat) : Option Nat :=
  match g.lastGrant with
  | none => none
  | some last => if g.minInterval ≤ now - last then none else some (g.minInterval - (now - last))

def grant (g : FetchGate) (now : Nat) : FetchGate :=
  { g with lastGrant := some now, grants := g.grants + 1 }

/-- Raises the minimum interval; it is never lowered. -/
def raise (g : FetchGate) (interval : Nat) : FetchGate :=
  { g with minInterval := max g.minInterval interval }

def raises (g : FetchGate) (interval : Nat) : Bool := g.minInterval < interval

@[simp] theorem untilOpen_eq_none_iff {g : FetchGate} {now : Nat} :
    g.untilOpen now = none ↔ ∀ last ∈ g.lastGrant, g.minInterval ≤ now - last := by
  unfold untilOpen
  cases g.lastGrant <;> simp

/-- What is left of the interval runs down from the last grant on. -/
theorem untilOpen_eq_some_iff {g : FetchGate} {now wait : Nat} : g.untilOpen now = some wait ↔
    ∃ last ∈ g.lastGrant, 0 < wait ∧ max last now + wait = last + g.minInterval := by
  unfold untilOpen
  cases g.lastGrant with
  | none => simp
  | some last =>
    simp only [Option.mem_some_iff, exists_eq_left']
    split
    · simp only [reduceCtorEq, false_iff]
      omega
    · rw [Option.some.injEq]
      omega

end FetchGate

end PoliteCrawl
