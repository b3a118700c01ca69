import PoliteCrawl.Keyspace.Error
import PoliteCrawl.Keyspace.Hash

namespace PoliteCrawl

structure HashRange where
  min : KeyHash
  max : KeyHash
  min_le_max : min ≤ max

namespace HashRange

instance : DecidableEq HashRange := fun a b =>
  decidable_of_iff (a.min = b.min ∧ a.max = b.max) <| by
    cases a; cases b; simp

def full : HashRange := ⟨.least, .greatest, KeyHash.le_greatest _⟩

def between (min max : KeyHash) : Except KeyspaceError HashRange :=
  if h : min ≤ max then .ok ⟨min, max, h⟩ else .error (.invalidRange min.text max.text)

def contains (r : HashRange) (a : KeyHash) : Bool := r.min ≤ a && a ≤ r.max

@[simp] theorem contains_iff {r : HashRange} {a : KeyHash} :
    r.contains a = true ↔ r.min ≤ a ∧ a ≤ r.max := by
  simp [contains]

/-- The distance from the first hash to the last. -/
def width (r : HashRange) : Nat := r.max.toNat - r.min.toNat

def coverage (r : HashRange) : Binary64 :=
  (Binary64.ofNat r.width).div (Binary64.ofNat full.width)

def text (r : HashRange) : String := s!"{r.min.text} to {r.max.text}"

def readHash (s : String) : Except KeyspaceError KeyHash :=
  match KeyHash.read? s with
  | some a => .ok a
  | none => .error (.invalidHash s)

/-- The range between two hashes given as text; the lower is read first. -/
def ofTexts (min max : String) : Except KeyspaceError HashRange := do
  between (← readHash min) (← readHash max)

/-- Reads `MIN..MAX`; the first two points in a row separate the bounds. -/
def read (s : String) : Except KeyspaceError HashRange :=
  match Text.splitOnce ['.', '.'] s.toList with
  | some (min, max) => ofTexts (String.ofList min) (String.ofList max)
  | none => .error (.invalidHash s)

end HashRange

end PoliteCrawl
