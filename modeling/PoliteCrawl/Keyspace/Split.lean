import PoliteCrawl.Keyspace.Range

namespace PoliteCrawl

namespace Weight

def whole : Nat := 10000

def wholeFloat : Binary64 := .ofNat whole

/-- How far ten thousand times a weight may be from an integer. -/
def tolerance : Binary64 := .ofRatio false 1 1000000

/-- The basis points of a weight: a number above zero, not above one, within the tolerance of a
whole number of basis points, which must be at least one. -/
def basisPoints? (w : Binary64) : Option Nat :=
  if w.isFinite ∧ Binary64.ofNat 0 < w ∧ ¬ Binary64.ofNat 1 < w then
    let scaled := w.mul wholeFloat
    let rounded := scaled.round
    if tolerance < (scaled.sub rounded).abs ∨ rounded < Binary64.ofNat 1 then none
    else some rounded.nearestNat
  else none

def basisPoints (w : Binary64) : Except KeyspaceError Nat :=
  match basisPoints? w with
  | some n => .ok n
  | none => .error (.invalidWeight w)

def ofBasisPoints (n : Nat) : Binary64 := (Binary64.ofNat n).div wholeFloat

/-- As many basis points for each of `count` parts, and what is left over for the last as well. -/
def equalPoints (count : Nat) : List Nat :=
  match count with
  | 0 => []
  | rest + 1 => List.replicate rest (whole / count) ++ [whole / count + whole % count]

/-- Weights of `count` equal parts. Above ten thousand of them the weights are none that a split
accepts. -/
def equal (count : Nat) : List Binary64 := (equalPoints count).map ofBasisPoints

end Weight

namespace HashRange

/-- `value * points / whole` for at most `whole` points, in steps that never exceed `value`. -/
def scale (value points : Nat) : Nat :=
  value / Weight.whole * points + value % Weight.whole * points / Weight.whole

/-- Where a part ends whose basis points and those of the parts before it add up to `points`. -/
def cut (r : HashRange) (points : Nat) : Nat := r.min.toNat + scale r.width points

def ofNats? (min max : Nat) : Option HashRange :=
  if h : min ≤ max ∧ max < 2 ^ 128 then
    some ⟨⟨min, Nat.lt_of_le_of_lt h.1 h.2⟩, ⟨max, h.2⟩, h.1⟩
  else none

/-- The parts from `start` on, given the ends of all but the last; `none` if one would be empty. -/
def partsFrom (start : Nat) (ends : List Nat) (last : Nat) : Option (List HashRange) :=
  match ends with
  | [] => (ofNats? start last).map ([·])
  | e :: ends =>
    match ofNats? start e, partsFrom (e + 1) ends last with
    | some part, some parts => some (part :: parts)
    | _, _ => none

def runningSums (total : Nat) : List Nat → List Nat
  | [] => []
  | n :: ns => (total + n) :: runningSums (total + n) ns

def splitPoints (r : HashRange) (points : List Nat) : Option (List HashRange) :=
  -- the last part ends where the range does, whatever its cut is
  partsFrom r.min.toNat ((runningSums 0 points).dropLast.map r.cut) r.max.toNat

/-- Splits the range into contiguous parts sized by the weights, which must make up the whole
exactly. Each part starts right after the one before it and the last ends where the range does. -/
def split (r : HashRange) (weights : List Binary64) : Except KeyspaceError (List HashRange) := do
  if weights = [] then throw .noWeights
  let points ← weights.mapM Weight.basisPoints
  if points.foldl (· + ·) 0 ≠ Weight.whole then throw (.weightsDoNotSumToOne (Binary64.sum weights))
  match r.splitPoints points with
  | some parts => return parts
  | none => throw (.rangeTooNarrow points.length)

def owner? (parts : List HashRange) (a : KeyHash) : Option Nat :=
  parts.findIdx? (·.contains a)

end HashRange

end PoliteCrawl
