import PoliteCrawl.Text.Blank
import PoliteCrawl.Text.Hex

namespace PoliteCrawl.Unicode

structure Runs (α : Type) where
  starts : Array (Nat × α)

namespace Runs

variable {α : Type}

/-- The number of runs that begin at `n` or before, if it is at least `low` and below `high`. -/
def bisect (starts : Array (Nat × α)) (n low high : Nat) : Nat :=
  if low + 1 < high then
    let mid := (low + high) / 2
    match starts[mid - 1]? with
    | some (start, _) => if start ≤ n then bisect starts n mid high else bisect starts n low mid
    | none => low
  else low
termination_by high - low
decreasing_by all_goals omega

def rank (r : Runs α) (n : Nat) : Nat := bisect r.starts n 0 (r.starts.size + 1)

def find? (r : Runs α) (n : Nat) : Option (Nat × α) :=
  match r.rank n with
  | 0 => none
  | k + 1 => r.starts[k]?

end Runs

def entriesOf (text : String) : List (List Char) :=
  (Text.splitOnEach ' ' (text.toList.map fun c => if c = '\n' then ' ' else c)).filter (· ≠ [])

def hexOf (cs : List Char) : Nat := (Text.Hex.toNat? cs).getD 0

def charsOf (cs : List Char) : List Char :=
  (Text.splitOnEach '_' cs).map fun piece => Char.ofNat (hexOf piece)

/-- Runs from a table's text, given what an entry's mark and the rest of it stand for. -/
def Runs.parse {α : Type} (value : Char → List Char → α) (text : String) : Runs α where
  starts := ((entriesOf text).map fun entry =>
    let digits := entry.takeWhile Text.Hex.isDigit
    match entry.dropWhile Text.Hex.isDigit with
    | mark :: rest => (hexOf digits, value mark rest)
    | [] => (hexOf digits, value ' ' [])).toArray

/-- A set of code points from where its runs begin and end by turns. -/
def toggles (text : String) : Runs Unit := Runs.parse (fun _ _ => ()) text

def Runs.contains (r : Runs Unit) (c : Char) : Bool := r.rank c.toNat % 2 == 1

end PoliteCrawl.Unicode
