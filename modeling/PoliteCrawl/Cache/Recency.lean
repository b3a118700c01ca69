import Std.Data.HashMap
import Std.Data.TreeMap

namespace PoliteCrawl

structure RecencyIndex (K : Type) [BEq K] [Hashable K] where
  tickOf : Std.HashMap K Nat := ∅
  keyAt : Std.TreeMap Nat K := ∅
  nextTick : Nat := 0

namespace RecencyIndex

variable {K : Type} [BEq K] [Hashable K]

def touch (r : RecencyIndex K) (k : K) : RecencyIndex K :=
  -- the tick of the last use goes, so that no key has two
  let keyAt := match r.tickOf[k]? with
    | some tick => r.keyAt.erase tick
    | none => r.keyAt
  { tickOf := r.tickOf.insert k r.nextTick
    keyAt := keyAt.insert r.nextTick k
    nextTick := r.nextTick + 1 }

/-- Forgets a key; the first component tells whether it was in use. -/
def remove (r : RecencyIndex K) (k : K) : Bool × RecencyIndex K :=
  match r.tickOf[k]? with
  | some tick => (true, { r with tickOf := r.tickOf.erase k, keyAt := r.keyAt.erase tick })
  | none => (false, r)

/-- Takes out the key whose last use is longest ago. -/
def pop (r : RecencyIndex K) : Option K × RecencyIndex K :=
  match r.keyAt.minEntry? with
  | some (tick, k) =>
    (some k, { r with tickOf := r.tickOf.erase k, keyAt := r.keyAt.erase tick })
  | none => (none, r)

/-- The keys from the least to the most recent. -/
def toList (r : RecencyIndex K) : List K := r.keyAt.values

def size (r : RecencyIndex K) : Nat := r.tickOf.size

def isEmpty (r : RecencyIndex K) : Bool := r.tickOf.isEmpty

end RecencyIndex

end PoliteCrawl
