import PoliteCrawl.Cache.Recency

namespace PoliteCrawl

/-- Chooses which key goes first. -/
class EvictionPolicy (P : Type) (K : outParam Type) where
  touch : P → K → P
  remove : P → K → P
  /-- Takes out the key that goes next. -/
  victim : P → Option K × P
  /-- The keys the policy follows, at least as many as it can still name as victims. -/
  tracked : P → List K

instance {K : Type} [BEq K] [Hashable K] : EvictionPolicy (RecencyIndex K) K where
  touch := RecencyIndex.touch
  remove r k := (r.remove k).2
  victim := RecencyIndex.pop
  tracked := RecencyIndex.toList

structure BoundedCache (K V P : Type) [BEq K] [Hashable K] where
  capacity : Nat
  entries : Std.HashMap K V := ∅
  policy : P
  capacity_pos : 0 < capacity

/-- What a look-up found or made, and what had to go for it. -/
structure BoundedCache.Lookup (K V : Type) where
  value : V
  created : Bool
  evicted : Option (K × V)

namespace BoundedCache

variable {K V P : Type} [BEq K] [Hashable K] [EvictionPolicy P K]

/-- An empty cache; a capacity of zero counts as one. -/
def empty (capacity : Nat) (policy : P) : BoundedCache K V P where
  capacity := max capacity 1
  policy := policy
  capacity_pos := by omega

/-- Removes victims until the capacity is kept or the policy names none. The last victim that was
in the map is reported. -/
def shrink (capacity : Nat) : (fuel : Nat) → Std.HashMap K V → P → Option (K × V) →
    Std.HashMap K V × P × Option (K × V)
  | 0, entries, policy, evicted => (entries, policy, evicted)
  | fuel + 1, entries, policy, evicted =>
    if entries.size ≤ capacity then (entries, policy, evicted)
    else match EvictionPolicy.victim policy with
      | (none, policy) => (entries, policy, evicted)
      | (some k, policy) =>
        match entries[k]? with
        | some v => shrink capacity fuel (entries.erase k) policy (some (k, v))
        -- the policy named a key that had gone already
        | none => shrink capacity fuel entries policy evicted

/-- The value of a key, made if there is none. Either way the key counts as used. -/
def getOrCreate (c : BoundedCache K V P) (k : K) (make : V) : Lookup K V × BoundedCache K V P :=
  let policy := EvictionPolicy.touch c.policy k
  match c.entries[k]? with
  | some v => (⟨v, false, none⟩, { c with policy })
  | none =>
    -- room is made with the new entry in the map, so that it can be the one to go
    let (entries, policy, evicted) := shrink c.capacity (EvictionPolicy.tracked policy).length
      (c.entries.insert k make) policy none
    (⟨make, true, evicted⟩, { c with entries, policy })

/-- The value of a key; this is no use of it. -/
def peek (c : BoundedCache K V P) (k : K) : Option V := c.entries[k]?

def evict (c : BoundedCache K V P) (k : K) : Option V × BoundedCache K V P :=
  (c.entries[k]?,
    { c with entries := c.entries.erase k, policy := EvictionPolicy.remove c.policy k })

def contains (c : BoundedCache K V P) (k : K) : Bool := c.entries.contains k

def size (c : BoundedCache K V P) : Nat := c.entries.size

end BoundedCache

/-- A cache whose least recently used entry goes first. -/
abbrev LruCache (K V : Type) [BEq K] [Hashable K] := BoundedCache K V (RecencyIndex K)

namespace LruCache

variable {K V : Type} [BEq K] [Hashable K]

def empty (capacity : Nat) : LruCache K V := BoundedCache.empty capacity {}

def keysByRecency (c : LruCache K V) : List K := c.policy.toList

end LruCache

end PoliteCrawl
