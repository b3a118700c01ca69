import PoliteCrawl.Number.Power

namespace PoliteCrawl.Time

def milli : Nat := 1000000

def second : Nat := 1000000000

def ofMillis (n : Nat) : Nat := n * milli

def ofSeconds (n : Nat) : Nat := n * second

/-- The longest duration there is: a nanosecond short of `2 ^ 64` seconds. -/
def longest : Nat := 2 ^ 64 * second - 1

def saturatingAdd (a b : Nat) : Nat := min (a + b) longest

def wholeMillis (d : Nat) : Nat := d / milli

/-- The first whole millisecond that is not before an instant: when a timer set for it rings. -/
def ringing (t : Nat) : Nat := (t + (milli - 1)) / milli

theorem le_ringing (t : Nat) : t ≤ ofMillis (ringing t) := by
  simp only [ofMillis, ringing, milli]
  omega

end PoliteCrawl.Time
