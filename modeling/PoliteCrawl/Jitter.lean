import PoliteCrawl.Time.Clock

namespace PoliteCrawl

/-- A 64-bit counter whose steps are hashed by one 128-bit multiplication. -/
structure Jitter where
  state : UInt64

namespace Jitter

def seeded (seed : UInt64) : Jitter := ⟨seed⟩

def next (j : Jitter) : UInt64 × Jitter :=
  let s := j.state + 0x2d358dccaa6c78a5
  let t := s.toNat * (s ^^^ 0x8bb84b93962eacc9).toNat
  (UInt64.ofNat t ^^^ UInt64.ofNat (t / 2 ^ 64), ⟨s⟩)

/-- A number below `n`, by products whose low half is at least `threshold`. -/
def below (n threshold : Nat) : (fuel : Nat) → Jitter → Nat × Jitter
  | 0, j => (0, j)
  | fuel + 1, j =>
    let (r, j) := j.next
    let product := r.toNat * n
    if product % 2 ^ 64 < threshold then below n threshold fuel j else (product / 2 ^ 64, j)

/-- A number from zero to `m`. The first product is only tested against the threshold when its low
half is below `m + 1`, as the threshold itself always is; the counter passes through each of its
`2 ^ 64` states before one comes back, which bounds the draws. -/
def upTo (m : Nat) (j : Jitter) : Nat × Jitter :=
  if m ≥ 2 ^ 64 - 1 then
    let (r, j) := j.next
    (r.toNat, j)
  else below (m + 1) ((2 ^ 64 - (m + 1)) % (m + 1)) (2 ^ 64) j

/-- A random offset of whole milliseconds, at most `most`; nothing is drawn for less than one. -/
def offset (j : Jitter) (most : Nat) : Nat × Jitter :=
  let millis := min (Time.wholeMillis most) (2 ^ 64 - 1)
  if millis = 0 then (0, j)
  else
    let (n, j) := j.upTo millis
    (Time.ofMillis n, j)

def around (j : Jitter) (base spread : Nat) : Nat × Jitter :=
  let (d, j) := j.offset spread
  (Time.saturatingAdd base d, j)

end Jitter

end PoliteCrawl
