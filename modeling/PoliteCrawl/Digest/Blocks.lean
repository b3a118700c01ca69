import PoliteCrawl.Number.Power

namespace PoliteCrawl.Digest

/-- The lowest `width` bytes of a number, least significant first. -/
def bytesUp (width n : Nat) : List UInt8 :=
  (List.range width).map fun i => UInt8.ofNat (n / 256 ^ i)

/-- The lowest `width` bytes of a number, most significant first. -/
def bytesDown (width n : Nat) : List UInt8 := (bytesUp width n).reverse

def ofBytesDown (bytes : List UInt8) : Nat := bytes.foldl (fun acc b => acc * 256 + b.toNat) 0

/-- A one bit, zeros up to eight bytes short of a block, and the length in bits. -/
def pad (order : Nat → Nat → List UInt8) (message : List UInt8) : List UInt8 :=
  message ++ 0x80 :: List.replicate ((119 - message.length % 64) % 64) 0 ++
    order 8 (message.length * 8)

def chunks {α : Type} (n : Nat) (xs : List α) : List (List α) :=
  if _h : xs = [] ∨ n = 0 then [] else xs.take n :: chunks n (xs.drop n)
termination_by xs.length
decreasing_by
  have : xs.length ≠ 0 := fun e => _h (.inl (List.length_eq_zero_iff.mp e))
  simp only [List.length_drop]
  omega

/-- The blocks of a padded message, each as words of four bytes. -/
def blocks (word : List UInt8 → UInt32) (padded : List UInt8) : List (Array UInt32) :=
  (chunks 64 padded).map fun block => ((chunks 4 block).map word).toArray

end PoliteCrawl.Digest
