namespace PoliteCrawl.Text.Hex

def digit (n : Nat) : Char := ("0123456789abcdef".toList).getD n '0'

def digitUpper (n : Nat) : Char := ("0123456789ABCDEF".toList).getD n '0'

def value? (c : Char) : Option Nat :=
  let n := c.toNat
  if 0x30 ≤ n && n ≤ 0x39 then some (n - 0x30)
  else if 0x61 ≤ n && n ≤ 0x66 then some (n - 0x57)
  else if 0x41 ≤ n && n ≤ 0x46 then some (n - 0x37)
  else none

def isDigit (c : Char) : Bool := (value? c).isSome

theorem value?_digit {n : Nat} (h : n < 16) : value? (digit n) = some n := by
  have all : ∀ k ∈ List.range 16, value? (digit k) = some k := by decide
  exact all n (List.mem_range.mpr h)

/-- The lower `width` digits of a number, most significant first. -/
def ofNat : (width : Nat) → Nat → List Char
  | 0, _ => []
  | width + 1, n => ofNat width (n / 16) ++ [digit (n % 16)]

@[simp] theorem length_ofNat (width n : Nat) : (ofNat width n).length = width := by
  induction width generalizing n with
  | zero => rfl
  | succ w ih => simp [ofNat, ih]

/-- The number that digits of either case spell, if all of them are digits. -/
def toNat? (cs : List Char) : Option Nat :=
  cs.foldlM (fun acc c => (value? c).map (acc * 16 + ·)) 0

def encode (bytes : List UInt8) : List Char :=
  bytes.flatMap fun b => [digit (b.toNat / 16), digit (b.toNat % 16)]

/-- Refuses an odd number of characters and anything that is no digit. -/
def decode? : List Char → Option (List UInt8)
  | [] => some []
  | [_] => none
  | a :: b :: rest =>
    match value? a, value? b, decode? rest with
    | some hi, some lo, some tail => some (UInt8.ofNat (hi * 16 + lo) :: tail)
    | _, _, _ => none

end PoliteCrawl.Text.Hex
