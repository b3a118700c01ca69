import PoliteCrawl.Number.Binary64

namespace PoliteCrawl.Decimal

def digitsOf (n : Nat) : List Char := Nat.toDigits 10 n

/-- The exponent `k` with `10 ^ (k - 1) ≤ num / den < 10 ^ k`, searched upwards from a guess that is
not above it. -/
def magnitude (num den : Nat) : Int :=
  let guess : Int := ((num.log2 : Int) - (den.log2 : Int) - 1) * 30103 / 100000 - 1
  search 8 guess
where
  reaches (k : Int) : Bool :=
    if k ≥ 0 then num < den * 10 ^ k.toNat else num * 10 ^ (-k).toNat < den
  search : Nat → Int → Int
    | 0, k => k
    | fuel + 1, k => if reaches k then k else search fuel (k + 1)

/-- The fewest digits `d` and the exponent `k` such that `d · 10 ^ k` reads back as the number
`significand · 2 ^ exponent`, the nearest such where several would do and the upper one of two that
are as near. -/
def shortest (significand : Nat) (exponent : Int) : Nat × Int :=
  -- The value and the ends of the interval that rounds to it, all over the same denominator.
  let (unit, den) := Binary64.ratio 1 (exponent - 2)
  let value := 4 * significand * unit
  let high := (4 * significand + 2) * unit
  let low := (if significand = 2 ^ 52 ∧ exponent > -1074 then 4 * significand - 1
    else 4 * significand - 2) * unit
  let closed := significand % 2 = 0
  let k := magnitude value den
  let reads (d : Nat) (e : Int) : Bool :=
    let (x, y) := if e ≥ 0 then (d * 10 ^ e.toNat * den, 1) else (d * den, 10 ^ (-e).toNat)
    if closed then low * y ≤ x && x ≤ high * y else low * y < x && x < high * y
  let rec search : Nat → Nat → Nat × Int
    | 0, n => (0, k - n)
    | fuel + 1, n =>
      let e := k - n
      let (num, unit) := if e ≥ 0 then (value, den * 10 ^ e.toNat) else (value * 10 ^ (-e).toNat, den)
      let down := num / unit
      let rest := num % unit
      match reads down e, reads (down + 1) e with
      | true, true => (if 2 * rest < unit then down else down + 1, e)
      | true, false => (down, e)
      | false, true => (down + 1, e)
      | false, false => search fuel (n + 1)
  search 17 1

def positional (d : Nat) (k : Int) : List Char :=
  let digits := digitsOf d
  if k ≥ 0 then digits ++ List.replicate k.toNat '0'
  else
    let places := (-k).toNat
    let digits := List.replicate (places + 1 - digits.length) '0' ++ digits
    digits.take (digits.length - places) ++ '.' :: digits.drop (digits.length - places)

/-- Trailing zeros of the digits go into the exponent. -/
def strip : (fuel : Nat) → Nat → Int → Nat × Int
  | 0, d, k => (d, k)
  | fuel + 1, d, k => if d ≠ 0 ∧ d % 10 = 0 then strip fuel (d / 10) (k + 1) else (d, k)

def shortestDigits (significand : Nat) (exponent : Int) : Nat × Int :=
  if significand = 0 then (0, 0)
  else
    let (d, k) := shortest significand exponent
    strip 20 d k

def sign (negative : Bool) (text : List Char) : List Char := if negative then '-' :: text else text

/-- The fewest digits that read back, never with an exponent: `0.00001`, `-0`, `NaN`, `inf`. -/
def plain : Binary64 → String
  | .nan => "NaN"
  | .infinite s => String.ofList (sign s "inf".toList)
  | .finite s m e =>
    let (d, k) := shortestDigits m e
    String.ofList (sign s (positional d k))

/-- The fewest digits that read back, with at least one place after the point, or with an exponent
below `0.0001` and from `10 ^ 16` on: `1.0`, `1e-5`. -/
def detailed : Binary64 → String
  | .nan => "NaN"
  | .infinite s => String.ofList (sign s "inf".toList)
  | .finite s m e =>
    let (d, k) := shortestDigits m e
    let digits := digitsOf d
    let leading := k + digits.length - 1
    if m ≠ 0 ∧ (leading < -4 ∨ leading ≥ 16) then
      let mantissa := match digits with
        | c :: c' :: cs => c :: '.' :: c' :: cs
        | cs => cs
      String.ofList (sign s (mantissa ++ 'e' :: (toString leading).toList))
    else
      let text := positional d k
      String.ofList (sign s (if text.contains '.' then text else text ++ ['.', '0']))

/-- A fixed number of places, the exact value rounded to them with a half to the even neighbour. -/
def fixed (places : Nat) : Binary64 → String
  | .nan => "NaN"
  | .infinite s => String.ofList (sign s "inf".toList)
  | .finite s m e =>
    let (p, q) := Binary64.ratio m e
    let d := Binary64.roundQuotient (p * 10 ^ places) q
    String.ofList (sign s (positional d (-places)))

/-- The number nearest to `± d · 10 ^ k`; far out of range the answer is known without computing
the power. -/
def nearest (negative : Bool) (d : Nat) (k : Int) : Binary64 :=
  let top := k + (digitsOf d).length
  if d = 0 ∨ top < -400 then .finite negative 0 (-1074)
  else if top > 400 then .infinite negative
  else if k ≥ 0 then Binary64.ofRatio negative (d * 10 ^ k.toNat) 1
  else Binary64.ofRatio negative d (10 ^ (-k).toNat)

def natOf (digits : List Char) : Nat := digits.foldl (fun acc c => acc * 10 + (c.toNat - 48)) 0

def signedOf? (cs : List Char) : Option Int :=
  let (negative, digits) := match cs with
    | '-' :: ds => (true, ds)
    | '+' :: ds => (false, ds)
    | ds => (false, ds)
  if digits ≠ [] ∧ digits.all Char.isDigit then
    some (if negative then -(natOf digits : Int) else natOf digits)
  else none

/-- Reads an unsigned decimal: digits with at most one point among them, at least one digit, then
perhaps an exponent. -/
def magnitudeOf? (negative : Bool) (cs : List Char) : Option Binary64 := do
  let whole := cs.takeWhile Char.isDigit
  let rest := cs.dropWhile Char.isDigit
  let (fraction, rest) := match rest with
    | '.' :: r => (r.takeWhile Char.isDigit, r.dropWhile Char.isDigit)
    | r => ([], r)
  guard (whole ++ fraction ≠ [])
  let exponent ← match rest with
    | [] => some 0
    | c :: r => if c = 'e' ∨ c = 'E' then signedOf? r else none
  return nearest negative (natOf (whole ++ fraction)) (exponent - fraction.length)

/-- Reads a decimal number: a sign, then `inf`, `infinity` or `nan` in any case, or digits. -/
def read? (s : String) : Option Binary64 :=
  let (negative, cs) := match s.toList with
    | '-' :: r => (true, r)
    | '+' :: r => (false, r)
    | r => (false, r)
  let word := cs.map Char.toLower
  if word = "inf".toList ∨ word = "infinity".toList then some (.infinite negative)
  else if word = "nan".toList then some .nan
  else magnitudeOf? negative cs

end PoliteCrawl.Decimal
