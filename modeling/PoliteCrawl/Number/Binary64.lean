import PoliteCrawl.Number.Power

namespace PoliteCrawl

/-- A finite number is `± significand · 2 ^ exponent`. As rounding leaves it, the significand is
below `2 ^ 53`, the exponent is from -1074 to 971, and the significand is at least `2 ^ 52` unless
the exponent is -1074. -/
inductive Binary64 where
  | nan
  | infinite (negative : Bool)
  | finite (negative : Bool) (significand : Nat) (exponent : Int)
  deriving DecidableEq, Repr, Inhabited

namespace Binary64

/-- The quotient rounded to the nearest integer, a half to the even one. -/
def roundQuotient (num den : Nat) : Nat :=
  let q := num / den
  let r := num % den
  if 2 * r < den then q
  else if den < 2 * r then q + 1
  else if q % 2 = 0 then q else q + 1

/-- The integer `e` with `2 ^ e ≤ num / den < 2 ^ (e + 1)`, for positive numbers. -/
def scaleOf (num den : Nat) : Int :=
  let guess : Int := (num.log2 : Int) - (den.log2 : Int)
  let reached := if guess ≥ 0 then den * 2 ^ guess.toNat ≤ num else den ≤ num * 2 ^ (-guess).toNat
  if reached then guess else guess - 1

def scaled (num den : Nat) (e : Int) : Nat × Nat :=
  if e ≥ 0 then (num, den * 2 ^ e.toNat) else (num * 2 ^ (-e).toNat, den)

def ofRatio (negative : Bool) (num den : Nat) : Binary64 :=
  if num = 0 ∨ den = 0 then finite negative 0 (-1074)
  else
    let e := max (scaleOf num den - 52) (-1074)
    let (n, d) := scaled num den e
    let m := roundQuotient n d
    let (m, e) := if m = 2 ^ 53 then (2 ^ 52, e + 1) else (m, e)
    if e > 971 then infinite negative else finite negative m e

def ofNat (n : Nat) : Binary64 := ofRatio false n 1

def ratio (significand : Nat) (exponent : Int) : Nat × Nat :=
  if exponent ≥ 0 then (significand * 2 ^ exponent.toNat, 1)
  else (significand, 2 ^ (-exponent).toNat)

def neg : Binary64 → Binary64
  | nan => nan
  | infinite s => infinite !s
  | finite s m e => finite (!s) m e

def abs : Binary64 → Binary64
  | nan => nan
  | infinite _ => infinite false
  | finite _ m e => finite false m e

def isFinite : Binary64 → Bool
  | finite .. => true
  | _ => false

def mul : Binary64 → Binary64 → Binary64
  | nan, _ => nan
  | _, nan => nan
  | infinite s, infinite t => infinite (s != t)
  | infinite s, finite t m _ => if m = 0 then nan else infinite (s != t)
  | finite s m _, infinite t => if m = 0 then nan else infinite (s != t)
  | finite s m e, finite t n f =>
    let (p, q) := ratio (m * n) (e + f)
    ofRatio (s != t) p q

def div : Binary64 → Binary64 → Binary64
  | nan, _ => nan
  | _, nan => nan
  | infinite _, infinite _ => nan
  | infinite s, finite t _ _ => infinite (s != t)
  | finite s _ _, infinite t => finite (s != t) 0 (-1074)
  | finite s m e, finite t n f =>
    if n = 0 then (if m = 0 then nan else infinite (s != t))
    else
      let (p, q) := ratio m (e - f)
      ofRatio (s != t) p (q * n)

/-- The significand of a finite number when its exponent is lowered to `e`. -/
def aligned (negative : Bool) (significand : Nat) (exponent e : Int) : Int :=
  let m : Int := significand * 2 ^ (exponent - e).toNat
  if negative then -m else m

def add : Binary64 → Binary64 → Binary64
  | nan, _ => nan
  | _, nan => nan
  | infinite s, infinite t => if s = t then infinite s else nan
  | infinite s, finite .. => infinite s
  | finite .., infinite t => infinite t
  | finite s m e, finite t n f =>
    let low := min e f
    let sum := aligned s m e low + aligned t n f low
    if sum = 0 then finite (s && t) 0 (-1074)
    else
      let (p, q) := ratio sum.natAbs low
      ofRatio (sum < 0) p q

def sub (x y : Binary64) : Binary64 := add x (neg y)

/-- Whether one number is below another; nothing is below or above `nan`. -/
def lt : Binary64 → Binary64 → Bool
  | nan, _ => false
  | _, nan => false
  | infinite s, infinite t => s && !t
  | infinite s, finite .. => s
  | finite .., infinite t => !t
  | finite s m e, finite t n f =>
    let low := min e f
    aligned s m e low < aligned t n f low

instance : LT Binary64 := ⟨fun x y => lt x y = true⟩

instance (x y : Binary64) : Decidable (x < y) := inferInstanceAs (Decidable (lt x y = true))

/-- The integer nearest to the absolute value of a finite number, a half upwards. -/
def nearestNat : Binary64 → Nat
  | finite _ m e =>
    let (p, q) := ratio m e
    (2 * p + q) / (2 * q)
  | _ => 0

/-- The nearest integer, a half away from zero. -/
def round : Binary64 → Binary64
  | finite s m e => ofRatio s (finite s m e).nearestNat 1
  | x => x

def sum (xs : List Binary64) : Binary64 := xs.foldl add (finite true 0 (-1074))

def toBits : Binary64 → Nat
  | nan => 0x7ff8000000000000
  | infinite s => (if s then 2 ^ 63 else 0) + 0x7ff0000000000000
  | finite s m e =>
    (if s then 2 ^ 63 else 0) +
      (if m < 2 ^ 52 then m else (e + 1075).toNat * 2 ^ 52 + (m - 2 ^ 52))

end Binary64

end PoliteCrawl
