import PoliteCrawl.Number.Decimal
import PoliteCrawl.Text.Hex
import PoliteCrawl.Toml.Node

namespace PoliteCrawl.Toml

/-- Digits with single low lines between them, without those; at least one. -/
def plainDigits? (isDigit : Char → Bool) : List Char → Option (List Char)
  | [] => none
  | [c] => if isDigit c then some [c] else none
  | c :: '_' :: rest => if isDigit c then (plainDigits? isDigit rest).map (c :: ·) else none
  | c :: rest => if isDigit c then (plainDigits? isDigit rest).map (c :: ·) else none

def inRange (n : Int) : Bool := -(2 ^ 63) ≤ n && n < 2 ^ 63

def baseInteger? (base : Nat) (digits : List Char) : Option Node := do
  let isDigit (c : Char) : Bool := (Text.Hex.value? c).any (· < base)
  let plain ← plainDigits? isDigit digits
  let n := plain.foldl (fun acc c => acc * base + (Text.Hex.value? c).getD 0) 0
  if inRange n then some (.integer n) else none

def takeSign : List Char → Bool × List Char
  | '-' :: rest => (true, rest)
  | '+' :: rest => (false, rest)
  | rest => (false, rest)

def wholeDigits? (cs : List Char) : Option (List Char) :=
  match plainDigits? Char.isDigit cs with
  | some ['0'] => some ['0']
  | some ('0' :: _) => none
  | digits => digits

def decimalInteger? (cs : List Char) : Option Node := do
  let (negative, digits) := takeSign cs
  let n : Int := Decimal.natOf (← wholeDigits? digits)
  let n := if negative then -n else n
  if inRange n then some (.integer n) else none

def isExponentMark (c : Char) : Bool := c == 'e' || c == 'E'

/-- A float with a fraction, an exponent or both. Beyond the largest one only a negative one is
accepted. -/
def float? (cs : List Char) : Option Node := do
  let (negative, unsigned) := takeSign cs
  if unsigned = "inf".toList ∨ unsigned = "nan".toList then return .float
  let mantissa := unsigned.takeWhile (!isExponentMark ·)
  let whole ← wholeDigits? (mantissa.takeWhile (· ≠ '.'))
  let fraction ← match mantissa.dropWhile (· ≠ '.') with
    | [] => some []
    | _ :: digits => plainDigits? Char.isDigit digits
  let (exponentNegative, exponent) ← match unsigned.dropWhile (!isExponentMark ·) with
    | [] => if mantissa.contains '.' then some (false, []) else none
    | _ :: signed =>
      let (s, digits) := takeSign signed
      (plainDigits? Char.isDigit digits).map fun digits => (s, digits)
  let e : Int := Decimal.natOf exponent
  let k := (if exponentNegative then -e else e) - fraction.length
  if Decimal.nearest negative (Decimal.natOf (whole ++ fraction)) k = .infinite false then none
  else some .float

def pair? (low high : Nat) (cs : List Char) : Option Nat :=
  if cs.length = 2 ∧ cs.all Char.isDigit ∧ low ≤ Decimal.natOf cs ∧ Decimal.natOf cs ≤ high then
    some (Decimal.natOf cs)
  else none

def daysIn (year month : Nat) : Nat :=
  if month = 2 then
    if year % 4 = 0 ∧ (year % 100 ≠ 0 ∨ year % 400 = 0) then 29 else 28
  else if month ∈ [4, 6, 9, 11] then 30
  else 31

def isDate (cs : List Char) : Bool :=
  let year := cs.take 4
  match pair? 1 12 ((cs.drop 5).take 2) with
  | some month =>
    cs.length = 10 && year.all Char.isDigit && cs[4]? = some '-' && cs[7]? = some '-' &&
      (pair? 1 (daysIn (Decimal.natOf year) month) (cs.drop 8)).isSome
  | none => false

def afterTime? (cs : List Char) : Option (List Char) :=
  let clock := cs.take 8
  if clock.length = 8 ∧ (pair? 0 23 (clock.take 2)).isSome ∧ clock[2]? = some ':' ∧
      (pair? 0 59 ((clock.drop 3).take 2)).isSome ∧ clock[5]? = some ':' ∧
      (pair? 0 60 (clock.drop 6)).isSome then
    match cs.drop 8 with
    | '.' :: rest =>
      if (rest.head?.any Char.isDigit) then some (rest.dropWhile Char.isDigit) else none
    | rest => some rest
  else none

def isOffset (cs : List Char) : Bool :=
  match cs with
  | [] | ['Z'] | ['z'] => true
  | sign :: rest =>
    (sign == '+' || sign == '-') && rest.length == 5 && (pair? 0 23 (rest.take 2)).isSome &&
      rest[2]? == some ':' && (pair? 0 59 (rest.drop 3)).isSome

def isTimed (cs : List Char) : Bool := ((afterTime? cs).map isOffset).getD false

def moment? (cs : List Char) : Option Node :=
  let date := cs.take 10
  let dated := isDate date && match cs.drop 10 with
    | [] => true
    | mark :: time => (mark == 'T' || mark == 't') && isTimed time
  if dated || afterTime? cs = some [] then some .moment else none

def ofWord? (word : List Char) : Option Node :=
  if word = "true".toList then some (.bool true)
  else if word = "false".toList then some (.bool false)
  else match word with
    | '0' :: 'x' :: digits => baseInteger? 16 digits
    | '0' :: 'o' :: digits => baseInteger? 8 digits
    | '0' :: 'b' :: digits => baseInteger? 2 digits
    | word => (decimalInteger? word).or ((float? word).or (moment? word))

end PoliteCrawl.Toml
