namespace PoliteCrawl.Url.Punycode

def digitChar (d : Nat) : Char :=
  if d < 26 then Char.ofNat (0x61 + d) else Char.ofNat (0x30 + (d - 26))

def digitValue? (c : Char) : Option Nat :=
  let n := c.toNat
  if 0x61 ≤ n ∧ n ≤ 0x7a then some (n - 0x61)
  else if 0x41 ≤ n ∧ n ≤ 0x5a then some (n - 0x41)
  else if 0x30 ≤ n ∧ n ≤ 0x39 then some (n - 0x30 + 26)
  else none

/-- The digit at place `k` ends a number if it is below this. -/
def threshold (bias k : Nat) : Nat := min 26 (max 1 (k - bias))

theorem threshold_le (bias k : Nat) : threshold bias k ≤ 26 := by
  simp only [threshold]
  omega

theorem threshold_pos (bias k : Nat) : 0 < threshold bias k := by
  simp only [threshold]
  omega

/-- Divides until the difference is small, counting the divisions by 36 for each. -/
def damp (delta k : Nat) : Nat × Nat :=
  if 455 < delta then damp (delta / 35) (k + 36) else (delta, k)
termination_by delta
decreasing_by exact Nat.div_lt_self (by omega) (by omega)

def adapt (delta points : Nat) (first : Bool) : Nat :=
  let delta := if first then delta / 700 else delta / 2
  let (delta, k) := damp (delta + delta / points) 0
  k + 36 * delta / (delta + 38)

def readDelta (bias : Nat) : (place weight total : Nat) → List Char → Option (Nat × List Char)
  | _, _, _, [] => none
  | place, weight, total, c :: cs =>
    match digitValue? c with
    | none => none
    | some d =>
      let t := threshold bias place
      if d < t then some (total + d * weight, cs)
      else readDelta bias (place + 36) (weight * (36 - t)) (total + d * weight) cs

def decodeFrom : (fuel : Nat) → (out : List Char) → (position code bias : Nat) → List Char →
    Option (List Char)
  | _, out, _, _, _, [] => some out
  | 0, _, _, _, _, _ :: _ => none
  | fuel + 1, out, position, code, bias, digits =>
    match readDelta bias 36 1 0 digits with
    | none => none
    | some (delta, rest) =>
      let count := out.length + 1
      let code := code + (position + delta) / count
      let place := (position + delta) % count
      if code.isValidChar then
        decodeFrom fuel (out.insertIdx place (Char.ofNat code)) (place + 1) code
          (adapt delta count (out.all (·.toNat < 0x80) && position == 0)) rest
      else none

def decode? (text : List Char) : Option (List Char) :=
  let digits := (text.reverse.takeWhile (· ≠ '-')).reverse
  let basic := text.take (text.length - digits.length - 1)
  if digits.length = text.length then decodeFrom text.length [] 0 128 72 text
  else if basic = [] then none
  else decodeFrom text.length basic 0 128 72 digits

def writeDelta (bias place delta : Nat) : List Char :=
  let t := threshold bias place
  if delta < t then [digitChar delta]
  else digitChar (t + (delta - t) % (36 - t)) ::
    writeDelta bias (place + 36) ((delta - t) / (36 - t))
termination_by delta
decreasing_by
  have h₁ := threshold_pos bias place
  have h₂ := threshold_le bias place
  exact Nat.lt_of_le_of_lt (Nat.div_le_self _ _) (by omega)

structure Progress where
  out : List Char
  delta : Nat
  bias : Nat
  written : Nat

def writeChar (basic code : Nat) (p : Progress) (c : Char) : Progress :=
  if c.toNat < code then { p with delta := p.delta + 1 }
  else if c.toNat = code then
    { out := p.out ++ writeDelta p.bias 36 p.delta
      delta := 0
      bias := adapt p.delta (p.written + 1) (p.written == basic)
      written := p.written + 1 }
  else p

/-- Writes the code points of the list, which is in rising order, wherever they occur. -/
def writeCodes (label : List Char) (basic : Nat) : (least : Nat) → List Nat → Progress → Progress
  | _, [], p => p
  | least, code :: codes, p =>
    let p := label.foldl (writeChar basic code)
      { p with delta := p.delta + (code - least) * (p.written + 1) }
    writeCodes label basic (code + 1) codes { p with delta := p.delta + 1 }

/-- The ASCII characters of a label, and the others behind them as differences in digits of base 36.
-/
def encode (label : List Char) : List Char :=
  let basic := label.filter (·.toNat < 0x80)
  let codes := ((label.map Char.toNat).filter (0x80 ≤ ·)).mergeSort.eraseDups
  let p := writeCodes label basic.length 128 codes ⟨[], 0, 72, basic.length⟩
  if basic = [] then p.out else basic ++ '-' :: p.out

end PoliteCrawl.Url.Punycode
