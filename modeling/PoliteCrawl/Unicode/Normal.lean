import PoliteCrawl.Unicode.NormalTable
import PoliteCrawl.Unicode.Runs
import Std.Data.HashMap

namespace PoliteCrawl.Unicode

-- The tables hash characters as core does.
attribute [local instance (high)] instHashableChar

def combiningTable : Runs Nat :=
  Runs.parse (fun _ rest => rest.foldl (fun acc c => acc * 10 + (c.toNat - 48)) 0) combiningRuns

def combiningClass (c : Char) : Nat := ((combiningTable.find? c.toNat).map (·.2)).getD 0

/-- A table entry: the character, whether it is composed again, and its decomposition. -/
def decompositionEntries : List (Char × Bool × List Char) :=
  (entriesOf decompositions).filterMap fun entry =>
    let c := Char.ofNat (hexOf (entry.takeWhile Text.Hex.isDigit))
    match entry.dropWhile Text.Hex.isDigit with
    | mark :: rest => some (c, mark = ':', charsOf rest)
    | [] => none

def decompositionTable : Std.HashMap Char (List Char) :=
  .ofList (decompositionEntries.map fun (c, _, parts) => (c, parts))

def compositionTable : Std.HashMap (Char × Char) Char :=
  .ofList (decompositionEntries.filterMap fun (c, again, parts) =>
    match again, parts with
    | true, [a, b] => some ((a, b), c)
    | _, _ => none)

namespace Hangul

def syllables : Nat := 0xac00

def leads : Nat := 0x1100

def vowels : Nat := 0x1161

/-- One before the first trailing consonant, for the syllables that have none. -/
def trails : Nat := 0x11a7

def decompose? (c : Char) : Option (List Char) :=
  let n := c.toNat - syllables
  if syllables ≤ c.toNat ∧ n < 11172 then
    let lead := Char.ofNat (leads + n / 588)
    let vowel := Char.ofNat (vowels + n % 588 / 28)
    some (if n % 28 = 0 then [lead, vowel] else [lead, vowel, Char.ofNat (trails + n % 28)])
  else none

def compose? (a b : Char) : Option Char :=
  let l := a.toNat - leads
  let v := b.toNat - vowels
  let s := a.toNat - syllables
  let t := b.toNat - trails
  if leads ≤ a.toNat ∧ l < 19 ∧ vowels ≤ b.toNat ∧ v < 21 then
    some (Char.ofNat (syllables + (l * 21 + v) * 28))
  else if syllables ≤ a.toNat ∧ s < 11172 ∧ s % 28 = 0 ∧ trails < b.toNat ∧ t < 28 then
    some (Char.ofNat (a.toNat + t))
  else none

end Hangul

/-- The full decomposition of a character. No chain of steps in the table is longer than four. -/
def decomposeChar : (fuel : Nat) → Char → List Char
  | 0, c => [c]
  | fuel + 1, c =>
    match Hangul.decompose? c with
    | some parts => parts
    | none =>
      match decompositionTable[c]? with
      | some parts => parts.flatMap (decomposeChar fuel)
      | none => [c]

/-- Puts a mark before the marks of a higher class that end the reversed text. -/
def insertMark (c : Char) (k : Nat) : List Char → List Char
  | [] => [c]
  | d :: ds => if combiningClass d > k then d :: insertMark c k ds else c :: d :: ds

def orderMarks (cs : List Char) : List Char :=
  (cs.foldl (fun acc c =>
    let k := combiningClass c
    if k = 0 then c :: acc else insertMark c k acc) []).reverse

def compose? (a b : Char) : Option Char := Hangul.compose? a b <|> compositionTable[(a, b)]?

/-- Composes from left to right. Kept are the last starter, the marks after it that found no
partner, reversed, and what is finished, reversed. A mark is blocked by a mark of its class or a
higher one in between. -/
def composeFrom (done : List Char) (starter : Option Char) (marks : List Char) :
    List Char → List Char
  | [] => (marks ++ starter.toList ++ done).reverse
  | c :: cs =>
    let k := combiningClass c
    let blocked := match marks with
      | [] => false
      | m :: _ => combiningClass m ≥ k
    match starter.bind (fun s => if blocked then none else compose? s c) with
    | some composed => composeFrom done (some composed) marks cs
    | none =>
      if k = 0 then composeFrom (marks ++ starter.toList ++ done) (some c) [] cs
      else composeFrom done starter (c :: marks) cs

def compose (cs : List Char) : List Char :=
  composeFrom [] none [] (orderMarks (cs.flatMap (decomposeChar 4)))

end PoliteCrawl.Unicode
