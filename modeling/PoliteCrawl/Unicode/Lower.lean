import PoliteCrawl.Unicode.CaseTable
import PoliteCrawl.Unicode.Runs

namespace PoliteCrawl.Unicode

/-- A run of code points with lower-case forms, up to its last one. -/
inductive LowerForm where
  | shifted (last target : Nat)
  | alternating (last : Nat)
  | expanded (last : Nat) (form : List Char)

def LowerForm.ofEntry (rest : List Char) : LowerForm :=
  let last := hexOf (rest.takeWhile Text.Hex.isDigit)
  match rest.dropWhile Text.Hex.isDigit with
  | '>' :: value => .shifted last (hexOf value)
  | ':' :: value => .expanded last (charsOf value)
  | _ => .alternating last

def lowerTable : Runs LowerForm := Runs.parse (fun _ rest => .ofEntry rest) lowerRuns

def casedTable : Runs Unit := toggles casedToggles

def ignorableTable : Runs Unit := toggles ignorableToggles

def lowerChar (c : Char) : List Char :=
  let n := c.toNat
  match lowerTable.find? n with
  | some (first, .shifted last target) =>
    if n ≤ last then [Char.ofNat (target + (n - first))] else [c]
  | some (first, .alternating last) =>
    if n ≤ last ∧ (n - first) % 2 = 0 then [Char.ofNat (n + 1)] else [c]
  | some (_, .expanded last form) => if n ≤ last then form else [c]
  | none => [c]

/-- Whether the first character that is not case-ignorable is cased. -/
def casedAhead (cs : List Char) : Bool :=
  match cs.dropWhile ignorableTable.contains with
  | c :: _ => casedTable.contains c
  | [] => false

/-- The lower-case form of a text, given the characters before it in reverse. -/
def lowerFrom (before : List Char) : List Char → List Char
  | [] => []
  | c :: cs =>
    -- a capital sigma that ends a word: the only form that depends on what is around it
    let form := if c = 'Σ' ∧ casedAhead before ∧ ¬ casedAhead cs then ['ς'] else lowerChar c
    form ++ lowerFrom (c :: before) cs

def lower (s : String) : String := String.ofList (lowerFrom [] s.toList)

end PoliteCrawl.Unicode
