import PoliteCrawl.Json.Quoted
import PoliteCrawl.Number.Decimal

namespace PoliteCrawl.Json

inductive Token where
  | openObject
  | closeObject
  | openArray
  | closeArray
  | colon
  | comma
  /-- A quoted text; `none` if it holds half of a surrogate pair alone. -/
  | text (value : Option String)
  /-- Digits alone: no sign, fraction or exponent. -/
  | natural (n : Nat)
  | number
  | bool (b : Bool)
  | null
  deriving DecidableEq, Repr

def isSpace (c : Char) : Bool := c == ' ' || c == '\n' || c == '\t' || c == '\r'

def takeDigits? (cs : List Char) : Option (List Char × List Char) :=
  match cs.takeWhile Char.isDigit with
  | [] => none
  | digits => some (digits, cs.dropWhile Char.isDigit)

def skipFraction? : List Char → Option (List Char)
  | '.' :: rest => (takeDigits? rest).map (·.2)
  | cs => some cs

def skipExponent? : List Char → Option (List Char)
  | 'e' :: rest | 'E' :: rest =>
    let rest := match rest with
      | '+' :: r | '-' :: r => r
      | r => r
    (takeDigits? rest).map (·.2)
  | cs => some cs

/-- A number token and what follows it. No digit follows a leading zero. -/
def readNumber? (cs : List Char) : Option (Token × List Char) := do
  let (negative, unsigned) := match cs with
    | '-' :: rest => (true, rest)
    | rest => (false, rest)
  let (digits, rest) ← match unsigned with
    | '0' :: rest => some (['0'], rest)
    | rest => takeDigits? rest
  let after ← skipExponent? (← skipFraction? rest)
  let plain := !negative && after.length == rest.length
  return (if plain then .natural (Decimal.natOf digits) else .number, after)

def readToken? (cs : List Char) : Option (Token × List Char) :=
  match cs with
  | '\x7b' :: rest => some (.openObject, rest)
  | '\x7d' :: rest => some (.closeObject, rest)
  | '[' :: rest => some (.openArray, rest)
  | ']' :: rest => some (.closeArray, rest)
  | ':' :: rest => some (.colon, rest)
  | ',' :: rest => some (.comma, rest)
  | '"' :: rest =>
    (readPoints rest).map fun (points, rest) => (.text ((charsOf? points).map String.ofList), rest)
  | 't' :: 'r' :: 'u' :: 'e' :: rest => some (.bool true, rest)
  | 'f' :: 'a' :: 'l' :: 's' :: 'e' :: rest => some (.bool false, rest)
  | 'n' :: 'u' :: 'l' :: 'l' :: rest => some (.null, rest)
  | cs => readNumber? cs

/-- The tokens of a text of at most `fuel` characters; each takes at least one of them. -/
def tokensWithin : (fuel : Nat) → List Char → Option (List Token)
  | 0, cs => if cs = [] then some [] else none
  | fuel + 1, cs =>
    match cs with
    | [] => some []
    | c :: rest =>
      if isSpace c then tokensWithin fuel rest
      else match readToken? (c :: rest) with
        | some (token, rest) => (tokensWithin fuel rest).map (token :: ·)
        | none => none

def tokens? (cs : List Char) : Option (List Token) := tokensWithin cs.length cs

end PoliteCrawl.Json
