import PoliteCrawl.Text.Hex

namespace PoliteCrawl.Json

def escapeChar (c : Char) : List Char :=
  match c with
  | '"' => ['\\', '"']
  | '\\' => ['\\', '\\']
  | '\x08' => ['\\', 'b']
  | '\t' => ['\\', 't']
  | '\n' => ['\\', 'n']
  | '\x0c' => ['\\', 'f']
  | '\r' => ['\\', 'r']
  | c => if c.toNat < 0x20 then '\\' :: 'u' :: Text.Hex.ofNat 4 c.toNat else [c]

def quote (s : String) : List Char := '"' :: s.toList.flatMap escapeChar ++ ['"']

def shortEscape? (c : Char) : Option Nat :=
  match c with
  | '"' => some 0x22
  | '\\' => some 0x5c
  | '/' => some 0x2f
  | 'b' => some 8
  | 'f' => some 12
  | 'n' => some 10
  | 'r' => some 13
  | 't' => some 9
  | _ => none

/-- The code points up to the closing quote, among them halves of surrogate pairs, and what follows
the quote. A control character has to be escaped. -/
def readPoints : List Char → Option (List Nat × List Char)
  | [] => none
  | '"' :: rest => some ([], rest)
  | '\\' :: 'u' :: a :: b :: c :: d :: rest =>
    match Text.Hex.toNat? [a, b, c, d], readPoints rest with
    | some n, some (points, rest) => some (n :: points, rest)
    | _, _ => none
  | '\\' :: c :: rest =>
    match shortEscape? c, readPoints rest with
    | some n, some (points, rest) => some (n :: points, rest)
    | _, _ => none
  | c :: rest =>
    if c = '\\' ∨ c.toNat < 0x20 then none
    else (readPoints rest).map fun (points, rest) => (c.toNat :: points, rest)

/-- The characters of code points, if no half of a surrogate pair is alone. -/
def charsOf? : List Nat → Option (List Char)
  | [] => some []
  | [n] => if n.isValidChar then some [Char.ofNat n] else none
  | m :: n :: rest =>
    if 0xd800 ≤ m ∧ m < 0xdc00 ∧ 0xdc00 ≤ n ∧ n < 0xe000 then
      (charsOf? rest).map (Char.ofNat (0x10000 + (m - 0xd800) * 0x400 + (n - 0xdc00)) :: ·)
    else if m.isValidChar then (charsOf? (n :: rest)).map (Char.ofNat m :: ·)
    else none

end PoliteCrawl.Json
