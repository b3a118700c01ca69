import PoliteCrawl.Text.Hex

namespace PoliteCrawl.Robots

abbrev Bytes := List UInt8

def star : UInt8 := 0x2a

def dollar : UInt8 := 0x24

def percent : UInt8 := 0x25

def slash : UInt8 := 0x2f

/-- What is left of a path behind each of its places, from the whole of it on. -/
def restsOf : Bytes → List Bytes
  | [] => [[]]
  | b :: path => (b :: path) :: restsOf path

def matchesAny (rests : List Bytes) : (pattern : Bytes) → Bool
  | [] => !rests.isEmpty
  | c :: pattern =>
    -- only at the very end does a dollar stand for the end of the path
    if c = dollar ∧ pattern = [] then rests.contains []
    else if c = star then
      match rests with
      | [] => false
      | longest :: _ => matchesAny (restsOf longest) pattern
    else
      matchesAny (rests.filterMap fun
        | b :: rest => if b = c then some rest else none
        | [] => none) pattern

def pathMatches (path pattern : Bytes) : Bool := matchesAny [path] pattern

def isHexDigit (b : UInt8) : Bool := Text.Hex.isDigit (Char.ofNat b.toNat)

def isLowerLetter (b : UInt8) : Bool := 0x61 ≤ b && b ≤ 0x7a

def upperByte (b : UInt8) : UInt8 := if isLowerLetter b then b - 0x20 else b

def needsEscape : Bytes → Bool
  | b :: x :: y :: rest =>
    if b = percent ∧ isHexDigit x ∧ isHexDigit y then
      isLowerLetter x || isLowerLetter y || needsEscape rest
    else 0x80 ≤ b || needsEscape (x :: y :: rest)
  | b :: rest => 0x80 ≤ b || needsEscape rest
  | [] => false

def upperDigit (n : Nat) : UInt8 := UInt8.ofNat (Text.Hex.digitUpper n).toNat

/-- Escapes in upper case; a `%` that begins none goes with the two bytes behind it. -/
def escapeBytes : Bytes → Bytes
  | b :: x :: y :: rest =>
    if b = percent then
      if isHexDigit x ∧ isHexDigit y then b :: upperByte x :: upperByte y :: escapeBytes rest
      else escapeBytes rest
    else escapeByte b ++ escapeBytes (x :: y :: rest)
  | b :: rest => if b = percent then [] else escapeByte b ++ escapeBytes rest
  | [] => []
where
  escapeByte (b : UInt8) : Bytes :=
    if 0x80 ≤ b then [percent, upperDigit (b.toNat / 16), upperDigit (b.toNat % 16)] else [b]

def patternOf (value : List Char) : Bytes :=
  let bytes := (String.ofList value).toUTF8.toList
  if needsEscape bytes then escapeBytes bytes else bytes

/-- A pattern whose last segment begins with `index.htm` stands for its directory too. -/
def directoryPattern? (pattern : Bytes) : Option Bytes :=
  let last := (pattern.reverse.takeWhile (· ≠ slash)).reverse
  if last.length < pattern.length ∧ "index.htm".toUTF8.toList.isPrefixOf last then
    some (pattern.take (pattern.length - last.length) ++ [dollar])
  else none

def beginsPath (c : Char) : Bool := c == '/' || c == '?' || c == ';'

def afterScheme (cs : List Char) : List Char :=
  let before := cs.takeWhile fun c => !beginsPath c
  match cs.drop before.length with
  | '/' :: '/' :: rest => if before.getLast? = some ':' then rest else cs
  | _ => cs

def dropSlashes : List Char → List Char
  | '/' :: '/' :: rest => rest
  | cs => cs

/-- The part of an address that patterns are matched with, up to a fragment. -/
def pathOf (address : String) : Bytes :=
  let shown := (dropSlashes address.toList).takeWhile (· ≠ '#')
  match (afterScheme shown).dropWhile fun c => !beginsPath c with
  | [] => [slash]
  | '/' :: rest => (String.ofList ('/' :: rest)).toUTF8.toList
  | rest => slash :: (String.ofList rest).toUTF8.toList

end PoliteCrawl.Robots
