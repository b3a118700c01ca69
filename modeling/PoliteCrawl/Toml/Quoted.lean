import PoliteCrawl.Text.Hex

namespace PoliteCrawl.Toml

/-- Whether a character may stand for itself in a comment or a text. -/
def isPlain (c : Char) : Bool := c == '\t' || (0x20 ≤ c.toNat && c.toNat ≠ 0x7f)

def isSpace (c : Char) : Bool := c == ' ' || c == '\t'

def afterLineEnd? : List Char → Option (List Char)
  | '\n' :: rest | '\r' :: '\n' :: rest => some rest
  | _ => none

def escaped? (digits : List Char) : Option Char :=
  match Text.Hex.toNat? digits with
  | some n => if n.isValidChar then some (Char.ofNat n) else none
  | none => none

def readEscape? : List Char → Option (Char × List Char)
  | 'b' :: rest => some ('\x08', rest)
  | 't' :: rest => some ('\t', rest)
  | 'n' :: rest => some ('\n', rest)
  | 'f' :: rest => some ('\x0c', rest)
  | 'r' :: rest => some ('\r', rest)
  | '"' :: rest => some ('"', rest)
  | '\\' :: rest => some ('\\', rest)
  | 'u' :: a :: b :: c :: d :: rest => (escaped? [a, b, c, d]).map (·, rest)
  | 'U' :: a :: b :: c :: d :: e :: f :: g :: h :: rest =>
    (escaped? [a, b, c, d, e, f, g, h]).map (·, rest)
  | _ => none

abbrev Taken := Option (List Char × List Char)

def Taken.after (c : Char) (t : Taken) : Taken := t.map fun (cs, rest) => (c :: cs, rest)

/-- The text up to a double quote. Each step takes at least one of at most `fuel` characters, as in
the readers below. -/
def readBasic : (fuel : Nat) → List Char → Taken
  | 0, _ => none
  | fuel + 1, cs =>
    match cs with
    | '"' :: rest => some ([], rest)
    | '\\' :: rest =>
      match readEscape? rest with
      | some (c, rest) => Taken.after c (readBasic fuel rest)
      | none => none
    | c :: rest => if isPlain c then Taken.after c (readBasic fuel rest) else none
    | [] => none

def readLiteral (cs : List Char) : Taken :=
  let text := cs.takeWhile (· ≠ '\'')
  match cs.drop text.length with
  | _ :: rest => if text.all isPlain then some (text, rest) else none
  | [] => none

/-- What follows three closing quotes, with up to two more of them before these. -/
def closeThree? (quote : Char) (cs : List Char) : Taken :=
  let run := (cs.takeWhile (· = quote)).length
  if run < 3 then none
  else
    let extra := min (run - 3) 2
    some (List.replicate extra quote, cs.drop (extra + 3))

def skipBlankLines : List Char → List Char
  | ' ' :: rest | '\t' :: rest | '\n' :: rest | '\r' :: '\n' :: rest => skipBlankLines rest
  | cs => cs

/-- The text up to three double quotes. A backslash at the end of a line takes the blanks behind it
away. -/
def readBasicLines : (fuel : Nat) → List Char → Taken
  | 0, _ => none
  | fuel + 1, cs =>
    match cs with
    | '"' :: rest => (closeThree? '"' cs).or (Taken.after '"' (readBasicLines fuel rest))
    | '\\' :: rest =>
      match readEscape? rest with
      | some (c, rest) => Taken.after c (readBasicLines fuel rest)
      | none =>
        if (afterLineEnd? (rest.dropWhile isSpace)).isSome then
          readBasicLines fuel (skipBlankLines rest)
        else none
    | c :: rest =>
      if isPlain c then Taken.after c (readBasicLines fuel rest)
      else match afterLineEnd? cs with
        | some rest => Taken.after '\n' (readBasicLines fuel rest)
        | none => none
    | [] => none

def readLiteralLines : (fuel : Nat) → List Char → Taken
  | 0, _ => none
  | fuel + 1, cs =>
    match cs with
    | '\'' :: rest => (closeThree? '\'' cs).or (Taken.after '\'' (readLiteralLines fuel rest))
    | c :: rest =>
      if isPlain c then Taken.after c (readLiteralLines fuel rest)
      else match afterLineEnd? cs with
        | some rest => Taken.after '\n' (readLiteralLines fuel rest)
        | none => none
    | [] => none

/-- A line end right behind the opening quotes does not count. -/
def dropFirstLineEnd (cs : List Char) : List Char := (afterLineEnd? cs).getD cs

def readQuoted (cs : List Char) : Taken :=
  match cs with
  | '"' :: '"' :: '"' :: rest => readBasicLines (rest.length + 1) (dropFirstLineEnd rest)
  | '\'' :: '\'' :: '\'' :: rest => readLiteralLines (rest.length + 1) (dropFirstLineEnd rest)
  | '"' :: rest => readBasic (rest.length + 1) rest
  | '\'' :: rest => readLiteral rest
  | _ => none

def readQuotedKey (cs : List Char) : Taken :=
  match cs with
  | '"' :: rest => readBasic (rest.length + 1) rest
  | '\'' :: rest => readLiteral rest
  | _ => none

end PoliteCrawl.Toml
