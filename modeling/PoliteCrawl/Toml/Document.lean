import PoliteCrawl.Toml.Quoted
import PoliteCrawl.Toml.Word

namespace PoliteCrawl.Toml

def deepest : Nat := 80

def isBareKeyChar (c : Char) : Bool := c.isAlphanum || c == '-' || c == '_'

def readSimpleKey (cs : List Char) : Taken :=
  match cs with
  | '"' :: _ | '\'' :: _ => readQuotedKey cs
  | cs =>
    let key := cs.takeWhile isBareKeyChar
    if key = [] then none else some (key, cs.drop key.length)

def readKeyParts : (fuel : Nat) → List Char → Option (List String × List Char)
  | 0, _ => none
  | fuel + 1, cs =>
    match readSimpleKey (cs.dropWhile isSpace) with
    | none => none
    | some (part, rest) =>
      match rest.dropWhile isSpace with
      | '.' :: rest => (readKeyParts fuel rest).map fun (parts, rest) =>
          (String.ofList part :: parts, rest)
      | rest => some ([String.ofList part], rest)

def readKey (cs : List Char) : Option ((List String × String) × List Char) :=
  match readKeyParts (cs.length + 1) cs with
  | some (parts, rest) =>
    match parts.getLast? with
    | some key =>
      -- each part but the last is a table, and those nest no deeper than arrays do
      if parts.length < deepest then some ((parts.dropLast, key), rest) else none
    | none => none
  | none => none

/-- What follows a comment, if one comes next; it ends before a line end. -/
def afterComment? (cs : List Char) : Option (List Char) :=
  match cs with
  | '#' :: rest =>
    let rest := rest.dropWhile isPlain
    if rest = [] ∨ (afterLineEnd? rest).isSome then some rest else none
  | cs => some cs

def skipBetween : (fuel : Nat) → List Char → Option (List Char)
  | 0, cs => some cs
  | fuel + 1, cs =>
    match cs with
    | ' ' :: rest | '\t' :: rest | '\n' :: rest | '\r' :: '\n' :: rest => skipBetween fuel rest
    | '#' :: _ => (afterComment? cs).bind (skipBetween fuel)
    | cs => some cs

def isWordChar (c : Char) : Bool :=
  c.isAlphanum || c == '+' || c == '-' || c == '.' || c == '_' || c == ':'

/-- A value that is one word, or a date and a time with a blank between them. -/
def readWord (cs : List Char) : Option (Node × List Char) :=
  let word := cs.takeWhile isWordChar
  let rest := cs.drop word.length
  match rest with
  | ' ' :: c :: _ =>
    let time := rest.tail.takeWhile isWordChar
    if isDate word ∧ c.isDigit then
      if isTimed time then some (.moment, rest.drop (time.length + 1)) else none
    else (ofWord? word).map (·, rest)
  | rest => (ofWord? word).map (·, rest)

mutual

/-- A value at some depth of nesting. Of at most `fuel` steps every second one takes a character. -/
def readValue (depth : Nat) : (fuel : Nat) → List Char → Option (Node × List Char)
  | 0, _ => none
  | fuel + 1, cs =>
    match cs with
    | '"' :: _ | '\'' :: _ => (readQuoted cs).map fun (s, rest) => (.text (String.ofList s), rest)
    | '[' :: rest =>
      if depth < deepest then (readItems (depth + 1) fuel rest).map fun (items, rest) =>
        (.array items, rest)
      else none
    | '\x7b' :: rest =>
      if depth < deepest then
        match rest.dropWhile isSpace with
        | '\x7d' :: rest => some (.table .inline [], rest)
        | rest => (readPairs (depth + 1) fuel [] rest).map fun (entries, rest) =>
          (.table .inline entries, rest)
      else none
    | cs => readWord cs

def readItems (depth : Nat) : (fuel : Nat) → List Char → Option (List Node × List Char)
  | 0, _ => none
  | fuel + 1, cs =>
    match skipBetween cs.length cs with
    | none => none
    | some (']' :: rest) => some ([], rest)
    | some cs =>
      match readValue depth fuel cs with
      | none => none
      | some (item, rest) =>
        match skipBetween rest.length rest with
        | some (',' :: rest) =>
          (readItems depth fuel rest).map fun (items, rest) => (item :: items, rest)
        | some (']' :: rest) => some ([item], rest)
        | _ => none

def readPairs (depth : Nat) : (fuel : Nat) → Entries → List Char → Option (Entries × List Char)
  | 0, _, _ => none
  | fuel + 1, entries, cs =>
    match readKey cs with
    | some ((path, key), '=' :: rest) =>
      match readValue depth fuel (rest.dropWhile isSpace) with
      | none => none
      | some (node, rest) =>
        match entries.define? path key node, rest.dropWhile isSpace with
        | some entries, ',' :: rest => readPairs depth fuel entries rest
        | some entries, '\x7d' :: rest => some (entries, rest)
        | _, _ => none
    | _ => none

end

inductive Statement where
  | header (path : List String) (key : String)
  | arrayHeader (path : List String) (key : String)
  | pair (path : List String) (key : String) (value : Node)

def readStatement (cs : List Char) : Option (Statement × List Char) :=
  match cs with
  | '[' :: '[' :: rest =>
    match readKey rest with
    | some ((path, key), ']' :: ']' :: rest) => some (.arrayHeader path key, rest)
    | _ => none
  | '[' :: rest =>
    match readKey rest with
    | some ((path, key), ']' :: rest) => some (.header path key, rest)
    | _ => none
  | cs =>
    match readKey cs with
    | some ((path, key), '=' :: rest) =>
      (readValue 0 (2 * rest.length + 1) (rest.dropWhile isSpace)).map fun (value, rest) =>
        (.pair path key value, rest)
    | _ => none

def afterStatement? (cs : List Char) : Option (List Char) :=
  match afterComment? (cs.dropWhile isSpace) with
  | some [] => some []
  | some rest => afterLineEnd? rest
  | none => none

/-- The statements of a text; each takes at least one of at most `fuel` characters. -/
def readStatements : (fuel : Nat) → List Char → Option (List Statement)
  | 0, cs => if cs = [] then some [] else none
  | fuel + 1, cs =>
    match skipBetween cs.length cs with
    | none => none
    | some [] => some []
    | some cs =>
      match readStatement cs with
      | none => none
      | some (statement, rest) =>
        match afterStatement? rest with
        | some rest => (readStatements fuel rest).map (statement :: ·)
        | none => none

/-- Adds the pairs up to the next header and gives what follows them. -/
def fillTable (entries : Entries) : List Statement → Option Entries
  | .pair path key value :: rest =>
    match entries.define? path key value with
    | some entries => fillTable entries rest
    | none => none
  | _ => some entries

def fillDocument (entries : Entries) : List Statement → Option Entries
  | [] => some entries
  | .header path key :: rest =>
    match entries.underHeader? path key (fillTable · rest) with
    | some entries => fillDocument entries rest
    | none => none
  | .arrayHeader path key :: rest =>
    match entries.underArrayHeader? path key (fillTable · rest) with
    | some entries => fillDocument entries rest
    | none => none
  | .pair .. :: rest => fillDocument entries rest

/-- The entries of a document, if it is one; a byte order mark at its start does not count. -/
def read? (cs : List Char) : Option Entries := do
  let cs := if cs.head? = some '\ufeff' then cs.tail else cs
  let statements ← readStatements cs.length cs
  fillDocument (← fillTable [] statements) statements

end PoliteCrawl.Toml
