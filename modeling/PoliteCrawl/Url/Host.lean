import PoliteCrawl.Url.Basic
import PoliteCrawl.Url.DomainName
import PoliteCrawl.Url.Percent

namespace PoliteCrawl.Url

/-- One number of an IPv4 address: hexadecimal behind `0x`, octal behind `0`, else decimal. -/
def v4Number? (part : List Char) : Option Nat :=
  let number (base : Nat) (digits : List Char) : Option Nat :=
    digits.foldlM (fun acc c =>
      match Text.Hex.value? c with
      | some d => if d < base then some (acc * base + d) else none
      | none => none) 0
  match part with
  | [] => none
  | '0' :: 'x' :: rest => number 16 rest
  | '0' :: 'X' :: rest => number 16 rest
  | '0' :: c :: rest => number 8 (c :: rest)
  | cs => number 10 cs

/-- Whether a name has to be read as an IPv4 address: its last part is a number. -/
def endsInNumber (name : List Char) : Bool :=
  let parts := (Text.splitOnEach '.' name).reverse
  let last? := match parts with
    | [] :: rest => rest.head?
    | parts => parts.head?
  match last? with
  | none => false
  | some last => (last ≠ [] && last.all Char.isDigit) || (v4Number? last).isSome

/-- The address that up to four numbers spell; the last one fills all remaining bytes. -/
def v4OfNumbers? (numbers : List Nat) : Option Nat :=
  match numbers.reverse with
  | [] => none
  | last :: rest =>
    if rest.length ≤ 3 ∧ rest.all (· ≤ 255) ∧ last < 256 ^ (4 - rest.length) then
      some (rest.reverse.foldl (fun acc n => acc * 256 + n) 0 * 256 ^ (4 - rest.length) + last)
    else none

def v4? (name : List Char) : Option Nat := do
  let parts := Text.splitOnEach '.' name
  let parts := if parts.getLast? = some [] then parts.dropLast else parts
  v4OfNumbers? (← parts.mapM v4Number?)

def v6Tail? (text : List Char) : Option (List Nat) := do
  let numbers ← (Text.splitOnEach '.' text).mapM fun part =>
    if part ≠ [] ∧ part.all Char.isDigit ∧ part.length ≤ 3 ∧ ¬ (part.length > 1 ∧ part.head? = some '0')
    then
      let n := part.foldl (fun acc c => acc * 10 + (c.toNat - 48)) 0
      if n ≤ 255 then some n else none
    else none
  match numbers with
  | [a, b, c, d] => some [a * 256 + b, c * 256 + d]
  | _ => none

/-- The pieces between colons; the last part may be an IPv4 address. -/
def v6Pieces? (parts : List (List Char)) : Option (List Nat) :=
  match parts with
  | [] => some []
  | [part] => if part.contains '.' then v6Tail? part else (piece? part).map ([·])
  | part :: parts => do return (← piece? part) :: (← v6Pieces? parts)
where
  piece? (part : List Char) : Option Nat :=
    if part ≠ [] ∧ part.length ≤ 4 then Text.Hex.toNat? part else none

/-- An IPv6 address of eight pieces, where two colons in a row, once, stand for all the missing
ones, of which there is at least one. -/
def v6? (text : List Char) : Option (List Nat) :=
  let side (cs : List Char) : Option (List Nat) :=
    if cs = [] then some [] else v6Pieces? (Text.splitOnEach ':' cs)
  match Text.splitOnce [':', ':'] text with
  | none =>
    match side text with
    | some pieces => if pieces.length = 8 then some pieces else none
    | none => none
  | some (left, right) =>
    if left.contains '.' then none
    else match side left, side right with
      | some l, some r =>
        if l.length + r.length ≤ 7 then
          some (l ++ List.replicate (8 - l.length - r.length) 0 ++ r)
        else none
      | _, _ => none

def bracketed? (text : List Char) : Option (Except Error Host) :=
  match text with
  | '[' :: inner =>
    some <| match inner.getLast?, v6? inner.dropLast with
      | some ']', some pieces => .ok (.v6 pieces)
      | _, _ => .error .invalidV6
  | _ => none

def Host.read (text : List Char) : Except Error Host :=
  match bracketed? text with
  | some host => host
  | none => do
    let bytes := percentDecode (String.ofList text).toUTF8.toList
    let some decoded := String.fromUTF8? ⟨bytes.toArray⟩ | throw .invalidDomainName
    let some ascii := DomainName.toAscii? decoded.toList | throw .invalidDomainName
    if ascii = [] then throw .emptyHost
    if endsInNumber ascii then
      match v4? ascii with
      | some address => return .v4 address
      | none => throw .invalidV4
    return .name (String.ofList ascii)

def isForbiddenInName (c : Char) : Bool := "\x00\t\n\r #/:<>?@[\\]^|".contains c

/-- The host of any other address: a name that is only percent-encoded. -/
def Host.readVerbatim (text : List Char) : Except Error Host :=
  match bracketed? text with
  | some host => host
  | none =>
    if text.any isForbiddenInName then .error .invalidDomainCharacter
    else .ok (.name (String.ofList (percentEncode isControl text)))

end PoliteCrawl.Url
