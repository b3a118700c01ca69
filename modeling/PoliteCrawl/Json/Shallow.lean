import PoliteCrawl.Json.Token

namespace PoliteCrawl.Json

inductive Value where
  /-- A quoted text; `none` if it holds half of a surrogate pair alone. -/
  | text (value : Option String)
  | natural (n : Nat)
  | null
  | other
  deriving DecidableEq, Repr

inductive Frame where
  | object
  | array

/-- Passes over the rest of the values that are open, innermost first: `ready` if a value comes
next, else one has just ended. -/
def skip (ready : Bool) (inside : List Frame) : List Token → Option (List Token)
  | [] => if ready || !inside.isEmpty then none else some []
  | token :: rest =>
    match ready, inside, token with
    | true, _, .text _ | true, _, .natural _ | true, _, .number | true, _, .bool _
    | true, _, .null => skip false inside rest
    | true, _, .openArray =>
      match rest with
      | .closeArray :: rest => skip false inside rest
      | rest => skip true (.array :: inside) rest
    | true, _, .openObject =>
      match rest with
      | .closeObject :: rest => skip false inside rest
      | .text _ :: .colon :: rest => skip true (.object :: inside) rest
      | _ => none
    | true, _, _ => none
    | false, [], token => some (token :: rest)
    | false, .array :: outside, .closeArray => skip false outside rest
    | false, .array :: _, .comma => skip true inside rest
    | false, .object :: outside, .closeObject => skip false outside rest
    | false, .object :: _, .comma =>
      match rest with
      | .text _ :: .colon :: rest => skip true inside rest
      | _ => none
    | false, _, _ => none

def readValue? (tokens : List Token) : Option (Value × List Token) :=
  match tokens with
  | .text s :: rest => some (.text s, rest)
  | .natural n :: rest => some (.natural n, rest)
  | .null :: rest => some (.null, rest)
  | tokens => (skip true [] tokens).map (.other, ·)

/-- The members of an object, of which at least one is to come, up to the end of the text. Keys are
whole characters. -/
def readMembers? : (fuel : Nat) → List Token → Option (List (String × Value))
  | 0, _ => none
  | fuel + 1, .text (some key) :: .colon :: rest =>
    match readValue? rest with
    | some (value, [.closeObject]) => some [(key, value)]
    | some (value, .comma :: rest) => (readMembers? fuel rest).map ((key, value) :: ·)
    | _ => none
  | _, _ => none

def readElements? : (fuel : Nat) → List Token → Option (List Value)
  | 0, _ => none
  | fuel + 1, tokens =>
    match readValue? tokens with
    | some (value, [.closeArray]) => some [value]
    | some (value, .comma :: rest) => (readElements? fuel rest).map (value :: ·)
    | _ => none

inductive Shallow where
  | object (members : List (String × Value))
  | array (elements : List Value)
  deriving Repr

/-- The object or the array that the whole text is. What is nested deeper only has to be well-
formed. -/
def Shallow.read? (cs : List Char) : Option Shallow :=
  match tokens? cs with
  | some [.openObject, .closeObject] => some (.object [])
  | some (.openObject :: tokens) => (readMembers? tokens.length tokens).map .object
  | some [.openArray, .closeArray] => some (.array [])
  | some (.openArray :: tokens) => (readElements? tokens.length tokens).map .array
  | _ => none

end PoliteCrawl.Json
