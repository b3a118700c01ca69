namespace PoliteCrawl.Markup

def entity? (c : Char) : Option String :=
  match c with
  | '&' => some "&amp;"
  | '<' => some "&lt;"
  | '>' => some "&gt;"
  | '"' => some "&quot;"
  | '\'' => some "&apos;"
  | _ => none

def isSpecial (c : Char) : Bool := (entity? c).isSome

def escapeChar (c : Char) : List Char :=
  match entity? c with
  | some e => e.toList
  | none => [c]

def escapeChars (cs : List Char) : List Char := cs.flatMap escapeChar

/-- The text with entities, if it has to differ from the text itself. -/
def altered? (s : String) : Option String :=
  if s.toList.any isSpecial then some (String.ofList (escapeChars s.toList)) else none

def escape (s : String) : String := (altered? s).getD s

end PoliteCrawl.Markup
