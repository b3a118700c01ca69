import PoliteCrawl.Json.Shallow
import PoliteCrawl.WorkItem.Basic

namespace PoliteCrawl

inductive LineFormat where
  | structured
  | raw
  deriving DecidableEq, Repr

namespace WorkItem

def uniqueMember? (key : String) (members : List (String × Json.Value)) :
    Option (Option Json.Value) :=
  match members.filter (·.1 == key) with
  | [] => some none
  | [(_, value)] => some (some value)
  | _ => none

def targetOf? : Option Json.Value → Option String
  | some (.text s) => s
  | _ => none

/-- A source may be absent or `null`. -/
def sourceOf? : Option Json.Value → Option (Option String)
  | none | some .null => some none
  | some (.text (some s)) => some (some s)
  | some _ => none

def priorityOf? : Option Json.Value → Option UInt32
  | none => some 0
  | some (.natural n) => if n < 2 ^ 32 then some (UInt32.ofNat n) else none
  | some _ => none

def ofValues? (target source priority : Option Json.Value) : Option WorkItem := do
  return { target := ← targetOf? target, source := ← sourceOf? source,
           priority := ← priorityOf? priority }

/-- An item from an object with its fields as members, or from an array with them in order, of
which all but the first may be missing. -/
def ofShallow? : Json.Shallow → Option WorkItem
  | .object members => do
    ofValues? (← uniqueMember? "target_uri" members) (← uniqueMember? "source_uri" members)
      (← uniqueMember? "priority" members)
  | .array elements =>
    if elements.length ≤ 3 then ofValues? elements[0]? elements[1]? elements[2]? else none

/-- The item on a line, if there is one; blanks around it do not count. -/
def ofLine? (format : LineFormat) (line : String) : Option WorkItem :=
  let cs := Text.trimChars line.toList
  if cs = [] then none
  else match format with
    | .raw => some { target := String.ofList cs }
    | .structured => (Json.Shallow.read? cs).bind ofShallow?

def structuredChars (item : WorkItem) : List Char :=
  "\x7b\"target_uri\":".toList ++ Json.quote item.target ++
    (match item.source with
      | some source => ",\"source_uri\":".toList ++ Json.quote source
      | none => []) ++
    ",\"priority\":".toList ++ Decimal.digitsOf item.priority.toNat ++ ['\x7d']

def toLine (format : LineFormat) (item : WorkItem) : String :=
  match format with
  | .raw => item.target
  | .structured => String.ofList item.structuredChars

end WorkItem

end PoliteCrawl
