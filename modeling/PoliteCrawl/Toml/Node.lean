namespace PoliteCrawl.Toml

/-- What brought a table about. -/
inductive Origin where
  /-- A header of its own, or the document. -/
  | header
  /-- A header of a table within it. -/
  | implied
  /-- A dotted key. -/
  | dotted
  /-- Braces; such a table is complete. -/
  | inline
  deriving DecidableEq, Repr

inductive Node where
  | text (s : String)
  | integer (n : Int)
  | float
  | bool (b : Bool)
  /-- A date, a time of day or both. -/
  | moment
  | array (items : List Node)
  | table (origin : Origin) (entries : List (String × Node))
  | tables (all : List (List (String × Node)))
  deriving Repr

abbrev Entries := List (String × Node)

namespace Entries

def get? (entries : Entries) (key : String) : Option Node :=
  (entries.find? (·.1 == key)).map (·.2)

def put (entries : Entries) (key : String) (node : Node) : Entries :=
  if entries.any (·.1 == key) then entries.map fun e => if e.1 == key then (key, node) else e
  else entries ++ [(key, node)]

def putNew? (entries : Entries) (key : String) (node : Node) : Option Entries :=
  if entries.any (·.1 == key) then none else some (entries ++ [(key, node)])

/-- Changes the table at a path below one of some origin. Tables that are missing on the way are
made with the origin `made`; a dotted path does not lead into a table with a header. -/
def within (made : Origin) : (path : List String) → (change : Origin → Entries → Option Entries) →
    Origin → Entries → Option Entries
  | [], change, origin, entries => change origin entries
  | key :: path, change, _, entries =>
    match entries.get? key with
    | none => (within made path change made []).map fun inner =>
        entries.put key (.table made inner)
    | some (.table origin inner) =>
      if origin = .inline ∨ (made = .dotted ∧ origin = .header) then none
      else (within made path change origin inner).map fun inner =>
        entries.put key (.table origin inner)
    | some (.tables all) =>
      match all.getLast? with
      | none => none
      | some last => (within made path change .header last).map fun last =>
          entries.put key (.tables (all.dropLast ++ [last]))
    | some _ => none

/-- Sets a new key below a path of dotted keys, whose last table must have come from one. -/
def define? (path : List String) (key : String) (node : Node) (entries : Entries) :
    Option Entries :=
  within .dotted path (fun origin inner =>
    if path = [] ∨ origin = .dotted then putNew? inner key node else none) .header entries

/-- Fills the table under a header. It must be new, or only have been implied so far. -/
def underHeader? (path : List String) (key : String) (fill : Entries → Option Entries)
    (entries : Entries) : Option Entries :=
  within .implied path (fun _ parent => do
    let inner ← match get? parent key with
      | none => some []
      | some (.table .implied inner) => some inner
      | some _ => none
    return put parent key (.table .header (← fill inner))) .header entries

def underArrayHeader? (path : List String) (key : String) (fill : Entries → Option Entries)
    (entries : Entries) : Option Entries :=
  within .implied path (fun _ parent => do
    let all ← match get? parent key with
      | none => some []
      | some (.tables all) => some all
      | some _ => none
    return put parent key (.tables (all ++ [← fill []]))) .header entries

end Entries

end PoliteCrawl.Toml
