import PoliteCrawl.Robots.Line

namespace PoliteCrawl

/-- A robots file; empty content restricts nothing. -/
structure Robots where
  content : String
  deriving DecidableEq, Repr

namespace Robots

def allowAll : Robots := ⟨""⟩

/-- The lengths of the longest patterns that match, with zero for none. -/
structure Longest where
  allow : Nat := 0
  disallow : Nat := 0
  deriving DecidableEq, Repr

def Longest.denies (l : Longest) : Bool := l.allow < l.disallow

structure Reading where
  /-- The open group names the agent. -/
  ours : Bool := false
  /-- The open group is for everyone. -/
  everyones : Bool := false
  /-- A line has come that ends the naming of agents. -/
  ruled : Bool := false
  /-- Some group has named the agent. -/
  named : Bool := false
  specific : Longest := {}
  general : Longest := {}
  deriving DecidableEq, Repr

/-- `*`, perhaps with more behind a blank. -/
def isEveryone : List Char → Bool
  | '*' :: rest => rest.head?.all Text.isBlank
  | _ => false

def isNameChar (c : Char) : Bool := c.isAlpha || c == '_' || c == '-'

/-- Whether a value names the agent: compared up to the first character that no name has. -/
def names (agent : String) (value : List Char) : Bool :=
  (value.takeWhile isNameChar).map Char.toLower = agent.toList.map Char.toLower

namespace Reading

def note (r : Reading) (raise : Longest → Longest) : Reading :=
  if r.ours then { r with specific := raise r.specific }
  else { r with general := raise r.general }

def addAgent (agent : String) (r : Reading) (value : List Char) : Reading :=
  -- a name behind a rule opens the next group
  let r := if r.ruled then { r with ours := false, everyones := false, ruled := false } else r
  if isEveryone value then { r with everyones := true }
  else if names agent value then { r with ours := true, named := true }
  else r

def allowLength (path pattern : Bytes) : Nat :=
  if pathMatches path pattern then pattern.length
  else match directoryPattern? pattern with
    | some directory => if pathMatches path directory then directory.length else 0
    | none => 0

def disallowLength (path pattern : Bytes) : Nat :=
  if pathMatches path pattern then pattern.length else 0

def step (agent : String) (path : Bytes) (r : Reading) : Directive → Reading
  | .userAgent value => r.addAgent agent value
  -- a line that is not understood ends the naming of agents, too
  | .sitemap | .unknown => { r with ruled := true }
  | .allow pattern =>
    if r.ours || r.everyones then
      { r with ruled := true }.note fun l =>
        { l with allow := max l.allow (allowLength path pattern) }
    else r
  | .disallow pattern =>
    if r.ours || r.everyones then
      { r with ruled := true }.note fun l =>
        { l with disallow := max l.disallow (disallowLength path pattern) }
    else r

def denies (r : Reading) : Bool := if r.named then r.specific.denies else r.general.denies

end Reading

def directives (r : Robots) : List Directive :=
  (linesOf r.content.toList).filterMap Directive.ofLine?

/-- The longest pattern that matches decides, among the groups that name the agent, or among those
for everyone if no group names it. -/
def allows (r : Robots) (agent address : String) : Bool :=
  if Text.trimChars r.content.toList = [] then true
  else !(r.directives.foldl (Reading.step agent (pathOf address)) {}).denies

end Robots

end PoliteCrawl
