import PoliteCrawl.Number.Decimal
import PoliteCrawl.Robots.Access
import PoliteCrawl.Time.Clock
import PoliteCrawl.Unicode.Lower

namespace PoliteCrawl.Robots

/-- A line that is taken more strictly than for access rules: a key, in lower case and spelt right,
a colon and a value. -/
structure KeyedLine where
  key : String
  value : String
  deriving DecidableEq, Repr

def KeyedLine.ofLine? (line : List Char) : Option KeyedLine :=
  (Text.splitOnce [':'] (Text.trimChars (line.takeWhile (· ≠ '#')))).map fun (key, value) =>
    { key := Unicode.lower (String.ofList (Text.trimChars key))
      value := String.ofList (Text.trimChars value) }

def keyedLines (r : Robots) : List KeyedLine :=
  (Text.lines r.content.toList).filterMap KeyedLine.ofLine?

/-- A number of seconds as a duration, to the nearest nanosecond, if it is one. -/
def durationOf? : Binary64 → Option Nat
  | .finite negative m e =>
    let (num, den) := Binary64.ratio m e
    if (negative ∧ m ≠ 0) ∨ 2 ^ 64 * den ≤ num then none
    else some (Binary64.roundQuotient (num * Time.second) den)
  | _ => none

def readDelay? (value : String) : Option Nat := (Decimal.read? value).bind durationOf?

structure DelaySearch where
  /-- The agents that the open group names, in lower case. -/
  group : List String := []
  naming : Bool := false
  specific : Option Nat := none
  general : Option Nat := none
  deriving DecidableEq, Repr

/-- Whether a name, both in lower case, is part of the agent's. -/
def isPartOf (name agent : String) : Bool := (Text.splitOnce name.toList agent.toList).isSome

def DelaySearch.step (agent : String) (s : DelaySearch) (line : KeyedLine) : DelaySearch :=
  if line.key = "user-agent" then
    -- the line opens a group, unless the one before named an agent as well
    { s with
      group := (if s.naming then s.group else []) ++ [Unicode.lower line.value]
      naming := true }
  else
    let s := { s with naming := false }
    match if line.key = "crawl-delay" then readDelay? line.value else none with
    | none => s
    | some delay =>
      if s.group.any fun name => name ≠ "*" && isPartOf name agent then
        { s with specific := some delay }
      else if s.group.contains "*" then { s with general := some delay }
      else s

/-- The delay between fetches that the file asks of an agent: the last one in a group that names
it, else the last one in a group for everyone. -/
def crawlDelay? (r : Robots) (agent : String) : Option Nat :=
  let s := r.keyedLines.foldl (DelaySearch.step (Unicode.lower agent)) {}
  s.specific <|> s.general

end PoliteCrawl.Robots
