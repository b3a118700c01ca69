import PoliteCrawl.Number.Power
import PoliteCrawl.Text.Blank

namespace PoliteCrawl

namespace Url

inductive Host where
  | name (text : String)
  | v4 (address : Nat)
  | v6 (pieces : List Nat)
  deriving DecidableEq, Repr

/-- The part between `//` and the path. -/
structure Authority where
  /-- User name and password as written before the host, with the `@`. -/
  userinfo : String := ""
  host : Host
  /-- A port that is not the scheme's own. -/
  port : Option Nat := none
  deriving DecidableEq, Repr

inductive Error where
  | relativeWithoutBase
  | emptyHost
  | invalidDomainName
  | invalidDomainCharacter
  | invalidPort
  | invalidV4
  | invalidV6
  deriving DecidableEq, Repr

def Error.message : Error → String
  | relativeWithoutBase => "relative URL without a base"
  | emptyHost => "empty host"
  | invalidDomainName => "invalid international domain name"
  | invalidDomainCharacter => "invalid domain character"
  | invalidPort => "invalid port number"
  | invalidV4 => "invalid IPv4 address"
  | invalidV6 => "invalid IPv6 address"

def hexText (n : Nat) : String := String.ofList (Nat.toDigits 16 n)

/-- The first longest run of zeros of at least two, as its start and length. -/
def zeroRun (pieces : List Nat) : Option (Nat × Nat) :=
  let runs := (List.range pieces.length).map fun i => (i, ((pieces.drop i).takeWhile (· = 0)).length)
  match runs.foldl (fun best run => if best.2 < run.2 then run else best) (0, 1) with
  | (_, 1) => none
  | best => some best

def v6Text (pieces : List Nat) : String :=
  let part (ps : List Nat) : String := ":".intercalate (ps.map hexText)
  match zeroRun pieces with
  | some (start, count) => s!"[{part (pieces.take start)}::{part (pieces.drop (start + count))}]"
  | none => s!"[{part pieces}]"

def Host.text : Host → String
  | name text => text
  | v4 a => s!"{a / 2 ^ 24}.{a / 2 ^ 16 % 256}.{a / 2 ^ 8 % 256}.{a % 256}"
  | v6 pieces => v6Text pieces

def Authority.text (a : Authority) : String :=
  a.userinfo ++ a.host.text ++ (a.port.map (s!":{·}")).getD ""

end Url

structure Url where
  scheme : String
  authority : Option Url.Authority := none
  path : String
  query : Option String := none
  fragment : Option String := none
  deriving DecidableEq, Repr

namespace Url

def text (u : Url) : String :=
  u.scheme ++ ":" ++ (u.authority.map ("//" ++ ·.text)).getD "" ++
    (if u.authority = none ∧ "//".isPrefixOf u.path then "/." else "") ++ u.path ++
    (u.query.map ("?" ++ ·)).getD "" ++ (u.fragment.map ("#" ++ ·)).getD ""

def hostText? (u : Url) : Option String :=
  match u.authority.map (·.host.text) with
  | some "" => none
  | host => host

def port? (u : Url) : Option Nat := u.authority.bind (·.port)

/-- What politeness goes by: the host in lower case and any port of its own. -/
def hostKey? (u : Url) : Option String :=
  u.hostText?.map fun host =>
    match u.port? with
    | some port => s!"{Text.lowerAscii host}:{port}"
    | none => Text.lowerAscii host

end Url

end PoliteCrawl
