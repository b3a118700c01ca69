import PoliteCrawl.Robots.Pattern
import PoliteCrawl.Text.Blank

namespace PoliteCrawl.Robots

inductive Directive where
  | userAgent (value : List Char)
  | allow (pattern : Bytes)
  | disallow (pattern : Bytes)
  | sitemap
  | unknown
  deriving Repr

/-- How many bytes of a line count. -/
def longestLine : Nat := 16663

def withinBytes : (room : Nat) → List Char → List Char
  | _, [] => []
  | room, c :: cs => if room = 0 then [] else c :: withinBytes (room - c.utf8Size) cs

/-- The three bytes of a byte order mark, each taken for a character. -/
def strayMark : List Char := ['\u00ef', '\u00bb', '\u00bf']

def dropShared : List Char → List Char → List Char
  | c :: cs, d :: ds => if c = d then dropShared cs ds else d :: ds
  | _, ds => ds

/-- The lines of a file; either of the two line ends is one by itself. -/
def linesOf (content : List Char) : List (List Char) :=
  (Text.splitOnEach '\n'
      ((dropShared strayMark content).map fun c => if c = '\r' then '\n' else c)).map
    (withinBytes longestLine)

def isGap (c : Char) : Bool := c == ' ' || c == '\t'

def keyAndValue? (cs : List Char) (isSeparator : Char → Bool) : Option (List Char × List Char) :=
  match cs.dropWhile fun c => !isSeparator c with
  | [] => none
  | _ :: value =>
    some (Text.trimChars (cs.takeWhile fun c => !isSeparator c), Text.trimChars value)

/-- The key and the value of a line without its comment. Where no colon stands between them, the
value has to be one word. -/
def split? (line : List Char) : Option (List Char × List Char) :=
  let cs := Text.trimChars (line.takeWhile (· ≠ '#'))
  match keyAndValue? cs (· = ':') with
  | some pair => some pair
  | none =>
    match keyAndValue? cs isGap with
    | some (key, value) => if value = [] ∨ value.any isGap then none else some (key, value)
    | none => none

def userAgentKeys : List String := ["user-agent", "useragent", "user agent"]

def disallowKeys : List String :=
  ["disallow", "dissallow", "dissalow", "disalow", "diasllow", "disallaw"]

def sitemapKeys : List String := ["sitemap", "site-map"]

def isOneOf (names : List String) (key : List Char) : Bool :=
  names.any fun name => name.toList.isPrefixOf (key.map Char.toLower)

/-- What a line says, if it has a key. Keys may be misspelt, and a blank may stand for the colon. -/
def Directive.ofLine? (line : List Char) : Option Directive :=
  match split? line with
  | none => none
  | some (key, value) =>
    if key = [] then none
    else if isOneOf userAgentKeys key then some (.userAgent value)
    else if isOneOf ["allow"] key then some (.allow (patternOf value))
    else if isOneOf disallowKeys key then some (.disallow (patternOf value))
    else if isOneOf sitemapKeys key then some .sitemap
    else some .unknown

end PoliteCrawl.Robots
