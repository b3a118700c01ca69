import PoliteCrawl.Url.Host

namespace PoliteCrawl.Url

inductive SchemeKind where
  | web
  | file
  | other
  deriving DecidableEq

def schemeKind (scheme : String) : SchemeKind :=
  if scheme ∈ ["http", "https", "ws", "wss", "ftp"] then .web
  else if scheme = "file" then .file
  else .other

def defaultPort? (scheme : String) : Option Nat :=
  if scheme ∈ ["http", "ws"] then some 80
  else if scheme ∈ ["https", "wss"] then some 443
  else if scheme = "ftp" then some 21
  else none

def SchemeKind.isSlash (kind : SchemeKind) (c : Char) : Bool :=
  c == '/' || (kind ≠ .other && c == '\\')

def SchemeKind.ends (kind : SchemeKind) (c : Char) : Bool :=
  kind.isSlash c || c == '?' || c == '#'

def isSchemeChar (c : Char) : Bool :=
  c.isAlphanum || c == '+' || c == '-' || c == '.'

def takeScheme? (cs : List Char) : Option (String × List Char) :=
  match cs.head?, cs.dropWhile isSchemeChar with
  | some c, ':' :: rest =>
    if c.isAlpha then some (String.ofList ((cs.takeWhile isSchemeChar).map Char.toLower), rest)
    else none
  | _, _ => none

/-- User name and password, percent-encoded and with the `@`; nothing if both are empty. -/
def userinfoText (cs : List Char) : List Char :=
  let user := percentEncode inUserinfoSet (cs.takeWhile (· ≠ ':'))
  let text := match cs.dropWhile (· ≠ ':') with
    | _ :: c :: password => user ++ ':' :: percentEncode inUserinfoSet (c :: password)
    | _ => user
  if text = [] then [] else text ++ ['@']

/-- Splits what stands before the path at its last `@`. -/
def splitUserinfo (cs : List Char) : Option (List Char) × List Char :=
  if cs.contains '@' then
    let host := (cs.reverse.takeWhile (· ≠ '@')).reverse
    (some (cs.take (cs.length - host.length - 1)), host)
  else (none, cs)

/-- Splits a host from the colon that begins its port; a colon in brackets does not. -/
def splitPort (inside : Bool) : List Char → List Char × Option (List Char)
  | [] => ([], none)
  | c :: cs =>
    if c = ':' ∧ ¬ inside then ([], some cs)
    else
      let (host, port) := splitPort (c = '[' || (inside && c ≠ ']')) cs
      (c :: host, port)

def readPort (scheme : String) (cs : List Char) : Except Error (Option Nat) :=
  if cs.all Char.isDigit then
    let n := cs.foldl (fun acc c => acc * 10 + (c.toNat - 48)) 0
    if 65535 < n then .error .invalidPort
    else .ok (if cs = [] ∨ defaultPort? scheme = some n then none else some n)
  else .error .invalidPort

/-- The authority of an address whose scheme is not `file`. A bare `@` counts as no authority where
the whole address ends with it, but not in front of a path. -/
def readAuthority (scheme : String) (endsAddress : Bool) (cs : List Char) :
    Except Error Authority := do
  let (user, rest) := splitUserinfo cs
  if user = some [] ∧ rest = [] ∧ ¬ endsAddress then throw .emptyHost
  let userinfo := userinfoText (user.getD [])
  let (hostChars, portChars) := splitPort false rest
  let host ←
    if schemeKind scheme = .web then
      if hostChars = [] then throw .emptyHost else Host.read hostChars
    else Host.readVerbatim hostChars
  if hostChars = [] ∧ (portChars.isSome ∨ userinfo ≠ []) then throw .emptyHost
  let port ← (portChars.mapM (readPort scheme))
  return { userinfo := String.ofList userinfo, host, port := port.join }

def isSingleDot (segment : List Char) : Bool :=
  [".", "%2e"].contains (String.ofList (segment.map Char.toLower))

def isDoubleDot (segment : List Char) : Bool :=
  ["..", ".%2e", "%2e.", "%2e%2e"].contains (String.ofList (segment.map Char.toLower))

/-- A letter and `:` or `|`, as a whole segment. -/
def isDriveLetter (segment : List Char) : Bool :=
  match segment with
  | [c, d] => c.isAlpha && (d == ':' || d == '|')
  | _ => false

/-- The segments that a double dot leaves, the last one first. It does not lead out of a drive. -/
def parentOf (done : List (List Char)) : List (List Char) :=
  if done.head?.any isDriveLetter then done else done.tail

/-- The segments of a path without dot segments, the last of `done` first. -/
def resolveDots (done : List (List Char)) : List (List Char) → List (List Char)
  | [] => done.reverse
  | segment :: rest =>
    if isDoubleDot segment then
      resolveDots (if rest = [] then [] :: parentOf done else parentOf done) rest
    else if isSingleDot segment then resolveDots (if rest = [] then [] :: done else done) rest
    else resolveDots (segment :: done) rest

/-- The segments between slashes, where a slash before the first one does not count. -/
def segmentsOf (kind : SchemeKind) (cs : List Char) : List (List Char) :=
  let cs := cs.map fun c => if kind.isSlash c then '/' else c
  Text.splitOnEach '/' (if cs.head? = some '/' then cs.tail else cs)

def pathSegments (kind : SchemeKind) (cs : List Char) : List (List Char) :=
  resolveDots [] ((segmentsOf kind cs).map (percentEncode inPathSet))

def pathText (kind : SchemeKind) (cs : List Char) : List Char :=
  (pathSegments kind cs).flatMap ('/' :: ·)

def queryAndFragment (kind : SchemeKind) (cs : List Char) : Option String × Option String :=
  let set := if kind = .other then inQuerySet else inSpecialQuerySet
  let fragmentOf (cs : List Char) : Option String :=
    match cs with
    | '#' :: rest => some (String.ofList (percentEncode inFragmentSet rest))
    | _ => none
  match cs with
  | '?' :: rest =>
    (some (String.ofList (percentEncode set (rest.takeWhile (· ≠ '#')))),
      fragmentOf (rest.dropWhile (· ≠ '#')))
  | cs => (none, fragmentOf cs)

def beforeQuery (cs : List Char) : List Char := cs.takeWhile fun c => c ≠ '?' && c ≠ '#'

def fromQuery (cs : List Char) : List Char := cs.dropWhile fun c => c ≠ '?' && c ≠ '#'

def withPath (scheme : String) (authority : Option Authority) (path : List Char) (cs : List Char) :
    Url :=
  let (query, fragment) := queryAndFragment (schemeKind scheme) (fromQuery cs)
  { scheme, authority, path := String.ofList path, query, fragment }

/-- The authority that a text begins with, and the rest. A port also ends at `\`, whatever the
scheme. -/
def splitAuthority (kind : SchemeKind) (cs : List Char) : List Char × List Char :=
  let reach := cs.takeWhile (!kind.ends ·)
  let port := (splitPort false (splitUserinfo reach).2).2.getD []
  let size := reach.length - (port.dropWhile (· ≠ '\\')).length
  (cs.take size, cs.drop size)

def readHierarchical (scheme : String) (cs : List Char) : Except Error Url := do
  let kind := schemeKind scheme
  let (front, rest) := splitAuthority kind cs
  let authority ← readAuthority scheme (rest = []) front
  let text := beforeQuery rest
  let path := if kind = .other ∧ text = [] then [] else pathText kind text
  return withPath scheme authority path rest

/-- The path of a file: slashes that begin it count as one. -/
def filePath (cs : List Char) : List Char := '/' :: (pathText .file cs).dropWhile (· = '/')

/-- A file address. Its host is only there if it is not the local one, and a path that begins with a
drive letter has none. -/
def readFile (cs : List Char) : Except Error Url := do
  let unnamed : Option Authority := some { host := .name "" }
  match cs with
  | a :: b :: rest =>
    if SchemeKind.file.isSlash a ∧ SchemeKind.file.isSlash b then
      let hostChars := rest.takeWhile (!SchemeKind.file.ends ·)
      if hostChars = [] ∨ isDriveLetter hostChars then
        return withPath "file" unnamed (filePath (beforeQuery rest)) rest
      let host ← Host.read hostChars
      let rest := rest.dropWhile (!SchemeKind.file.ends ·)
      let text := beforeQuery rest
      let dropsHost := host = .name "localhost" ∨
        ((pathSegments .file text).head?.any isDriveLetter)
      return withPath "file" (if dropsHost then unnamed else some { host }) (filePath text) rest
    else return withPath "file" unnamed (filePath (beforeQuery cs)) cs
  | cs => return withPath "file" unnamed (filePath (beforeQuery cs)) cs

def readOther (scheme : String) (cs : List Char) : Url :=
  let text := beforeQuery cs
  let path := if cs.head? = some '/' then pathText .other text else percentEncode isControl text
  withPath scheme none path cs

def isIgnored (c : Char) : Bool := c == '\t' || c == '\n' || c == '\r'

def read (s : String) : Except Error Url :=
  -- tabs and line breaks count nowhere, other controls and spaces not at the ends
  let cs := (Text.trimBy (·.toNat ≤ 0x20) s.toList).filter (!isIgnored ·)
  match takeScheme? cs with
  | none => .error .relativeWithoutBase
  | some (scheme, rest) =>
    match schemeKind scheme with
    | .web => readHierarchical scheme (rest.dropWhile SchemeKind.web.isSlash)
    | .file => readFile rest
    | .other =>
      match rest with
      | '/' :: '/' :: rest => readHierarchical scheme rest
      | rest => .ok (readOther scheme rest)

end PoliteCrawl.Url
