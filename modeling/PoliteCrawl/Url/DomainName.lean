import PoliteCrawl.Unicode.DomainTable
import PoliteCrawl.Unicode.LabelTable
import PoliteCrawl.Unicode.Normal
import PoliteCrawl.Url.Punycode

namespace PoliteCrawl.Url.DomainName

open Unicode

inductive Standing where
  | valid
  | disallowed
  | ignored
  | alternating
  | shifted (target : Nat)
  | replaced (by_ : List Char)

def Standing.ofEntry (mark : Char) (rest : List Char) : Standing :=
  match mark with
  | '=' => .valid
  | '-' => .ignored
  | '~' => .alternating
  | '>' => .shifted (hexOf rest)
  | ':' => .replaced (charsOf rest)
  | _ => .disallowed

def standings : Runs Standing := Runs.parse .ofEntry domainRuns

def mapChar? (c : Char) : Option (List Char) :=
  match standings.find? c.toNat with
  | some (_, .valid) => some [c]
  | some (_, .ignored) => some []
  | some (first, .alternating) =>
    some [if (c.toNat - first) % 2 = 0 then Char.ofNat (c.toNat + 1) else c]
  | some (first, .shifted target) => some [Char.ofNat (target + (c.toNat - first))]
  | some (_, .replaced cs) => some cs
  | some (_, .disallowed) => none
  | none => none

def isValid (c : Char) : Bool := mapChar? c = some [c]

def isAscii (cs : List Char) : Bool := cs.all (·.toNat < 0x80)

def isForbidden (c : Char) : Bool :=
  c.toNat ≤ 0x20 || c.toNat == 0x7f || "%#/:<>?@[\\]^|".contains c

def directionTable : Runs (List Char) := Runs.parse (fun _ rest => rest) directionRuns

def direction (c : Char) : String :=
  String.ofList (((directionTable.find? c.toNat).map (·.2)).getD ['L'])

def joiningTable : Runs (List Char) := Runs.parse (fun _ rest => rest) joiningRuns

/-- The joining type: one of `C`, `D`, `L`, `R`, `T`, `U`. -/
def joining (c : Char) : Char :=
  ((((joiningTable.find? c.toNat).map (·.2)).getD ['U']).head?).getD 'U'

def markTable : Runs Unit := toggles markToggles

/-- Whether a joiner may follow the characters before it, given in reverse: a virama is right
before it or, for the non-joiner, letters on both sides join over transparent characters. -/
def joinerAllowed (c : Char) (before after : List Char) : Bool :=
  let virama := (before.head?.map combiningClass) = some 9
  let left := ((before.dropWhile (joining · = 'T')).head?.map joining).getD 'U'
  let right := ((after.dropWhile (joining · = 'T')).head?.map joining).getD 'U'
  virama || (c.toNat = 0x200c && (left = 'L' || left = 'D') && (right = 'R' || right = 'D'))

def joinersAllowed (before : List Char) : List Char → Bool
  | [] => true
  | c :: cs =>
    (if c.toNat = 0x200c ∨ c.toNat = 0x200d then joinerAllowed c before cs else true) &&
      joinersAllowed (c :: before) cs

/-- A label in its Unicode form: composed, of valid characters, not beginning with a mark, joiners
only where they may be. -/
def labelAllowed (label : List Char) : Bool :=
  label.all isValid && compose label = label &&
    !(label.head?.any markTable.contains) && joinersAllowed [] label

def isRightToLeft (label : List Char) : Bool :=
  label.any fun c => ["R", "AL", "AN"].contains (direction c)

def directionAllowed (label : List Char) : Bool :=
  let kinds := label.map direction
  let ending := (kinds.reverse.dropWhile (· = "NSM")).head?.getD ""
  match kinds with
  | [] => true
  | "L" :: _ => kinds.all ["L", "EN", "ON", "NSM"].contains && ["L", "EN"].contains ending
  | first :: _ =>
    (first = "R" || first = "AL") &&
      kinds.all ["R", "AL", "AN", "EN", "ON", "NSM"].contains &&
      ["R", "AL", "EN", "AN"].contains ending && !(kinds.contains "EN" && kinds.contains "AN")

def encodedPrefix : List Char := "xn--".toList

def unicodeLabel? (label : List Char) : Option (List Char) :=
  if encodedPrefix.isPrefixOf label then do
    let decoded ← Punycode.decode? (label.drop 4)
    if isAscii decoded || !labelAllowed decoded then none else some decoded
  else if isAscii label then some label
  else if labelAllowed label then some label
  else none

def asciiLabel (label : List Char) : List Char :=
  if isAscii label then label else encodedPrefix ++ Punycode.encode label

/-- The ASCII form of a name, if it is allowed. Hyphens may stand anywhere and lengths are not
limited. -/
def toAscii? (name : List Char) : Option (List Char) := do
  let mapped ← name.mapM mapChar?
  let mapped := mapped.flatten
  let labels ← (Text.splitOnEach '.' (if isAscii mapped then mapped else compose mapped)).mapM
    unicodeLabel?
  guard (labels.all (·.all fun c => !isForbidden c))
  guard (!labels.any isRightToLeft || labels.all directionAllowed)
  return ['.'].intercalate (labels.map asciiLabel)

end PoliteCrawl.Url.DomainName
