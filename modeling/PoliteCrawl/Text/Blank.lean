namespace PoliteCrawl.Text

/-- Unicode's `White_Space` property. -/
def isBlank (c : Char) : Bool :=
  let n := c.toNat
  (0x09 ≤ n && n ≤ 0x0d) || n == 0x20 || n == 0x85 || n == 0xa0 || n == 0x1680 ||
    (0x2000 ≤ n && n ≤ 0x200a) || n == 0x2028 || n == 0x2029 || n == 0x202f || n == 0x205f ||
    n == 0x3000

/-- A list without its longest run of leading members that satisfy `p`, at either end. -/
def trimBy {α : Type} (p : α → Bool) (cs : List α) : List α :=
  ((cs.dropWhile p).reverse.dropWhile p).reverse

def trimChars (cs : List Char) : List Char := trimBy isBlank cs

def trim (s : String) : String := String.ofList (trimChars s.toList)

@[simp] theorem toList_trim (s : String) : (trim s).toList = trimChars s.toList := by
  simp [trim]

def splitOnce {α : Type} [BEq α] (sep : List α) : List α → Option (List α × List α)
  | [] => if sep.isPrefixOf [] then some ([], []) else none
  | c :: cs =>
    if sep.isPrefixOf (c :: cs) then some ([], (c :: cs).drop sep.length)
    else (splitOnce sep cs).map fun p => (c :: p.1, p.2)

/-- The pieces of a list between the members equal to `sep`; always at least one. -/
def splitOnEach {α : Type} [BEq α] (sep : α) : List α → List (List α)
  | [] => [[]]
  | c :: cs =>
    if c == sep then [] :: splitOnEach sep cs
    else match splitOnEach sep cs with
      | [] => [[c]]
      | piece :: rest => (c :: piece) :: rest

/-- A line that a line feed ended, without the carriage return right before the line feed. -/
def dropReturn (line : List Char) : List Char :=
  if line.getLast? = some '\r' then line.dropLast else line

/-- The lines of a text. A line feed ends each, together with a carriage return right before it;
what follows the last line feed is a line unless it is empty. -/
def lines (cs : List Char) : List (List Char) :=
  let pieces := splitOnEach '\n' cs
  pieces.dropLast.map dropReturn ++ pieces.getLast?.toList.filter (· ≠ [])

def lowerAscii (s : String) : String := s.map Char.toLower

end PoliteCrawl.Text
