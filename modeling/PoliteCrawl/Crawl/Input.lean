namespace PoliteCrawl.Input

def addByte (b : UInt8) (lines : List (List UInt8)) : List (List UInt8) :=
  if b = 0x0a then [b] :: lines
  else match lines with
    | [] => [[b]]
    | line :: lines => (b :: line) :: lines

/-- Splits after each line feed. What is left at the end is a line too, unless it is empty. -/
def rawLines (bytes : List UInt8) : List (List UInt8) := bytes.foldr addByte []

def withoutEnd (line : List UInt8) : List UInt8 :=
  match line.reverse with
  | 0x0a :: 0x0d :: rest => rest.reverse
  | 0x0a :: rest => rest.reverse
  | _ => line

def textOf? (bytes : List UInt8) : Option String := String.fromUTF8? ⟨bytes.toArray⟩

/-- The lines up to the first that is no valid text. -/
def linesFrom : List (List UInt8) → List String
  | [] => []
  | line :: rest =>
    match textOf? (withoutEnd line) with
    | some text => text :: linesFrom rest
    | none => []

def lines (bytes : List UInt8) : List String := linesFrom (rawLines bytes)

end PoliteCrawl.Input
