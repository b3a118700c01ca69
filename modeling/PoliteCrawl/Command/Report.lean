namespace PoliteCrawl.Report

/-- The digits of a number, at the right of five places. -/
def placed (n : Nat) : String :=
  let digits := toString n
  String.ofList (List.replicate (5 - digits.length) ' ') ++ digits

/-- A text whose lines after the first get an indent. -/
def indented (indent text : String) : String := ("\n" ++ indent).intercalate (text.splitOn "\n")

def causeLine (number : Option Nat) (cause : String) : String :=
  match number with
  | some n => placed n ++ ": " ++ indented "       " cause ++ "\n"
  | none => "    " ++ indented "    " cause ++ "\n"

/-- A report of an error and its causes, each with the next one as its own cause. -/
def text (message : String) : (causes : List String) → String
  | [] => s!"Error: {message}\n"
  | [cause] => s!"Error: {message}\n\nCaused by:\n{causeLine none cause}"
  | causes =>
    s!"Error: {message}\n\nCaused by:\n" ++
      String.join (causes.mapIdx fun n cause => causeLine (some n) cause)

end PoliteCrawl.Report
