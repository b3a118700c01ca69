namespace PoliteCrawl

/-- Who holds a lock and who waits for it, by the numbers of tasks. -/
structure Lock where
  holder : Option Nat := none
  waiting : List Nat := []
  deriving DecidableEq, Repr

namespace Lock

/-- Asks for the lock: takes it if it is free, else gets in line. -/
def request (l : Lock) (task : Nat) : Lock :=
  match l.holder with
  | none => { l with holder := some task }
  | some _ => { l with waiting := l.waiting ++ [task] }

def isHeldBy (l : Lock) (task : Nat) : Bool := l.holder == some task

def release (l : Lock) : Lock :=
  { holder := l.waiting.head?, waiting := l.waiting.tail }

def leave (l : Lock) (task : Nat) : Lock := { l with waiting := l.waiting.erase task }

def next (l : Lock) : List Nat := l.waiting.head?.toList

end Lock

end PoliteCrawl
