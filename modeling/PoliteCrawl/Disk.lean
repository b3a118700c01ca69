import PoliteCrawl.Output.Sink

namespace PoliteCrawl

structure Disk where
  files : List (String × List UInt8) := []
  /-- Why no file can be opened under a path, if so. -/
  refusal? : String → Option String := fun _ => none
  device : String → Device := fun _ => {}

namespace Disk

def noSuchFile : String := "No such file or directory (os error 2)"

def content? (d : Disk) (path : String) : Option (List UInt8) := d.files.lookup path

def read (d : Disk) (path : String) : Except String (List UInt8) :=
  match d.refusal? path, d.content? path with
  | some reason, _ => .error reason
  | none, some bytes => .ok bytes
  | none, none => .error noSuchFile

def put (d : Disk) (path : String) (bytes : List UInt8) : Disk :=
  { d with files := (path, bytes) :: d.files.filter (·.1 ≠ path) }

/-- Makes an empty file, in place of an older one. -/
def create (d : Disk) (path : String) : Except String Disk :=
  match d.refusal? path with
  | some reason => .error reason
  | none => .ok (d.put path [])

def ensure (d : Disk) (path : String) : Except String Disk :=
  match d.refusal? path with
  | some reason => .error reason
  | none => .ok (d.put path ((d.content? path).getD []))

def append (d : Disk) (path : String) (text : List Char) : Disk :=
  d.put path ((d.content? path).getD [] ++ (String.ofList text).toUTF8.toList)

end Disk

end PoliteCrawl
