import PoliteCrawl.Command.Program
import Std.Time.DateTime.Timestamp

namespace PoliteCrawl.Outer

def reasonOf : IO.Error → String
  | .noFileOrDirectory .. => Disk.noSuchFile
  | e => toString e

def directoryOf (path : String) : String :=
  match (path.toList.reverse.dropWhile (· ≠ '/')).reverse with
  | [] => "."
  | directory => String.ofList directory

/-- Whether a file that could not be read can be made: it is missing, and its directory is not. -/
def canBeMade (path : String) (e : IO.Error) : IO Bool := do
  match e with
  | .noFileOrDirectory .. =>
    if path = "" then return false
    try (← IO.FS.realPath (directoryOf path)).isDir
    catch _ => return false
  | _ => return false

/-- Takes a file into a disk: what it holds, or why it cannot be opened. -/
def take (disk : Disk) (path : String) : IO Disk := do
  try
    return disk.put path (← IO.FS.readBinFile path).toList
  catch e =>
    if ← canBeMade path e then return disk
    return { disk with refusal? := fun p => if p = path then some (reasonOf e) else disk.refusal? p }

def pathsOf (disk : Disk) (a : Arguments) : List String :=
  match Command.settingsFor disk a with
  | .ok s => s.streams.inputPath.toList ++ s.streams.outputPath.toList ++ s.streams.requeuePath.toList
  | .error _ => []

partial def readAll (stream : IO.FS.Stream) (before : ByteArray) : IO ByteArray := do
  let bytes ← stream.read 65536
  if bytes.isEmpty then return before else readAll stream (before ++ bytes)

def gather (a : Arguments) : IO Surroundings := do
  let disk ← a.config.toList.foldlM take {}
  let crawls := a.split.isNone && a.parts.isNone && !a.dryRun
  let paths := if crawls then pathsOf disk a else []
  let disk ← paths.foldlM take disk
  let readsInput := crawls && ((Command.settingsFor disk a).toOption.bind (·.streams.inputPath)).isNone
  let input ← if readsInput then readAll (← IO.getStdin) .empty else pure .empty
  return { disk, input := input.toList }

def release (before after : Surroundings) : IO Unit := do
  for (path, bytes) in after.disk.files do
    if before.disk.content? path ≠ some bytes then
      IO.FS.writeBinFile path ⟨bytes.toArray⟩
  IO.print (String.ofList after.output)

def usage : String :=
  "Usage: sumi-fetch [-i PATH] [-o PATH] [-r PATH] [--raw] [-v] [-q] [--dry-run] " ++
    "[--split WEIGHTS] [--parts N] [CONFIG]"

def run (arguments : List String) : IO UInt32 := do
  match Arguments.read arguments with
  | .error .help =>
    IO.println usage
    return 0
  | .error .version =>
    IO.println Command.versionText
    return 0
  | .error .misuse =>
    IO.eprintln usage
    return 2
  | .ok a =>
    let start := (← Std.Time.Timestamp.now).toNanosecondsSinceUnixEpoch.val
    let clock (instant : Nat) : Time.Moment :=
      let now := start + instant
      { seconds := now.fdiv Time.second, nanos := (now.fmod Time.second).toNat }
    let before ← gather a
    let outcome := Command.run { clock, jitter := .seeded (UInt64.ofNat start.toNat) } a before
    release before outcome.surroundings
    match outcome.result with
    | some (.error e) =>
      IO.eprint e.report
      return 1
    | _ => return 0

end PoliteCrawl.Outer

def main (arguments : List String) : IO UInt32 := PoliteCrawl.Outer.run arguments
