import PoliteCrawl.Number.Decimal
import PoliteCrawl.Settings.Basic
import PoliteCrawl.Text.Blank

namespace PoliteCrawl

structure Arguments where
  config : Option String := none
  input : Option String := none
  output : Option String := none
  requeue : Option String := none
  raw : Bool := false
  verbose : Nat := 0
  quiet : Bool := false
  dryRun : Bool := false
  split : Option (List Binary64) := none
  parts : Option Nat := none
  deriving DecidableEq, Repr

namespace Arguments

inductive Stop where
  | help
  | version
  | misuse
  deriving DecidableEq, Repr

inductive Setting where
  | input
  | output
  | requeue
  | split
  | parts
  deriving DecidableEq, Repr

inductive Switch where
  | raw
  | verbose
  | quiet
  | dryRun
  | help
  | version
  deriving DecidableEq, Repr

def longOption? : String → Option (Setting ⊕ Switch)
  | "input" => some (.inl .input)
  | "output" => some (.inl .output)
  | "requeue" => some (.inl .requeue)
  | "split" => some (.inl .split)
  | "parts" => some (.inl .parts)
  | "raw" => some (.inr .raw)
  | "verbose" => some (.inr .verbose)
  | "quiet" => some (.inr .quiet)
  | "dry-run" => some (.inr .dryRun)
  | "help" => some (.inr .help)
  | "version" => some (.inr .version)
  | _ => none

def shortOption? : Char → Option (Setting ⊕ Switch)
  | 'i' => some (.inl .input)
  | 'o' => some (.inl .output)
  | 'r' => some (.inl .requeue)
  | 'v' => some (.inr .verbose)
  | 'q' => some (.inr .quiet)
  | 'h' => some (.inr .help)
  | 'V' => some (.inr .version)
  | _ => none

/-- A value for an option that may be given once. -/
def once {α : Type} (old : Option α) (new : α) : Except Stop (Option α) :=
  match old with
  | none => .ok (some new)
  | some _ => .error .misuse

def weightsOf? (text : String) : Option (List Binary64) := (text.splitOn ",").mapM Decimal.read?

/-- A natural number below `2 ^ 64`, with or without a plus. -/
def countOf? (text : String) : Option Nat :=
  let digits := match text.toList with
    | '+' :: digits => digits
    | digits => digits
  if digits ≠ [] ∧ digits.all Char.isDigit ∧ Decimal.natOf digits < 2 ^ 64 then
    some (Decimal.natOf digits)
  else none

/-- Weights can be given several times, one after another. -/
def set (a : Arguments) (setting : Setting) (value : String) : Except Stop Arguments :=
  match setting with
  | .input => (once a.input value).map ({ a with input := · })
  | .output => (once a.output value).map ({ a with output := · })
  | .requeue => (once a.requeue value).map ({ a with requeue := · })
  | .split =>
    match weightsOf? value with
    | some weights => .ok { a with split := some (a.split.getD [] ++ weights) }
    | none => .error .misuse
  | .parts =>
    match countOf? value with
    | some count => (once a.parts count).map ({ a with parts := · })
    | none => .error .misuse

/-- Only the count of `verbose` can be given more than once. -/
def turnOn (a : Arguments) : Switch → Except Stop Arguments
  | .raw => if a.raw then .error .misuse else .ok { a with raw := true }
  | .verbose => .ok { a with verbose := a.verbose + 1 }
  | .quiet => if a.quiet then .error .misuse else .ok { a with quiet := true }
  | .dryRun => if a.dryRun then .error .misuse else .ok { a with dryRun := true }
  | .help => .error .help
  | .version => .error .version

/-- The one argument that is no option; it must not be empty. -/
def position (a : Arguments) (value : String) : Except Stop Arguments :=
  if value = "" then .error .misuse else (once a.config value).map ({ a with config := · })

structure Reading where
  arguments : Arguments := {}
  /-- An option that waits for its value. -/
  pending : Option Setting := none
  /-- No more options come. -/
  trailing : Bool := false

namespace Reading

def long (r : Reading) (body : List Char) : Except Stop Reading := do
  let (name, value) := match Text.splitOnce ['='] body with
    | some (name, value) => (name, some (String.ofList value))
    | none => (body, none)
  match longOption? (String.ofList name), value with
  | some (.inl setting), some value =>
    return { r with arguments := ← r.arguments.set setting value }
  | some (.inl setting), none => return { r with pending := some setting }
  | some (.inr switch), none => return { r with arguments := ← r.arguments.turnOn switch }
  | _, _ => throw .misuse

def short (r : Reading) : List Char → Except Stop Reading
  | [] => .ok r
  | c :: rest =>
    match shortOption? c, rest with
    | some (.inr switch), rest => do
      short { r with arguments := ← r.arguments.turnOn switch } rest
    | some (.inl setting), [] => .ok { r with pending := some setting }
    | some (.inl setting), '=' :: value => do
      return { r with arguments := ← r.arguments.set setting (String.ofList value) }
    | some (.inl setting), value => do
      return { r with arguments := ← r.arguments.set setting (String.ofList value) }
    | none, _ => .error .misuse

def next (r : Reading) (argument : String) : Except Stop Reading := do
  let position := do return { r with arguments := ← r.arguments.position argument }
  if r.trailing then position
  else
    match r.pending, argument.toList with
    | some _, '-' :: _ :: _ => throw .misuse
    | some setting, _ =>
      return { r with arguments := ← r.arguments.set setting argument, pending := none }
    | none, ['-', '-'] => return { r with trailing := true }
    | none, '-' :: '-' :: body => r.long body
    | none, '-' :: c :: body => r.short (c :: body)
    | none, _ => position

end Reading

def hasConflict (a : Arguments) : Bool :=
  (a.quiet && 0 < a.verbose) || (a.dryRun && (a.split.isSome || a.parts.isSome)) ||
    (a.split.isSome && a.parts.isSome)

def read (arguments : List String) : Except Stop Arguments := do
  let r ← arguments.foldlM Reading.next {}
  if r.pending.isSome || r.arguments.hasConflict then throw .misuse
  return r.arguments

/-- Settings with those that the command line gives in place of others. -/
def override (a : Arguments) (s : Settings) : Settings :=
  { s with streams := {
      inputPath := a.input <|> s.streams.inputPath
      outputPath := a.output <|> s.streams.outputPath
      requeuePath := a.requeue <|> s.streams.requeuePath
      rawInput := a.raw || s.streams.rawInput } }

end Arguments

end PoliteCrawl
