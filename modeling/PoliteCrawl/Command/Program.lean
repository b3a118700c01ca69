import PoliteCrawl.Command.Arguments
import PoliteCrawl.Command.Listing
import PoliteCrawl.Command.Report
import PoliteCrawl.Crawl.Streams
import PoliteCrawl.Settings.File

namespace PoliteCrawl

inductive CommandError where
  | loading (path : String) (error : SettingsError)
  | settings (error : SettingsError)
  | splitting (range : HashRange) (weights : List Binary64) (error : KeyspaceError)
  | crawling (error : CrawlError)
  deriving DecidableEq

namespace CommandError

def weightsText (weights : List Binary64) : String :=
  "[" ++ ", ".intercalate (weights.map Decimal.detailed) ++ "]"

def message : CommandError → String
  | loading path _ => s!"Failed to load configuration from {path}"
  | settings _ => "Invalid configuration"
  | splitting range weights _ => s!"Cannot split {range.text} by {weightsText weights}"
  | crawling _ => "Fetch run failed"

def causes : CommandError → List String
  | loading _ e | settings e => e.chain
  | splitting _ _ e => [e.message]
  | crawling e => e.chain

def report (e : CommandError) : String := Report.text e.message e.causes

end CommandError

/-- How a crawl reaches servers, and what moment it is at an instant. -/
structure Reach where
  robots : RobotsTransport := .unreachable
  pages : Transport := .unreachable
  clock : Nat → Time.Moment
  jitter : Jitter

structure CommandOutcome where
  surroundings : Surroundings
  /-- Nothing if a crawl never ends. -/
  result : Option (Except CommandError Unit)

namespace Command

def versionText : String := "sumi-fetch 0.1.0"

/-- The settings of a file, or those for want of one. -/
def load (disk : Disk) (config : Option String) : Except CommandError Settings :=
  match config with
  | none => .ok {}
  | some path =>
    match disk.read path with
    | .error reason => .error (.loading path (.unreadable reason))
    | .ok bytes => (Settings.readBytes bytes).mapError (.loading path)

def settingsFor (disk : Disk) (a : Arguments) : Except CommandError Settings := do
  let s := a.override (← load disk a.config)
  match s.validate with
  | .error e => throw (.settings e)
  | .ok () => return s

/-- The partition that settings mean, all of the keyspace if none is given. -/
def rangeOf (s : Settings) : Except CommandError HashRange :=
  match s.partition with
  | none => .ok .full
  | some p => p.range.mapError fun f => .settings (.partition f)

def split (s : Settings) (weights : List Binary64) : Except CommandError String := do
  let range ← rangeOf s
  let parts ← (range.split weights).mapError (.splitting range weights)
  return Listing.ofSplit range parts weights

def list (s : Settings) : Except CommandError String :=
  return Listing.ofSettings s (← rangeOf s)

def crawl (reach : Reach) (s : Settings) (w : Surroundings) : CommandOutcome :=
  match Crawler.ofWeb s reach.robots reach.pages reach.clock reach.jitter with
  | .error e => { surroundings := w, result := some (.error (.crawling e)) }
  | .ok crawler =>
    let report := crawler.runStreams s.streams w
    { surroundings := report.surroundings
      result := report.result.map fun r => (r.map fun _ => ()).mapError .crawling }

def print (w : Surroundings) (text : Except CommandError String) : CommandOutcome :=
  match text with
  | .ok text => { surroundings := w.write none text.toList, result := some (.ok ()) }
  | .error e => { surroundings := w, result := some (.error e) }

def run (reach : Reach) (a : Arguments) (w : Surroundings) : CommandOutcome :=
  match settingsFor w.disk a with
  | .error e => { surroundings := w, result := some (.error e) }
  | .ok s =>
    match a.split, a.parts with
    | some weights, _ => print w (split s weights)
    | none, some count => print w (split s (Weight.equal count))
    | none, none => if a.dryRun then print w (list s) else crawl reach s w

end Command

end PoliteCrawl
