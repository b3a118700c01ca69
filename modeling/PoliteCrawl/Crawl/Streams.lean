import PoliteCrawl.Crawl.Run
import PoliteCrawl.Disk
import PoliteCrawl.Fetch.Page
import PoliteCrawl.Fetch.RobotsFile

namespace PoliteCrawl

namespace Crawler

/-- A crawler that fetches by the given transports, unless its name cannot be sent. -/
def ofWeb (s : Settings) (robots : RobotsTransport) (pages : Transport)
    (clock : Nat → Time.Moment) (jitter : Jitter) : Except CrawlError (Crawler Unit Unit) :=
  match s.agent.headerFault? with
  | some f => .error (.client f)
  | none =>
    ofSettings s (robots.service "http") (pages.service s.agent.header clock) jitter jitter

end Crawler

/-- Where a crawl reads and writes; what is not a file goes through the standard streams. -/
structure Surroundings where
  disk : Disk := {}
  input : List UInt8 := []
  output : List Char := []
  /-- How the standard output takes text. -/
  console : Device := {}

namespace Surroundings

def write (w : Surroundings) (path : Option String) (text : List Char) : Surroundings :=
  match path with
  | some path => { w with disk := w.disk.append path text }
  | none => { w with output := w.output ++ text }

def onFile (w : Surroundings) (path : Option String)
    (f : Disk → String → Except String Disk) : Except CrawlError Surroundings :=
  match path with
  | none => .ok w
  | some path =>
    match f w.disk path with
    | .ok disk => .ok { w with disk }
    | .error reason => .error (.openFile path reason)

def inputBytes (w : Surroundings) (path : Option String) : List UInt8 :=
  match path with
  | some path => (w.disk.content? path).getD []
  | none => w.input

/-- How a file takes text, or the standard output. -/
def device (w : Surroundings) : Option String → Device
  | some path => w.disk.device path
  | none => w.console

def envelope (w : Surroundings) (s : StreamSettings) : Envelope :=
  .start { toDevice := w.device s.outputPath }

def requeue (w : Surroundings) (s : StreamSettings) (format : LineFormat) : RequeueStream :=
  match s.requeuePath with
  | some path => .appending { toDevice := w.disk.device path } format
  | none => .disabled format

/-- Opens the streams, or says why one of them cannot be opened and what is left then: the envelope
has been started before the last of them. -/
def openStreams (w : Surroundings) (s : StreamSettings) :
    Except (CrawlError × Surroundings) Surroundings :=
  match w.onFile s.inputPath fun d path => (d.read path).map fun _ => d with
  | .error e => .error (e, w)
  | .ok w =>
    match w.onFile s.outputPath Disk.create with
    | .error e => .error (e, w)
    | .ok w =>
      match w.onFile s.requeuePath Disk.ensure with
      | .error e => .error (e, w.write s.outputPath (w.envelope s).finalText)
      | .ok w => .ok w

/-- What is left when a crawl gives up its streams. -/
def leave (w : Surroundings) (s : StreamSettings) (report : CrawlReport) : Surroundings :=
  let w := w.write s.outputPath report.envelope.finalText
  match s.requeuePath with
  | some path => w.write (some path) (report.requeue.finalText?.getD [])
  | none => w

end Surroundings

structure StreamReport (ψ ε : Type) where
  result : Option (Except CrawlError CrawlSummary)
  surroundings : Surroundings
  crawler : Crawler ψ ε

namespace Crawler

variable {ψ ε : Type}

def runStreams (c : Crawler ψ ε) (s : StreamSettings) (w : Surroundings) : StreamReport ψ ε :=
  match w.openStreams s with
  | .error (e, w) => { result := some (.error e), surroundings := w, crawler := c }
  | .ok w =>
    let (report, crawler) :=
      c.run (w.inputBytes s.inputPath) (w.envelope s) (w.requeue s c.plan.format)
    { result := report.result, surroundings := w.leave s report, crawler }

end Crawler

end PoliteCrawl
