import PoliteCrawl.Error
import PoliteCrawl.Output.Markup
import PoliteCrawl.Output.Sink
import PoliteCrawl.Text.Base64
import PoliteCrawl.Time.Calendar

namespace PoliteCrawl

inductive FetchOutcome where
  | response (status : UInt16) (headers : String) (body : List UInt8)
  | exception (reason : String)
  deriving DecidableEq, Repr

structure FetchRecord where
  uri : String
  fetchedAt : Time.Moment
  request : String
  outcome : FetchOutcome
  deriving DecidableEq, Repr

def FetchOutcome.markup : FetchOutcome → String
  | response status headers body =>
    s!"<response status=\"{status}\">{Markup.escape headers}</response>\n" ++
      s!"<body encoding=\"base64\">{Text.Base64.encode body}</body>\n"
  | exception reason => s!"<exception>{Markup.escape reason}</exception>\n"

def FetchRecord.markup (r : FetchRecord) : String :=
  s!"<resource uri=\"{Markup.escape r.uri}\" fetched-at=\"{r.fetchedAt.text}\">\n" ++
    s!"<request>{Markup.escape r.request}</request>\n" ++ r.outcome.markup ++ "</resource>\n"

structure Envelope where
  buffer : BufferedSink
  closed : Bool := false
  records : Nat := 0

namespace Envelope

def opening : String := "<?xml version=\"1.0\" encoding=\"utf-8\"?>\n<resources>\n"

def closing : String := "</resources>\n"

def start (sink : Sink) : Envelope :=
  { buffer := { sink, pending := opening.toList } }

def refusal (e : Envelope) : CrawlError := .io e.buffer.sink.reason

/-- Adds a record, unless the envelope is closed. -/
def write (e : Envelope) (record : FetchRecord) : Except CrawlError Unit × Envelope :=
  if e.closed then (.error .writerClosed, e)
  else match e.buffer.write record.markup.toList with
    | (true, buffer) => (.ok (), { e with buffer, records := e.records + 1 })
    | (false, buffer) => (.error e.refusal, { e with buffer })

/-- Writes the closing text and all that is pending. The envelope counts as closed even if that
fails, and what is still pending then is offered once more. -/
def close (e : Envelope) : Except CrawlError Unit × Envelope :=
  if e.closed then (.ok (), e)
  else
    let (written, buffer) := e.buffer.write closing.toList
    let (flushed, buffer) := if written then buffer.flush else (false, buffer)
    (if flushed then .ok () else .error e.refusal,
      { e with buffer := { sink := buffer.close }, closed := true })

/-- What the sink holds once the envelope is given up, closed or not. -/
def finalText (e : Envelope) : List Char := e.buffer.close.taken

end Envelope

end PoliteCrawl
