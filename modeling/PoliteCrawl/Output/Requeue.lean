import PoliteCrawl.Error
import PoliteCrawl.Output.Sink
import PoliteCrawl.WorkItem.Line

namespace PoliteCrawl

structure RequeueStream where
  buffer : Option BufferedSink := none
  format : LineFormat
  written : Nat := 0
  /-- How many items had no destination. -/
  dropped : Nat := 0

namespace RequeueStream

def appending (sink : Sink) (format : LineFormat) : RequeueStream :=
  { buffer := some { sink }, format }

def disabled (format : LineFormat) : RequeueStream := { format }

def isEnabled (r : RequeueStream) : Bool := r.buffer.isSome

/-- Writes an item, and tells whether there was a destination. The line and its end are two
pieces. -/
def add (r : RequeueStream) (item : WorkItem) : Except CrawlError Bool × RequeueStream :=
  match r.buffer with
  | none => (.ok false, { r with dropped := r.dropped + 1 })
  | some buffer =>
    let (lineOk, buffer) := buffer.write (item.toLine r.format).toList
    -- the line may get into the buffer where its end does not
    let (ok, buffer) := if lineOk then buffer.write ['\n'] else (false, buffer)
    if ok then (.ok true, { r with buffer := some buffer, written := r.written + 1 })
    else (.error (.io buffer.sink.reason), { r with buffer := some buffer })

def flush (r : RequeueStream) : Except CrawlError Unit × RequeueStream :=
  match r.buffer with
  | none => (.ok (), r)
  | some buffer =>
    let (ok, buffer) := buffer.flush
    (if ok then .ok () else .error (.io buffer.sink.reason), { r with buffer := some buffer })

def text? (r : RequeueStream) : Option (List Char) := r.buffer.map (·.sink.taken)

/-- What the destination holds once the stream is given up. -/
def finalText? (r : RequeueStream) : Option (List Char) := r.buffer.map (·.close.taken)

end RequeueStream

end PoliteCrawl
