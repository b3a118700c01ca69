namespace PoliteCrawl

structure Device where
  /-- Whether a piece is taken, from the number of pieces before it, what was taken and the piece. -/
  accepts : Nat → List Char → List Char → Bool := fun _ _ _ => true
  reason : String := ""

structure Sink extends Device where
  /-- All that has been taken. -/
  taken : List Char := []
  offers : Nat := 0

namespace Sink

def holding (content : String) : Sink := { taken := content.toList }

def byteCount (cs : List Char) : Nat := cs.foldl (fun n c => n + c.utf8Size) 0

/-- A sink that never holds more than so many bytes. -/
def limited (most : Nat) : Sink where
  accepts _ taken piece := byteCount taken + byteCount piece ≤ most

def full : Sink where
  accepts _ _ _ := false
  reason := "No space left on device (os error 28)"

/-- Offers a piece; the first component tells whether it was taken. -/
def offer (s : Sink) (piece : List Char) : Bool × Sink :=
  if s.accepts s.offers s.taken piece then
    (true, { s with taken := s.taken ++ piece, offers := s.offers + 1 })
  else (false, { s with offers := s.offers + 1 })

end Sink

/-- A sink and what is yet to be offered to it. -/
structure BufferedSink where
  sink : Sink
  pending : List Char := []

namespace BufferedSink

def capacity : Nat := 8192

def flush (b : BufferedSink) : Bool × BufferedSink :=
  if b.pending = [] then (true, b)
  else match b.sink.offer b.pending with
    | (true, sink) => (true, { sink })
    | (false, sink) => (false, { b with sink })

/-- Puts a piece behind what is pending, or offers it at once if the buffer could not hold it. -/
def put (b : BufferedSink) (piece : List Char) : Bool × BufferedSink :=
  if capacity ≤ Sink.byteCount piece then
    let (ok, sink) := b.sink.offer piece
    (ok, { b with sink })
  else (true, { b with pending := b.pending ++ piece })

/-- Writes a piece. What is pending goes first if the piece does not fit behind it. -/
def write (b : BufferedSink) (piece : List Char) : Bool × BufferedSink :=
  if capacity < Sink.byteCount b.pending + Sink.byteCount piece then
    match b.flush with
    | (true, b) => b.put piece
    | (false, b) => (false, b)
  else b.put piece

/-- What becomes of the sink when the buffer is given up: what is pending is offered once more. -/
def close (b : BufferedSink) : Sink := b.flush.2.sink

end BufferedSink

end PoliteCrawl
