import PoliteCrawl.Settings.Valid

namespace PoliteCrawl

structure ExchangeFailure where
  reason : String
  timedOut : Bool := false
  /-- No connection came about. -/
  unconnected : Bool := false
  /-- What the reason comes from, and what that comes from in turn. -/
  causes : List String := []
  deriving DecidableEq, Repr

def ExchangeFailure.isTransient (f : ExchangeFailure) : Bool := f.timedOut || f.unconnected

inductive CrawlError where
  | settings (error : SettingsError)
  /-- A fetch of an address failed. -/
  | exchange (url : String) (failure : ExchangeFailure)
  | timeout (url : String)
  /-- Nothing can be fetched at all. -/
  | client (failure : ExchangeFailure)
  | io (reason : String)
  | openFile (path reason : String)
  | robots (reason : String)
  | writerClosed
  deriving DecidableEq

namespace CrawlError

def settingsMessage (detail : String) : String := s!"Configuration error: {detail}"

def message : CrawlError → String
  | settings e => settingsMessage e.message
  | exchange url f => s!"HTTP error for {url}: {f.reason}"
  | timeout url => s!"Request timeout for {url}"
  | client f => s!"HTTP client error: {f.reason}"
  | io reason => s!"IO error: {reason}"
  | openFile path reason => s!"Failed to open {path}: {reason}"
  | robots reason => s!"Robots.txt error: {reason}"
  | writerClosed => "Output writer is already closed"

def chain (e : CrawlError) : List String :=
  e.message :: match e with
    | settings e => e.chain
    | exchange _ f | client f => f.reason :: f.causes
    | io reason | openFile _ reason => [reason]
    | timeout _ | robots _ | writerClosed => []

def isRetryable : CrawlError → Bool
  | timeout _ => true
  | exchange _ f | client f => f.isTransient
  | _ => false

end CrawlError

end PoliteCrawl
