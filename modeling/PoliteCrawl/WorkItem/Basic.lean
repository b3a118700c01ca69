import PoliteCrawl.Url.Read

namespace PoliteCrawl

structure WorkItem where
  /-- The address as it was written, whether it can be fetched or not. -/
  target : String
  source : Option String := none
  /-- Lower is more urgent. -/
  priority : UInt32 := 0
  deriving DecidableEq, Repr

namespace WorkItem

inductive Issue where
  | unparseable
  | unsupportedScheme (scheme : String)
  | missingHost
  deriving DecidableEq, Repr

def Issue.message : Issue → String
  | unparseable => "target is not an absolute URL"
  | unsupportedScheme scheme => s!"unsupported scheme '{scheme}'"
  | missingHost => "target has no host"

/-- The address to fetch: one of the web, with a host. -/
def check (item : WorkItem) : Except Issue Url :=
  match Url.read (Text.trim item.target) with
  | .error _ => .error .unparseable
  | .ok url =>
    if url.scheme ≠ "http" ∧ url.scheme ≠ "https" then .error (.unsupportedScheme url.scheme)
    else if url.hostText? = none then .error .missingHost
    else .ok url

def url? (item : WorkItem) : Option Url :=
  match item.check with
  | .ok url => some url
  | .error _ => none

def issue? (item : WorkItem) : Option Issue :=
  match item.check with
  | .ok _ => none
  | .error issue => some issue

def hostKey? (item : WorkItem) : Option String := item.url?.bind (·.hostKey?)

end WorkItem

end PoliteCrawl
