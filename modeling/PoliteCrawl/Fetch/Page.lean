import PoliteCrawl.Crawl.Basic
import PoliteCrawl.Fetch.Exchange

namespace PoliteCrawl

def requestText (header : String) (target : Url) : String :=
  let host := target.hostText?.getD ""
  s!"GET {target.text} HTTP/1.1\nhost: {host}\nuser-agent: {header}"

def ExchangeFailure.toError (f : ExchangeFailure) (url : String) : CrawlError :=
  if f.timedOut then .timeout url else .exchange url f

/-- What a fetch comes to: a record of the response or of the failure, or an error. A body that
cannot be read is always an error. -/
def Exchange.result (header : String) (target : Url) (fetchedAt : Time.Moment) (x : Exchange) :
    FetchResult :=
  let record (outcome : FetchOutcome) : FetchResult :=
    .record { uri := target.text, fetchedAt, request := requestText header target, outcome }
  match x with
  | .error f =>
    let error := f.toError target.text
    if error.isRetryable then .failed error else record (.exception error.message)
  | .ok r =>
    match r.body with
    | .ok body => record (.response r.status r.headerText body)
    | .error f => .failed (f.toError target.text)

/-- What comes of the request of a call, and after how long, if ever. It may depend on all earlier
calls. -/
abbrev Transport := List FetchCall → FetchCall → Exchange × Option Nat

def Transport.unreachable : Transport := fun _ call => (.unreachable call.target, some 0)

/-- Fetches by a transport. The clock tells the moment at an instant. -/
def Transport.service (t : Transport) (header : String) (clock : Nat → Time.Moment) :
    FetchService := fun earlier call =>
  let (x, delay) := t earlier call
  { result := x.result header call.target (clock (call.time + delay.getD 0)), delay }

end PoliteCrawl
