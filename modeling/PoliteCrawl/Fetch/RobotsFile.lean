import PoliteCrawl.Fetch.Exchange
import PoliteCrawl.Politeness.Hosts
import PoliteCrawl.Url.Read

namespace PoliteCrawl

def robotsAddress (scheme host : String) : String := s!"{scheme}://{host}/robots.txt"

/-- The text of a body, without a byte order mark. -/
def bodyText (body : List UInt8) : String :=
  Text.Lossy.decode (match body with
    | 0xef :: 0xbb :: 0xbf :: rest => rest
    | body => body)

/-- The robots file that a host answered with. Anything but success means there is none. -/
def Exchange.robotsFile (x : Exchange) (address : String) : Except CrawlError (Option Robots) :=
  match x with
  | .error f => .error (.exchange address f)
  | .ok r =>
    if r.isSuccess then
      match r.body with
      | .ok body => .ok (some ⟨bodyText body⟩)
      | .error f => .error (.exchange address f)
    else .ok none

/-- What comes of the request for a robots file, and after how long, if ever. It may depend on all
earlier questions. -/
abbrev RobotsTransport := List (Nat × String) → Url → Exchange × Option Nat

def RobotsTransport.unreachable : RobotsTransport := fun _ address => (.unreachable address, some 0)

def RobotsTransport.service (t : RobotsTransport) (scheme : String) : RobotsService :=
  fun asked host =>
    let address := robotsAddress scheme host
    match Url.read address with
    | .error e => { answer := .error (.exchange address { reason := s!"builder error: {e.message}" }) }
    | .ok url =>
      let (x, delay) := t asked url
      { answer := x.robotsFile address, delay }

end PoliteCrawl
