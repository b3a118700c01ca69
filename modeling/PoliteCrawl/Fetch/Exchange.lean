import PoliteCrawl.Error
import PoliteCrawl.Text.Lossy

namespace PoliteCrawl

structure Response where
  status : UInt16
  /-- Names, in lower case, and values. -/
  headers : List (String × List UInt8) := []
  /-- The body is read after all else and can fail by itself. -/
  body : Except ExchangeFailure (List UInt8) := .ok []

namespace Response

def isSuccess (r : Response) : Bool := 200 ≤ r.status && r.status < 300

def headerText (r : Response) : String :=
  "\n".intercalate (r.headers.map fun (name, value) => s!"{name}: {Text.Lossy.decode value}")

end Response

abbrev Exchange := Except ExchangeFailure Response

namespace Url

/-- The address that is asked for: user name and password go elsewhere. -/
def withoutUserinfo (u : Url) : Url :=
  { u with authority := u.authority.map fun a => { a with userinfo := "" } }

def isRequestChar (c : Char) : Bool := c.isAlphanum || "!$&'()*+,-.:;=[]_~".toList.contains c

def longestRequest : Nat := 65534

/-- Why no request can be made for an address, if so. -/
def requestFault? (u : Url) : Option ExchangeFailure :=
  let bare := u.withoutUserinfo.text
  if u.scheme ≠ "http" ∧ u.scheme ≠ "https" then
    some { reason := s!"builder error for url ({bare}): URL scheme is not allowed" }
  else if !((u.hostText?.getD "").toList.all isRequestChar) || longestRequest < bare.utf8ByteSize then
    some { reason := s!"builder error for url ({bare}): Parsed Url is not a valid Uri" }
  else none

end Url

def Exchange.unreachable (u : Url) : Exchange :=
  .error (u.requestFault?.getD
    { reason := s!"error sending request for url ({u.withoutUserinfo.text}): no connection"
      unconnected := true })

namespace AgentSettings

def isHeaderByte (b : UInt8) : Bool := (32 ≤ b && b ≠ 127) || b = 9

/-- Why the crawler's name cannot be sent, if so. -/
def headerFault? (s : AgentSettings) : Option ExchangeFailure :=
  if s.header.toUTF8.toList.all isHeaderByte then none
  else some { reason := "builder error: failed to parse header value"
              causes := ["failed to parse header value"] }

end AgentSettings

end PoliteCrawl
