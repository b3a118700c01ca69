import PoliteCrawl.Keyspace.Range
import PoliteCrawl.Settings.Basic
import PoliteCrawl.Url.Read

namespace PoliteCrawl

inductive Violation where
  | concurrency (got : Nat)
  | valveWait
  | reportInterval
  | fetchInterval (got : Nat)
  | hostCapacity
  | nameMissing
  | nameCharacters (name : String)
  | contactUrl (error : Url.Error)
  | contactEmail (email : String)
  deriving DecidableEq, Repr

def Violation.message : Violation → String
  | concurrency n => s!"max_concurrent_fetches must be between 1 and 100000, got {n}"
  | valveWait => "valve_wait_ms must be >= 1ms"
  | reportInterval => "slot_wait_log_ms and status_interval_ms must be >= 1ms"
  | fetchInterval n => s!"min_fetch_interval_ms must be >= 1ms, got {n}ms"
  | hostCapacity => "host_cache_capacity must be >= 1"
  | nameMissing => "crawler_name cannot be empty"
  | nameCharacters name =>
    s!"crawler_name must contain only alphanumeric characters, hyphens and underscores, got '{name}'"
  | contactUrl e => s!"Invalid contact_url: {e.message}"
  | contactEmail email => s!"Invalid contact_email '{email}'"

inductive PartitionFault where
  | min (error : KeyspaceError)
  | max (error : KeyspaceError)
  | order (error : KeyspaceError)
  deriving DecidableEq

def PartitionFault.message : PartitionFault → String
  | min e => s!"min: {e.message}"
  | max e => s!"max: {e.message}"
  | order e => e.message

inductive SettingsError where
  | unreadable (reason : String)
  /-- The text is no document, or a value in it has the wrong type. -/
  | malformed
  | invalid (violation : Violation)
  | partition (fault : PartitionFault)
  deriving DecidableEq

def SettingsError.invalidMessage (detail : String) : String := s!"Validation error: {detail}"

def SettingsError.partitionMessage (detail : String) : String := s!"Invalid partition: {detail}"

def SettingsError.message : SettingsError → String
  | unreadable reason => s!"Failed to read config file: {reason}"
  | malformed => "Failed to parse TOML"
  | invalid v => invalidMessage v.message
  | partition f => partitionMessage f.message

def SettingsError.chain (e : SettingsError) : List String :=
  e.message :: match e with
    | unreadable reason => [reason]
    | malformed => ["not a document of settings"]
    | invalid _ | partition _ => []

/-- The range that a partition stands for; the lower bound is looked at first. -/
def PartitionSettings.range (p : PartitionSettings) : Except PartitionFault HashRange := do
  let min ← (HashRange.readHash p.min).mapError .min
  let max ← (HashRange.readHash p.max).mapError .max
  (HashRange.between min max).mapError .order

def FetchSettings.violation? (s : FetchSettings) : Option Violation :=
  if s.maxConcurrent < 1 ∨ 100000 < s.maxConcurrent then some (.concurrency s.maxConcurrent)
  else if s.valveWaitMs < 1 then some .valveWait
  else if s.slotReportMs < 1 ∨ s.statusReportMs < 1 then some .reportInterval
  else none

def PolitenessSettings.violation? (s : PolitenessSettings) : Option Violation :=
  if s.minIntervalMs < 1 then some (.fetchInterval s.minIntervalMs)
  else if s.hostCapacity < 1 then some .hostCapacity
  else none

def isAgentChar (c : Char) : Bool := c.isAlphanum || c == '-' || c == '_'

def AgentSettings.violation? (s : AgentSettings) : Option Violation :=
  if s.name = "" then some .nameMissing
  else if ¬ s.name.toList.all isAgentChar then some (.nameCharacters s.name)
  else match Url.read s.contactUrl with
    | .error e => some (.contactUrl e)
    | .ok _ => if s.contactEmail.toList.contains '@' then none else some (.contactEmail s.contactEmail)

/-- The first thing that is wrong with settings: with fetching, politeness, the agent or the
partition, in this order. -/
def Settings.validate (s : Settings) : Except SettingsError Unit :=
  match s.fetch.violation? <|> s.politeness.violation? <|> s.agent.violation? with
  | some v => .error (.invalid v)
  | none =>
    match s.partition.map PartitionSettings.range with
    | some (.error f) => .error (.partition f)
    | _ => .ok ()

end PoliteCrawl
