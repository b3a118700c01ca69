namespace PoliteCrawl

structure FetchSettings where
  maxConcurrent : Nat := 1000
  /-- How many items are admitted before politeness is asked. -/
  pressureThreshold : Nat := 100
  /-- How long an item under pressure may wait for admission, up to half as much again. -/
  valveWaitMs : Nat := 10000
  /-- How often a wait for a fetch slot is reported. -/
  slotReportMs : Nat := 360000
  /-- How often the state is reported while the last fetches finish. -/
  statusReportMs : Nat := 30000
  deriving DecidableEq, Repr

structure PolitenessSettings where
  minIntervalMs : Nat := 5000
  hostCapacity : Nat := 10000
  /-- The most that a robots file may ask for; zero ignores its wish. -/
  maxCrawlDelayMs : Nat := 60000
  deriving DecidableEq, Repr

structure AgentSettings where
  /-- Also what robots files call it. -/
  name : String := "SumiFetch"
  version : String := "0.1.0"
  contactUrl : String := "https://example.com/bot"
  contactEmail : String := "bot@example.com"
  deriving DecidableEq, Repr

def AgentSettings.header (a : AgentSettings) : String :=
  s!"{a.name}/{a.version} (+{a.contactUrl}; {a.contactEmail})"

structure StreamSettings where
  /-- Where items come from; standard input if not given. -/
  inputPath : Option String := none
  /-- Where records go; standard output if not given. -/
  outputPath : Option String := none
  /-- Where items to be tried again go; nowhere if not given. -/
  requeuePath : Option String := none
  rawInput : Bool := false
  deriving DecidableEq, Repr

structure PartitionSettings where
  min : String
  max : String
  deriving DecidableEq, Repr

structure Settings where
  fetch : FetchSettings := {}
  politeness : PolitenessSettings := {}
  agent : AgentSettings := {}
  streams : StreamSettings := {}
  partition : Option PartitionSettings := none
  deriving DecidableEq, Repr

end PoliteCrawl
