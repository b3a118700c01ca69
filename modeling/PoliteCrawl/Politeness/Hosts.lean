import PoliteCrawl.Cache.Bounded
import PoliteCrawl.Error
import PoliteCrawl.Jitter
import PoliteCrawl.Politeness.Gate
import PoliteCrawl.Politeness.Lock
import PoliteCrawl.Robots.Delay

namespace PoliteCrawl

/-- What is known of one host. The two locks are independent of each other. -/
structure HostRecord where
  host : String
  gate : FetchGate
  gateLock : Lock := {}
  robotsLock : Lock := {}
  /-- What came of the look-up of the robots file: nothing yet, no restrictions, or a file. -/
  outcome : Option (Option Robots) := none

inductive RobotsStatus where
  | unchecked
  | inProgress
  | checked
  deriving DecidableEq, Repr

def HostRecord.status (r : HostRecord) : RobotsStatus :=
  if r.outcome.isSome then .checked
  else if r.robotsLock.holder.isSome then .inProgress
  else .unchecked

/-- An answer to the question for a host's robots file: the file, or none, or an error. It comes
after a while, or never. -/
structure RobotsReply where
  answer : Except CrawlError (Option Robots)
  delay : Option Nat := some 0

/-- Where robots files come from. The answer may depend on all earlier questions and when they were
asked. -/
abbrev RobotsService := List (Nat × String) → String → RobotsReply

structure HostTable where
  minInterval : Nat
  /-- The most that a robots file may ask for; zero ignores its wish. -/
  maxCrawlDelay : Nat := 0
  agent : String := "*"
  service : RobotsService
  jitter : Jitter
  /-- The records that are kept, by their place in `records`. -/
  cache : LruCache String Nat
  /-- All records that were ever made. -/
  records : List HostRecord := []
  /-- The hosts whose robots file was asked for, and when. -/
  asked : List (Nat × String) := []

namespace HostTable

def ofSettings (s : PolitenessSettings) (agent : String) (service : RobotsService)
    (jitter : Jitter) : HostTable where
  minInterval := Time.ofMillis s.minIntervalMs
  maxCrawlDelay := Time.ofMillis s.maxCrawlDelayMs
  agent := agent
  service := service
  jitter := jitter
  cache := .empty s.hostCapacity

def keyOf (host : String) : String := Text.lowerAscii host

/-- The record of a host, made if it is not kept. -/
def find (t : HostTable) (host : String) : Nat × HostTable :=
  let key := keyOf host
  let (lookup, cache) := t.cache.getOrCreate key t.records.length
  -- a record that was dropped is not taken up again: its host gets a new one
  let records :=
    if lookup.created then
      t.records ++ [{ host := key, gate := { minInterval := t.minInterval } }]
    else t.records
  (lookup.value, { t with cache, records })

def contains (t : HostTable) (host : String) : Bool := t.cache.contains (keyOf host)

def update (t : HostTable) (record : Nat) (f : HostRecord → HostRecord) : HostTable :=
  { t with records := t.records.modify record f }

def holdsGate (t : HostTable) (record task : Nat) : Bool :=
  t.records[record]?.any (·.gateLock.isHeldBy task)

def holdsRobots (t : HostTable) (record task : Nat) : Bool :=
  t.records[record]?.any (·.robotsLock.isHeldBy task)

def requestGate (t : HostTable) (record task : Nat) : HostTable :=
  t.update record fun r => { r with gateLock := r.gateLock.request task }

def releaseGate (t : HostTable) (record : Nat) : HostTable × List Nat :=
  (t.update record fun r => { r with gateLock := r.gateLock.release },
    (t.records[record]?.map (·.gateLock.next)).getD [])

def leaveGate (t : HostTable) (record task : Nat) : HostTable :=
  t.update record fun r => { r with gateLock := r.gateLock.leave task }

def requestRobots (t : HostTable) (record task : Nat) : HostTable :=
  t.update record fun r => { r with robotsLock := r.robotsLock.request task }

def releaseRobots (t : HostTable) (record : Nat) : HostTable × List Nat :=
  (t.update record fun r => { r with robotsLock := r.robotsLock.release },
    (t.records[record]?.map (·.robotsLock.next)).getD [])

def leaveRobots (t : HostTable) (record task : Nat) : HostTable :=
  t.update record fun r => { r with robotsLock := r.robotsLock.leave task }

def outcome (t : HostTable) (record : Nat) : Option (Option Robots) :=
  t.records[record]?.bind (·.outcome)

/-- Keeps the outcome of a look-up; only the first one counts. -/
def store (t : HostTable) (record : Nat) (outcome : Option Robots) : HostTable :=
  t.update record fun r => { r with outcome := r.outcome.or (some outcome) }

end HostTable

end PoliteCrawl
