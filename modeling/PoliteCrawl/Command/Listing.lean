import PoliteCrawl.Keyspace.Split
import PoliteCrawl.Number.Decimal
import PoliteCrawl.Settings.Valid

namespace PoliteCrawl.Listing

def hundred : Binary64 := .ofNat 100

def percent (places : Nat) (share : Binary64) : String := Decimal.fixed places (share.mul hundred)

/-- A part of a partition as settings of the node that gets it. -/
def ofPart (node : Nat) (part : HashRange) (weight : Binary64) : String :=
  s!"[partition]  # node {node} ({percent 2 weight}%)\n" ++
    s!"min = \"{part.min.text}\"\nmax = \"{part.max.text}\"\n\n"

def ofSplit (range : HashRange) (parts : List HashRange) (weights : List Binary64) : String :=
  s!"# Splitting {range.text} ({parts.length} parts)\n" ++
    String.join ((parts.zip weights).mapIdx fun node (part, weight) => ofPart node part weight)

def ofSettings (s : Settings) (range : HashRange) : String :=
  "=== Sumi-Fetch Dry Run ===\n\n" ++
    "Fetcher Configuration:\n" ++
    s!"  Max concurrent fetches: {s.fetch.maxConcurrent}\n" ++
    s!"  Pressure threshold: {s.fetch.pressureThreshold}\n" ++
    s!"  Valve wait: {s.fetch.valveWaitMs}ms\n" ++
    "\nPoliteness:\n" ++
    s!"  Minimum fetch interval: {s.politeness.minIntervalMs}ms\n" ++
    s!"  Host cache capacity: {s.politeness.hostCapacity}\n" ++
    s!"  Max crawl delay: {s.politeness.maxCrawlDelayMs}ms\n" ++
    "\nUser Agent:\n" ++
    s!"  {s.agent.header}\n" ++
    "\nStreams:\n" ++
    "  Input: " ++ s.streams.inputPath.getD "<stdin>" ++
      (if s.streams.rawInput then " (raw)\n" else " (structured)\n") ++
    "  Output: " ++ s.streams.outputPath.getD "<stdout>" ++ "\n" ++
    "  Requeue: " ++ s.streams.requeuePath.getD "<disabled>" ++ "\n" ++
    "\nPartition:\n" ++
    s!"  {range.text} ({percent 4 range.coverage}% of keyspace)\n" ++
    "\n✓ Configuration is valid\n"

end PoliteCrawl.Listing
