import PoliteCrawl.Cache.Bounded
import PoliteCrawl.Jitter
import PoliteCrawl.Keyspace.Split
import PoliteCrawl.Number.Decimal
import PoliteCrawl.Digest.SHA256
import PoliteCrawl.Politeness.Gate
import PoliteCrawl.Text.Base64
import PoliteCrawl.Unicode.Lower
import PoliteCrawl.WorkItem.Line
import PoliteCrawl.Robots.Delay
import PoliteCrawl.Settings.File
import PoliteCrawl.Output.Envelope
import PoliteCrawl.Output.Requeue
import PoliteCrawl.WorkItem.Owner
import PoliteCrawl.Politeness.Wait
import PoliteCrawl.Politeness.Lookup
import PoliteCrawl.Schedule.Simulation
import PoliteCrawl.Valve.Visit
import PoliteCrawl.Politeness.Call
import PoliteCrawl.Crawl.Run
import PoliteCrawl.Crawl.Streams
import PoliteCrawl.Command.Program
import PoliteCrawl.Main
import PoliteCrawl.Proofs.Keyspace.ByteOrder
import PoliteCrawl.Proofs.Keyspace.Ownership
import PoliteCrawl.Proofs.Schedule.History
import PoliteCrawl.Proofs.Crawl.Items
import PoliteCrawl.Proofs.Crawl.Counts
import PoliteCrawl.Proofs.Crawl.Muster
import PoliteCrawl.Proofs.Crawl.Accounts
import PoliteCrawl.Proofs.Crawl.Summary
import PoliteCrawl.Proofs.Cache.Bounded
import PoliteCrawl.Proofs.Politeness.Gate
import PoliteCrawl.Proofs.Politeness.Hosts
import PoliteCrawl.Proofs.Politeness.Wait
import PoliteCrawl.Proofs.Politeness.Grants
import PoliteCrawl.Proofs.Politeness.Calls
import PoliteCrawl.Proofs.Politeness.Spacing
import PoliteCrawl.Proofs.Crawl.Gates
import PoliteCrawl.Proofs.Crawl.Tolls
import PoliteCrawl.Proofs.Crawl.Fetches
import PoliteCrawl.Proofs.Crawl.Starts
import PoliteCrawl.Proofs.Crawl.Slots
import PoliteCrawl.Proofs.Crawl.Setup
import PoliteCrawl.Proofs.Crawl.Endings
import PoliteCrawl.Proofs.Output.Requeue
import PoliteCrawl.Proofs.WorkItem.Line
import PoliteCrawl.Proofs.Crawl.GivenBack
import PoliteCrawl.Proofs.Politeness.Robots
import PoliteCrawl.Proofs.Politeness.Inquiries
import PoliteCrawl.Proofs.Politeness.SingleFlight
import PoliteCrawl.Proofs.Crawl.Lookups
import PoliteCrawl.Proofs.Crawl.Forecast
import PoliteCrawl.Proofs.Crawl.Outcomes
import PoliteCrawl.Proofs.Crawl.Quiet
import PoliteCrawl.Proofs.Crawl.Agreement
import PoliteCrawl.Proofs.Crawl.Written
import PoliteCrawl.Proofs.Crawl.Records
import PoliteCrawl.Proofs.Schedule.Simulation
import PoliteCrawl.Proofs.Crawl.OpenStreams
import PoliteCrawl.Proofs.Crawl.Closing
import PoliteCrawl.Proofs.Crawl.Payments
import PoliteCrawl.Proofs.Politeness.Answers
import PoliteCrawl.Proofs.Crawl.Rules
import PoliteCrawl.Proofs.Output.Document
import PoliteCrawl.Proofs.Text.Base64
import PoliteCrawl.Proofs.Output.Markup
import PoliteCrawl.Proofs.Output.Decoding
import PoliteCrawl.Proofs.Valve.Entry
import PoliteCrawl.Proofs.Valve.Hall
import PoliteCrawl.Proofs.Politeness.Locks
import PoliteCrawl.Proofs.Crawl.Locks
import PoliteCrawl.Proofs.Crawl.Needs
import PoliteCrawl.Proofs.Crawl.Standstill
import PoliteCrawl.Proofs.Number.Rounding
import PoliteCrawl.Proofs.Keyspace.Cuts
import PoliteCrawl.Proofs.Keyspace.Words
import PoliteCrawl.Proofs.Text.Pieces
import PoliteCrawl.Proofs.Text.Bytes
import PoliteCrawl.Proofs.Json.Reading
import PoliteCrawl.Proofs.WorkItem.RoundTrip
import PoliteCrawl.Proofs.Output.Reread
import PoliteCrawl.Proofs.Unicode.Ascii
import PoliteCrawl.Proofs.Robots.Fields
import PoliteCrawl.Proofs.Robots.Agents
import PoliteCrawl.Proofs.Robots.Addressed
import PoliteCrawl.Proofs.Robots.Slowed
import PoliteCrawl.Proofs.Cache.Recency
import PoliteCrawl.Proofs.Cache.Policies
import PoliteCrawl.Proofs.Cache.UseOrder
import PoliteCrawl.Proofs.Jitter
import PoliteCrawl.Proofs.Schedule.Punctual
import PoliteCrawl.Proofs.Valve.Admission
import PoliteCrawl.Proofs.Politeness.CallLocks
import PoliteCrawl.Proofs.Politeness.Halting
import PoliteCrawl.Proofs.Politeness.Openings
import PoliteCrawl.Proofs.Politeness.Deadlines
import PoliteCrawl.Proofs.Fetch.Lost
import PoliteCrawl.Proofs.Robots.Delays
import PoliteCrawl.Proofs.Text.Hex
import PoliteCrawl.Proofs.Keyspace.Texts
import PoliteCrawl.Proofs.Toml.Section
import PoliteCrawl.Proofs.Command.Listing
import PoliteCrawl.Proofs.Politeness.Raises
import PoliteCrawl.Proofs.Politeness.Intervals
import PoliteCrawl.Proofs.Number.Nearest
import PoliteCrawl.Proofs.Keyspace.EqualParts
import PoliteCrawl.Proofs.Output.HalfLines
import PoliteCrawl.Proofs.Output.Appending
import PoliteCrawl.Proofs.Xml.Grammar
import PoliteCrawl.Proofs.Output.WellFormed
import PoliteCrawl.Proofs.Calls
import PoliteCrawl.Proofs.Cache.UseQueue
import PoliteCrawl.Proofs.Jitter.Draws
import PoliteCrawl.Proofs.Jitter.Offsets
import PoliteCrawl.Proofs.Politeness.Remaining
import PoliteCrawl.Proofs.Output.Escaping
