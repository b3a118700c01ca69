import PoliteCrawl.Digest.SHA256
import PoliteCrawl.Settings.Valid
import PoliteCrawl.Toml.Document

namespace PoliteCrawl

namespace Settings

open Toml

/-- The fields of a section: a table, or an array of the first of them in order. A date counts as a
section without any. -/
def fieldsOf? (names : List String) : Node → Option Entries
  | .table _ entries => some entries
  | .array items => some (names.zip items)
  | .tables all => some (names.zip (all.map (.table .header)))
  | .moment => some []
  | _ => none

def readField {α : Type} (read : Node → Option α) (fields : Entries) (name : String)
    (otherwise : α) : Option α :=
  match fields.get? name with
  | some node => read node
  | none => some otherwise

def natural? : Node → Option Nat
  | .integer n => if 0 ≤ n then some n.toNat else none
  | _ => none

def string? : Node → Option String
  | .text s => some s
  | _ => none

def truth? : Node → Option Bool
  | .bool b => some b
  | _ => none

def fetchOf? (node : Node) : Option FetchSettings := do
  let fields ← fieldsOf? ["max-concurrent-fetches", "pressure-threshold", "valve-wait-ms",
    "slot-wait-log-ms", "status-interval-ms"] node
  let otherwise : FetchSettings := {}
  return {
    maxConcurrent := ← readField natural? fields "max-concurrent-fetches" otherwise.maxConcurrent
    pressureThreshold :=
      ← readField natural? fields "pressure-threshold" otherwise.pressureThreshold
    valveWaitMs := ← readField natural? fields "valve-wait-ms" otherwise.valveWaitMs
    slotReportMs := ← readField natural? fields "slot-wait-log-ms" otherwise.slotReportMs
    statusReportMs := ← readField natural? fields "status-interval-ms" otherwise.statusReportMs }

def politenessOf? (node : Node) : Option PolitenessSettings := do
  let fields ← fieldsOf? ["min-fetch-interval-ms", "host-cache-capacity", "max-crawl-delay-ms"] node
  let otherwise : PolitenessSettings := {}
  return {
    minIntervalMs := ← readField natural? fields "min-fetch-interval-ms" otherwise.minIntervalMs
    hostCapacity := ← readField natural? fields "host-cache-capacity" otherwise.hostCapacity
    maxCrawlDelayMs := ← readField natural? fields "max-crawl-delay-ms" otherwise.maxCrawlDelayMs }

def agentOf? (node : Node) : Option AgentSettings := do
  let fields ← fieldsOf? ["crawler-name", "crawler-version", "contact-url", "contact-email"] node
  let otherwise : AgentSettings := {}
  return {
    name := ← readField string? fields "crawler-name" otherwise.name
    version := ← readField string? fields "crawler-version" otherwise.version
    contactUrl := ← readField string? fields "contact-url" otherwise.contactUrl
    contactEmail := ← readField string? fields "contact-email" otherwise.contactEmail }

def streamsOf? (node : Node) : Option StreamSettings := do
  let fields ← fieldsOf? ["input-path", "output-path", "requeue-path", "raw-input"] node
  let path? (node : Node) : Option (Option String) := (string? node).map some
  return {
    inputPath := ← readField path? fields "input-path" none
    outputPath := ← readField path? fields "output-path" none
    requeuePath := ← readField path? fields "requeue-path" none
    rawInput := ← readField truth? fields "raw-input" false }

def partitionOf? (node : Node) : Option PartitionSettings := do
  let fields ← fieldsOf? ["min", "max"] node
  return { min := ← string? (← fields.get? "min"), max := ← string? (← fields.get? "max") }

def ofEntries? (entries : Entries) : Option Settings := do
  return {
    fetch := ← readField fetchOf? entries "fetcher" {}
    politeness := ← readField politenessOf? entries "politeness" {}
    agent := ← readField agentOf? entries "user-agent" {}
    streams := ← readField streamsOf? entries "io" {}
    partition := ← readField (fun node => (partitionOf? node).map some) entries "partition" none }

def read (content : String) : Except SettingsError Settings :=
  match (Toml.read? content.toList).bind ofEntries? with
  | none => .error .malformed
  | some s => s.validate.map fun _ => s

def readBytes (bytes : List UInt8) : Except SettingsError Settings :=
  match String.fromUTF8? ⟨bytes.toArray⟩ with
  | some content => read content
  | none => .error (.unreadable "stream did not contain valid UTF-8")

/-- Tells the exact text of settings apart: its SHA-256 digest in hexadecimal. -/
def fingerprint (content : String) : String :=
  String.ofList (Text.Hex.encode (Digest.SHA256.digest content.toUTF8.toList))

end Settings

end PoliteCrawl
