import PoliteCrawl.Proofs.Crawl.GivenBack
import PoliteCrawl.Proofs.Crawl.Slots
import PoliteCrawl.Proofs.Output.Envelope

namespace PoliteCrawl

variable {ψ ε : Type}

def FetchResult.taken : FetchResult → Envelope → List FetchRecord
  | offer page next, e =>
    (if (e.write page).1.isOk then [page] else []) ++
      (next (e.write page).1).taken (e.write page).2
  | answer _, _ | broken, _ => []

theorem FetchResult.grown_write (r : FetchResult) (e : Envelope) :
    e.Grown (r.taken e) (r.write e).2 := by
  induction r generalizing e with
  | offer page next ih => exact (e.grown_write page).trans (ih _ _)
  | answer | broken => exact .refl e

namespace ItemPhase

def taken (phase : ItemPhase ψ) (e : Envelope) : List FetchRecord :=
  match phase with
  | writing _ result => result.taken e
  | _ => []

variable {plan : CrawlPlan ψ ε} {now task : Nat} {phase phase' : ItemPhase ψ} {s s' : CrawlState ε}

theorem Leads.grown (h : Leads plan now task phase s phase' s') :
    s.envelope.Grown (phase.taken s.envelope) s'.envelope := by
  cases h with
  | breaksOff | writes => exact FetchResult.grown_write _ _
  | _ => exact .refl s.envelope

end ItemPhase

namespace CrawlTask

def taken : CrawlTask ψ → CrawlState ε → List FetchRecord
  | reader _, _ => []
  | item phase, s => phase.taken s.envelope

def written (plan : CrawlPlan ψ ε) (items : List WorkItem)
    (events : List (Event (CrawlTask ψ) (CrawlState ε))) : List (Nat × FetchRecord) :=
  noted taken plan items events

end CrawlTask

/-- How the streams of a run stand, from what its tasks have made of the envelope and of the stream
of items to be tried again. -/
inductive Streams (envelope : Envelope) (requeue : RequeueStream) :
    ReaderPhase → CrawlState ε → Prop where
  | inUse {reader : ReaderPhase} {s : CrawlState ε} (henvelope : s.envelope = envelope)
    (hrequeue : s.requeue = requeue) (hresult : ∀ result, reader ≠ .returned result)
    (hclosing : reader ≠ .closing) : Streams envelope requeue reader s
  | flushed {s : CrawlState ε} (henvelope : s.envelope = envelope)
    (hrequeue : s.requeue = requeue.flush.2) (hflush : requeue.flush.1 = .ok ()) :
    Streams envelope requeue .closing s
  | brokenOff {s : CrawlState ε} {error : CrawlError} (henvelope : s.envelope = envelope)
    (hrequeue : s.requeue = requeue.flush.2) (hflush : requeue.flush.1 = .error error) :
    Streams envelope requeue (.returned (.error error)) s
  | closed {s : CrawlState ε} (henvelope : s.envelope = envelope.close.2)
    (hrequeue : s.requeue = requeue.flush.2) (hflush : requeue.flush.1 = .ok ()) :
    Streams envelope requeue (.returned (envelope.close.1.map fun () => s.summary)) s

namespace Streams

variable {plan : CrawlPlan ψ ε} {envelope envelope' : Envelope} {requeue : RequeueStream}
  {reader reader' : ReaderPhase} {s s' : CrawlState ε} {started : List WorkItem}

/-- The reader gives back items of other nodes, and gives up the streams at the end. -/
theorem reader_act (h : Streams envelope requeue reader s)
    (hleads : reader.Leads plan s reader' s' started) :
    Streams envelope (requeue.addAll (CrawlTask.gives? (ψ := ψ) (.reader reader)).toList) reader'
      s' := by
  cases h with
  | inUse henvelope hrequeue hresult hclosing =>
    cases hleads with
    | closes => exact absurd rfl hclosing
    | flushes hflush =>
      rw [hrequeue] at hflush
      exact .flushed henvelope (congrArg (·.flush.2) hrequeue) hflush
    | breaksOff hflush =>
      rw [hrequeue] at hflush
      exact .brokenOff henvelope (congrArg (·.flush.2) hrequeue) hflush
    | givesBack item =>
      exact .inUse henvelope (congrArg (fun r => (r.add item).2) hrequeue) (by simp) (by simp)
    | _ => exact .inUse henvelope hrequeue (by simp) (by simp)
  | flushed henvelope hrequeue hflush =>
    cases hleads with
    | closes =>
      subst henvelope
      exact .closed (s := { s with envelope := s.envelope.close.2 }) rfl hrequeue hflush
  | brokenOff => cases hleads
  | closed => cases hleads

/-- A step of another task, as long as there is one. -/
theorem task_act {requeue' : RequeueStream} (h : Streams envelope requeue reader s)
    (hopen : reader.stage ≠ .closed) (henvelope : s.envelope = envelope → s'.envelope = envelope')
    (hrequeue : s.requeue = requeue → s'.requeue = requeue') :
    Streams envelope' requeue' reader s' := by
  cases h with
  | inUse henvelope' hrequeue' hresult hclosing =>
    exact .inUse (henvelope henvelope') (hrequeue hrequeue') hresult hclosing
  | flushed | brokenOff | closed => exact absurd rfl hopen

/-- The envelope of a run is not closed before the run returns. -/
theorem envelope_eq (h : Streams envelope requeue reader s) (hopen : reader.stage ≠ .closed) :
    s.envelope = envelope := by
  cases h with
  | inUse henvelope => exact henvelope
  | flushed | brokenOff | closed => exact absurd rfl hopen

theorem records (h : Streams envelope requeue reader s) : s.envelope.records = envelope.records := by
  cases h with
  | inUse henvelope | flushed henvelope | brokenOff henvelope => rw [henvelope]
  | closed henvelope => rw [henvelope, Envelope.records_close]

/-- If the run returns a summary, all that was written has arrived, with the closing text. -/
theorem complete {summary : CrawlSummary}
    (h : Streams envelope requeue (.returned (.ok summary)) s) (hopen : envelope.closed = false) :
    s.envelope.Complete (envelope.text ++ Envelope.closing.toList) := by
  generalize hreader : ReaderPhase.returned (.ok summary) = reader at h
  cases h with
  | inUse _ _ hresult => exact absurd hreader.symm (hresult _)
  | flushed => cases hreader
  | brokenOff => cases hreader
  | closed henvelope =>
    have hclose : envelope.close.1 = .ok () := by
      cases hclose : envelope.close.1 with
      | ok value => rfl
      | error error =>
        rw [hclose] at hreader
        cases hreader
    rw [henvelope]
    exact Envelope.complete_close hopen hclose

end Streams

namespace Crawler

variable {c : Crawler ψ ε} {total : Nat} {input : List UInt8} {envelope : Envelope}
  {requeue : RequeueStream} {events : List (Event (CrawlTask ψ) (CrawlState ε))}
  {last : Configuration (CrawlTask ψ) (CrawlState ε)}

/-- The envelope holds what was written to it, and the stream of items to be tried again what was
given back. -/
theorem kept_streams (hslots : c.slots = { free := total }) :
    c.Kept input envelope requeue fun _ reader _ events s => ∃ e,
      envelope.Grown ((CrawlTask.written c.plan (Input.items c.plan.format input) events).map (·.2))
        e ∧ Streams e (requeue.addAll (CrawlTask.given events)) reader s where
  start := ⟨envelope, .refl envelope, .inUse rfl rfl (by simp) (by simp)⟩
  reader _ hmuster hkept hleads _ := by
    obtain ⟨e, hgrown, hstreams⟩ := hkept
    refine ⟨e, ?_, ?_⟩
    · rw [CrawlTask.written, CrawlTask.noted_reader hmuster, CrawlTask.taken, List.map_nil,
        List.append_nil]
      exact hgrown
    · rw [CrawlTask.given_act hmuster.phase?_reader, RequeueStream.addAll_append]
      exact hstreams.reader_act hleads
  errand := by
    intro done reader front e back events d turn phase' h hmuster hkept hleads
    obtain ⟨envelope', hgrown, hstreams⟩ := hkept
    have hoccupied := occupied_of_muster hslots h hmuster
    -- The reader gives up the streams only when no task is left to step.
    have hopen := hoccupied.not_closed hleads.unfinished.1
    have henvelope := hstreams.envelope_eq hopen
    refine ⟨turn.shared.envelope, ?_, ?_⟩
    · rw [CrawlTask.written, CrawlTask.noted_errand hmuster, List.map_append, List.map_map]
      have hmore := hleads.grown
      rw [henvelope] at hmore
      refine hgrown.trans ?_
      simpa [Function.comp_def, CrawlTask.taken, henvelope] using hmore
    · rw [CrawlTask.given_act hmuster.phase?_errand, RequeueStream.addAll_append]
      refine hstreams.task_act hopen (fun _ => rfl) fun hrequeue => ?_
      rw [hleads.requeue, hrequeue]
  pass hkept := by
    rw [CrawlTask.written, CrawlTask.noted_pass, CrawlTask.given_pass]
    exact hkept

end Crawler

end PoliteCrawl
