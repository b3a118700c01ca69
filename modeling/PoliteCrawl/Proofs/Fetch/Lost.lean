import PoliteCrawl.Proofs.Crawl.Records

namespace PoliteCrawl

theorem ExchangeFailure.isRetryable_toError (f : ExchangeFailure) (url : String) :
    (f.toError url).isRetryable = f.isTransient := by
  unfold toError
  split
  · rename_i htimedOut
    rw [isTransient, htimedOut]
    rfl
  · rfl

namespace Exchange

/-- An outcome says what the exchange was: the response with its whole body, or the failure to get
one. -/
inductive Shown (url : String) : Exchange → FetchOutcome → Prop where
  | response {r : Response} {body : List UInt8} (whole : r.body = .ok body) :
    Shown url (.ok r) (.response r.status r.headerText body)
  | exception (f : ExchangeFailure) : Shown url (.error f) (.exception (f.toError url).message)

/-- How an exchange failed, before the response or in its body. -/
inductive FailsBy : Exchange → ExchangeFailure → Prop where
  | unanswered (f : ExchangeFailure) : FailsBy (.error f) f
  | brokenOff {r : Response} {f : ExchangeFailure} (body : r.body = .error f) : FailsBy (.ok r) f

/-- There was a response, but its body broke off, and not for a reason that may pass. -/
structure Lost (x : Exchange) (f : ExchangeFailure) : Prop where
  answered : ∃ r, x = .ok r
  failed : x.FailsBy f
  lasting : f.isTransient = false

variable {x : Exchange} {f g : ExchangeFailure} {url : String} {outcome : FetchOutcome}

theorem FailsBy.unique (h : x.FailsBy f) (h' : x.FailsBy g) : f = g := by
  cases h with
  | unanswered =>
    cases h'
    rfl
  | brokenOff hbody =>
    cases h' with
    | brokenOff hbody' =>
      rw [hbody] at hbody'
      injection hbody'

theorem Shown.not_lost (h : x.Shown url outcome) : ¬ x.Lost f := by
  intro hlost
  cases h with
  | response hwhole =>
    cases hlost.failed with
    | brokenOff hbody =>
      rw [hwhole] at hbody
      cases hbody
  | exception =>
    obtain ⟨r, hanswered⟩ := hlost.answered
    cases hanswered

theorem FailsBy.not_lost (h : x.FailsBy f) (hpasses : f.isTransient = true) : ¬ x.Lost g := by
  intro hlost
  obtain rfl := h.unique hlost.failed
  rw [hlost.lasting] at hpasses
  cases hpasses

/-- What a fetch of an address comes to: a record that shows the exchange, an error that may pass,
or one that loses the response. -/
inductive Yields (header : String) (target : Url) (x : Exchange) : FetchResult → Prop where
  | record {page : FetchRecord} (address : page.uri = target.text)
    (request : page.request = requestText header target)
    (shown : x.Shown target.text page.outcome) : Yields header target x (.record page)
  | passing {f : ExchangeFailure} (failed : x.FailsBy f) (passes : f.isTransient = true) :
    Yields header target x (.failed (f.toError target.text))
  | lost {f : ExchangeFailure} (lost : x.Lost f) :
    Yields header target x (.failed (f.toError target.text))

theorem yields_result (header : String) (target : Url) (fetchedAt : Time.Moment) (x : Exchange) :
    x.Yields header target (x.result header target fetchedAt) := by
  unfold result
  cases x with
  | error f =>
    dsimp only
    rw [f.isRetryable_toError]
    cases hpasses : f.isTransient with
    | true => exact .passing (.unanswered f) hpasses
    | false => exact .record rfl rfl (.exception f)
  | ok r =>
    dsimp only
    cases hbody : r.body with
    | ok body => exact .record rfl rfl (.response hbody)
    | error f =>
      have hfailed : FailsBy (.ok r) f := .brokenOff hbody
      cases hpasses : f.isTransient with
      | true => exact .passing hfailed hpasses
      | false => exact .lost ⟨⟨r, rfl⟩, hfailed, hpasses⟩

end Exchange

namespace FetchCall

/-- A fetch that has come to an end is accounted for: the envelope has grown by the one record of
the exchange, or it is as it was and the error says that the item may be tried again. -/
inductive Settled (call : FetchCall) (header : String) (x : Exchange) (e : Envelope) :
    Except CrawlError Unit × Envelope → Prop where
  | recorded {page : FetchRecord} {e' : Envelope} (address : page.uri = call.target.text)
    (request : page.request = requestText header call.target)
    (shown : x.Shown call.target.text page.outcome) (grown : e.Grown [page] e') :
    Settled call header x e (.ok (), e')
  | handedBack {f : ExchangeFailure} (failed : x.FailsBy f)
    (retryable : (f.toError call.target.text).isRetryable = true) :
    Settled call header x e (.error (f.toError call.target.text), e)

/-- Nothing is left of a fetch that has come to an end: no record, and an error after which its item
has not succeeded and is not tried again. -/
structure Dropped (call : FetchCall) (f : ExchangeFailure) (e : Envelope)
    (left : Except CrawlError Unit × Envelope) : Prop where
  error : left.1 = .error (f.toError call.target.text)
  lasting : (f.toError call.target.text).isRetryable = false
  unwritten : left.2 = e
  unsuccessful : (Ending.fetched left.1).isSuccess = false
  stays : (Ending.fetched left.1).goesBack = false

variable {call : FetchCall} {header : String} {x : Exchange} {e : Envelope} {f : ExchangeFailure}
  {result : FetchResult} {left : Except CrawlError Unit × Envelope}

theorem Settled.not_lost (h : call.Settled header x e left) : ¬ x.Lost f := by
  cases h with
  | recorded _ _ hshown => exact hshown.not_lost
  | handedBack hfailed hretryable =>
    rw [ExchangeFailure.isRetryable_toError] at hretryable
    exact hfailed.not_lost hretryable

theorem dropped_write (h : x.Lost f) (e : Envelope) :
    call.Dropped f e ((FetchResult.failed (f.toError call.target.text)).write e) := by
  have hlasting := (f.isRetryable_toError call.target.text).trans h.lasting
  exact ⟨rfl, hlasting, rfl, rfl, hlasting⟩

/-- On an envelope that takes every record, a fetch is either accounted for or dropped. -/
theorem settled_or_dropped (h : x.Yields header call.target result) (he : e.Writable) :
    call.Settled header x e (result.write e) ∨
      ∃ f, x.Lost f ∧ call.Dropped f e (result.write e) := by
  cases h with
  | @record page haddress hrequest hshown =>
    have hgrown := e.grown_write page
    obtain ⟨e', hwrite, -⟩ := he.exists_write page
    rw [hwrite] at hgrown
    left
    rw [FetchResult.write_record, hwrite]
    exact .recorded haddress hrequest hshown hgrown
  | passing hfailed hpasses =>
    exact .inl (.handedBack hfailed ((ExchangeFailure.isRetryable_toError _ _).trans hpasses))
  | lost hlost => exact .inr ⟨_, hlost, dropped_write hlost e⟩

end FetchCall

namespace Transport

/-- Whatever a server does, a fetch that has come to an end is accounted for unless the body of its
response broke off for a reason that will not pass. Then nothing is left of it. -/
theorem settled_unless_lost (t : Transport) (header : String) (clock : Nat → Time.Moment)
    (earlier : List FetchCall) (call : FetchCall) {e : Envelope} (he : e.Writable) :
    (call.Settled header (t earlier call).1 e
        ((t.service header clock earlier call).result.write e) ↔
      ∀ f, ¬ (t earlier call).1.Lost f) ∧
    ∀ f, (t earlier call).1.Lost f →
      call.Dropped f e ((t.service header clock earlier call).result.write e) := by
  have hyields := (t earlier call).1.yields_result header call.target
    (clock (call.time + (t earlier call).2.getD 0))
  have hleft := FetchCall.settled_or_dropped hyields he
  refine ⟨⟨fun h f => h.not_lost, fun hkept => ?_⟩, fun f hlost => ?_⟩
  · rcases hleft with hsettled | ⟨f, hlost, -⟩
    · exact hsettled
    · exact absurd hlost (hkept f)
  · rcases hleft with hsettled | ⟨g, hlost', hdropped⟩
    · exact absurd hlost hsettled.not_lost
    · obtain rfl := hlost.failed.unique hlost'.failed
      exact hdropped

def cutShort : Transport := fun _ _ =>
  (.ok { status := 200, body := .error { reason := "error decoding response body" } }, some 0)

theorem lost_cutShort (earlier : List FetchCall) (call : FetchCall) :
    (cutShort earlier call).1.Lost { reason := "error decoding response body" } :=
  ⟨⟨_, rfl⟩, .brokenOff rfl, rfl⟩

theorem settled_unless_cutShort : (Envelope.start {}).Writable ∧ ∃ call : FetchCall,
    ¬ call.Settled "crawler/1.0" (cutShort [] call).1 (.start {})
      ((cutShort.service "crawler/1.0" (fun _ => { seconds := 0 }) [] call).result.write
        (.start {})) ∧
    call.Dropped { reason := "error decoding response body" } (.start {})
      ((cutShort.service "crawler/1.0" (fun _ => { seconds := 0 }) [] call).result.write
        (.start {})) := by
  have hwritable : (Envelope.start {}).Writable := Envelope.writable_start fun _ _ _ => rfl
  let call : FetchCall := { time := 0, target := Lone.target }
  have hlost := lost_cutShort [] call
  obtain ⟨hsettled, hdropped⟩ := settled_unless_lost cutShort "crawler/1.0"
    (fun _ => { seconds := 0 }) [] call hwritable
  exact ⟨hwritable, call, fun h => hsettled.mp h _ hlost, hdropped _ hlost⟩

end Transport

end PoliteCrawl
