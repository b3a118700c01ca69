import PoliteCrawl.Proofs.Crawl.Tolls

namespace PoliteCrawl

variable {ψ ε : Type}

structure FetchStart where
  task : Nat
  time : Nat
  candidate : Candidate
  deriving DecidableEq, Repr

def FetchStart.call (x : FetchStart) : FetchCall := { time := x.time, target := x.candidate.target }

namespace CrawlTask

def start? (a : Act (CrawlTask ψ) (CrawlState ε)) : Option FetchStart :=
  match a.phase? with
  | some (.item (.calling candidate)) => some ⟨a.task, a.before.now, candidate⟩
  | _ => none

def starts (events : List (Event (CrawlTask ψ) (CrawlState ε))) : List FetchStart :=
  (acts events).filterMap start?

theorem starts_act (events : List (Event (CrawlTask ψ) (CrawlState ε)))
    (a : Act (CrawlTask ψ) (CrawlState ε)) :
    starts (events ++ [.act a]) = starts events ++ (start? a).toList := by
  rw [starts, acts_append, acts_act, List.filterMap_append, starts]
  congr 1

theorem starts_pass (events : List (Event (CrawlTask ψ) (CrawlState ε)))
    (c : Configuration (CrawlTask ψ) (CrawlState ε)) (later : Nat) :
    starts (events ++ [.pass c later]) = starts events := by
  rw [starts, acts_append, acts_pass, List.append_nil, starts]

theorem start?_eq_some {a : Act (CrawlTask ψ) (CrawlState ε)} {x : FetchStart}
    (h : start? a = some x) :
    a.phase? = some (.item (.calling x.candidate)) ∧ x.task = a.task ∧ x.time = a.before.now := by
  unfold start? at h
  split at h
  · rename_i candidate hphase
    cases h
    exact ⟨hphase, rfl, rfl⟩
  · cases h

theorem start?_of_calling {a : Act (CrawlTask ψ) (CrawlState ε)} {candidate : Candidate}
    (h : a.phase? = some (.item (.calling candidate))) :
    start? a = some ⟨a.task, a.before.now, candidate⟩ := by
  rw [start?, h]

theorem start?_eq_none {a : Act (CrawlTask ψ) (CrawlState ε)}
    (h : ∀ candidate, a.phase? ≠ some (.item (.calling candidate))) : start? a = none := by
  unfold start?
  split
  · rename_i candidate hphase
    exact absurd hphase (h candidate)
  · rfl

theorem mem_starts_act {events : List (Event (CrawlTask ψ) (CrawlState ε))}
    {a : Act (CrawlTask ψ) (CrawlState ε)} {x : FetchStart} :
    x ∈ starts (events ++ [.act a]) ↔ x ∈ starts events ∨ start? a = some x := by
  rw [starts_act, List.mem_append, Option.mem_toList]

section steps

variable {plan : CrawlPlan ψ ε} {c : Configuration (CrawlTask ψ) (CrawlState ε)} {task : Nat}
  {turn : Turn (CrawlTask ψ) (CrawlState ε)} {phase' : ItemPhase ψ}

theorem leads_of_stepAt (h : (machine plan).stepAt c task = some turn)
    (hphase : turn.phase = .item phase') : ∃ phase, c.tasks[task]? = some (.item phase) ∧
      (machine plan).step c.now task (.item phase) c.shared = some turn ∧
        phase.Leads plan c.now task c.shared phase' turn.shared := by
  obtain ⟨before, hbefore, hturn⟩ := (machine plan).stepAt_eq_some h
  cases before with
  | reader phase =>
    obtain ⟨⟨reader', s', started⟩, -, rfl⟩ := Option.map_eq_some_iff.mp hturn
    cases hphase
  | item phase =>
    refine ⟨phase, hbefore, hturn, ?_⟩
    obtain ⟨p, hp, rfl⟩ := Option.map_eq_some_iff.mp hturn
    cases hphase
    exact ItemPhase.leads_of_step hp

def OnItem (P : ItemPhase ψ → Prop) : CrawlTask ψ → Prop
  | reader _ => False
  | item phase => P phase

theorem OnItem.imp {P Q : ItemPhase ψ → Prop} (h : ∀ phase, P phase → Q phase)
    (t : CrawlTask ψ) (ht : t.OnItem P) : t.OnItem Q := by
  cases t with
  | reader phase => exact ht
  | item phase => exact h phase ht

theorem OnItem.disjoint {P Q : ItemPhase ψ → Prop} (h : ∀ phase, P phase → ¬ Q phase)
    (t : CrawlTask ψ) (ht : t.OnItem P) : ¬ t.OnItem Q := by
  cases t with
  | reader phase => exact fun hQ => hQ
  | item phase => exact h phase ht

theorem brings_of_leads {P Q : ItemPhase ψ → Prop}
    (h : ∀ {now task : Nat} {phase phase' : ItemPhase ψ} {s s' : CrawlState ε},
      phase.Leads plan now task s phase' s' → P phase → Q phase')
    (start : Configuration (CrawlTask ψ) (CrawlState ε)) :
    (machine plan).Brings start (OnItem P) (OnItem Q) := by
  intro events c task turn before _ hstep hbefore hP
  obtain ⟨_, heq, hturn⟩ := (machine plan).stepAt_eq_some hstep
  rw [hbefore] at heq
  cases heq
  cases before with
  | reader phase => cases hP
  | item phase =>
    obtain ⟨p, hp, rfl⟩ := Option.map_eq_some_iff.mp hturn
    exact h (ItemPhase.leads_of_step hp) hP

theorem spawned_of_stepAt (h : (machine plan).stepAt c task = some turn)
    (hmem : .item phase' ∈ turn.spawned) : ∃ item, phase' = .entering item (.start item) := by
  obtain ⟨before, -, hturn⟩ := (machine plan).stepAt_eq_some h
  cases before with
  | reader phase =>
    obtain ⟨⟨reader', s', started⟩, -, rfl⟩ := Option.map_eq_some_iff.mp hturn
    obtain ⟨item, -, hitem⟩ := List.mem_map.mp hmem
    cases hitem
    exact ⟨item, rfl⟩
  | item phase =>
    obtain ⟨p, -, rfl⟩ := Option.map_eq_some_iff.mp hturn
    cases hmem

end steps

def GrantedAt (record task instant : Nat) (events : List (Event (CrawlTask ψ) (CrawlState ε))) :
    Prop :=
  ∃ g ∈ grantsOn CrawlState.hosts record events, g.task = task ∧ g.instant = instant

/-- Time passed while the robots file was waited for after a grant in the valve. -/
def HeldUp (task : Nat) (candidate : Candidate)
    (events : List (Event (CrawlTask ψ) (CrawlState ε))) : Prop :=
  candidate.admission = .passed ∧ ∃ c later lookup, Event.pass c later ∈ events ∧ c.now < later ∧
    c.tasks[task]? = some (.item (.looking candidate lookup))

/-- A grant that a task has for its host at some time, and how long it has had it at most. -/
structure Toll (plan : CrawlPlan ψ ε) (events : List (Event (CrawlTask ψ) (CrawlState ε)))
    (t : HostTable) (task time : Nat) (host : String) (candidate? : Option Candidate)
    (record instant : Nat) : Prop where
  host : t.hostAt? record = some (HostTable.keyOf host)
  granted : GrantedAt record task instant events
  le : instant ≤ time
  prompt : (machine plan).Prompt events → instant = time ∨
    ∃ candidate, candidate? = some candidate ∧ HeldUp task candidate events

variable {plan : CrawlPlan ψ ε} {events : List (Event (CrawlTask ψ) (CrawlState ε))}
  {t t' : HostTable} {task time record instant : Nat} {host : String}
  {candidate? : Option Candidate}

theorem GrantedAt.append (h : GrantedAt record task instant events)
    (more : List (Event (CrawlTask ψ) (CrawlState ε))) :
    GrantedAt record task instant (events ++ more) := by
  obtain ⟨g, hg, hgrant⟩ := h
  refine ⟨g, ?_, hgrant⟩
  rw [grantsOn, acts_append, List.filterMap_append]
  exact List.mem_append_left _ hg

theorem HeldUp.append {candidate : Candidate} (h : HeldUp task candidate events)
    (more : List (Event (CrawlTask ψ) (CrawlState ε))) :
    HeldUp task candidate (events ++ more) := by
  obtain ⟨hpassed, c, later, lookup, hmem, hlt, hphase⟩ := h
  exact ⟨hpassed, c, later, lookup, List.mem_append_left _ hmem, hlt, hphase⟩

/-- A task goes on to have its grant. -/
theorem Toll.append (h : Toll plan events t task time host candidate? record instant)
    (hhosts : ∀ record host, t.hostAt? record = some host → t'.hostAt? record = some host)
    {candidate?' : Option Candidate}
    (hcandidate : ∀ candidate, candidate? = some candidate → candidate?' = some candidate)
    (more : List (Event (CrawlTask ψ) (CrawlState ε))) :
    Toll plan (events ++ more) t' task time host candidate?' record instant where
  host := hhosts _ _ h.host
  granted := h.granted.append more
  le := h.le
  prompt hprompt := by
    rcases h.prompt hprompt.of_append with heq | ⟨candidate, heq, hheld⟩
    · exact .inl heq
    · exact .inr ⟨candidate, hcandidate candidate heq, hheld.append more⟩

/-- What the tasks of a run have paid for and which fetches they have started. -/
structure Tolled (plan : CrawlPlan ψ ε) (c : Configuration (CrawlTask ψ) (CrawlState ε))
    (events : List (Event (CrawlTask ψ) (CrawlState ε))) : Prop where
  paid : ∀ (task : Nat) (phase : ItemPhase ψ) (host : String),
    c.tasks[task]? = some (.item phase) → phase.paid? = some true → phase.host? = some host →
      ∃ record instant,
        Toll plan events c.shared.hosts task c.now host phase.candidate? record instant
  sharp : (machine plan).Prompt events →
    ∀ (task : Nat) (phase : ItemPhase ψ) (record instant : Nat),
      c.tasks[task]? = some (.item phase) → phase.stamp? = some (record, instant) → instant = c.now
  ahead : ∀ (task : Nat) (phase : ItemPhase ψ), c.tasks[task]? = some (.item phase) →
    phase.paid?.isSome = true → task ∉ (starts events).map (·.task)
  lt : ∀ x ∈ starts events, x.task < c.tasks.length
  once : ((starts events).map (·.task)).Nodup
  starts : ∀ x ∈ starts events, ∃ record instant,
    Toll plan events c.shared.hosts x.task x.time x.candidate.host (some x.candidate) record instant

namespace Tolled

variable {c : Configuration (CrawlTask ψ) (CrawlState ε)} {turn : Turn (CrawlTask ψ) (CrawlState ε)}
  {phase phase' : ItemPhase ψ}

theorem refl (lines : List String) (hc : c.tasks = [.reader (.reading lines)]) :
    Tolled plan c [] := by
  have hnone : ∀ (task : Nat) (phase : ItemPhase ψ), c.tasks[task]? ≠ some (.item phase) := by
    intro task phase hphase
    have hmem := List.mem_of_getElem? hphase
    rw [hc, List.mem_singleton] at hmem
    cases hmem
  refine ⟨?_, ?_, ?_, by simp [CrawlTask.starts], by simp [CrawlTask.starts],
    by simp [CrawlTask.starts]⟩
  · intro task phase host hphase
    exact absurd hphase (hnone task phase)
  · intro _ task phase record instant hphase
    exact absurd hphase (hnone task phase)
  · intro task phase hphase
    exact absurd hphase (hnone task phase)

/-- A step of a task by which it gets its grant, or with which it goes on to have it. -/
theorem paid_after (h : Tolled plan c events) (hholds : (discipline plan).Holds c)
    (hrule : plan.rule = .hosts) (hphase : c.tasks[task]? = some (.item phase))
    (hstep : (machine plan).step c.now task (.item phase) c.shared = some turn)
    (hleads : phase.Leads plan c.now task c.shared phase' turn.shared)
    (hpaid : phase'.paid? = some true) (hhost : phase'.host? = some host) :
    ∃ record instant, Toll plan (events ++ [.act ⟨c, task, turn⟩]) turn.shared.hosts task c.now host
      phase'.candidate? record instant := by
  have hsound : phase.Sound c.now task c.shared.hosts := hholds.tasks _ _ hphase
  have hadvance := hholds.advance hphase hstep
  have hhost' := hleads.host? hhost
  obtain ⟨before, hbefore, hafter⟩ := hleads.paid hrule hsound hpaid
  cases hstamp : phase.stamp? with
  | none =>
    rw [hstamp, Option.isSome_none, Bool.or_false] at hafter
    subst hafter
    obtain ⟨record, instant, htoll⟩ := h.paid task phase host hphase hbefore hhost'
    refine ⟨record, instant, htoll.append hadvance.hosts ?_ _⟩
    intro candidate hcandidate
    exact hleads.candidate? hpaid hcandidate
  | some stamp =>
    obtain ⟨record, instant⟩ := stamp
    -- The step stamps the grant that the task has from now on.
    obtain ⟨hle, host'', hhost'', hrecord⟩ := hsound.stamped hstamp
    rw [hhost'] at hhost''
    cases hhost''
    have hfollows := hadvance.follows record
    have hstampOn : HostTable.stampOn ((discipline plan).stamp? (.item phase)) record =
        some instant := by
      show HostTable.stampOn phase.stamp? record = some instant
      rw [hstamp]
      exact if_pos rfl
    rw [hstampOn] at hfollows
    obtain ⟨interval, hgained⟩ := hfollows.gained?_eq task
    refine ⟨record, instant, hadvance.hosts _ _ hrecord, ?_, hle, ?_⟩
    · refine ⟨⟨task, instant, interval⟩, ?_, rfl, rfl⟩
      rw [grantsOn_act]
      apply List.mem_append_right
      rw [Option.mem_toList]
      exact hgained
    · intro hprompt
      exact .inl (h.sharp hprompt.of_append task phase record instant hphase hstamp)

/-- A task that starts its fetch has its grant, and has not started one before. -/
theorem start_after {x : FetchStart} (h : Tolled plan c events)
    (hx : start? ⟨c, task, turn⟩ = some x) :
    x.task = task ∧ task ∉ (CrawlTask.starts events).map (·.task) ∧ ∃ record instant,
      Toll plan events c.shared.hosts x.task x.time x.candidate.host (some x.candidate) record
        instant := by
  obtain ⟨hphase, htask, htime⟩ := start?_eq_some hx
  refine ⟨htask, h.ahead task _ hphase rfl, ?_⟩
  rw [htask, htime]
  exact h.paid task _ x.candidate.host hphase rfl rfl

/-- A task that still has to fetch after a step has not started a fetch by then. -/
theorem ahead_after (h : Tolled plan c events) (hholds : (discipline plan).Holds c)
    (hrule : plan.rule = .hosts) (hstep : (machine plan).stepAt c task = some turn) {x : FetchStart}
    (hx : x ∈ CrawlTask.starts (events ++ [.act ⟨c, task, turn⟩]))
    (hphase : (c.after task turn).tasks[x.task]? = some (.item phase')) :
    phase'.paid? = none := by
  obtain ⟨before, hbefore, -⟩ := (machine plan).stepAt_eq_some hstep
  have hlt : task < c.tasks.length := (List.getElem?_eq_some_iff.mp hbefore).1
  apply Option.eq_none_iff_forall_ne_some.mpr
  intro after hafter
  rcases Configuration.tasks_after hphase with ⟨rfl, heq⟩ | ⟨hne, hsame⟩ | ⟨hge, -⟩
  · obtain ⟨phase, hphase, -, hleads⟩ := leads_of_stepAt hstep heq.symm
    obtain ⟨earlier, hearlier, -⟩ := hleads.paid hrule (hholds.tasks _ _ hphase) hafter
    rcases mem_starts_act.mp hx with hold | hnew
    · exact h.ahead _ phase hphase (by rw [hearlier]; rfl) (List.mem_map_of_mem hold)
    · -- The step that starts a fetch leads to where nothing is to be paid any more.
      have hcalling : c.tasks[x.task]? = some (.item (.calling x.candidate)) :=
        (start?_eq_some hnew).1
      rw [hphase] at hcalling
      cases hcalling
      rw [hleads.paid?_of_calling] at hafter
      cases hafter
  · rcases mem_starts_act.mp hx with hold | hnew
    · exact h.ahead _ phase' hsame (Option.isSome_of_eq_some hafter) (List.mem_map_of_mem hold)
    · exact hne (h.start_after hnew).1
  · rcases mem_starts_act.mp hx with hold | hnew
    · exact absurd (h.lt x hold) (Nat.not_lt.mpr hge)
    · rw [(h.start_after hnew).1] at hge
      exact absurd hlt (Nat.not_lt.mpr hge)

theorem once_after (h : Tolled plan c events) (task : Nat)
    (turn : Turn (CrawlTask ψ) (CrawlState ε)) :
    ((CrawlTask.starts (events ++ [.act ⟨c, task, turn⟩])).map (·.task)).Nodup := by
  rw [starts_act, List.map_append]
  cases hnew : start? ⟨c, task, turn⟩ with
  | none =>
    rw [Option.toList_none, List.map_nil, List.append_nil]
    exact h.once
  | some x =>
    obtain ⟨htask, hnotmem, -⟩ := h.start_after hnew
    rw [Option.toList_some, List.map_singleton, htask]
    refine List.nodup_append.mpr ⟨h.once, List.pairwise_singleton _ _, ?_⟩
    rintro i hi j hj rfl
    rw [List.mem_singleton.mp hj] at hi
    exact hnotmem hi

theorem act (h : Tolled plan c events) (hholds : (discipline plan).Holds c)
    (hrule : plan.rule = .hosts) (hstep : (machine plan).stepAt c task = some turn) :
    Tolled plan (c.after task turn) (events ++ [.act ⟨c, task, turn⟩]) := by
  obtain ⟨before, hbefore, hturn⟩ := (machine plan).stepAt_eq_some hstep
  have hhosts := (hholds.advance hbefore hturn).hosts
  have hlt : task < c.tasks.length := (List.getElem?_eq_some_iff.mp hbefore).1
  have hlength : c.tasks.length ≤ (c.after task turn).tasks.length := by
    simp [Configuration.after]
  -- each part for the task that took the step, for the others, and for those that it started
  refine ⟨?_, ?_, ?_, ?_, h.once_after task turn, ?_⟩
  · intro other phase' host hphase' hpaid hhost
    rcases Configuration.tasks_after hphase' with ⟨rfl, heq⟩ | ⟨-, hsame⟩ | ⟨-, hnew⟩
    · obtain ⟨phase, hphase, hown, hleads⟩ := leads_of_stepAt hstep heq.symm
      exact h.paid_after hholds hrule hphase hown hleads hpaid hhost
    · obtain ⟨record, instant, htoll⟩ := h.paid other phase' host hsame hpaid hhost
      exact ⟨record, instant, htoll.append hhosts (fun _ heq => heq) _⟩
    · obtain ⟨item, rfl⟩ := spawned_of_stepAt hstep hnew
      cases hpaid
  · intro hprompt other phase' record instant hphase' hstamp
    rcases Configuration.tasks_after hphase' with ⟨rfl, heq⟩ | ⟨-, hsame⟩ | ⟨-, hnew⟩
    · obtain ⟨phase, hphase, -, hleads⟩ := leads_of_stepAt hstep heq.symm
      exact hleads.stamp? (hholds.tasks _ _ hphase) hstamp
    · exact h.sharp hprompt.of_append other phase' record instant hsame hstamp
    · obtain ⟨item, rfl⟩ := spawned_of_stepAt hstep hnew
      cases hstamp
  · intro other phase' hphase' hpaid hother
    obtain ⟨x, hx, rfl⟩ := List.mem_map.mp hother
    rw [h.ahead_after hholds hrule hstep hx hphase'] at hpaid
    cases hpaid
  · intro x hx
    rcases mem_starts_act.mp hx with hold | hnew
    · exact Nat.lt_of_lt_of_le (h.lt x hold) hlength
    · rw [(h.start_after hnew).1]
      exact Nat.lt_of_lt_of_le hlt hlength
  · intro x hx
    rcases mem_starts_act.mp hx with hold | hnew
    · obtain ⟨record, instant, htoll⟩ := h.starts x hold
      exact ⟨record, instant, htoll.append hhosts (fun _ heq => heq) _⟩
    · obtain ⟨-, -, record, instant, htoll⟩ := h.start_after hnew
      exact ⟨record, instant, htoll.append hhosts (fun _ heq => heq) _⟩

/-- Time that passes. Only a task that waits for its robots file can have its grant by then, if no
time is lost. -/
theorem pass {later : Nat} (h : Tolled plan c events) (hle : c.now ≤ later) :
    Tolled plan { c with now := later } (events ++ [.pass c later]) := by
  have hidle : (machine plan).Prompt (events ++ [.pass c later]) → ∀ (task : Nat)
      (phase : ItemPhase ψ), c.tasks[task]? = some (.item phase) →
        phase.step plan c.now task c.shared = none := by
    intro hprompt task phase hphase
    have hnone := hprompt.idle task
    rw [Machine.stepAt, hphase] at hnone
    exact Option.map_eq_none_iff.mp hnone
  refine ⟨?_, ?_, ?_, ?_, ?_, ?_⟩
  · intro task phase host hphase hpaid hhost
    obtain ⟨record, instant, htoll⟩ := h.paid task phase host hphase hpaid hhost
    have htoll' := htoll.append (fun _ _ heq => heq) (fun _ heq => heq) [.pass c later]
    refine ⟨record, instant, htoll'.host, htoll'.granted, Nat.le_trans htoll'.le hle, ?_⟩
    intro hprompt
    rcases htoll'.prompt hprompt with heq | hheld
    · -- No task could go on, so this one can only be waiting for its robots file.
      obtain ⟨candidate, lookup, rfl, hpassed⟩ :=
        ItemPhase.looking_of_paid hpaid (hidle hprompt task phase hphase)
      rcases Nat.eq_or_lt_of_le hle with hsame | hlt
      · exact .inl (heq.trans hsame)
      · exact .inr ⟨candidate, rfl, hpassed, c, later, lookup, by simp, hlt, hphase⟩
    · exact .inr hheld
  · intro hprompt task phase record instant hphase hstamp
    rw [ItemPhase.stamp?_of_step_eq_none (hidle hprompt task phase hphase)] at hstamp
    cases hstamp
  · rw [starts_pass]
    exact h.ahead
  · rw [starts_pass]
    exact h.lt
  · rw [starts_pass]
    exact h.once
  · rw [starts_pass]
    intro x hx
    obtain ⟨record, instant, htoll⟩ := h.starts x hx
    exact ⟨record, instant, htoll.append (fun _ _ heq => heq) (fun _ heq => heq) _⟩

end Tolled

end CrawlTask

end PoliteCrawl
