import Mathlib.Data.List.Chain
import PoliteCrawl.Proofs.Robots.Fields

namespace PoliteCrawl.Robots

/-- The part of a line before its first `#`. -/
structure Bare (line bare : List Char) : Prop where
  whole : line = bare ∨ ∃ comment, line = bare ++ '#' :: comment
  uncommented : '#' ∉ bare

theorem exists_bare (line : List Char) : ∃ bare, Bare line bare := by
  by_cases hhash : '#' ∈ line
  · obtain ⟨bare, comment, hline, hbare⟩ := List.eq_append_cons_of_mem hhash
    exact ⟨bare, .inr ⟨comment, hline⟩, hbare⟩
  · exact ⟨line, .inl rfl, hhash⟩

theorem Bare.takeWhile_eq {line bare : List Char} (h : Bare line bare) :
    line.takeWhile (· ≠ '#') = bare := by
  have hall : ∀ c ∈ bare, decide (c ≠ '#') = true := by
    intro c hc
    exact decide_eq_true fun heq => h.uncommented (heq ▸ hc)
  rcases h.whole with rfl | ⟨comment, rfl⟩
  · exact List.takeWhile_eq_self_iff.mpr hall
  · rw [List.takeWhile_append_of_pos hall, List.takeWhile_cons_of_neg (by simp), List.append_nil]

namespace KeyedLine

/-- What a line says, by its characters: without its comment and the blanks around the rest, it is
cut at the first colon. Without a colon it says nothing. -/
inductive Seen (line : List Char) : Option KeyedLine → Prop where
  | keyed {bare key value : List Char} (part : Bare line bare)
    (cut : Text.trimChars bare = key ++ ':' :: value) (first : ':' ∉ key) :
    Seen line (some {
      key := Unicode.lower (String.ofList (Text.trimChars key))
      value := String.ofList (Text.trimChars value) })
  | silent {bare : List Char} (part : Bare line bare) (colonless : ':' ∉ Text.trimChars bare) :
    Seen line none

theorem ofLine?_eq_of_seen {line : List Char} {seen : Option KeyedLine} (h : Seen line seen) :
    ofLine? line = seen := by
  unfold ofLine?
  cases h with
  | keyed hpart hcut hfirst =>
    rw [hpart.takeWhile_eq, hcut, Text.splitOnce_append _ hfirst]
    rfl
  | silent hpart hcolonless =>
    rw [hpart.takeWhile_eq, Option.map_eq_none_iff, ← Option.not_isSome_iff_eq_none,
      Text.isSome_splitOnce]
    exact fun hcolon => hcolonless (hcolon.subset (List.mem_singleton_self _))

theorem exists_seen (line : List Char) : ∃ seen, Seen line seen := by
  obtain ⟨bare, hbare⟩ := exists_bare line
  by_cases hcolon : ':' ∈ Text.trimChars bare
  · obtain ⟨key, value, hcut, hfirst⟩ := List.eq_append_cons_of_mem hcolon
    exact ⟨_, .keyed hbare hcut hfirst⟩
  · exact ⟨_, .silent hbare hcolon⟩

theorem ofLine?_eq_iff (line : List Char) (seen : Option KeyedLine) :
    ofLine? line = seen ↔ Seen line seen := by
  refine ⟨fun h => ?_, ofLine?_eq_of_seen⟩
  obtain ⟨seen', hseen⟩ := exists_seen line
  rwa [← h, ofLine?_eq_of_seen hseen]

def NamesAgent (line : KeyedLine) : Prop := line.key = "user-agent"

instance : DecidablePred NamesAgent := fun line => inferInstanceAs (Decidable (line.key = _))

def delay? (line : KeyedLine) : Option Nat :=
  if line.key = "crawl-delay" then readDelay? line.value else none

end KeyedLine

/-- Lines that name agents one after the other, and what is said below. -/
structure AgentGroup where
  agents : List KeyedLine
  body : List KeyedLine
  deriving DecidableEq

namespace AgentGroup

def lines (g : AgentGroup) : List KeyedLine := g.agents ++ g.body

def names (g : AgentGroup) : List String := g.agents.map fun line => Unicode.lower line.value

def delays (g : AgentGroup) : List Nat := g.body.filterMap KeyedLine.delay?

/-- A name other than `*` is part of the agent's. -/
def IsSpecific (agent : String) (g : AgentGroup) : Prop :=
  ∃ name ∈ g.names, name ≠ "*" ∧ name.toList <:+: (Unicode.lower agent).toList

/-- The group is for everyone, and not for the agent by its name. -/
def IsGeneral (agent : String) (g : AgentGroup) : Prop := ¬ g.IsSpecific agent ∧ "*" ∈ g.names

instance (agent : String) : DecidablePred (IsSpecific agent) := fun g =>
  inferInstanceAs (Decidable (∃ name ∈ g.names, name ≠ "*" ∧ name.toList <:+: _))

instance (agent : String) : DecidablePred (IsGeneral agent) := fun g =>
  inferInstanceAs (Decidable (¬ g.IsSpecific agent ∧ "*" ∈ g.names))

def lastDelay? (p : AgentGroup → Prop) [DecidablePred p] (groups : List AgentGroup) : Option Nat :=
  ((groups.filter p).flatMap delays).getLast?

end AgentGroup

/-- A file in groups, with what stands before the first of them. -/
structure Grouping where
  stray : List KeyedLine := []
  groups : List AgentGroup := []
  deriving DecidableEq

namespace Grouping

/-- How lines fall into groups: each begins with lines that name agents, as many as there are, and
goes on up to the next such line. -/
structure Of (lines : List KeyedLine) (g : Grouping) : Prop where
  whole : lines = g.stray ++ g.groups.flatMap AgentGroup.lines
  stray : ∀ line ∈ g.stray, ¬ line.NamesAgent
  agents : ∀ group ∈ g.groups, ∀ line ∈ group.agents, line.NamesAgent
  opened : ∀ group ∈ g.groups, group.agents ≠ []
  body : ∀ group ∈ g.groups, ∀ line ∈ group.body, ¬ line.NamesAgent
  parted : g.groups.IsChain fun group _ => group.body ≠ []

/-- The delay that the groups ask of an agent. -/
def delay? (agent : String) (g : Grouping) : Option Nat :=
  (AgentGroup.lastDelay? (·.IsSpecific agent) g.groups).or
    (AgentGroup.lastDelay? (·.IsGeneral agent) g.groups)

def cons (line : KeyedLine) (g : Grouping) : Grouping :=
  if line.NamesAgent then
    match g.stray, g.groups with
    | [], group :: groups => { groups := { group with agents := line :: group.agents } :: groups }
    | stray, groups => { groups := { agents := [line], body := stray } :: groups }
  else { g with stray := line :: g.stray }

def ofLines (lines : List KeyedLine) : Grouping := lines.foldr cons {}

section Unique

variable {line : KeyedLine} {lines : List KeyedLine} {g : Grouping} {group : AgentGroup}
  {groups : List AgentGroup}

theorem cons_body (h : ¬ line.NamesAgent) (g : Grouping) :
    cons line g = { g with stray := line :: g.stray } := by
  rw [cons, if_neg h]

theorem ofLines_body_append (h : ∀ line ∈ lines, ¬ line.NamesAgent) (rest : List KeyedLine) :
    ofLines (lines ++ rest) = { ofLines rest with stray := lines ++ (ofLines rest).stray } := by
  induction lines with
  | nil => rfl
  | cons line lines ih =>
    have hrest := ih fun l hl => h l (List.mem_cons_of_mem _ hl)
    rw [ofLines, List.cons_append, List.foldr_cons, ← ofLines, hrest,
      cons_body (h line List.mem_cons_self)]
    rfl

/-- Lines that name agents open a group with what comes next, unless that goes on naming agents. -/
theorem ofLines_agents_append (hne : lines ≠ []) (h : ∀ line ∈ lines, line.NamesAgent)
    {rest : List KeyedLine} (hparted : (ofLines rest).groups = [] ∨ (ofLines rest).stray ≠ []) :
    ofLines (lines ++ rest) =
      { groups := { agents := lines, body := (ofLines rest).stray } :: (ofLines rest).groups } := by
  induction lines with
  | nil => exact absurd rfl hne
  | cons line lines ih =>
    have hline := h line List.mem_cons_self
    rw [ofLines, List.cons_append, List.foldr_cons, ← ofLines, cons, if_pos hline]
    cases lines with
    | nil =>
      rw [List.nil_append]
      split
      · rename_i hstray hgroups
        rw [hstray, hgroups] at hparted
        simp at hparted
      · rfl
    | cons next lines =>
      rw [ih (by simp) fun l hl => h l (List.mem_cons_of_mem _ hl)]

theorem ofLines_groups (hagents : ∀ group ∈ groups, ∀ line ∈ group.agents, line.NamesAgent)
    (hopened : ∀ group ∈ groups, group.agents ≠ [])
    (hbody : ∀ group ∈ groups, ∀ line ∈ group.body, ¬ line.NamesAgent)
    (hparted : groups.IsChain fun group _ => group.body ≠ []) :
    ofLines (groups.flatMap AgentGroup.lines) = { groups } := by
  induction groups with
  | nil => rfl
  | cons group groups ih =>
    have hrest := ih (fun g hg => hagents g (List.mem_cons_of_mem _ hg))
      (fun g hg => hopened g (List.mem_cons_of_mem _ hg))
      (fun g hg => hbody g (List.mem_cons_of_mem _ hg)) hparted.of_cons
    have hbelow : ofLines (group.body ++ groups.flatMap AgentGroup.lines) =
        { stray := group.body, groups } := by
      rw [ofLines_body_append (hbody group List.mem_cons_self), hrest, List.append_nil]
    rw [List.flatMap_cons, AgentGroup.lines, List.append_assoc, ofLines_agents_append
      (hopened group List.mem_cons_self) (hagents group List.mem_cons_self), hbelow]
    rw [hbelow]
    cases groups with
    | nil => exact .inl rfl
    | cons next groups => exact .inr (List.isChain_cons_cons.mp hparted).1

theorem Of.eq_ofLines (h : g.Of lines) : g = ofLines lines := by
  rw [h.whole, ofLines_body_append h.stray, ofLines_groups h.agents h.opened h.body h.parted,
    List.append_nil]

end Unique

section Exists

variable {line : KeyedLine} {lines : List KeyedLine} {g : Grouping}

theorem of_nil : Of [] {} := ⟨rfl, by simp, by simp, by simp, by simp, .nil⟩

theorem Of.cons_body (h : g.Of lines) (hline : ¬ line.NamesAgent) :
    (cons line g).Of (line :: lines) := by
  rw [Grouping.cons_body hline]
  refine ⟨?_, ?_, h.agents, h.opened, h.body, h.parted⟩
  · rw [h.whole]
    rfl
  · intro l hl
    rcases List.mem_cons.mp hl with rfl | hl
    · exact hline
    · exact h.stray l hl

theorem Of.cons_agent (h : g.Of lines) (hline : line.NamesAgent) :
    (cons line g).Of (line :: lines) := by
  obtain ⟨rfl, hstray, hagents, hopened, hbody, hparted⟩ := h
  obtain ⟨stray, groups⟩ := g
  rw [cons, if_pos hline]
  -- the line opens a group of its own if others stand below it, else it joins the first group
  cases stray with
  | cons first stray =>
    refine ⟨rfl, by simp, ?_, ?_, ?_, ?_⟩
    · exact List.forall_mem_cons.mpr ⟨by simpa using hline, hagents⟩
    · exact List.forall_mem_cons.mpr ⟨by simp, hopened⟩
    · exact List.forall_mem_cons.mpr ⟨hstray, hbody⟩
    · exact List.isChain_cons.mpr ⟨fun _ _ => by simp, hparted⟩
  | nil =>
    cases groups with
    | nil =>
      refine ⟨rfl, by simp, ?_, by simp, by simp, by simp⟩
      simpa using hline
    | cons group groups =>
      obtain ⟨hgroup, hagents⟩ := List.forall_mem_cons.mp hagents
      refine ⟨rfl, hstray, ?_, ?_, ?_, ?_⟩
      · exact List.forall_mem_cons.mpr ⟨List.forall_mem_cons.mpr ⟨hline, hgroup⟩, hagents⟩
      · exact List.forall_mem_cons.mpr ⟨by simp, (List.forall_mem_cons.mp hopened).2⟩
      · exact List.forall_mem_cons.mpr (List.forall_mem_cons.mp hbody)
      · cases groups with
        | nil => exact .singleton _
        | cons next groups => exact List.isChain_cons_cons.mpr (List.isChain_cons_cons.mp hparted)

theorem of_ofLines (lines : List KeyedLine) : (ofLines lines).Of lines := by
  induction lines with
  | nil => exact of_nil
  | cons line lines ih =>
    by_cases hline : line.NamesAgent
    · exact ih.cons_agent hline
    · exact ih.cons_body hline

theorem of_iff (lines : List KeyedLine) (g : Grouping) : g.Of lines ↔ g = ofLines lines :=
  ⟨Of.eq_ofLines, fun h => h ▸ of_ofLines lines⟩

end Exists

end Grouping

namespace DelaySearch

variable {agent : String} {s : DelaySearch} {line : KeyedLine} {lines : List KeyedLine}

theorem step_agent (h : line.NamesAgent) : s.step agent line =
    { s with
      group := (if s.naming then s.group else []) ++ [Unicode.lower line.value]
      naming := true } := if_pos h

def isSpecific (agent : String) (s : DelaySearch) : Bool :=
  s.group.any fun name => name ≠ "*" && isPartOf name agent

def isGeneral (agent : String) (s : DelaySearch) : Bool :=
  !s.isSpecific agent && s.group.contains "*"

def note (agent : String) (s : DelaySearch) (delay? : Option Nat) : DelaySearch :=
  { s with
    specific := (if s.isSpecific agent then delay? else none).or s.specific
    general := (if s.isGeneral agent then delay? else none).or s.general }

theorem note_none (agent : String) (s : DelaySearch) : s.note agent none = s := by
  simp [note]

/-- Of two delays of a group, the later one counts. -/
theorem note_note (agent : String) (s : DelaySearch) (first second : Option Nat) :
    (s.note agent first).note agent second = s.note agent (second.or first) := by
  have hspecific : (s.note agent first).isSpecific agent = s.isSpecific agent := rfl
  have hgeneral : (s.note agent first).isGeneral agent = s.isGeneral agent := rfl
  rw [note, hspecific, hgeneral]
  cases hs : s.isSpecific agent <;> cases hg : s.isGeneral agent <;>
    simp [note, hs, hg, Option.or_assoc]

theorem step_body (h : ¬ line.NamesAgent) :
    s.step agent line = { s.note agent line.delay? with naming := false } := by
  have hkey : ¬ line.key = "user-agent" := h
  rw [step, if_neg hkey, ← KeyedLine.delay?]
  cases line.delay? with
  | none => simp [note_none]
  | some delay =>
    dsimp only
    rw [← isSpecific]
    cases hspecific : s.isSpecific agent with
    | true => simp [note, isGeneral, hspecific]
    | false => by_cases heveryone : s.group.contains "*" = true <;>
        simp only [note, isGeneral, hspecific, heveryone] <;> simp

theorem foldl_agents (hs : s.naming = true) (h : ∀ line ∈ lines, line.NamesAgent) :
    lines.foldl (step agent) s =
      { s with group := s.group ++ lines.map fun line => Unicode.lower line.value } := by
  induction lines generalizing s with
  | nil => simp
  | cons line lines ih =>
    rw [List.foldl_cons, step_agent (h line List.mem_cons_self), hs, if_pos rfl,
      ih rfl fun l hl => h l (List.mem_cons_of_mem _ hl)]
    simp

theorem foldl_body (agent : String) (h : ∀ line ∈ lines, ¬ line.NamesAgent) :
    lines.foldl (step agent) s =
      { s.note agent (lines.filterMap KeyedLine.delay?).getLast? with
        naming := s.naming && lines.isEmpty } := by
  induction lines using List.reverseRecOn with
  | nil => simp [note_none]
  | append_singleton lines line ih =>
    have hlast : ([line].filterMap KeyedLine.delay?).getLast? = line.delay? := by
      cases hdelay : line.delay? <;> simp [hdelay]
    have hnaming : (s.naming && (lines ++ [line]).isEmpty) = false := by simp
    rw [List.foldl_append, ih fun l hl => h l (List.mem_append_left _ hl), List.foldl_cons,
      List.foldl_nil, step_body (h line (by simp)), List.filterMap_append, List.getLast?_append,
      hlast, ← note_note, hnaming]
    rfl

/-- The names of a new group stand alone. -/
theorem foldl_opening (hs : s.naming = false) (hne : lines ≠ [])
    (h : ∀ line ∈ lines, line.NamesAgent) :
    lines.foldl (step agent) s =
      { s with group := lines.map fun line => Unicode.lower line.value, naming := true } := by
  cases lines with
  | nil => exact absurd rfl hne
  | cons line lines =>
    rw [List.foldl_cons, step_agent (h line List.mem_cons_self), hs,
      foldl_agents rfl fun l hl => h l (List.mem_cons_of_mem _ hl)]
    rfl

theorem isSpecific_iff {name : String} {g : AgentGroup} (hs : s.group = g.names) :
    s.isSpecific (Unicode.lower name) = true ↔ g.IsSpecific name := by
  simp only [isSpecific, hs, AgentGroup.IsSpecific, isPartOf, List.any_eq_true, Bool.and_eq_true,
    decide_eq_true_eq, Text.isSome_splitOnce]

theorem isGeneral_iff {name : String} {g : AgentGroup} (hs : s.group = g.names) :
    s.isGeneral (Unicode.lower name) = true ↔ g.IsGeneral name := by
  simp only [isGeneral, AgentGroup.IsGeneral, ← isSpecific_iff hs, hs, Bool.and_eq_true,
    Bool.not_eq_true', List.contains_iff_mem, Bool.not_eq_true]

theorem note_eq {name : String} {g : AgentGroup} (hs : s.group = g.names) (delay? : Option Nat) :
    s.note (Unicode.lower name) delay? =
      { s with
        specific := (if g.IsSpecific name then delay? else none).or s.specific
        general := (if g.IsGeneral name then delay? else none).or s.general } := by
  simp only [note, isSpecific_iff hs, isGeneral_iff hs]

/-- What has been found below a group: its last delay, by the kind of the group. -/
def below (name : String) (s : DelaySearch) (g : AgentGroup) : DelaySearch where
  group := g.names
  naming := g.body.isEmpty
  specific := (if g.IsSpecific name then g.delays.getLast? else none).or s.specific
  general := (if g.IsGeneral name then g.delays.getLast? else none).or s.general

end DelaySearch

section Groups

variable {agent : String} {groups : List AgentGroup}

theorem AgentGroup.foldl_lines {s : DelaySearch} (hs : s.naming = false) {g : AgentGroup}
    (hagents : ∀ line ∈ g.agents, line.NamesAgent) (hopened : g.agents ≠ [])
    (hbody : ∀ line ∈ g.body, ¬ line.NamesAgent) :
    g.lines.foldl (DelaySearch.step (Unicode.lower agent)) s = s.below agent g := by
  rw [lines, List.foldl_append, DelaySearch.foldl_opening hs hopened hagents,
    DelaySearch.foldl_body _ hbody, ← names, DelaySearch.note_eq rfl]
  rfl

theorem AgentGroup.lastDelay?_cons (p : AgentGroup → Prop) [DecidablePred p] (g : AgentGroup)
    (groups : List AgentGroup) :
    lastDelay? p (g :: groups) =
      (lastDelay? p groups).or (if p g then g.delays.getLast? else none) := by
  by_cases h : p g <;> simp [lastDelay?, h]

/-- Groups that follow one another keep the search apart: only their last delays matter. -/
theorem foldl_agentGroups (agent : String) {s : DelaySearch} (hs : s.naming = false)
    (hagents : ∀ group ∈ groups, ∀ line ∈ group.agents, line.NamesAgent)
    (hopened : ∀ group ∈ groups, group.agents ≠ [])
    (hbody : ∀ group ∈ groups, ∀ line ∈ group.body, ¬ line.NamesAgent)
    (hparted : groups.IsChain fun group _ => group.body ≠ []) :
    let found := (groups.flatMap AgentGroup.lines).foldl (DelaySearch.step (Unicode.lower agent)) s
    found.specific = (AgentGroup.lastDelay? (·.IsSpecific agent) groups).or s.specific ∧
      found.general = (AgentGroup.lastDelay? (·.IsGeneral agent) groups).or s.general := by
  induction groups generalizing s with
  | nil => exact ⟨rfl, rfl⟩
  | cons group groups ih =>
    rw [List.forall_mem_cons] at hagents hopened hbody
    rw [List.flatMap_cons, List.foldl_append,
      AgentGroup.foldl_lines hs hagents.1 hopened.1 hbody.1, AgentGroup.lastDelay?_cons,
      AgentGroup.lastDelay?_cons]
    cases groups with
    | nil => exact ⟨rfl, rfl⟩
    | cons next groups =>
      obtain ⟨hgroup, hrest⟩ := List.isChain_cons_cons.mp hparted
      have hnaming : (s.below agent group).naming = false := by
        simpa [DelaySearch.below] using hgroup
      rw [Option.or_assoc, Option.or_assoc]
      exact ih hnaming hagents.2 hopened.2 hbody.2 hrest

theorem Grouping.Of.crawlDelay? {r : Robots} {g : Grouping} (h : g.Of r.keyedLines)
    (agent : String) : r.crawlDelay? agent = g.delay? agent := by
  have hstray := DelaySearch.foldl_body (s := {}) (Unicode.lower agent) h.stray
  obtain ⟨hspecific, hgeneral⟩ := foldl_agentGroups agent (s := {}) rfl h.agents h.opened h.body
    h.parted
  have hnote : DelaySearch.note (Unicode.lower agent) {}
      (g.stray.filterMap KeyedLine.delay?).getLast? = {} := rfl
  rw [Robots.crawlDelay?, h.whole, List.foldl_append, hstray, hnote]
  dsimp only
  rw [Bool.false_and, hspecific, hgeneral, Option.or_none, Option.or_none, Option.orElse_eq_orElse,
    Option.orElse_eq_or]
  rfl

/-- The lines of a file fall into groups in one way, and the delay for an agent is the last one of a
group that names it, else the last one of a group for everyone. -/
theorem delay_by_groups (r : Robots) (agent : String) :
    (∀ line seen, KeyedLine.ofLine? line = seen ↔ KeyedLine.Seen line seen) ∧
    ∃ g : Grouping, (∀ g' : Grouping, g'.Of (r.lines.filterMap KeyedLine.ofLine?) ↔ g' = g) ∧
      r.crawlDelay? agent = g.delay? agent :=
  ⟨KeyedLine.ofLine?_eq_iff, .ofLines r.keyedLines, Grouping.of_iff r.keyedLines,
    (Grouping.of_ofLines r.keyedLines).crawlDelay? agent⟩

end Groups

end PoliteCrawl.Robots
