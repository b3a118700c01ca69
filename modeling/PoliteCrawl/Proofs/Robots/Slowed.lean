import PoliteCrawl.Proofs.Robots.Agents
import PoliteCrawl.Proofs.Unicode.Ascii

namespace PoliteCrawl.Robots

/-- Agents who may fetch nothing, and a delay for them. -/
structure Group where
  agents : List (List Char)
  delay : List Char

namespace Group

def lines (g : Group) : List (List Char) :=
  g.agents.map (fieldLine "User-agent") ++
    [fieldLine "Disallow" ['/'], fieldLine "Crawl-delay" g.delay]

structure IsSound (g : Group) : Prop where
  agents : g.agents ≠ []
  agentLines : ∀ value ∈ g.agents, '\r' ∉ value
  delayLine : '\r' ∉ g.delay
  delay : (readDelay? (String.ofList (fieldValue g.delay))).isSome = true

end Group

/-- The name that the search for a delay sees in a value. -/
def searchedName (value : List Char) : String := Unicode.lower (String.ofList (fieldValue value))

/-- The group's delay is for the agent if the value is `*` or a part of the agent's name. -/
def Slows (agent : String) (value : List Char) : Prop :=
  searchedName value = "*" ∨ (searchedName value).toList <:+: (Unicode.lower agent).toList

/-- The group's rules are for the agent if the value is `*`, perhaps with more behind a blank, or
has the agent's name before the first character that no name has. -/
def Governs (agent : String) (value : List Char) : Prop :=
  isEveryone (shownValue "User-agent" value) = true ∨
    names agent (shownValue "User-agent" value) = true

/-- What each group adds to a reading, all of them add to it. -/
theorem foldl_groups {σ δ : Type} {step : σ → δ → σ} {read : Group → List δ}
    {Read : Prop → σ → Prop} {groups : List Group} (Hit : Group → Prop)
    (hstep : ∀ P r, ∀ g ∈ groups, Read P r → Read (P ∨ Hit g) ((read g).foldl step r))
    {P : Prop} {r : σ} (hr : Read P r) :
    Read (P ∨ ∃ g ∈ groups, Hit g) ((groups.flatMap read).foldl step r) := by
  induction groups generalizing P r with
  | nil => simpa using hr
  | cons g groups ih =>
    have hfirst := hstep P r g List.mem_cons_self hr
    have hrest := ih (fun P r g hg => hstep P r g (List.mem_cons_of_mem _ hg)) hfirst
    simpa [or_assoc] using hrest

section Access

variable {agent : String} {path : Bytes} {r : Reading}

def Group.directives (g : Group) : List Directive :=
  g.agents.map (fun value => .userAgent (shownValue "User-agent" value)) ++
    [.disallow [slash], .unknown]

theorem Group.filterMap_directives (g : Group) :
    g.lines.filterMap (fun line => Directive.ofLine? (withinBytes longestLine line)) =
      g.directives := by
  have hagents : g.agents.filterMap (fun value =>
      Directive.ofLine? (withinBytes longestLine (fieldLine "User-agent" value))) =
        g.agents.map fun value => .userAgent (shownValue "User-agent" value) := by
    rw [← List.filterMap_eq_map]
    exact List.filterMap_congr fun value _ => directive_agent value
  rw [lines, directives, List.filterMap_append, List.filterMap_map, Function.comp_def, hagents]
  simp [directive_disallow_all, directive_delay]

def ours (agent : String) (values : List (List Char)) : Bool :=
  values.any fun value => !isEveryone value && names agent value

theorem ruled_addAgent (hr : r.ruled = false) (value : List Char) :
    (r.addAgent agent value).ruled = false := by
  unfold Reading.addAgent
  by_cases heveryone : isEveryone value = true
  · simp [hr, heveryone]
  · by_cases hnames : names agent value = true <;> simp [hr, heveryone, hnames]

theorem foldl_addAgent (values : List (List Char)) (hr : r.ruled = false) :
    values.foldl (Reading.addAgent agent) r =
      { r with
        ours := r.ours || ours agent values
        everyones := r.everyones || values.any isEveryone
        named := r.named || ours agent values } := by
  induction values generalizing r with
  | nil => simp [ours]
  | cons value values ih =>
    rw [List.foldl_cons, ih (ruled_addAgent hr value)]
    by_cases heveryone : isEveryone value = true
    · simp [Reading.addAgent, ours, hr, heveryone]
    · by_cases hnames : names agent value = true
      · simp [Reading.addAgent, ours, hr, heveryone, hnames]
      · simp [Reading.addAgent, ours, hr, heveryone, hnames]

/-- What has been read between two groups that forbid everything: whether one governs the agent. -/
structure Settled (governed : Prop) (r : Reading) : Prop where
  closed : r.ruled = true ∨ (r.ours = false ∧ r.everyones = false)
  specific : r.specific.allow = 0
  general : r.general.allow = 0
  named : r.named = true → 0 < r.specific.disallow
  governed : (r.named = true ∨ 0 < r.general.disallow) ↔ governed

theorem Settled.start : Settled False {} :=
  ⟨.inr ⟨rfl, rfl⟩, rfl, rfl, by simp, by simp⟩

theorem addAgent_of_closed (hr : r.ruled = true ∨ (r.ours = false ∧ r.everyones = false))
    (value : List Char) : r.addAgent agent value =
      { r with ours := false, everyones := false, ruled := false }.addAgent agent value := by
  cases hruled : r.ruled with
  | true => simp [Reading.addAgent, hruled]
  | false =>
    obtain ⟨hours, heveryones⟩ := hr.resolve_left (by simp [hruled])
    have hsame : { r with ours := false, everyones := false, ruled := false } = r := by
      cases r
      simp only at hours heveryones hruled
      simp only [hours, heveryones, hruled]
    rw [hsame]

/-- The names of a new group stand alone. -/
theorem Settled.foldl_names {P : Prop} (h : Settled P r) {values : List (List Char)}
    (hvalues : values ≠ []) :
    values.foldl (Reading.addAgent agent) r =
      { r with
        ours := ours agent values
        everyones := values.any isEveryone
        ruled := false
        named := r.named || ours agent values } := by
  cases values with
  | nil => exact absurd rfl hvalues
  | cons value values =>
    rw [List.foldl_cons, addAgent_of_closed h.closed, ← List.foldl_cons, foldl_addAgent _ rfl]
    simp

theorem exists_governs_iff {agents : List (List Char)} :
    (∃ value ∈ agents, Governs agent value) ↔
      ours agent (agents.map (shownValue "User-agent")) = true ∨
        (agents.map (shownValue "User-agent")).any isEveryone = true := by
  simp only [Governs, ours, List.any_map, List.any_eq_true, Function.comp_apply, Bool.and_eq_true,
    Bool.not_eq_true']
  constructor
  · rintro ⟨value, hmem, hgoverns⟩
    by_cases heveryone : isEveryone (shownValue "User-agent" value) = true
    · exact .inr ⟨value, hmem, heveryone⟩
    · exact .inl ⟨value, hmem, by simpa using heveryone, hgoverns.resolve_left heveryone⟩
  · rintro (⟨value, hmem, -, hnames⟩ | ⟨value, hmem, heveryone⟩)
    · exact ⟨value, hmem, .inr hnames⟩
    · exact ⟨value, hmem, .inl heveryone⟩

theorem Settled.foldl_group {P : Prop} (h : Settled P r) {g : Group} (hg : g.agents ≠ [])
    (hpath : Reading.disallowLength path [slash] = 1) :
    Settled (P ∨ ∃ value ∈ g.agents, Governs agent value)
      (g.directives.foldl (Reading.step agent path) r) := by
  have hnames : (g.agents.map fun value =>
      Directive.userAgent (shownValue "User-agent" value)).foldl (Reading.step agent path) r =
        (g.agents.map (shownValue "User-agent")).foldl (Reading.addAgent agent) r := by
    rw [List.foldl_map, List.foldl_map]
    rfl
  rw [Group.directives, List.foldl_append, hnames, h.foldl_names (by simpa using hg),
    exists_governs_iff]
  generalize g.agents.map (shownValue "User-agent") = values
  have hmax : ∀ n : Nat, 0 < max n 1 := fun n =>
    Nat.lt_of_lt_of_le Nat.one_pos (Nat.le_max_right n 1)
  simp only [List.foldl_cons, List.foldl_nil, Reading.step, Reading.note, hpath]
  -- The rule counts for the agent's name first, then for everyone, else not at all.
  cases hours : ours agent values with
  | true =>
    simp only [Bool.true_or, Bool.or_true, if_true, true_or, or_true]
    exact ⟨.inl rfl, h.specific, h.general, fun _ => hmax _, by simp⟩
  | false =>
    cases heveryone : values.any isEveryone with
    | true =>
      simp only [Bool.false_or, Bool.or_false, if_true, Bool.false_eq_true, if_false, or_true]
      exact ⟨.inl rfl, h.specific, h.general, h.named, by simp [hmax]⟩
    | false =>
      simp only [Bool.or_false, Bool.false_eq_true, if_false, or_false]
      exact ⟨.inl rfl, h.specific, h.general, h.named, h.governed⟩

theorem Settled.denies {P : Prop} (h : Settled P r) : r.denies = true ↔ P := by
  obtain ⟨-, hspecific, hgeneral, hnamed, hgoverned⟩ := h
  rw [Reading.denies, ← hgoverned]
  by_cases hname : r.named = true
  · simp [hname, Longest.denies, hspecific, hnamed hname]
  · simp [hname, Longest.denies, hgeneral]

end Access

section Delay

variable {agent : String} {s : DelaySearch}

def keyed (key : String) (value : List Char) : KeyedLine :=
  { key := Unicode.lower key, value := String.ofList (fieldValue value) }

def Group.keyedLines (g : Group) : List KeyedLine :=
  g.agents.map (keyed "User-agent") ++ [keyed "Disallow" ['/'], keyed "Crawl-delay" g.delay]

theorem Group.filterMap_keyedLines (g : Group) :
    g.lines.filterMap KeyedLine.ofLine? = g.keyedLines := by
  have hagents : g.agents.filterMap (fun value =>
      KeyedLine.ofLine? (fieldLine "User-agent" value)) = g.agents.map (keyed "User-agent") := by
    rw [← List.filterMap_eq_map]
    exact List.filterMap_congr fun value _ => keyedLine_fieldLine (by decide)
  have hdisallow : KeyedLine.ofLine? (fieldLine "Disallow" ['/']) = some (keyed "Disallow" ['/']) :=
    keyedLine_fieldLine (by decide)
  have hdelay : KeyedLine.ofLine? (fieldLine "Crawl-delay" g.delay) =
      some (keyed "Crawl-delay" g.delay) := keyedLine_fieldLine (by decide)
  rw [lines, keyedLines, List.filterMap_append, List.filterMap_map, Function.comp_def, hagents]
  simp [hdisallow, hdelay]

theorem lower_keys : Unicode.lower "User-agent" = "user-agent" ∧
    Unicode.lower "Disallow" = "disallow" ∧ Unicode.lower "Crawl-delay" = "crawl-delay" := by
  refine ⟨?_, ?_, ?_⟩
  · rw [Unicode.lower_of_all (by decide)]
    decide
  · rw [Unicode.lower_of_all (by decide)]
    decide
  · rw [Unicode.lower_of_all (by decide)]
    decide

theorem foldl_keyed_agents (values : List (List Char)) (hs : s.naming = true) :
    (values.map (keyed "User-agent")).foldl (DelaySearch.step agent) s =
      { s with group := s.group ++ values.map searchedName } := by
  induction values generalizing s with
  | nil => simp
  | cons value values ih =>
    have hkey : (keyed "User-agent" value).key = "user-agent" := lower_keys.1
    rw [List.map_cons, List.foldl_cons, DelaySearch.step, if_pos hkey, hs, if_pos rfl, ih rfl]
    simp [keyed, searchedName]

theorem step_disallow (value : List Char) :
    s.step agent (keyed "Disallow" value) = { s with naming := false } := by
  have hkey : (keyed "Disallow" value).key = "disallow" := lower_keys.2.1
  have hagent : (keyed "Disallow" value).key ≠ "user-agent" := by
    rw [hkey]
    decide
  have hdelay : (keyed "Disallow" value).key ≠ "crawl-delay" := by
    rw [hkey]
    decide
  rw [DelaySearch.step, if_neg hagent, if_neg hdelay]

theorem step_delay {value : List Char} {delay : Nat}
    (hread : readDelay? (String.ofList (fieldValue value)) = some delay) :
    s.step agent (keyed "Crawl-delay" value) =
      if s.group.any fun name => name ≠ "*" && isPartOf name agent then
        { s with naming := false, specific := some delay }
      else if s.group.contains "*" then { s with naming := false, general := some delay }
      else { s with naming := false } := by
  have hkey : (keyed "Crawl-delay" value).key = "crawl-delay" := lower_keys.2.2
  have hagent : (keyed "Crawl-delay" value).key ≠ "user-agent" := by
    rw [hkey]
    decide
  have hdelay : readDelay? (keyed "Crawl-delay" value).value = some delay := hread
  rw [DelaySearch.step, if_neg hagent, if_pos hkey, hdelay]

structure Found (slowed : Prop) (s : DelaySearch) : Prop where
  closed : s.naming = false
  slowed : (s.specific <|> s.general).isSome = true ↔ slowed

/-- The names of a new group stand alone. -/
theorem Found.foldl_names {P : Prop} (h : Found P s) {values : List (List Char)}
    (hvalues : values ≠ []) :
    (values.map (keyed "User-agent")).foldl (DelaySearch.step agent) s =
      { s with group := values.map searchedName, naming := true } := by
  cases values with
  | nil => exact absurd rfl hvalues
  | cons value values =>
    have hkey : (keyed "User-agent" value).key = "user-agent" := lower_keys.1
    have hclosed : ¬ s.naming = true := by simp [h.closed]
    rw [List.map_cons, List.foldl_cons, DelaySearch.step, if_pos hkey, if_neg hclosed,
      foldl_keyed_agents _ rfl]
    rfl

theorem exists_slows_iff {name : String} {agents : List (List Char)} :
    (∃ value ∈ agents, Slows name value) ↔
      ((agents.map searchedName).any fun n => n ≠ "*" && isPartOf n (Unicode.lower name)) = true ∨
        (agents.map searchedName).contains "*" = true := by
  simp only [Slows, isPartOf, List.any_map, List.any_eq_true, Function.comp_apply,
    Bool.and_eq_true, decide_eq_true_eq, Text.isSome_splitOnce, List.contains_iff_mem,
    List.mem_map]
  constructor
  · rintro ⟨value, hmem, hslows⟩
    by_cases hstar : searchedName value = "*"
    · exact .inr ⟨value, hmem, hstar⟩
    · exact .inl ⟨value, hmem, hstar, hslows.resolve_left hstar⟩
  · rintro (⟨value, hmem, -, hpart⟩ | ⟨value, hmem, hstar⟩)
    · exact ⟨value, hmem, .inr hpart⟩
    · exact ⟨value, hmem, .inl hstar⟩

theorem Found.foldl_group {P : Prop} {name : String} (h : Found P s) {g : Group} (hg : g.IsSound) :
    Found (P ∨ ∃ value ∈ g.agents, Slows name value)
      (g.keyedLines.foldl (DelaySearch.step (Unicode.lower name)) s) := by
  obtain ⟨delay, hread⟩ := Option.isSome_iff_exists.mp hg.delay
  rw [Group.keyedLines, List.foldl_append, h.foldl_names hg.agents, exists_slows_iff,
    List.foldl_cons, step_disallow, List.foldl_cons, step_delay hread, List.foldl_nil]
  dsimp only
  by_cases hpart : ((g.agents.map searchedName).any fun n =>
      n ≠ "*" && isPartOf n (Unicode.lower name)) = true
  · -- A delay for the agent's name replaces any other.
    rw [if_pos hpart]
    exact ⟨rfl, iff_of_true rfl (.inr (.inl hpart))⟩
  · rw [if_neg hpart]
    by_cases hstar : (g.agents.map searchedName).contains "*" = true
    · rw [if_pos hstar]
      exact ⟨rfl, iff_of_true (by cases s.specific <;> rfl) (.inr (.inr hstar))⟩
    · rw [if_neg hstar]
      exact ⟨rfl, h.slowed.trans (by simp only [hpart, hstar, Bool.false_eq_true, or_false])⟩

theorem Found.start : Found False {} := ⟨rfl, by simp⟩

end Delay

section Files

variable {r : Robots} {groups : List Group}

theorem crawlDelay?_isSome_iff (hlines : r.lines = groups.flatMap Group.lines)
    (hsound : ∀ g ∈ groups, g.IsSound) (agent : String) :
    (r.crawlDelay? agent).isSome = true ↔ ∃ g ∈ groups, ∃ value ∈ g.agents, Slows agent value := by
  have hread : r.keyedLines = groups.flatMap Group.keyedLines := by
    change r.lines.filterMap KeyedLine.ofLine? = _
    rw [hlines, List.filterMap_flatMap]
    exact List.flatMap_congr fun g _ => g.filterMap_keyedLines
  have hfound := foldl_groups (fun g => ∃ value ∈ g.agents, Slows agent value)
    (fun P s g hg (h : Found P s) => h.foldl_group (hsound g hg)) Found.start
  rw [crawlDelay?, hread]
  simpa using hfound.slowed

theorem return_notMem_lines {g : Group} (hg : g.IsSound) : ∀ line ∈ g.lines, '\r' ∉ line := by
  have hkeys : '\r' ∉ "User-agent".toList ∧ '\r' ∉ "Crawl-delay".toList := by decide
  intro line hline
  rcases List.mem_append.mp hline with hline | hline
  · obtain ⟨value, hvalue, rfl⟩ := List.mem_map.mp hline
    have hreturn := hg.agentLines value hvalue
    simp [fieldLine, hreturn]
  · simp only [List.mem_cons, List.not_mem_nil, or_false] at hline
    rcases hline with rfl | rfl
    · decide
    · simp [fieldLine, hg.delayLine]

theorem allows_eq_false_iff (hlines : r.lines = groups.flatMap Group.lines) (hgroups : groups ≠ [])
    (hsound : ∀ g ∈ groups, g.IsSound) (agent address : String) :
    r.allows agent address = false ↔ ∃ g ∈ groups, ∃ value ∈ g.agents, Governs agent value := by
  have hfirst : ∃ value rest, r.lines = fieldLine "User-agent" value :: rest := by
    cases groups with
    | nil => exact absurd rfl hgroups
    | cons g groups =>
      cases hagents : g.agents with
      | nil => exact absurd hagents (hsound g List.mem_cons_self).agents
      | cons value agents =>
        rw [hlines, List.flatMap_cons, Group.lines, hagents]
        exact ⟨value, _, rfl⟩
  obtain ⟨value, rest, hcons⟩ := hfirst
  have hreturn : ∀ line ∈ r.lines, '\r' ∉ line := by
    intro line hline
    rw [hlines] at hline
    obtain ⟨g, hg, hline⟩ := List.mem_flatMap.mp hline
    exact return_notMem_lines (hsound g hg) line hline
  have hread : (r.lines.filterMap fun line => Directive.ofLine? (withinBytes longestLine line)) =
      groups.flatMap Group.directives := by
    rw [hlines, List.filterMap_flatMap]
    exact List.flatMap_congr fun g _ => g.filterMap_directives
  -- what is read from a whole group settles who is kept out, whatever came before
  have hsettled := foldl_groups (fun g => ∃ value ∈ g.agents, Governs agent value)
    (fun P s g hg (h : Settled P s) =>
      h.foldl_group (hsound g hg).agents (disallowLength_slash address)) Settled.start
  rw [allows_of_lines hcons hreturn, hread, Bool.not_eq_false', hsettled.denies, false_or]

end Files

section Settings

def Group.file (g : Group) : Robots := ⟨String.ofList (g.lines.flatMap (· ++ ['\n']))⟩

def nameless : Group := ⟨[[]], ['5']⟩

theorem isSound_nameless : nameless.IsSound where
  agents := by decide
  agentLines := by decide
  delayLine := by decide
  delay := by decide +kernel

theorem Group.lines_file {g : Group}
    (h : ∀ line ∈ g.lines, '\n' ∉ line ∧ line.getLast? ≠ some '\r') :
    g.file.lines = [g].flatMap Group.lines := by
  rw [Robots.lines, Group.file, String.toList_ofList, Text.lines_flatMap h]
  simp

theorem lines_nameless : nameless.file.lines = [nameless].flatMap Group.lines :=
  Group.lines_file (by decide)

theorem slows_nameless (agent : String) : Slows agent [] := by
  have hname : searchedName [] = String.ofList [] := Unicode.lower_of_all (by decide)
  rw [Slows, hname, String.toList_ofList]
  exact .inr (List.nil_infix)

theorem not_governs_nameless {agent : String} (h : agent ≠ "") : ¬ Governs agent [] := by
  have hseen : shownValue "User-agent" [] = [] := by decide
  rw [Governs, hseen]
  simp [isEveryone, names, h]

/-- A file of groups that forbid everything slows an agent down if a value is `*` or a part of its
name, and keeps it out if a value begins with its name or is for everyone. There is no name for
which the two come to the same. -/
theorem delay_and_access_by_values {s : Settings} (hs : s.validate = .ok ()) :
    (∀ (r : Robots) (groups : List Group), r.lines = groups.flatMap Group.lines → groups ≠ [] →
      (∀ g ∈ groups, g.IsSound) →
        ((r.crawlDelay? s.agent.name).isSome = true ↔
          ∃ g ∈ groups, ∃ value ∈ g.agents, Slows s.agent.name value) ∧
        ((∀ address, r.allows s.agent.name address = false) ↔
          ∃ g ∈ groups, ∃ value ∈ g.agents, Governs s.agent.name value)) ∧
    ∃ (r : Robots) (g : Group), r.lines = [g].flatMap Group.lines ∧ g.IsSound ∧
      (r.crawlDelay? s.agent.name).isSome = true ∧
        ∀ address, r.allows s.agent.name address = true := by
  obtain ⟨hname, -⟩ := s.name_of_validate hs
  constructor
  · intro r groups hlines hgroups hsound
    have haccess := allows_eq_false_iff hlines hgroups hsound s.agent.name
    exact ⟨crawlDelay?_isSome_iff hlines hsound s.agent.name,
      fun h => (haccess "").mp (h ""), fun h address => (haccess address).mpr h⟩
  · have hsound : ∀ g ∈ [nameless], g.IsSound := by simpa using isSound_nameless
    refine ⟨nameless.file, nameless, lines_nameless, isSound_nameless, ?_, ?_⟩
    · rw [crawlDelay?_isSome_iff lines_nameless hsound]
      exact ⟨nameless, by simp, [], by simp [nameless], slows_nameless _⟩
    · intro address
      rw [← Bool.not_eq_false, allows_eq_false_iff lines_nameless (by simp) hsound]
      simpa [nameless] using not_governs_nameless hname

def versioned : Group := ⟨["SumiFetch/1.0".toList], ['5']⟩

def localSettings : Settings where
  agent := { contactUrl := "http://[::1]/" }

theorem delay_and_access_of_versioned : localSettings.validate = .ok () ∧
    versioned.file.lines = [versioned].flatMap Group.lines ∧ versioned.IsSound ∧
    versioned.file.crawlDelay? "SumiFetch" = none ∧
    ∀ address, versioned.file.allows "SumiFetch" address = false := by
  have hvalid : localSettings.validate = .ok () := by decide +kernel
  have hlines : versioned.file.lines = [versioned].flatMap Group.lines :=
    Group.lines_file (by decide)
  have hsound : versioned.IsSound :=
    ⟨by decide, by decide, by decide, by decide +kernel⟩
  obtain ⟨hslowed, hgoverned⟩ := (delay_and_access_by_values hvalid).1 versioned.file [versioned]
    hlines (by simp) (by simpa using hsound)
  have hgoverns : Governs "SumiFetch" "SumiFetch/1.0".toList := .inr (by decide +kernel)
  have hslows : ¬ Slows "SumiFetch" "SumiFetch/1.0".toList := by
    have hname : searchedName "SumiFetch/1.0".toList = "sumifetch/1.0" := by
      rw [searchedName, Unicode.lower_of_all (by decide +kernel)]
      decide +kernel
    rw [Slows, hname, Unicode.lower_of_all (by decide)]
    decide +kernel
  refine ⟨hvalid, hlines, hsound, ?_, ?_⟩
  · have hnone : ¬ (versioned.file.crawlDelay? "SumiFetch").isSome = true := by
      intro hsome
      obtain ⟨g, hg, value, hvalue, hslow⟩ := hslowed.mp hsome
      obtain rfl := List.mem_singleton.mp hg
      obtain rfl := List.mem_singleton.mp hvalue
      exact hslows hslow
    simpa using hnone
  · exact hgoverned.mpr ⟨versioned, by simp, _, by simp [versioned], hgoverns⟩

end Settings

end PoliteCrawl.Robots
