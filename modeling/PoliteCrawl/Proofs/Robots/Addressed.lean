import PoliteCrawl.Proofs.Robots.Agents

namespace PoliteCrawl.Robots

/-- A line that allows or forbids what a text matches. -/
def IsRule (line : List Char) : Prop :=
  ∃ path, '\r' ∉ path ∧ (line = fieldLine "Allow" path ∨ line = fieldLine "Disallow" path)

structure IsGroup (r : Robots) (agent : List Char) (rules : List (List Char)) : Prop where
  lines : r.lines = fieldLine "User-agent" agent :: rules
  rules : ∀ line ∈ rules, IsRule line

/-- Whether a line's meaning depends on the group that it is in. -/
def Directive.isAccess : Directive → Bool
  | .allow _ | .disallow _ => true
  | _ => false

theorem directive_of_isRule {line : List Char} (h : IsRule line) : ∃ d : Directive,
    Directive.ofLine? (withinBytes longestLine line) = some d ∧ d.isAccess = true := by
  obtain ⟨path, -, rfl | rfl⟩ := h
  · exact ⟨_, directive_allow path, rfl⟩
  · exact ⟨_, directive_disallow path, rfl⟩

theorem return_notMem_rule {line : List Char} (h : IsRule line) : '\r' ∉ line := by
  obtain ⟨path, hpath, rfl | rfl⟩ := h <;> simp [fieldLine, hpath]

section Readings

/-- The readings of a group for the agent alone and of one for everyone. -/
structure Alike (own shared : Reading) : Prop where
  ours : own.ours = true
  named : own.named = true
  notOurs : shared.ours = false
  everyones : shared.everyones = true
  notNamed : shared.named = false
  longest : own.specific = shared.general

variable {agent : String} {path : Bytes} {own shared r : Reading} {rules : List (List Char)}

theorem Alike.denies (h : Alike own shared) : own.denies = shared.denies := by
  simp [Reading.denies, h.named, h.notNamed, h.longest]

theorem Alike.step (h : Alike own shared) {d : Directive} (hd : d.isAccess = true) :
    Alike (own.step agent path d) (shared.step agent path d) := by
  obtain ⟨hours, hnamed, hnot, heveryones, hnotNamed, hlongest⟩ := h
  cases d with
  | userAgent | sitemap | unknown => cases hd
  | allow | disallow => constructor <;> simp [Reading.step, Reading.note, *]

/-- Rules in a group for others change nothing. -/
theorem Reading.step_of_others (hours : r.ours = false) (heveryones : r.everyones = false)
    {d : Directive} (hd : d.isAccess = true) : r.step agent path d = r := by
  cases d with
  | userAgent | sitemap | unknown => cases hd
  | allow | disallow => simp [Reading.step, hours, heveryones]

def afterRules (agent : String) (path : Bytes) (r : Reading) (rules : List (List Char)) : Reading :=
  (rules.filterMap fun line => Directive.ofLine? (withinBytes longestLine line)).foldl
    (Reading.step agent path) r

theorem exists_afterRules_cons {line : List Char} (h : IsRule line) : ∃ d : Directive,
    d.isAccess = true ∧ ∀ r, afterRules agent path r (line :: rules) =
      afterRules agent path (r.step agent path d) rules := by
  obtain ⟨d, hline, hd⟩ := directive_of_isRule h
  refine ⟨d, hd, fun r => ?_⟩
  rw [afterRules, List.filterMap_cons, hline, List.foldl_cons]
  rfl

theorem Alike.afterRules (h : Alike own shared) (hrules : ∀ line ∈ rules, IsRule line) :
    Alike (afterRules agent path own rules) (afterRules agent path shared rules) := by
  induction rules generalizing own shared with
  | nil => exact h
  | cons line rules ih =>
    obtain ⟨d, hd, hcons⟩ := exists_afterRules_cons (hrules line List.mem_cons_self)
    rw [hcons, hcons]
    exact ih (h.step hd) fun line hmem => hrules line (List.mem_cons_of_mem _ hmem)

theorem afterRules_of_others (hours : r.ours = false) (heveryones : r.everyones = false)
    (hrules : ∀ line ∈ rules, IsRule line) : afterRules agent path r rules = r := by
  induction rules with
  | nil => rfl
  | cons line rules ih =>
    obtain ⟨d, hd, hcons⟩ := exists_afterRules_cons (hrules line List.mem_cons_self)
    rw [hcons, Reading.step_of_others hours heveryones hd]
    exact ih fun line hmem => hrules line (List.mem_cons_of_mem _ hmem)

end Readings

section Groups

variable {r own shared : Robots} {agent address : String} {value : List Char}
  {rules : List (List Char)}

theorem IsGroup.allows (h : r.IsGroup value rules) (hvalue : '\r' ∉ value) :
    r.allows agent address = !(afterRules agent (pathOf address)
      (({} : Reading).addAgent agent (shownValue "User-agent" value)) rules).denies := by
  have hreturn : ∀ line ∈ r.lines, '\r' ∉ line := by
    intro line hline
    rw [h.lines] at hline
    rcases List.mem_cons.mp hline with rfl | hline
    · simp [fieldLine, hvalue]
    · exact return_notMem_rule (h.rules line hline)
  rw [allows_of_lines h.lines hreturn, h.lines, List.filterMap_cons, directive_agent]
  rfl

theorem IsGroup.allows_everyone (h : r.IsGroup ['*'] rules) :
    r.allows agent address =
      !(afterRules agent (pathOf address) { everyones := true } rules).denies := by
  have heveryone : isEveryone (shownValue "User-agent" ['*']) = true := by decide +kernel
  rw [h.allows (by decide), Reading.addAgent]
  simp [heveryone]

variable (hchars : ∀ c ∈ agent.toList, isAgentChar c)
include hchars

theorem return_notMem_name : '\r' ∉ agent.toList := fun hmem =>
  (isPlain_of_isAgentChar (hchars _ hmem)).notReturn rfl

/-- An agent whose name is recognized is held to the rules that name it. -/
theorem IsGroup.allows_of_names (hown : own.IsGroup agent.toList rules)
    (hshared : shared.IsGroup ['*'] rules)
    (hnames : names agent (shownValue "User-agent" agent.toList) = true) :
    own.allows agent address = shared.allows agent address := by
  have hstart : ({} : Reading).addAgent agent (shownValue "User-agent" agent.toList) =
      { ours := true, named := true } := by
    simp [Reading.addAgent, isEveryone_name hchars, hnames]
  have halike : Alike { ours := true, named := true } { everyones := true } :=
    ⟨rfl, rfl, rfl, rfl, rfl, rfl⟩
  have hrun : Alike (afterRules agent (pathOf address) { ours := true, named := true } rules)
      (afterRules agent (pathOf address) { everyones := true } rules) :=
    halike.afterRules hown.rules
  rw [hown.allows (return_notMem_name hchars), hstart, hshared.allows_everyone, hrun.denies]

/-- Rules for a name that is not recognized hold nobody back. -/
theorem IsGroup.allows_of_not_names (hown : own.IsGroup agent.toList rules)
    (hnames : names agent (shownValue "User-agent" agent.toList) = false) :
    own.allows agent address = true := by
  have hstart : ({} : Reading).addAgent agent (shownValue "User-agent" agent.toList) = {} := by
    simp [Reading.addAgent, isEveryone_name hchars, hnames]
  rw [hown.allows (return_notMem_name hchars), hstart, afterRules_of_others rfl rfl hown.rules]
  rfl

end Groups

section Forbidding

def forbidding (agent : List Char) : Robots :=
  ⟨String.ofList ([fieldLine "User-agent" agent, fieldLine "Disallow" ['/']].flatMap (· ++ ['\n']))⟩

theorem isGroup_forbidding {agent : List Char} (hline : '\n' ∉ agent) (hreturn : '\r' ∉ agent) :
    (forbidding agent).IsGroup agent [fieldLine "Disallow" ['/']] where
  lines := by
    rw [lines, forbidding, String.toList_ofList]
    apply Text.lines_flatMap
    intro line hmem
    simp only [List.mem_cons, List.not_mem_nil, or_false] at hmem
    rcases hmem with rfl | rfl
    · have hends : '\n' ∉ fieldLine "User-agent" agent ∧ '\r' ∉ fieldLine "User-agent" agent := by
        simp [fieldLine, hline, hreturn]
      exact ⟨hends.1, fun hlast => hends.2 (List.mem_of_getLast? hlast)⟩
    · decide
  rules := by
    intro line hmem
    exact ⟨['/'], by decide, .inr (List.mem_singleton.mp hmem)⟩

theorem allows_forbidding_everyone (agent address : String) :
    (forbidding ['*']).allows agent address = false := by
  rw [(isGroup_forbidding (by decide) (by decide)).allows_everyone, afterRules,
    List.filterMap_cons, directive_disallow_all]
  simp [Reading.step, Reading.note, Reading.denies, Longest.denies, disallowLength_slash]

end Forbidding

/-- Rules under an agent's name are as good as rules for everyone if, and only if, no digit is in
the name and the name fits on a line. Else they say nothing to anyone. -/
theorem rules_apply_by_name_iff {s : Settings} (hs : s.validate = .ok ()) :
    ((∀ rules own shared, IsGroup own s.agent.name.toList rules → IsGroup shared ['*'] rules →
        ∀ address, own.allows s.agent.name address = shared.allows s.agent.name address) ↔
      (∀ c ∈ s.agent.name.toList, c.isDigit = false) ∧
        s.agent.name.toList.length ≤ longestName) ∧
    (¬ ((∀ c ∈ s.agent.name.toList, c.isDigit = false) ∧
        s.agent.name.toList.length ≤ longestName) →
      ∀ rules own, IsGroup own s.agent.name.toList rules →
        ∀ address, own.allows s.agent.name address = true) := by
  obtain ⟨-, hchars⟩ := s.name_of_validate hs
  rw [← names_iff hchars]
  have hsilent : ¬ names s.agent.name (shownValue "User-agent" s.agent.name.toList) = true →
      ∀ rules own, IsGroup own s.agent.name.toList rules →
        ∀ address, own.allows s.agent.name address = true := by
    intro hnames rules own hown address
    exact hown.allows_of_not_names hchars (by simpa using hnames)
  refine ⟨⟨?_, ?_⟩, hsilent⟩
  · intro hequal
    by_contra hnames
    -- a group that forbids everything tells a name that is read whole from one that is not
    have hline : '\n' ∉ s.agent.name.toList := fun hmem => absurd (hchars _ hmem) (by decide)
    have hown := isGroup_forbidding hline (return_notMem_name hchars)
    have hallows := hsilent hnames _ _ hown ""
    rw [hequal _ _ _ hown (isGroup_forbidding (by decide) (by decide)),
      allows_forbidding_everyone] at hallows
    cases hallows
  · intro hnames rules own shared hown hshared address
    exact hown.allows_of_names hchars hshared hnames

def numbered : Settings where
  agent := { name := "Bot2", contactUrl := "http://[::1]/" }

theorem rules_pass_by_numbered : numbered.validate = .ok () ∧
    IsGroup (forbidding "Bot2".toList) "Bot2".toList [fieldLine "Disallow" ['/']] ∧
    (forbidding "Bot2".toList).allows "Bot2" "https://a.example/" = true ∧
    (forbidding ['*']).allows "Bot2" "https://a.example/" = false := by
  have hvalid : numbered.validate = .ok () := by decide +kernel
  have hgroup : IsGroup (forbidding "Bot2".toList) "Bot2".toList [fieldLine "Disallow" ['/']] :=
    isGroup_forbidding (by decide) (by decide)
  have hdigit : Char.isDigit '2' ≠ false := by decide
  have hsilent := (rules_apply_by_name_iff hvalid).2 (fun h => hdigit (h.1 '2' (by decide)))
    _ _ hgroup
  exact ⟨hvalid, hgroup, hsilent "https://a.example/", allows_forbidding_everyone _ _⟩

end PoliteCrawl.Robots
