import PoliteCrawl.Proofs.Xml.Grammar

namespace PoliteCrawl.Xml

def endsName (c : Char) : Bool := isBlank c || c == '>' || c == '/'

/-- Whether a text goes on with a name, and not with a longer one. -/
def opens (name cs : List Char) : Bool :=
  name.isPrefixOf cs && (cs.drop name.length).head?.any endsName

/-- How many start tags with a name are in a text. -/
def startTags (name : List Char) : List Char → Nat
  | [] => 0
  | c :: cs => (c == '<' && opens name cs).toNat + startTags name cs

variable {name name' cs rest attributes inner : List Char} {names : List (List Char)}

theorem startTags_append_of_notMem (h : '<' ∉ cs) :
    startTags name (cs ++ rest) = startTags name rest := by
  induction cs with
  | nil => rfl
  | cons c cs ih =>
    have hc : (c == '<') = false := by
      rw [beq_eq_false_iff_ne]
      rintro rfl
      exact h List.mem_cons_self
    rw [List.cons_append, startTags, hc, Bool.false_and, ih (List.not_mem_of_not_mem_cons h)]
    exact Nat.zero_add _

theorem startTags_of_notMem (h : '<' ∉ cs) : startTags name cs = 0 := by
  rw [← List.append_nil cs, startTags_append_of_notMem h]
  rfl

theorem Data.notMem (h : Data cs) : '<' ∉ cs := by
  induction h with
  | nil => exact List.not_mem_nil
  | plain hmark _ _ ih => simp [hmark.symm, ih]
  | @reference name cs hname _ ih =>
    have hentity : ∀ name ∈ entityNames, '<' ∉ name.toList := by decide
    simp [hentity name hname, ih]

theorem isNameChar_of_mem {c : Char} (h : isName name = true) (hc : c ∈ name) :
    isNameChar c = true := by
  cases name with
  | nil => cases hc
  | cons d ds =>
    obtain ⟨hstart, hrest⟩ := Bool.and_eq_true_iff.mp h
    rcases List.mem_cons.mp hc with rfl | hc
    · simp [isNameChar, hstart]
    · exact List.all_eq_true.mp hrest c hc

theorem notMem_of_isName {d : Char} (h : isName name = true) (hd : isNameChar d = false) :
    d ∉ name := by
  intro hmem
  rw [isNameChar_of_mem h hmem] at hd
  cases hd

theorem isNameChar_of_endsName {c : Char} (h : endsName c = true) : isNameChar c = false := by
  simp only [endsName, isBlank, Bool.or_eq_true, beq_iff_eq, or_assoc] at h
  rcases h with rfl | rfl | rfl | rfl | rfl | rfl <;> decide

theorem endsName_of_mem {c : Char} (h : isName name = true) (hc : c ∈ name) :
    endsName c = false := by
  by_contra hends
  have hchar := isNameChar_of_endsName (Bool.not_eq_false _ ▸ hends)
  exact notMem_of_isName h hchar hc

/-- Of two names only the one that stands there opens a tag. -/
theorem opens_append {stop : Char} (hname : isName name = true) (hname' : isName name' = true)
    (hstop : endsName stop = true) :
    opens name (name' ++ stop :: rest) = decide (name = name') := by
  have hplain : ∀ c ∈ name, endsName c = false := fun c hc => endsName_of_mem hname hc
  have hplain' : ∀ c ∈ name', endsName c = false := fun c hc => endsName_of_mem hname' hc
  -- what is left of a name need not be one, so the induction goes without that
  clear hname hname'
  induction name generalizing name' with
  | nil =>
    cases name' with
    | nil => simp [opens, hstop]
    | cons d ds => simp [opens, hplain' d List.mem_cons_self]
  | cons c cs ih =>
    cases name' with
    | nil =>
      have hne : c ≠ stop := by
        rintro rfl
        rw [hplain c List.mem_cons_self] at hstop
        cases hstop
      simp [opens, hne]
    | cons d ds =>
      have htail := ih (fun e he => hplain e (List.mem_cons_of_mem _ he))
        (fun e he => hplain' e (List.mem_cons_of_mem _ he))
      simp only [opens] at htail ⊢
      by_cases hcd : c = d
      · subst hcd
        simpa using htail
      · simp [hcd]

theorem Attributes.notMem (h : Attributes names attributes) : '<' ∉ attributes := by
  induction h with
  | nil => exact List.not_mem_nil
  | @cons name value rest names hname _ hvalue _ ih =>
    have hmark : '<' ∉ name := notMem_of_isName hname (by decide)
    simp [attributeText, hmark, hvalue.data.notMem, ih]

/-- Behind a name in a start tag comes a blank or the end of the tag. -/
theorem Attributes.exists_stop (h : Attributes names attributes) (inner : List Char) :
    ∃ stop rest, attributes ++ '>' :: inner = stop :: rest ∧ endsName stop = true := by
  cases h with
  | nil => exact ⟨'>', inner, rfl, rfl⟩
  | cons => exact ⟨' ', _, rfl, rfl⟩

theorem startTags_startTag (hname : isName name = true) (hname' : isName name' = true)
    (h : Attributes names attributes) :
    startTags name ('<' :: (name' ++ (attributes ++ '>' :: rest))) =
      (decide (name = name')).toNat + startTags name rest := by
  have hmark : '<' ∉ name' := notMem_of_isName hname' (by decide)
  obtain ⟨stop, tail, htail, hstop⟩ := h.exists_stop rest
  have hopens : opens name (name' ++ (attributes ++ '>' :: rest)) = decide (name = name') := by
    rw [htail]
    exact opens_append hname hname' hstop
  rw [startTags, hopens, startTags_append_of_notMem hmark, startTags_append_of_notMem h.notMem]
  have hend : '<' ∉ ['>'] := by decide
  exact congrArg (_ + ·) (startTags_append_of_notMem hend)

theorem startTags_endTag (hname : isName name = true) (hname' : isName name' = true) :
    startTags name ('<' :: '/' :: (name' ++ '>' :: rest)) = startTags name rest := by
  have hopens : opens name ('/' :: (name' ++ '>' :: rest)) = false := by
    cases name with
    | nil => cases hname
    | cons c cs =>
      have hc : c ≠ '/' := by
        rintro rfl
        exact notMem_of_isName hname (d := '/') (by decide) List.mem_cons_self
      simp [opens, hc]
  have hmark : '<' ∉ '/' :: (name' ++ ['>']) := by
    have hmem : '<' ∉ name' := notMem_of_isName hname' (by decide)
    simp [hmem]
  have hskip : startTags name ('/' :: (name' ++ ['>']) ++ rest) = startTags name rest :=
    startTags_append_of_notMem hmark
  rw [List.cons_append, List.append_assoc] at hskip
  rw [startTags, hopens]
  exact (Nat.zero_add _).trans hskip

/-- An element has one start tag besides those in it. -/
theorem startTags_element (hname : isName name = true) (hname' : isName name' = true)
    (hattributes : Attributes names attributes)
    (hinner : ∀ rest, startTags name (inner ++ rest) = startTags name inner + startTags name rest)
    (rest : List Char) : startTags name (Xml.element name' attributes inner ++ rest) =
      (decide (name = name')).toNat + startTags name inner + startTags name rest := by
  rw [Xml.element]
  simp only [List.cons_append, List.append_assoc]
  rw [startTags_startTag hname hname' hattributes, hinner, startTags_endTag hname hname']
  exact (Nat.add_assoc _ _ _).symm

/-- Start tags are counted part by part: none goes on behind the end of a content. -/
theorem Content.startTags_append (hname : isName name = true) (h : Content cs)
    (rest : List Char) : startTags name (cs ++ rest) = startTags name cs + startTags name rest := by
  -- on the content: no tag is open where a part of it ends
  induction h generalizing rest with
  | text htext =>
    rw [startTags_append_of_notMem htext.data.notMem, startTags_of_notMem htext.data.notMem,
      Nat.zero_add]
  | element hbefore hname' hattributes _ _ ihinner ihafter =>
    have hmark := hbefore.data.notMem
    rw [List.append_assoc, List.append_assoc, startTags_append_of_notMem hmark,
      startTags_append_of_notMem hmark, startTags_element hname hname' hattributes ihinner,
      startTags_element hname hname' hattributes ihinner, ihafter]
    omega

end PoliteCrawl.Xml
