import PoliteCrawl.Proofs.Text.Pieces
import PoliteCrawl.Robots.Access
import PoliteCrawl.Robots.Delay

namespace PoliteCrawl

namespace Text

theorem takeWhile_append_cons {key value : List Char} {p : Char → Bool} {c : Char}
    (hkey : ∀ d ∈ key, p d) (hc : p c) :
    (key ++ c :: value).takeWhile p = key ++ c :: value.takeWhile p := by
  rw [List.takeWhile_append_of_pos hkey, List.takeWhile_cons_of_pos hc]

theorem dropReturn_eq_or (piece : List Char) :
    dropReturn piece = piece ∨ piece = dropReturn piece ++ ['\r'] := by
  unfold dropReturn
  split
  · rename_i hlast
    exact .inr (List.dropLast_append_getLast? _ hlast).symm
  · exact .inl rfl

theorem splitOnce_append {c : Char} {key : List Char} (rest : List Char) (h : c ∉ key) :
    splitOnce [c] (key ++ c :: rest) = some (key, rest) := by
  induction key with
  | nil => simp [splitOnce]
  | cons d key ih =>
    rw [List.mem_cons, not_or] at h
    have hne : ¬ [c].isPrefixOf (d :: (key ++ c :: rest)) = true := by simpa using h.1
    rw [List.cons_append, splitOnce, if_neg hne, ih h.2, Option.map_some]

end Text

namespace Robots

def lines (r : Robots) : List (List Char) := Text.lines r.content.toList

def fieldLine (key : String) (value : List Char) : List Char :=
  key.toList ++ ':' :: ' ' :: value

/-- A value without its comment and the blanks around it. -/
def fieldValue (value : List Char) : List Char := Text.trimChars (value.takeWhile (· ≠ '#'))

theorem withinBytes_append {a b : List Char} {room : Nat} (ha : ∀ c ∈ a, c.utf8Size = 1)
    (hroom : a.length ≤ room) :
    withinBytes room (a ++ b) = a ++ withinBytes (room - a.length) b := by
  induction a generalizing room with
  | nil => rfl
  | cons c a ih =>
    rw [List.length_cons] at hroom
    have hsize := ha c List.mem_cons_self
    have hrest : withinBytes (room - 1) (a ++ b) = a ++ withinBytes (room - 1 - a.length) b :=
      ih (fun d hd => ha d (List.mem_cons_of_mem _ hd)) (by omega)
    rw [List.cons_append, withinBytes, if_neg (by omega), hsize, hrest, List.length_cons,
      Nat.sub_sub, Nat.add_comm 1]
    rfl

theorem withinBytes_eq_take {cs : List Char} (room : Nat) (h : ∀ c ∈ cs, c.utf8Size = 1) :
    withinBytes room cs = cs.take room := by
  induction cs generalizing room with
  | nil => simp [withinBytes]
  | cons c cs ih =>
    have hsize := h c List.mem_cons_self
    cases room with
    | zero => rfl
    | succ room =>
      rw [withinBytes, if_neg (Nat.succ_ne_zero _), hsize, List.take_succ_cons,
        Nat.succ_sub_one, ih room fun d hd => h d (List.mem_cons_of_mem _ hd)]

/-- Ends a line at a carriage return as well. -/
def endLine (c : Char) : Char := if c = '\r' then '\n' else c

theorem map_endLine {cs : List Char} (h : '\r' ∉ cs) : cs.map endLine = cs := by
  rw [List.map_congr_left (g := id), List.map_id]
  intro c hc
  have hne : c ≠ '\r' := fun heq => h (heq ▸ hc)
  exact if_neg hne

theorem ofLine?_nil (room : Nat) : Directive.ofLine? (withinBytes room []) = none := by
  rw [withinBytes]
  decide

/-- If no carriage return stands inside a line, both readers have the same lines. -/
theorem filterMap_lines {cs : List Char} (room : Nat) (h : ∀ line ∈ Text.lines cs, '\r' ∉ line) :
    (Text.splitOnEach '\n' (cs.map endLine)).filterMap
        (fun line => Directive.ofLine? (withinBytes room line)) =
      (Text.lines cs).filterMap fun line => Directive.ofLine? (withinBytes room line) := by
  induction cs using Text.induction_on_pieces '\n' with
  | last piece hpiece =>
    rw [Text.lines_of_notMem hpiece] at h ⊢
    by_cases hnil : piece = []
    · subst hnil
      simp [Text.splitOnEach, ofLine?_nil]
    · rw [if_neg hnil] at h ⊢
      have hreturn := h piece (List.mem_singleton_self _)
      rw [map_endLine hreturn, Text.splitOnEach_of_notMem hpiece]
  | next piece rest hpiece ih =>
    rw [Text.lines_append rest hpiece] at h ⊢
    have hreturn := h _ List.mem_cons_self
    have hrest := ih fun line hline => h line (List.mem_cons_of_mem _ hline)
    have hend : endLine '\n' = '\n' := rfl
    rw [List.map_append, List.map_cons, hend, List.filterMap_cons, ← hrest]
    rcases Text.dropReturn_eq_or piece with heq | heq
    · rw [heq] at hreturn ⊢
      rw [map_endLine hreturn, Text.splitOnEach_append _ hpiece, List.filterMap_cons]
    · -- The carriage return ends the line, and an empty one follows.
      have hline : '\n' ∉ Text.dropReturn piece := by
        intro hmem
        rw [heq] at hpiece
        exact hpiece (List.mem_append_left _ hmem)
      have hmap : piece.map endLine = Text.dropReturn piece ++ ['\n'] := by
        conv_lhs => rw [heq]
        rw [List.map_append, map_endLine hreturn]
        rfl
      rw [hmap, List.append_assoc, List.singleton_append, Text.splitOnEach_append _ hline,
        ← List.nil_append ('\n' :: _), Text.splitOnEach_append _ List.not_mem_nil,
        List.filterMap_cons, List.filterMap_cons, ofLine?_nil]

theorem dropShared_strayMark {cs : List Char} (h : cs.head? ≠ some '\u00ef') :
    dropShared strayMark cs = cs := by
  cases cs with
  | nil => rfl
  | cons c cs =>
    have hc : '\u00ef' ≠ c := fun heq => h (congrArg some heq.symm)
    exact if_neg hc

theorem directives_eq {r : Robots} (h : ∀ line ∈ r.lines, '\r' ∉ line)
    (hmark : r.content.toList.head? ≠ some '\u00ef') :
    r.directives =
      r.lines.filterMap fun line => Directive.ofLine? (withinBytes longestLine line) := by
  rw [directives, linesOf, dropShared_strayMark hmark, List.filterMap_map]
  exact filterMap_lines longestLine h

theorem head?_of_lines {r : Robots} {line : List Char} {rest : List (List Char)} {c : Char}
    (hlines : r.lines = line :: rest) (hline : line.head? = some c) :
    r.content.toList.head? = some c := by
  unfold lines at hlines
  by_cases hmem : '\n' ∈ r.content.toList
  · obtain ⟨piece, after, hcontent, hpiece⟩ := List.eq_append_cons_of_mem hmem
    rw [hcontent, Text.lines_append after hpiece] at hlines
    obtain ⟨rfl, -⟩ := List.cons.inj hlines
    rw [hcontent]
    rcases Text.dropReturn_eq_or piece with heq | heq
    · rw [heq] at hline
      simp [hline]
    · rw [heq]
      simp [hline]
  · rw [Text.lines_of_notMem hmem] at hlines
    split at hlines
    · cases hlines
    · obtain ⟨rfl, -⟩ := List.cons.inj hlines
      exact hline

section Keys

variable {key : String} {value : List Char}

def isKeyChar (c : Char) : Bool :=
  c ≠ ':' && c ≠ '#' && !Text.isBlank c && c.utf8Size == 1

def IsKey (key : String) : Prop := key.toList ≠ [] ∧ key.toList.all isKeyChar = true

instance (key : String) : Decidable (IsKey key) := inferInstanceAs (Decidable (_ ∧ _))

theorem IsKey.char (h : IsKey key) {c : Char} (hc : c ∈ key.toList) :
    c ≠ ':' ∧ c ≠ '#' ∧ Text.isBlank c = false ∧ c.utf8Size = 1 := by
  have hchar := List.all_eq_true.mp h.2 c hc
  simpa [isKeyChar, and_assoc] using hchar

theorem trim_fieldLine (hkey : IsKey key) :
    Text.trimChars ((fieldLine key value).takeWhile (· ≠ '#')) =
      key.toList ++ ':' :: (' ' :: value.takeWhile (· ≠ '#')).rdropWhile Text.isBlank := by
  have hhash : ∀ c ∈ key.toList, decide (c ≠ '#') = true := fun c hc => by
    simpa using (hkey.char hc).2.1
  have hhead : ∀ c ∈ key.toList.head?, Text.isBlank c = false := fun c hc =>
    (hkey.char (List.mem_of_mem_head? hc)).2.2.1
  rw [fieldLine, Text.takeWhile_append_cons hhash (by decide),
    Text.trimChars_append_cons hhead hkey.1 (by decide)]
  rfl

theorem trim_rdropWhile_blank (value : List Char) :
    Text.trimChars ((' ' :: value).rdropWhile Text.isBlank) = Text.trimChars value := by
  rw [Text.trimChars, Text.trimBy_rdropWhile]
  rfl

theorem keyAndValue?_append {cs rest : List Char} {c : Char} {isSeparator : Char → Bool}
    (hcs : ∀ d ∈ cs, isSeparator d = false) (hc : isSeparator c = true) :
    keyAndValue? (cs ++ c :: rest) isSeparator = some (Text.trimChars cs, Text.trimChars rest) := by
  have hpos : ∀ d ∈ cs, (!isSeparator d) = true := fun d hd => by simp [hcs d hd]
  simp [keyAndValue?, List.dropWhile_append_of_pos hpos, List.takeWhile_append_of_pos hpos, hc]

theorem trim_key (hkey : IsKey key) : Text.trimChars key.toList = key.toList :=
  Text.trimBy_of_forall_not fun c hc => by simpa using (hkey.char hc).2.2.1

theorem split?_fieldLine (hkey : IsKey key) :
    split? (fieldLine key value) = some (key.toList, fieldValue value) := by
  have hcolon : ∀ c ∈ key.toList, decide (c = ':') = false := fun c hc => by
    simpa using (hkey.char hc).1
  unfold split?
  rw [trim_fieldLine hkey]
  dsimp only
  rw [keyAndValue?_append hcolon rfl, trim_rdropWhile_blank, trim_key hkey]
  rfl

theorem keyedLine_fieldLine (hkey : IsKey key) :
    KeyedLine.ofLine? (fieldLine key value) =
      some { key := Unicode.lower key, value := String.ofList (fieldValue value) } := by
  have hcolon : ':' ∉ key.toList := fun hmem => (hkey.char hmem).1 rfl
  unfold KeyedLine.ofLine?
  rw [trim_fieldLine hkey, Text.splitOnce_append _ hcolon, Option.map_some]
  dsimp only
  rw [trim_key hkey, trim_rdropWhile_blank, String.ofList_toList]
  rfl

/-- A line that is too long loses the end of its value. -/
theorem withinBytes_fieldLine (hkey : IsKey key) (hlength : key.toList.length + 2 ≤ longestLine) :
    withinBytes longestLine (fieldLine key value) =
      fieldLine key (withinBytes (longestLine - (key.toList.length + 2)) value) := by
  have hsize : ∀ c ∈ key.toList ++ [':', ' '], c.utf8Size = 1 := by
    intro c hc
    simp only [List.mem_append, List.mem_cons, List.not_mem_nil, or_false] at hc
    rcases hc with hc | rfl | rfl
    · exact (hkey.char hc).2.2.2
    · rfl
    · rfl
  have hroom : (key.toList ++ [':', ' ']).length ≤ longestLine := by simpa using hlength
  have hcut := withinBytes_append (b := value) hsize hroom
  simpa [fieldLine] using hcut

def shownValue (key : String) (value : List Char) : List Char :=
  fieldValue (withinBytes (longestLine - (key.toList.length + 2)) value)

theorem directive_agent (value : List Char) :
    Directive.ofLine? (withinBytes longestLine (fieldLine "User-agent" value)) =
      some (.userAgent (shownValue "User-agent" value)) := by
  rw [withinBytes_fieldLine (by decide) (by decide), Directive.ofLine?,
    split?_fieldLine (by decide)]
  rfl

theorem directive_allow (value : List Char) :
    Directive.ofLine? (withinBytes longestLine (fieldLine "Allow" value)) =
      some (.allow (patternOf (shownValue "Allow" value))) := by
  rw [withinBytes_fieldLine (by decide) (by decide), Directive.ofLine?,
    split?_fieldLine (by decide)]
  rfl

theorem directive_disallow (value : List Char) :
    Directive.ofLine? (withinBytes longestLine (fieldLine "Disallow" value)) =
      some (.disallow (patternOf (shownValue "Disallow" value))) := by
  rw [withinBytes_fieldLine (by decide) (by decide), Directive.ofLine?,
    split?_fieldLine (by decide)]
  rfl

theorem directive_delay (value : List Char) :
    Directive.ofLine? (withinBytes longestLine (fieldLine "Crawl-delay" value)) =
      some .unknown := by
  rw [withinBytes_fieldLine (by decide) (by decide), Directive.ofLine?,
    split?_fieldLine (by decide)]
  rfl

end Keys

end Robots

end PoliteCrawl
