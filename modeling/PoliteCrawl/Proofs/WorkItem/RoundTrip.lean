import PoliteCrawl.Proofs.Json.Reading
import PoliteCrawl.Proofs.Text.Pieces
import PoliteCrawl.Proofs.WorkItem.Line

namespace PoliteCrawl

open Json

namespace WorkItem

def tokens (item : WorkItem) : List Token :=
  [.openObject, .text (some "target_uri"), .colon, .text (some item.target)] ++
    (match item.source with
      | some source => [.comma, .text (some "source_uri"), .colon, .text (some source)]
      | none => []) ++
    [.comma, .text (some "priority"), .colon, .natural item.priority.toNat, .closeObject]

theorem structuredChars_eq (item : WorkItem) :
    item.structuredChars = '\x7b' :: (quote "target_uri" ++ ':' :: (quote item.target ++
      ((match item.source with
        | some source => ',' :: (quote "source_uri" ++ ':' :: quote source)
        | none => []) ++
      ',' :: (quote "priority" ++ ':' :: (Decimal.digitsOf item.priority.toNat ++ ['\x7d']))))) := by
  have htarget : "\x7b\"target_uri\":".toList = '\x7b' :: (quote "target_uri" ++ [':']) := by
    decide +kernel
  have hsource : ",\"source_uri\":".toList = ',' :: (quote "source_uri" ++ [':']) := by
    decide +kernel
  have hpriority : ",\"priority\":".toList = ',' :: (quote "priority" ++ [':']) := by
    decide +kernel
  unfold structuredChars
  rw [htarget, hsource, hpriority]
  cases item.source <;> simp

theorem lexes_member {rest : List Char} {tokens : List Token} (h : Lexes rest tokens)
    (key : String) :
    Lexes (quote key ++ ':' :: rest) (.text (some key) :: .colon :: tokens) := by
  have hcolon : Lexes (':' :: rest) (.colon :: tokens) := h.mark rfl rfl
  exact hcolon.quote key

theorem lexes_comma {rest : List Char} {tokens : List Token} (h : Lexes rest tokens) :
    Lexes (',' :: rest) (.comma :: tokens) := h.mark rfl rfl

theorem lexes_structuredChars (item : WorkItem) : Lexes item.structuredChars item.tokens := by
  have hends : EndsNumber ['\x7d'] := by
    intro c hc
    cases hc
    decide
  have hclose : Lexes ['\x7d'] [.closeObject] := lexes_nil.mark rfl rfl
  have hpriority := lexes_comma (lexes_member (hclose.natural hends item.priority.toNat) "priority")
  rw [structuredChars_eq, tokens]
  cases item.source with
  | none => exact (lexes_member (hpriority.quote item.target) "target_uri").mark rfl rfl
  | some source =>
    have hsource := lexes_comma (lexes_member (hpriority.quote source) "source_uri")
    have htarget := lexes_member (hsource.quote item.target) "target_uri"
    have hopen : Lexes ('\x7b' :: _) (.openObject :: _) := htarget.mark rfl rfl
    simpa using hopen

theorem ofValues?_fields (target : String) (source : Option String) (priority : UInt32) :
    ofValues? (some (.text (some target))) (source.map fun s => .text (some s))
      (some (.natural priority.toNat)) = some { target, source, priority } := by
  have hpriority : priorityOf? (some (.natural priority.toNat)) = some priority := by
    rw [priorityOf?, if_pos priority.toNat_lt, UInt32.ofNat_toNat]
  cases source <;> simp [ofValues?, targetOf?, sourceOf?, hpriority]

theorem read?_structuredChars (item : WorkItem) :
    (Shallow.read? item.structuredChars).bind ofShallow? = some item := by
  obtain ⟨target, source, priority⟩ := item
  have hfields := ofValues?_fields target source priority
  rw [Shallow.read?, (lexes_structuredChars _).tokens?, tokens]
  cases source with
  | none => simpa [readMembers?, readValue?, ofShallow?, uniqueMember?] using hfields
  | some source => simpa [readMembers?, readValue?, ofShallow?, uniqueMember?] using hfields

theorem head?_structuredChars (item : WorkItem) : item.structuredChars.head? = some '\x7b' := by
  rw [structuredChars_eq, List.head?_cons]

theorem getLast?_structuredChars (item : WorkItem) :
    item.structuredChars.getLast? = some '\x7d' := by
  unfold structuredChars
  exact List.getLast?_concat

theorem trimChars_structuredChars (item : WorkItem) :
    Text.trimChars item.structuredChars = item.structuredChars := by
  apply Text.trimBy_of_ends
  · intro c hc
    rw [head?_structuredChars] at hc
    cases hc
    decide
  · intro c hc
    rw [getLast?_structuredChars] at hc
    cases hc
    decide

/-- How an item comes back from its line: the line is one, and it holds the item again. -/
structure ComesBack (format : LineFormat) (item : WorkItem) : Prop where
  oneLine : '\n' ∉ (item.toLine format).toList
  noReturn : (item.toLine format).toList.getLast? ≠ some '\r'
  parses : ofLine? format (item.toLine format) = some item

theorem comesBack_structured (item : WorkItem) : ComesBack .structured item where
  oneLine := by simpa [toLine] using newline_notMem_structuredChars item
  noReturn := by
    rw [toLine, String.toList_ofList, getLast?_structuredChars]
    decide
  parses := by
    have hne : item.structuredChars ≠ [] := by
      rw [structuredChars_eq]
      exact List.cons_ne_nil _ _
    simp only [ofLine?, toLine, String.toList_ofList, trimChars_structuredChars, if_neg hne]
    exact item.read?_structuredChars

/-- An address comes from a line, and the blanks around it are gone. -/
theorem comesBack_raw {line : String} (hline : '\n' ∉ line.toList)
    (hne : Text.trimChars line.toList ≠ []) :
    ComesBack .raw { target := String.ofList (Text.trimChars line.toList) } where
  oneLine := by
    rw [toLine, String.toList_ofList]
    exact fun hmem => hline (Text.mem_of_mem_trimChars hmem)
  noReturn := by
    rw [toLine, String.toList_ofList]
    intro hlast
    exact Text.getLast?_trimBy_not '\r' hlast (by decide)
  parses := by
    have htrim : Text.trimChars (Text.trimChars line.toList) = Text.trimChars line.toList :=
      Text.trimBy_trimBy line.toList
    simp only [ofLine?, toLine, String.toList_ofList, htrim, if_neg hne]

theorem comesBack_of_ofLine? {format : LineFormat} {line : String} {item : WorkItem}
    (hline : '\n' ∉ line.toList) (h : ofLine? format line = some item) : ComesBack format item := by
  cases format with
  | structured => exact item.comesBack_structured
  | raw =>
    unfold ofLine? at h
    dsimp only at h
    split at h
    · cases h
    · rename_i hne
      cases h
      exact comesBack_raw hline hne

end WorkItem

end PoliteCrawl
