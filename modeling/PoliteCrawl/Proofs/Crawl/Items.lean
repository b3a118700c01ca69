import PoliteCrawl.Crawl.Input
import PoliteCrawl.WorkItem.Line

namespace PoliteCrawl.Input

def itemOf? (format : LineFormat) (line : List UInt8) : Option WorkItem :=
  (textOf? (withoutEnd line)).bind (WorkItem.ofLine? format)

/-- The longest run of lines from the first on that can be read and are items. -/
def itemLines (format : LineFormat) (input : List UInt8) : List (List UInt8) :=
  (rawLines input).takeWhile fun line => (itemOf? format line).isSome

def items (format : LineFormat) (input : List UInt8) : List WorkItem :=
  (itemLines format input).filterMap (itemOf? format)

def itemsOn (format : LineFormat) : List String → List WorkItem
  | [] => []
  | line :: lines =>
    match WorkItem.ofLine? format line with
    | some item => item :: itemsOn format lines
    | none => []

theorem itemsOn_linesFrom (format : LineFormat) (lines : List (List UInt8)) :
    itemsOn format (linesFrom lines) =
      (lines.takeWhile fun line => (itemOf? format line).isSome).filterMap (itemOf? format) := by
  induction lines with
  | nil => rfl
  | cons line lines ih =>
    unfold linesFrom
    cases htext : textOf? (withoutEnd line) with
    | none =>
      have hitem : itemOf? format line = none := by rw [itemOf?, htext, Option.bind_none]
      simp [itemsOn, hitem]
    | some text =>
      have hbind : itemOf? format line = WorkItem.ofLine? format text := by
        rw [itemOf?, htext, Option.bind_some]
      cases hitem : WorkItem.ofLine? format text with
      | none =>
        rw [hitem] at hbind
        simp [itemsOn, hitem, hbind]
      | some item =>
        rw [hitem] at hbind
        simp [itemsOn, hitem, hbind, ih]

theorem itemsOn_lines (format : LineFormat) (input : List UInt8) :
    itemsOn format (lines input) = items format input := itemsOn_linesFrom format _

theorem length_items (format : LineFormat) (input : List UInt8) :
    (items format input).length = (itemLines format input).length := by
  rw [items, itemLines]
  generalize rawLines input = lines
  induction lines with
  | nil => rfl
  | cons line lines ih =>
    cases hitem : itemOf? format line with
    | none => simp [hitem]
    | some item => simp [hitem, ih]

end PoliteCrawl.Input
