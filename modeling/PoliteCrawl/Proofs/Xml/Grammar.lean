import Mathlib.Data.List.Basic

/-!
Well-formed XML 1.0, for documents that have no document type, comments, processing instructions,
marked sections or character references. The sets of characters are those of the recommendation.
-/

namespace PoliteCrawl.Xml

def isChar (c : Char) : Bool :=
  let n := c.toNat
  n == 0x9 || n == 0xa || n == 0xd || (0x20 ≤ n && n ≤ 0xd7ff) || (0xe000 ≤ n && n ≤ 0xfffd) ||
    (0x10000 ≤ n && n ≤ 0x10ffff)

def isBlank (c : Char) : Bool := c == ' ' || c == '\t' || c == '\r' || c == '\n'

def isNameStart (c : Char) : Bool :=
  let n := c.toNat
  c == ':' || c.isAlpha || c == '_' || (0xc0 ≤ n && n ≤ 0xd6) || (0xd8 ≤ n && n ≤ 0xf6) ||
    (0xf8 ≤ n && n ≤ 0x2ff) || (0x370 ≤ n && n ≤ 0x37d) || (0x37f ≤ n && n ≤ 0x1fff) ||
    (0x200c ≤ n && n ≤ 0x200d) || (0x2070 ≤ n && n ≤ 0x218f) || (0x2c00 ≤ n && n ≤ 0x2fef) ||
    (0x3001 ≤ n && n ≤ 0xd7ff) || (0xf900 ≤ n && n ≤ 0xfdcf) || (0xfdf0 ≤ n && n ≤ 0xfffd) ||
    (0x10000 ≤ n && n ≤ 0xeffff)

def isNameChar (c : Char) : Bool :=
  let n := c.toNat
  isNameStart c || c == '-' || c == '.' || c.isDigit || n == 0xb7 || (0x300 ≤ n && n ≤ 0x36f) ||
    (0x203f ≤ n && n ≤ 0x2040)

def isName : List Char → Bool
  | [] => false
  | c :: cs => isNameStart c && cs.all isNameChar

/-- The entities that need no declaration. -/
def entityNames : List String := ["amp", "lt", "gt", "quot", "apos"]

/-- Text without tags, in which every ampersand begins a reference to a predefined entity. -/
inductive Data : List Char → Prop
  | nil : Data []
  | plain {c : Char} {cs : List Char} (hmark : c ≠ '<') (href : c ≠ '&') (rest : Data cs) :
      Data (c :: cs)
  | reference {name : String} {cs : List Char} (hname : name ∈ entityNames) (rest : Data cs) :
      Data ('&' :: (name.toList ++ ';' :: cs))

/-- Text between tags. The end of a marked section may not occur in it. -/
structure CharData (cs : List Char) : Prop where
  data : Data cs
  unsectioned : ¬ "]]>".toList <:+: cs

structure Value (cs : List Char) : Prop where
  data : Data cs
  unquoted : '"' ∉ cs

def attributeText (name value : List Char) : List Char :=
  ' ' :: (name ++ '=' :: '"' :: (value ++ ['"']))

/-- Attributes with these names, of which no two are the same. -/
inductive Attributes : List (List Char) → List Char → Prop
  | nil : Attributes [] []
  | cons {name value rest : List Char} {names : List (List Char)} (hname : isName name = true)
      (hnew : name ∉ names) (hvalue : Value value) (hrest : Attributes names rest) :
      Attributes (name :: names) (attributeText name value ++ rest)

/-- What is between a start tag with attributes and the end tag of the same name, with them. -/
def element (name attributes inner : List Char) : List Char :=
  '<' :: (name ++ (attributes ++ '>' :: (inner ++ '<' :: '/' :: (name ++ ['>']))))

/-- Elements, one behind the other or one in the other, and text between them. -/
inductive Content : List Char → Prop
  | text {cs : List Char} (h : CharData cs) : Content cs
  | element {before name attributes inner after : List Char} {names : List (List Char)}
      (hbefore : CharData before) (hname : isName name = true)
      (hattributes : Attributes names attributes) (hinner : Content inner)
      (hafter : Content after) :
      Content (before ++ (element name attributes inner ++ after))

def declaration : String := "<?xml version=\"1.0\" encoding=\"utf-8\"?>"

/-- A declaration and one element, with nothing but blanks around that. -/
inductive Document : List Char → Prop
  | mk {before name attributes inner after : List Char} {names : List (List Char)}
      (hbefore : before.all isBlank = true) (hname : isName name = true)
      (hattributes : Attributes names attributes) (hinner : Content inner)
      (hafter : after.all isBlank = true) :
      Document (declaration.toList ++ (before ++ (element name attributes inner ++ after)))

def Allowed (cs : List Char) : Prop := ∀ c ∈ cs, isChar c = true

instance (cs : List Char) : Decidable (Allowed cs) := List.decidableBAll (isChar · = true) cs

structure WellFormed (text : List Char) : Prop where
  document : Document text
  allowed : Allowed text

theorem allowed_nil : Allowed [] := List.forall_mem_nil _

theorem allowed_cons {c : Char} {cs : List Char} :
    Allowed (c :: cs) ↔ isChar c = true ∧ Allowed cs := List.forall_mem_cons

theorem allowed_append {cs ds : List Char} : Allowed (cs ++ ds) ↔ Allowed cs ∧ Allowed ds :=
  List.forall_mem_append

/-- What stands in a tag behind its name has to be allowed, and what stands between the tags. -/
theorem allowed_element {name attributes inner : List Char} (h : Allowed name) :
    Allowed (element name attributes inner) ↔ Allowed attributes ∧ Allowed inner := by
  have hends : Allowed ['>'] ∧ isChar '<' = true ∧ isChar '>' = true ∧ isChar '/' = true := by
    decide
  simp only [element, allowed_cons, allowed_append, h, hends, true_and, and_true]

theorem allowed_attributeText {name value : List Char} (h : Allowed name) :
    Allowed (attributeText name value) ↔ Allowed value := by
  have hends : Allowed ['"'] ∧ isChar ' ' = true ∧ isChar '=' = true ∧ isChar '"' = true := by
    decide
  simp only [attributeText, allowed_cons, allowed_append, h, hends, true_and, and_true]

theorem Attributes.one {name value : List Char} (hname : isName name = true)
    (hvalue : Value value) : Attributes [name] (attributeText name value) := by
  rw [← List.append_nil (attributeText name value)]
  exact .cons hname List.not_mem_nil hvalue .nil

theorem CharData.of_notMem {cs : List Char} (h : Data cs) (hclose : '>' ∉ cs) : CharData cs where
  data := h
  unsectioned hend := hclose (hend.subset (by decide))

theorem charData_newline : CharData ['\n'] :=
  .of_notMem (.plain (by decide) (by decide) .nil) (by decide)

/-- An element on a line of its own. -/
theorem Content.line {name attributes inner after : List Char} {names : List (List Char)}
    (hname : isName name = true) (hattributes : Attributes names attributes)
    (hinner : Content inner) (hafter : Content ('\n' :: after)) :
    Content ('\n' :: (Xml.element name attributes inner ++ '\n' :: after)) :=
  .element charData_newline hname hattributes hinner hafter

end PoliteCrawl.Xml
