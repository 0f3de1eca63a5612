import ApiCompiler.Proofs.StringLiteral

/-!
Generated source as passages: code, string literals, and documentation comments. Text that comes
from outside may stand in a literal, which is read back as that text, or in a comment, which ends at
the first line break.
-/

set_option autoImplicit false

namespace ApiCompiler

inductive Passage
  | code (text : String)
  /-- A string literal as it is written. -/
  | literal (written : String)
  /-- What a documentation comment says. -/
  | comment (line : String)
  deriving DecidableEq

namespace Passage

def text : Passage → String
  | code text => text
  | literal written => written
  | comment line => "/// " ++ line ++ "\n"

def join (passages : List Passage) : String := String.join (passages.map text)

/-- What is left of a passage without the text that comes from outside. -/
def blank : Passage → Passage
  | code text => code text
  | literal _ => literal ""
  | comment _ => comment ""

/-- A literal ends where it is meant to, and a comment stays on its line. -/
def Closed : Passage → Prop
  | code _ => True
  | literal written => (Text.readLiteral written).isSome = true
  | comment line => '\n' ∉ line.toList

end Passage

def lineBreaks (text : String) : Nat := text.toList.count '\n'

theorem line_breaks_append (left right : String) :
    lineBreaks (left ++ right) = lineBreaks left + lineBreaks right := by
  rw [lineBreaks, String.toList_append, List.count_append]
  rfl

theorem line_breaks_eq_zero {text : String} : lineBreaks text = 0 ↔ '\n' ∉ text.toList :=
  List.count_eq_zero

namespace Text

/-- A literal stands on one line, whatever its text. -/
theorem literal_one_line (text : String) : lineBreaks (stringLiteral text) = 0 := by
  have apart : ∀ character, '\n' ∉ literalChar character := fun character listed =>
    literal_char_same_line character '\n' listed (by decide)
  rw [line_breaks_eq_zero]
  simp [stringLiteral, apart]

end Text

namespace Passage

theorem literal_closed (text : String) : (literal (Text.stringLiteral text)).Closed := by
  rw [Closed, Text.read_string_literal]
  rfl

theorem join_cons (passage : Passage) (passages : List Passage) :
    join (passage :: passages) = passage.text ++ join passages := String.join_cons

theorem join_code (text : String) : join [code text] = text :=
  (join_cons _ _).trans String.append_empty

theorem join_append (front back : List Passage) :
    join (front ++ back) = join front ++ join back := by
  rw [join, List.map_append, String.join_append]
  rfl

theorem join_flat_map {α : Type} (write : α → List Passage) (items : List α) :
    join (items.flatMap write) = String.join (items.map fun item => join (write item)) := by
  induction items with
  | nil => rfl
  | cons item rest induction =>
      rw [List.flatMap_cons, join_append, induction, List.map_cons, String.join_cons]

/-- The line of a comment. -/
def line? : Passage → Option String
  | comment line => some line
  | _ => none

/-- Literals that stand on one line add no line breaks, so those that the text from outside adds are
the ones in comments. -/
theorem line_breaks_join {passages : List Passage}
    (literals : ∀ written, literal written ∈ passages → lineBreaks written = 0) :
    lineBreaks (join passages) = lineBreaks (join (passages.map blank)) +
      ((passages.filterMap line?).map lineBreaks).sum := by
  induction passages with
  | nil => rfl
  | cons passage rest induction =>
      have others := induction fun written listed => literals written (List.mem_cons_of_mem _ listed)
      rw [List.map_cons, join_cons, join_cons, line_breaks_append, line_breaks_append, others,
        List.filterMap_cons]
      cases passage with
      | code text =>
          simp only [blank, line?]
          omega
      | literal written =>
          have oneLine := literals written List.mem_cons_self
          have nothing : lineBreaks "" = 0 := rfl
          simp only [blank, line?, text, oneLine, nothing]
          omega
      | comment line =>
          have nothing : lineBreaks "" = 0 := rfl
          simp only [blank, line?, text, line_breaks_append, nothing, List.map_cons, List.sum_cons]
          omega

/-- All passages are closed when the literals were written for texts and no comment is broken. -/
theorem closed_iff {passages : List Passage}
    (literals : ∀ written, literal written ∈ passages → ∃ text, written = Text.stringLiteral text) :
    (∀ passage ∈ passages, passage.Closed) ↔
      ∀ line ∈ passages.filterMap line?, '\n' ∉ line.toList := by
  constructor
  · intro closed line listed
    obtain ⟨passage, member, same⟩ := List.mem_filterMap.mp listed
    cases passage with
    | code | literal => cases same
    | comment =>
        cases same
        exact closed _ member
  · intro oneLine passage member
    cases passage with
    | code => trivial
    | literal written =>
        obtain ⟨text, rfl⟩ := literals written member
        exact literal_closed text
    | comment line => exact oneLine line (List.mem_filterMap.mpr ⟨_, member, rfl⟩)

end Passage

end ApiCompiler
