import ApiCompiler.Proofs.Checks
import ApiCompiler.Template.Library

/-!
The text that a template writes, part by part: a choice writes one of its branches, a loop its body
for each item, and parts that follow each other write their texts one behind the other.
-/

set_option autoImplicit false

namespace ApiCompiler.Template

/-- What a choice or a loop writes when it writes something. -/
def Part.body : Part → List Part
  | .choose _ body _ => body
  | .each _ _ body => body
  | _ => []

/-- The fixed text that a list of parts begins with. -/
def openingText : List Part → String
  | .text lines :: _ => "\n".intercalate lines
  | _ => ""

variable {scope : Scope} {condition : Condition} {answer : Bool} {body otherwise : List Part}

theorem render_choose (decided : condition.decide scope = .ok answer) :
    (Part.choose condition body otherwise).render scope =
      renderAll scope (if answer then body else otherwise) := by
  rw [Part.render, decided]
  cases answer <;> rfl

theorem render_all_single (part : Part) : renderAll scope [part] = part.render scope := by
  rw [renderAll, renderAll]
  cases part.render scope with
  | error fault => rfl
  | ok text => exact congrArg Except.ok String.append_empty

/-- Parts write their pieces of text one behind the other. -/
theorem render_all_pieces {parts : List Part} {pieces : List String}
    (each : List.Forall₂ (fun part piece => part.render scope = .ok piece) parts pieces) :
    renderAll scope parts = .ok (String.join pieces) := by
  induction each with
  | nil => rfl
  | cons own _ induction =>
      rw [renderAll, own, induction, String.join_cons]
      rfl

theorem render_all_append {parts parts' : List Part} {text text' : String}
    (rendered : renderAll scope parts = .ok text) (rendered' : renderAll scope parts' = .ok text') :
    renderAll scope (parts ++ parts') = .ok (text ++ text') := by
  induction parts generalizing text with
  | nil =>
      cases rendered
      rw [List.nil_append, rendered', String.empty_append]
  | cons part rest induction =>
      rw [renderAll, bind_ok_iff] at rendered
      obtain ⟨first, own, rendered⟩ := rendered
      obtain ⟨others, behind, same⟩ := bind_ok_iff.mp rendered
      cases same
      rw [List.cons_append, renderAll, own, induction behind, String.append_assoc]
      rfl

theorem render_each {α : Type} {name : String} {path : List String} {body : List Part}
    {items : List α} {write : α → Json.Value} {text : α → String}
    (found : find? scope path = some (.array (items.map write)))
    (rendered : ∀ item ∈ items, renderAll ((name, write item) :: scope) body = .ok (text item)) :
    (Part.each name path body).render scope = .ok (String.join (items.map text)) := by
  have each : (items.map write).mapM (fun value => renderAll ((name, value) :: scope) body) =
      .ok (items.map text) := by
    apply map_each_ok_iff.mpr
    rw [List.forall₂_map_left_iff, List.forall₂_map_right_iff]
    exact List.forall₂_same.mpr rendered
  simp only [Part.render, find, found, elements, bind, Except.bind]
  rw [each]
  rfl

theorem render_when {condition : Condition} {answer : Bool} {lines : List String}
    (decided : condition.decide scope = .ok answer) :
    (Part.when condition [.text lines]).render scope =
      .ok (if answer then "\n".intercalate lines else "") := by
  rw [Part.when, render_choose decided]
  cases answer with
  | false => rfl
  | true => exact render_all_single _

theorem fill_of_render {name text : String} {members : Scope} {parts : List Part}
    (known : library.lookup name = some parts) (rendered : renderAll members parts = .ok text) :
    fill name (.object members) = .ok text := by
  simp only [fill, known, rendered]

/-- A text from a template begins as the template does. -/
theorem fill_begins {name text : String} {context : Json.Value} {lines : List String}
    {parts : List Part}
    (known : library.lookup name = some (.text lines :: parts))
    (filled : fill name context = .ok text) :
    ∃ rest, text = "\n".intercalate lines ++ rest := by
  unfold fill at filled
  split at filled
  · rw [known] at filled
    simp only [renderAll, Part.render, bind, Except.bind] at filled
    split at filled
    · rename_i rendered
      cases filled
      split at rendered
      · cases rendered
      · cases rendered
        exact ⟨_, rfl⟩
    · cases filled
  · cases filled

end ApiCompiler.Template
