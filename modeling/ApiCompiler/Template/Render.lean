import ApiCompiler.Json.Value
import ApiCompiler.Template.Syntax
import ApiCompiler.Text.Html
import ApiCompiler.Text.Literal

/-!
Filling templates with JSON data. To print, to walk or to compare a variable that does not exist is
a fault.
-/

set_option autoImplicit false

namespace ApiCompiler.Template

open Json (Value)

inductive Fault
  | unknownVariable (path : List String)
  | notText (path : List String)
  | notList (path : List String)
  deriving DecidableEq, Repr

def isZero : Json.Number → Bool
  | .natural value => value == 0
  | .negative _ => false
  | .real (.finite _ magnitude) | .single (.finite _ magnitude) => magnitude.isZero
  | .real _ | .single _ => false

/-- Empty texts, lists and objects, zero and null are false. -/
def isTrue : Value → Bool
  | .null => false
  | .bool flag => flag
  | .number number => !isZero number
  | .string text => !text.isEmpty
  | .array items => !items.isEmpty
  | .object members => !members.isEmpty

def numberText : Json.Number → String
  | .natural value => toString value
  | .negative magnitude => "-" ++ toString magnitude
  | .real value => value.toPositional .double
  | .single value => value.toPositional .single

mutual

/-- How a value is printed: null as nothing, and an object as a mark. -/
def display : Value → String
  | .null => ""
  | .bool flag => if flag then "true" else "false"
  | .number number => numberText number
  | .string text => text
  | .array items => "[" ++ displayItems items ++ "]"
  | .object _ => "[object]"

def displayItems : List Value → String
  | [] => ""
  | [item] => display item
  | item :: rest => display item ++ ", " ++ displayItems rest

end

/-- The variables that are known by a name, innermost first. -/
abbrev Scope := List (String × Value)

/-- A step from a value to a part of it: a member of an object, or an item of a list by number. -/
def member (value : Value) (name : String) : Option Value :=
  match value with
  | .object members => Value.find name members
  | .array items =>
      if name = "0" ∨ (name.toList.all Char.isDigit ∧ name.toList.head? ≠ some '0') then
        name.toNat?.bind (items[·]?)
      else none
  | _ => none

def find? (scope : Scope) : List String → Option Value
  | [] => none
  | name :: rest => do
      let value ← Value.find name scope
      rest.foldlM member value

def find (scope : Scope) (path : List String) : Except Fault Value :=
  match find? scope path with
  | some value => .ok value
  | none => .error (.unknownVariable path)

def Filter.apply (filter : Filter) (path : List String) (value : Value) : Except Fault String :=
  match filter with
  | .plain => .ok (display value)
  | .escape =>
      match value with
      | .string text => .ok (Text.escapeHtml text)
      | _ => .error (.notText path)
  | .join separator =>
      match value with
      | .array items => .ok (separator.intercalate (items.map display))
      | _ => .error (.notList path)

def Condition.decide (condition : Condition) (scope : Scope) : Except Fault Bool :=
  match condition with
  | .holds path => .ok (((find? scope path).map isTrue).getD false)
  | .fails path => .ok (!((find? scope path).map isTrue).getD false)
  | .equals path text => do
      match ← find scope path with
      | .string found => return found == text
      | _ => return false

/-- Joins marks to the characters they attach to. -/
def clusters : List Char → List (List Char)
  | [] => []
  | character :: rest =>
      match clusters rest with
      | (next :: more) :: others =>
          if Text.isCombining next || (character = '\r' && next = '\n') then
            (character :: next :: more) :: others
          else [character] :: (next :: more) :: others
      | others => [character] :: others

/-- What a loop walks over: the items of a list, or the characters of a text. -/
def elements (path : List String) : Value → Except Fault (List Value)
  | .array items => .ok items
  | .string text =>
      .ok ((clusters text.toList).map fun cluster => .string (String.ofList cluster))
  | _ => .error (.notList path)

mutual

def Part.render (scope : Scope) : Part → Except Fault String
  | .text lines => .ok ("\n".intercalate lines)
  | .print path filter => do
      let value ← find scope path
      filter.apply path value
  | .choose condition body otherwise => do
      if ← condition.decide scope then renderAll scope body else renderAll scope otherwise
  | .each name path body => do
      let values ← elements path (← find scope path)
      let texts ← values.mapM fun value => renderAll ((name, value) :: scope) body
      return String.join texts

def renderAll (scope : Scope) : List Part → Except Fault String
  | [] => .ok ""
  | part :: rest => do
      let first ← part.render scope
      let others ← renderAll scope rest
      return first ++ others

end

end ApiCompiler.Template
