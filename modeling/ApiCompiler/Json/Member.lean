import ApiCompiler.Json.Value
import ApiCompiler.SortedMap

/-!
Members of JSON objects that are written only when there is something to write.
-/

set_option autoImplicit false

namespace ApiCompiler.Json.Value

def textMember (key : String) : Option String → List (String × Value)
  | some text => [(key, string text)]
  | none => []

def listMember {α : Type} (key : String) (write : α → Value) : List α → List (String × Value)
  | [] => []
  | items => [(key, array (items.map write))]

def member {α : Type} (key : String) (write : α → Value) : Option α → List (String × Value)
  | some item => [(key, write item)]
  | none => []

def ofMap {α : Type} (write : α → Value) (map : SortedMap String α) : Value :=
  object (map.entries.map fun entry => (entry.1, write entry.2))

end ApiCompiler.Json.Value
