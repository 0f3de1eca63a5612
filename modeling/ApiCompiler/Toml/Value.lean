/-!
TOML data. A table remembers how it came to be, for that decides what may still be added to it.
-/

set_option autoImplicit false

namespace ApiCompiler.Toml

inductive Origin
  /-- Named by a header of its own. -/
  | header
  /-- Named only inside of a longer header. -/
  | implied
  /-- Named only inside of a dotted key. -/
  | dotted
  | inline
  deriving DecidableEq, Repr, Inhabited

inductive Value
  | string (text : String)
  | bool (flag : Bool)
  | integer (value : Int)
  /-- A number with a fraction or an exponent, or one that is not finite. -/
  | real (text : String)
  | moment (text : String)
  | list (items : List Value)
  | table (origin : Origin) (members : List (String × Value))
  /-- Tables under headers in double brackets, last first. -/
  | tables (items : List (List (String × Value)))
  deriving Repr, Inhabited

abbrev Members := List (String × Value)

inductive Statement
  /-- A key, of which all parts but the last name tables, and its value. -/
  | assign (path : List String) (key : String) (value : Value)
  | header (path : List String) (key : String)
  | listHeader (path : List String) (key : String)
  deriving Repr

end ApiCompiler.Toml
