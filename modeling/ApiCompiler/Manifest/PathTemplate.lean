import ApiCompiler.Manifest.Fault

/-!
Path templates: text with parameters in braces. A parameter has a name, and stays inside one
segment of the path.
-/

set_option autoImplicit false

namespace ApiCompiler.PathTemplate

def isNameChar (character : Char) : Bool :=
  character ≠ '{' && character ≠ '}' && character ≠ '/'

/-- Where a reader of a template stands. -/
inductive Place
  | outside
  /-- Behind an opening brace, with or without some characters of a name. -/
  | inside (named : Bool)

inductive Fault
  | unbalanced
  | unnamed
  deriving DecidableEq, Repr

def checkFrom : Place → List Char → Except Fault Unit
  | .outside, [] => .ok ()
  | .inside _, [] => .error .unbalanced
  | .outside, character :: rest =>
      if character = '{' then checkFrom (.inside false) rest
      else if character = '}' then .error .unbalanced
      else checkFrom .outside rest
  | .inside named, character :: rest =>
      if character = '}' then
        if named then checkFrom .outside rest else .error .unnamed
      else if isNameChar character then checkFrom (.inside true) rest
      else .error .unbalanced

/-- Whether every brace opens and closes a named parameter inside one segment. -/
def check (path : String) : Except ManifestFault Unit :=
  match checkFrom .outside path.toList with
  | .ok () => .ok ()
  | .error .unbalanced => .error (.unbalancedBraces path)
  | .error .unnamed => .error (.unnamedParameter path)

/-- The names in braces, from left to right; braces around anything else are passed over. The name
that is given is what has been read behind an opening brace. -/
def parameterNames : (name? : Option (List Char)) → List Char → List (List Char)
  | _, [] => []
  | name?, character :: rest =>
      if character = '{' then parameterNames (some []) rest
      else
        match name? with
        | none => parameterNames none rest
        | some name =>
            if character = '}' then
              if name.isEmpty then parameterNames none rest else name :: parameterNames none rest
            else if isNameChar character then parameterNames (some (name ++ [character])) rest
            else parameterNames none rest

def parameters (path : String) : List String := (parameterNames none path.toList).map String.ofList

end ApiCompiler.PathTemplate
