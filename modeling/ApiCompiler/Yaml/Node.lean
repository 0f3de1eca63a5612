/-!
The tokens of YAML text, and the documents that they make up. Where blocks start and end is said by
indentation, which the tokens make explicit. A node may have a number under which it can be referred
to, even from inside of itself.
-/

set_option autoImplicit false

namespace ApiCompiler.Yaml

inductive ScalarStyle
  | plain
  | singleQuoted
  | doubleQuoted
  | literal
  | folded
  deriving DecidableEq, Repr, Inhabited

inductive Directive
  | version (major minor : Nat)
  | tag (handle meaning : String)
  deriving DecidableEq, Repr

inductive Token
  | directive (directive : Directive)
  | documentStart
  | documentEnd
  | blockSequenceStart
  | blockMappingStart
  | blockEnd
  | flowSequenceStart
  | flowSequenceEnd
  | flowMappingStart
  | flowMappingEnd
  | blockEntry
  | flowEntry
  | key
  | value
  | reference (name : String)
  | anchor (name : String)
  | tag (handle ending : String)
  | scalar (style : ScalarStyle) (text : String)
  deriving DecidableEq, Repr

structure Properties where
  anchor : Option Nat := none
  tag : Option String := none
  deriving DecidableEq, Repr, Inhabited

inductive Node
  | scalar (properties : Properties) (style : ScalarStyle) (text : String)
  | sequence (properties : Properties) (items : List Node)
  | mapping (properties : Properties) (entries : List (Node × Node))
  | reference (anchor : Nat)
  deriving Repr, Inhabited

namespace Node

def empty : Node := scalar {} .plain ""

def properties : Node → Properties
  | scalar properties .. => properties
  | sequence properties _ => properties
  | mapping properties _ => properties
  | reference _ => {}

mutual

/-- The nodes that have numbers, in the order of the document. -/
def anchored (node : Node) : List (Nat × Node) :=
  (node.properties.anchor.map (·, node)).toList ++
    match node with
    | sequence _ items => anchoredItems items
    | mapping _ entries => anchoredEntries entries
    | _ => []

def anchoredItems : List Node → List (Nat × Node)
  | [] => []
  | item :: rest => item.anchored ++ anchoredItems rest

def anchoredEntries : List (Node × Node) → List (Nat × Node)
  | [] => []
  | (key, value) :: rest => key.anchored ++ value.anchored ++ anchoredEntries rest

end

end Node

end ApiCompiler.Yaml
