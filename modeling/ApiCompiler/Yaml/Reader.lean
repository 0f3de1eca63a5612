import ApiCompiler.Yaml.Node
import ApiCompiler.Yaml.Scanner

/-!
From tokens to the document that they hold. A text holds one document at most; an empty one counts
as a document of an empty node. Neither how deep nodes lie in each other nor how often a node may be
repeated by its name has a limit here.
-/

set_option autoImplicit false

namespace ApiCompiler.Yaml

structure ReaderState where
  tokens : List Token
  /-- The names of nodes so far, each once. -/
  names : List String
  /-- The numbers that the names stand for now. -/
  numbers : List (String × Nat)
  handles : List (String × String)

abbrev Reader (α : Type) := StateT ReaderState Option α

namespace Reader

def peek : Reader (Option Token) := return (← get).tokens.head?

def skip : Reader Unit := modify fun state => { state with tokens := state.tokens.drop 1 }

def fail {α : Type} : Reader α := fun _ => none

def accept (token : Token) : Reader Bool := do
  if (← peek) = some token then
    skip
    return true
  else return false

def expect (token : Token) : Reader Unit := do
  if !(← accept token) then fail

/-- Whether one of some tokens comes next, or the end. -/
def isAtOneOf (tokens : List Token) : Reader Bool := do
  match ← peek with
  | none => return true
  | some token => return tokens.contains token

/-! ### Properties of nodes -/

/-- Gives a number to a name. It is the count of names before, so a name that is used again shares
its number with the next new one. -/
def nameNode (name : String) : Reader Nat :=
  modifyGet fun state =>
    let number := state.names.length
    let names := if state.names.contains name then state.names else name :: state.names
    (number, { state with names, numbers := (name, number) :: state.numbers })

def numberOf (name : String) : Reader Nat := do
  match (← get).numbers.lookup name with
  | some number => return number
  | none => fail

def tagOf (handle ending : String) : Reader String := do
  if handle.isEmpty then return ending
  else
    match (← get).handles.lookup handle with
    | some meaning => return meaning ++ ending
    | none => fail

def anchor? : Reader (Option Nat) := do
  match ← peek with
  | some (.anchor name) => do
      skip
      return some (← nameNode name)
  | _ => return none

def tag? : Reader (Option String) := do
  match ← peek with
  | some (.tag handle ending) => do
      skip
      return some (← tagOf handle ending)
  | _ => return none

/-- An anchor and a tag, in any order. -/
def properties : Reader Properties := do
  match ← anchor? with
  | some number => return ⟨some number, ← tag?⟩
  | none => do
      let tag ← tag?
      match tag with
      | some found => return ⟨← anchor?, some found⟩
      | none => return ⟨none, none⟩

/-! ### Nodes -/

inductive Position
  | flow
  | block
  /-- The key or value of a block mapping, where a sequence needs no indentation. -/
  | member
  deriving DecidableEq, Repr

mutual

def node : (depth : Nat) → Position → Reader Node
  | 0, _ => fail
  | depth + 1, position => do
      match ← peek with
      | some (.reference name) => do
          skip
          return .reference (← numberOf name)
      | _ => do
          let properties ← properties
          match ← peek, position with
          | some .blockEntry, .member =>
              return .sequence properties (← plainItems depth)
          | some (.scalar style text), _ => do
              skip
              return .scalar properties style text
          | some .flowSequenceStart, _ => do
              skip
              return .sequence properties (← flowItems depth true)
          | some .flowMappingStart, _ => do
              skip
              return .mapping properties (← flowMembers depth true)
          | some .blockSequenceStart, .block | some .blockSequenceStart, .member => do
              skip
              return .sequence properties (← blockItems depth)
          | some .blockMappingStart, .block | some .blockMappingStart, .member => do
              skip
              return .mapping properties (← blockMembers depth)
          | _, _ =>
              if properties = {} then fail else return .scalar properties .plain ""

/-- A node, or an empty one before some tokens. -/
def nodeBefore : (depth : Nat) → Position → (closing : List Token) → Reader Node
  | 0, _, _ => fail
  | depth + 1, position, closing => do
      if ← isAtOneOf closing then return .empty else node depth position

def blockItems : (depth : Nat) → Reader (List Node)
  | 0 => fail
  | depth + 1 => do
      if ← accept .blockEntry then
        let item ← nodeBefore depth .block [.blockEntry, .blockEnd]
        return item :: (← blockItems depth)
      else
        expect .blockEnd
        return []

/-- The items of a sequence that ends with the mapping around it. -/
def plainItems : (depth : Nat) → Reader (List Node)
  | 0 => fail
  | depth + 1 => do
      if ← accept .blockEntry then
        let item ← nodeBefore depth .block [.blockEntry, .key, .value, .blockEnd]
        return item :: (← plainItems depth)
      else return []

def blockMembers : (depth : Nat) → Reader (List (Node × Node))
  | 0 => fail
  | depth + 1 => do
      if ← accept .key then
        let key ← nodeBefore depth .member [.key, .value, .blockEnd]
        let value ← blockValue depth
        return (key, value) :: (← blockMembers depth)
      else
        expect .blockEnd
        return []

def blockValue : (depth : Nat) → Reader Node
  | 0 => fail
  | depth + 1 => do
      if ← accept .value then nodeBefore depth .member [.key, .value, .blockEnd]
      else return .empty

def flowItems : (depth : Nat) → (first : Bool) → Reader (List Node)
  | 0, _ => fail
  | depth + 1, first => do
      if ← accept .flowSequenceEnd then return []
      else
        if !first then expect .flowEntry
        if ← accept .flowSequenceEnd then return []
        else if ← accept .key then
          let entry ← flowPair depth
          return .mapping {} [entry] :: (← flowItems depth false)
        else
          let item ← node depth .flow
          return item :: (← flowItems depth false)

/-- A key and a value that are an item of a flow sequence. The token behind an empty key is passed
over. -/
def flowPair : (depth : Nat) → Reader (Node × Node)
  | 0 => fail
  | depth + 1 => do
      let key ← flowPairKey depth
      if ← accept .value then return (key, ← nodeBefore depth .flow [.flowEntry, .flowSequenceEnd])
      else return (key, .empty)

def flowPairKey : (depth : Nat) → Reader Node
  | 0 => fail
  | depth + 1 => do
      if ← isAtOneOf [.value, .flowEntry, .flowSequenceEnd] then
        skip
        return .empty
      else node depth .flow

def flowMembers : (depth : Nat) → (first : Bool) → Reader (List (Node × Node))
  | 0, _ => fail
  | depth + 1, first => do
      if ← accept .flowMappingEnd then return []
      else
        if !first then expect .flowEntry
        if ← accept .flowMappingEnd then return []
        else
          let member ← flowMember depth
          return member :: (← flowMembers depth false)

/-- Only behind the sign for a key has a member a value. -/
def flowMember : (depth : Nat) → Reader (Node × Node)
  | 0 => fail
  | depth + 1 => do
      if ← accept .key then
        let key ← nodeBefore depth .flow [.value, .flowEntry, .flowMappingEnd]
        if ← accept .value then
          return (key, ← nodeBefore depth .flow [.flowEntry, .flowMappingEnd])
        else return (key, .empty)
      else return (← node depth .flow, .empty)

end

/-! ### Documents -/

def defaultHandles : List (String × String) := [("!", "!"), ("!!", "tag:yaml.org,2002:")]

def isKnownVersion (major minor : Nat) : Bool := major == 1 && (minor == 1 || minor == 2)

/-- Reads directives; a version is given once, and each handle gets a meaning once. -/
def directives : (versioned : Bool) → List (String × String) → List Token →
    Option (Bool × List (String × String))
  | versioned, handles, .directive (.version major minor) :: rest =>
      if versioned || !isKnownVersion major minor then none else directives true handles rest
  | versioned, handles, .directive (.tag handle meaning) :: rest =>
      if (handles.lookup handle).isSome then none
      else directives versioned ((handle, meaning) :: handles) rest
  | versioned, handles, _ => some (versioned, handles)

def isDirective : Token → Bool
  | .directive _ => true
  | _ => false

def readDirectives : Reader Unit := fun state => do
  let (_, handles) ← directives false [] state.tokens
  return ((), { state with
    tokens := state.tokens.dropWhile isDirective
    handles := handles ++ defaultHandles })

/-- Enough for any document: on the way inward, one of every three steps takes a token. -/
def documentDepth : Reader Nat := return 3 * (← get).tokens.length + 3

def markedDocument : Reader Node := do
  readDirectives
  expect .documentStart
  match ← peek with
  | none | some .documentStart | some .documentEnd | some (.directive _) => return .empty
  | _ => node (← documentDepth) .block

def document : Reader Node := do
  match ← peek with
  | none => return .empty
  | some .documentStart | some (.directive _) => markedDocument
  | _ => node (← documentDepth) .block

/-- Nothing but marks of ends may follow a document. -/
def onlyDocument : Reader Node := do
  let found ← document
  if (← get).tokens.all (· = .documentEnd) then return found else fail

end Reader

/-- The document of a text, if the text is well-formed and has no other. -/
def document? (text : String) : Option Node := do
  let tokens ← tokens? text
  let (node, _) ← Reader.onlyDocument.run ⟨tokens, [], [], Reader.defaultHandles⟩
  return node

end ApiCompiler.Yaml
