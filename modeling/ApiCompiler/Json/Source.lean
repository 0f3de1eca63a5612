import ApiCompiler.Json.Token

/-!
JSON text as a tree. Faults stay at the place where they occur, so that whoever reads the tree
meets them in the order of the text, between the complaints it has about the data itself.
-/

set_option autoImplicit false

namespace ApiCompiler.Json

inductive Ending
  | closed
  | broken (fault : Broken)
  /-- The first member of an object has no key; a token stands there, or nothing. -/
  | keyless (found : Option Token)
  deriving Repr

inductive Source
  | null
  | bool (flag : Bool)
  | number (value : Number)
  | string (text : String)
  | list (items : List Source) (ending : Ending)
  | object (members : List (Key × Source)) (ending : Ending)
  | broken (fault : Broken)
  deriving Repr

namespace Source

/-- A list or object under construction; items and members are held last first. -/
inductive Frame
  | list (items : List Source)
  | object (members : List (Key × Source))
  /-- An object in which the value of a key comes next. -/
  | member (members : List (Key × Source)) (key : Key)

inductive Expected
  | value
  | firstItem
  | nextItem
  | firstKey
  | nextKey
  | colon
  | separator

def Frame.finish (ending : Ending) : Frame → Source
  | .list items => .list items.reverse ending
  | .object members => .object members.reverse ending
  | .member members _ => .object members.reverse ending

def Frame.add (source : Source) : Frame → Frame
  | .list items => .list (source :: items)
  | .object members => .object members
  | .member members key => .object ((key, source) :: members)

/-- Puts a fault's place into the innermost frame and closes the others around it. -/
def close (source : Source) (frames : List Frame) : Source :=
  frames.foldl (fun inner frame => (frame.add inner).finish .closed) source

/-- The innermost list or object ends in a fault. -/
def stop (ending : Ending) : List Frame → Source
  | [] => .broken (.both .expectedValue)
  | frame :: frames => close (frame.finish ending) frames

def ofToken : Token → Option Source
  | .null => some .null
  | .bool flag => some (.bool flag)
  | .number value => some (.number value)
  | .string key skipping =>
      match key.text with
      | .ok text => some (.string text)
      | .error fault => some (.broken (.apart fault skipping))
  | .broken fault => some (.broken fault)
  | _ => none

def faultAtEnd (fault : SyntaxFault) : Ending := .broken (.both fault)

inductive Step
  | next (expected : Expected) (frames : List Frame)
  /-- The value is complete; what follows is not part of it. -/
  | finished (source : Source)
  /-- A fault ends the value and the text. -/
  | stopped (source : Source)

/-- A complete value is put into the innermost frame. -/
def Step.deliver (source : Source) : List Frame → Step
  | [] => .finished source
  | frame :: frames => .next .separator (frame.add source :: frames)

/-- The innermost frame is closed as it should be. -/
def Step.leave : List Frame → Step
  | [] => .stopped (.broken (.both .expectedValue))
  | frame :: frames => .deliver (frame.finish .closed) frames

def Step.value (token : Token) (frames : List Frame) : Step :=
  match token with
  | .openList => .next .firstItem (.list [] :: frames)
  | .openObject => .next .firstKey (.object [] :: frames)
  | _ =>
      match ofToken token with
      | some source => .deliver source frames
      | none => .stopped (close (.broken (.both .expectedValue)) frames)

def Step.key (token : Token) (frames : List Frame) (otherwise : Ending) : Step :=
  match token, frames with
  | .string key none, .object members :: frames => .next .colon (.member members key :: frames)
  | .string key (some fault), .object members :: frames =>
      .stopped (close (.broken (.both fault)) (.member members key :: frames))
  | _, _ => .stopped (stop otherwise frames)

def Step.separator (token : Token) (frames : List Frame) : Step :=
  match frames, token with
  | .list _ :: _, .comma => .next .nextItem frames
  | .list _ :: _, .closeList => .leave frames
  | .list _ :: _, _ => .stopped (stop (faultAtEnd .expectedListSeparator) frames)
  | _, .comma => .next .nextKey frames
  | _, .closeObject => .leave frames
  | _, _ => .stopped (stop (faultAtEnd .expectedObjectSeparator) frames)

def step (token : Token) (frames : List Frame) : Expected → Step
  | .value => .value token frames
  | .firstItem =>
      match token with
      | .closeList => .leave frames
      | _ => .value token frames
  | .nextItem =>
      match token with
      | .closeList =>
          .stopped (stop (.broken (.apart .trailingComma (some .expectedValue))) frames)
      | _ => .value token frames
  | .firstKey =>
      match token with
      | .closeObject => .leave frames
      | _ => .key token frames (.keyless (some token))
  | .nextKey =>
      match token with
      | .closeObject =>
          .stopped (stop (.broken (.apart .trailingComma (some .keyNotString))) frames)
      | _ => .key token frames (faultAtEnd .keyNotString)
  | .colon =>
      match token with
      | .colon => .next .value frames
      | _ => .stopped (close (.broken (.both .expectedColon)) frames)
  | .separator => .separator token frames

/-- The text ends although the value does not. -/
def cutOff (frames : List Frame) : Expected → Source
  | .value => close (.broken (.both .endInValue)) frames
  | .firstItem => stop (faultAtEnd .endInList) frames
  | .nextItem => stop (faultAtEnd .endInValue) frames
  | .firstKey => stop (.keyless none) frames
  | .nextKey => stop (.broken (.apart .endInValue (some .endInObject))) frames
  | .colon => close (.broken (.both .endInObject)) frames
  | .separator =>
      match frames with
      | .list _ :: _ => stop (faultAtEnd .endInList) frames
      | _ => stop (faultAtEnd .endInObject) frames

/-- Reads one value from tokens; what follows it is returned. The frames are what is open,
innermost first. -/
def build : List Token → Expected → List Frame → Source × List Token
  | [], expected, frames => (cutOff frames expected, [])
  | token :: rest, expected, frames =>
      match step token frames expected with
      | .next expected frames => build rest expected frames
      | .finished source => (source, rest)
      | .stopped source => (source, [])

/-- A text as a tree, and whether anything follows it. -/
def read (text : String) : Source × Bool :=
  let (source, rest) := build (tokenize text.toList) .value []
  (source, !rest.isEmpty)

end Source

end ApiCompiler.Json
