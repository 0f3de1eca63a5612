import ApiCompiler.Json.NumberText
import ApiCompiler.Json.StringText

/-!
The tokens of JSON text. A token that is no token ends the list, for nothing behind it is looked
at; one that only has no value does not.
-/

set_option autoImplicit false

namespace ApiCompiler.Json

/-- What is wrong with a place in the text for one who reads a value there, for one who skips it,
and for one who wants a name and so takes nothing but a string or an object. -/
structure Broken where
  reading : SyntaxFault
  skipping : Option SyntaxFault
  naming : SyntaxFault
  deriving DecidableEq, Repr

/-- One who wants a name finds what one who reads a value finds. -/
def Broken.apart (reading : SyntaxFault) (skipping : Option SyntaxFault) : Broken :=
  ⟨reading, skipping, reading⟩

def Broken.both (fault : SyntaxFault) : Broken := .apart fault (some fault)

/-- A value that is no string is no name from its first character on. -/
def Broken.unnamed (reading : SyntaxFault) (skipping : Option SyntaxFault) : Broken :=
  ⟨reading, skipping, .expectedValue⟩

/-- An object's key: as written between its quotes, and what it means. -/
structure Key where
  lexeme : List Char
  text : Except SyntaxFault String
  deriving Repr

inductive Token
  | openList
  | closeList
  | openObject
  | closeObject
  | comma
  | colon
  | null
  | bool (flag : Bool)
  | number (value : Number)
  | string (key : Key) (skipping : Option SyntaxFault)
  | broken (fault : Broken)
  deriving Repr

def isBlank (character : Char) : Bool :=
  character = ' ' || character = '\n' || character = '\t' || character = '\r'

def readWord (token : Token) : (word : List Char) → List Char → Token × List Char
  | [], text => (token, text)
  | _ :: _, [] => (.broken (.unnamed .endInValue (some .endInValue)), [])
  | expected :: word, character :: text =>
      if character = expected then readWord token word text
      else (.broken (.unnamed .expectedIdent (some .expectedIdent)), [])

theorem readWord_length (token : Token) (word text : List Char) :
    (readWord token word text).2.length ≤ text.length := by
  induction word generalizing text with
  | nil => simp [readWord]
  | cons expected word induction =>
    cases text with
    | nil => simp [readWord]
    | cons character text =>
      simp only [readWord]
      split
      · exact Nat.le_succ_of_le (induction text)
      · simp

def numberToken (text : List Char) : Token × List Char :=
  let reading := readNumber text
  match reading.number with
  | .ok value => (.number value, reading.rest)
  | .error fault => (.broken (.unnamed fault reading.shape), reading.rest)

def stringToken (text : List Char) : Token × List Char :=
  match (readString text).rest with
  | .ok rest => (.string ⟨(readString text).lexeme, (readString text).text⟩ none, rest)
  | .error fault => (.string ⟨(readString text).lexeme, (readString text).text⟩ (some fault), [])

theorem stringToken_length (text : List Char) : (stringToken text).2.length ≤ text.length := by
  unfold stringToken
  split
  · rename_i rest read
    exact Nat.le_of_lt (skipString_length text rest read)
  · simp

def firstToken (character : Char) (text : List Char) : Token × List Char :=
  match character with
  | '[' => (.openList, text)
  | ']' => (.closeList, text)
  | '{' => (.openObject, text)
  | '}' => (.closeObject, text)
  | ',' => (.comma, text)
  | ':' => (.colon, text)
  | 'n' => readWord .null ['u', 'l', 'l'] text
  | 't' => readWord (.bool true) ['r', 'u', 'e'] text
  | 'f' => readWord (.bool false) ['a', 'l', 's', 'e'] text
  | '"' => stringToken text
  | _ =>
      if character = '-' ∨ character.isDigit then
        let (token, rest) := numberToken (character :: text)
        (token, rest.take text.length)
      else (.broken (.both .expectedValue), [])

theorem firstToken_length (character : Char) (text : List Char) :
    (firstToken character text).2.length ≤ text.length := by
  unfold firstToken
  split
  any_goals exact Nat.le_refl _
  any_goals apply readWord_length
  · exact stringToken_length text
  · split
    · exact List.length_take_le _ _
    · simp

/-- Whether nothing behind a token is looked at. -/
def Token.ends : Token → Bool
  | .string _ skipping => skipping.isSome
  | .broken fault => fault.skipping.isSome
  | _ => false

def tokenize (text : List Char) : List Token :=
  match found : text.dropWhile isBlank with
  | [] => []
  | character :: tail =>
      have shorter : (firstToken character tail).2.length < text.length := by
        have step := firstToken_length character tail
        have drop := (List.dropWhile_sublist (l := text) isBlank).length_le
        rw [found] at drop
        simp only [List.length_cons] at drop
        omega
      let read := firstToken character tail
      if read.1.ends then [read.1] else read.1 :: tokenize read.2
termination_by text.length

end ApiCompiler.Json
