import ApiCompiler.Text.Letter
import ApiCompiler.Text.Pieces

/-!
Spellings of a name: words in lower case joined by underscores, or run together with capitals.
A word ends at a hyphen, an underscore or a blank, and before a capital that follows a small
letter or a digit. Other punctuation is dropped.
-/

set_option autoImplicit false

namespace ApiCompiler.Text

def isWordBreak (character : Char) : Bool :=
  character = '-' || character = '_' || character = ' '

/-- Lower case, with an underscore at each end of a word. -/
def markWords : (afterSmall : Bool) → List Char → List Char
  | _, [] => []
  | afterSmall, character :: rest =>
      if isUppercase character then
        (if afterSmall then ['_'] else []) ++ lowercase character ++ markWords false rest
      else if isAlphanumeric character then
        character :: markWords (isLowercase character || character.isDigit) rest
      else if isWordBreak character then '_' :: markWords false rest
      else markWords afterSmall rest

/-- The words of a name, in lower case. -/
def words (text : String) : List (List Char) :=
  (pieces (· = '_') (markWords false text.toList)).filter fun word => !word.isEmpty

def joinWords : List (List Char) → List Char
  | [] => []
  | [word] => word
  | word :: rest => word ++ '_' :: joinWords rest

def toSnakeCase (text : String) : String := String.ofList (joinWords (words text))

def capitalize : List Char → List Char
  | [] => []
  | first :: rest => uppercase first ++ rest

def uncapitalize : List Char → List Char
  | [] => []
  | first :: rest => lowercase first ++ rest

def upperCamel (text : String) : List Char := (words text).flatMap capitalize

def toUpperCamelCase (text : String) : String := String.ofList (upperCamel text)

def toLowerCamelCase (text : String) : String := String.ofList (uncapitalize (upperCamel text))

end ApiCompiler.Text
