import ApiCompiler.Proofs.Spelling
import ApiCompiler.Text.Html
import ApiCompiler.Text.Radix

/-!
Reading a page back. A text that was escaped is read as that text; a page that was written as tags,
each with some text behind it, is read as these tags, with the values of attributes and the texts as
they were before they were escaped.
-/

set_option autoImplicit false

namespace ApiCompiler

/-! ### References to characters -/

namespace Text

variable {text plain : String} {character : Char}

/-- Characters with a name. -/
def namedCharacters : List (String × Char) := [
  ("amp", '&'), ("lt", '<'), ("gt", '>'), ("quot", '"'), ("apos", '\''), ("hellip", '\u2026')]

def codePoint? (radix : Nat) (digits : List Char) : Option Char :=
  if digits.isEmpty then none
  else (numeral? radix digits).bind fun code =>
    if code.isValidChar then some (Char.ofNat code) else none

/-- The character that a reference stands for: its name, or the number of its code point. -/
def referencedChar? : List Char → Option Char
  | '#' :: 'x' :: digits => codePoint? 16 digits
  | '#' :: digits => codePoint? 10 digits
  | name => namedCharacters.lookup (String.ofList name)

/-- Reads references, which begin with an ampersand and end with a semicolon. Behind an open
ampersand, the letters since then are kept; what turns out to be no reference stands for itself. -/
def readReferences : Option (List Char) → List Char → List Char
  | none, [] => []
  | some name, [] => '&' :: name
  | none, character :: rest =>
      if character = '&' then readReferences (some []) rest
      else character :: readReferences none rest
  | some name, character :: rest =>
      if character = ';' then
        match referencedChar? name with
        | some meant => meant :: readReferences none rest
        | none => '&' :: name ++ ';' :: readReferences none rest
      else if character = '&' then '&' :: name ++ readReferences (some []) rest
      else readReferences (some (name ++ [character])) rest

/-- The text that is meant by what a page says. -/
def unescapeHtml (written : String) : String :=
  String.ofList (readReferences none written.toList)

/-- The characters that delimit tags and the values of attributes. -/
def markupSigns : List Char := ['<', '>', '"', '\'']

theorem read_html_char (character : Char) (rest : List Char) :
    readReferences none (htmlChar character ++ rest) = character :: readReferences none rest := by
  unfold htmlChar
  split
  · rfl
  · rfl
  · rfl
  · rfl
  · rfl
  · rfl
  · rename_i noReference _ _ _ _ _
    rw [List.singleton_append, readReferences, if_neg noReference]

theorem read_references_plain {letters : List Char} (bare : '&' ∉ letters) :
    readReferences none letters = letters := by
  induction letters with
  | nil => rfl
  | cons letter rest induction =>
      rw [List.mem_cons, not_or] at bare
      rw [readReferences, if_neg (Ne.symm bare.1), induction bare.2]

/-- An escaped text is read as that text, and so is plain text behind it. -/
theorem unescape_html_append (text : String) (bare : '&' ∉ plain.toList) :
    unescapeHtml (escapeHtml text ++ plain) = text ++ plain := by
  have each : ∀ letters : List Char,
      readReferences none (letters.flatMap htmlChar ++ plain.toList) = letters ++ plain.toList := by
    intro letters
    induction letters with
    | nil => exact read_references_plain bare
    | cons letter rest induction =>
        rw [List.flatMap_cons, List.append_assoc, read_html_char, induction, List.cons_append]
  rw [unescapeHtml, escapeHtml, String.toList_append, String.toList_ofList, each,
    String.ofList_append, String.ofList_toList, String.ofList_toList]

theorem unescape_html_escaped (text : String) : unescapeHtml (escapeHtml text) = text := by
  have alone : unescapeHtml (escapeHtml text ++ "") = text ++ "" :=
    unescape_html_append text (by decide)
  rwa [String.append_empty, String.append_empty] at alone

theorem html_char_no_sign (character : Char) :
    ∀ letter ∈ htmlChar character, letter ∉ markupSigns := by
  unfold htmlChar
  split
  · simp [markupSigns]
  · simp [markupSigns]
  · simp [markupSigns]
  · simp [markupSigns]
  · simp [markupSigns]
  · simp [markupSigns]
  · rename_i _ less greater quote apostrophe _
    refine List.forall_mem_singleton.mpr fun listed => ?_
    simp only [markupSigns, List.mem_cons, List.not_mem_nil, or_false] at listed
    rcases listed with same | same | same | same
    · exact less same
    · exact greater same
    · exact quote same
    · exact apostrophe same

theorem escaped_no_sign (text : String) :
    ∀ letter ∈ (escapeHtml text).toList, letter ∉ markupSigns := by
  intro letter listed
  rw [escapeHtml, String.toList_ofList, List.mem_flatMap] at listed
  obtain ⟨character, _, written⟩ := listed
  exact html_char_no_sign character letter written

end Text

/-! ### Tags -/

namespace Markup

open Text (Spelled unescapeHtml)

structure Attribute where
  name : String
  value : String
  deriving DecidableEq, Repr

inductive Tag
  | declaration (text : String)
  | opening (name : String) (attributes : List Attribute)
  | closing (name : String)
  deriving DecidableEq, Repr

/-- A tag, and the text between it and the next one. -/
structure Piece where
  tag : Tag
  text : String
  deriving DecidableEq, Repr

def Attribute.written (given : Attribute) : String :=
  " " ++ given.name ++ "=\"" ++ given.value ++ "\""

/-- What stands between the angle brackets. -/
def Tag.inner : Tag → String
  | declaration text => "!" ++ text
  | opening name attributes => name ++ String.join (attributes.map Attribute.written)
  | closing name => "/" ++ name

def Piece.written (piece : Piece) : String := "<" ++ piece.tag.inner ++ ">" ++ piece.text

def write (pieces : List Piece) : String := String.join (pieces.map Piece.written)

def Attribute.unescaped (given : Attribute) : Attribute :=
  { given with value := unescapeHtml given.value }

def Tag.unescaped : Tag → Tag
  | opening name attributes => opening name (attributes.map Attribute.unescaped)
  | tag => tag

def Piece.unescaped (piece : Piece) : Piece := ⟨piece.tag.unescaped, unescapeHtml piece.text⟩

/-- A tag without the values of its attributes. -/
def Tag.outline : Tag → Tag
  | opening name attributes => opening name (attributes.map fun given => { given with value := "" })
  | tag => tag

/-- The values that the tags of a name have for an attribute. -/
def values (name label : String) (pieces : List Piece) : List String :=
  pieces.flatMap fun piece =>
    match piece.tag with
    | .opening own attributes =>
        if own = name then (attributes.filter (·.name = label)).map Attribute.value else []
    | _ => []

/-- The texts behind the tags of a name. -/
def texts (name : String) (pieces : List Piece) : List String :=
  pieces.filterMap fun piece =>
    match piece.tag with
    | .opening own _ => if own = name then some piece.text else none
    | _ => none

theorem outline_unescaped (tag : Tag) : tag.unescaped.outline = tag.outline := by
  cases tag with
  | declaration text => rfl
  | opening name attributes => simp [Tag.unescaped, Tag.outline, Attribute.unescaped]
  | closing name => rfl

/-- Where a reader of a page stands. -/
inductive Place
  | outside
  | opened
  | declaration (letters : List Char)
  | closing (letters : List Char)
  | name (letters : List Char)
  /-- Behind the name of a tag, or behind an attribute. -/
  | between (name : String) (found : List Attribute)
  | label (name : String) (found : List Attribute) (letters : List Char)
  /-- Behind an equals sign. -/
  | assigned (name : String) (found : List Attribute) (label : String)
  | value (name : String) (found : List Attribute) (label : String) (letters : List Char)
  | text (tag : Tag) (letters : List Char)

/-- Reads a page that begins with a tag, and whose attributes have values in double quotes. -/
def readFrom : Place → List Char → Option (List Piece)
  | .text tag letters, [] => some [⟨tag, unescapeHtml (String.ofList letters)⟩]
  | _, [] => none
  | .outside, letter :: rest => if letter = '<' then readFrom .opened rest else none
  | .opened, letter :: rest =>
      if letter = '!' then readFrom (.declaration []) rest
      else if letter = '/' then readFrom (.closing []) rest
      else readFrom (.name [letter]) rest
  | .declaration letters, letter :: rest =>
      if letter = '>' then readFrom (.text (.declaration (String.ofList letters)) []) rest
      else readFrom (.declaration (letters ++ [letter])) rest
  | .closing letters, letter :: rest =>
      if letter = '>' then readFrom (.text (.closing (String.ofList letters)) []) rest
      else readFrom (.closing (letters ++ [letter])) rest
  | .name letters, letter :: rest =>
      if letter = '>' then readFrom (.text (.opening (String.ofList letters) []) []) rest
      else if letter = ' ' then readFrom (.between (String.ofList letters) []) rest
      else readFrom (.name (letters ++ [letter])) rest
  | .between name found, letter :: rest =>
      if letter = '>' then readFrom (.text (.opening name found) []) rest
      else if letter = ' ' then readFrom (.between name found) rest
      else readFrom (.label name found [letter]) rest
  | .label name found letters, letter :: rest =>
      if letter = '=' then readFrom (.assigned name found (String.ofList letters)) rest
      else readFrom (.label name found (letters ++ [letter])) rest
  | .assigned name found label, letter :: rest =>
      if letter = '"' then readFrom (.value name found label []) rest else none
  | .value name found label letters, letter :: rest =>
      if letter = '"' then
        readFrom (.between name (found ++ [⟨label, unescapeHtml (String.ofList letters)⟩])) rest
      else readFrom (.value name found label (letters ++ [letter])) rest
  | .text tag letters, letter :: rest =>
      if letter = '<' then
        (readFrom .opened rest).map (⟨tag, unescapeHtml (String.ofList letters)⟩ :: ·)
      else readFrom (.text tag (letters ++ [letter])) rest

/-- The tags of a page, with their texts. -/
def read (page : String) : Option (List Piece) := readFrom .outside page.toList

/-! ### What was written is read back -/

def isNameChar (letter : Char) : Bool := letter.isAlphanum || letter = '-'

/-- A value is inside double quotes, and so must not have one. -/
def Attribute.Proper (given : Attribute) : Prop :=
  Spelled Char.isAlpha isNameChar given.name ∧ '"' ∉ given.value.toList

/-- What may be written: no part holds a sign at which its reader would stop. -/
def Tag.Proper : Tag → Prop
  | declaration text => '>' ∉ text.toList
  | opening name attributes =>
      Spelled Char.isAlpha isNameChar name ∧ ∀ given ∈ attributes, given.Proper
  | closing name => '>' ∉ name.toList

structure Piece.Proper (piece : Piece) : Prop where
  tag : piece.tag.Proper
  text : '<' ∉ piece.text.toList

instance : DecidablePred Attribute.Proper := fun _ => inferInstanceAs (Decidable (_ ∧ _))

instance : DecidablePred Tag.Proper
  | .declaration text => inferInstanceAs (Decidable ('>' ∉ text.toList))
  | .opening _ _ => inferInstanceAs (Decidable (_ ∧ _))
  | .closing name => inferInstanceAs (Decidable ('>' ∉ name.toList))

instance : DecidablePred Piece.Proper := fun piece =>
  decidable_of_iff (piece.tag.Proper ∧ '<' ∉ piece.text.toList)
    ⟨fun both => ⟨both.1, both.2⟩, fun proper => ⟨proper.tag, proper.text⟩⟩

variable {rest letters more : List Char} {name label : String} {found : List Attribute}

/-- A reader that keeps the letters of a part goes over those at which it does not stop. -/
theorem read_letters (place : List Char → Place) (goesOn : Char → Prop)
    (step : ∀ letters letter rest, goesOn letter →
      readFrom (place letters) (letter :: rest) = readFrom (place (letters ++ [letter])) rest)
    (each : ∀ letter ∈ more, goesOn letter) :
    readFrom (place letters) (more ++ rest) = readFrom (place (letters ++ more)) rest := by
  induction more generalizing letters with
  | nil => rw [List.nil_append, List.append_nil]
  | cons letter others induction =>
      obtain ⟨own, later⟩ := List.forall_mem_cons.mp each
      rw [List.cons_append, step _ _ _ own, induction later, List.append_assoc,
        List.singleton_append]

theorem read_until (place : List Char → Place) (stop : Char)
    (step : ∀ letters letter rest, letter ≠ stop →
      readFrom (place letters) (letter :: rest) = readFrom (place (letters ++ [letter])) rest)
    (whole : stop ∉ more) :
    readFrom (place letters) (more ++ rest) = readFrom (place (letters ++ more)) rest :=
  read_letters place (· ≠ stop) step fun _ listed same => whole (same ▸ listed)

/-- A name holds none of the signs that may stand behind it. -/
theorem name_letters (named : Spelled Char.isAlpha isNameChar name) :
    ∃ head tail, name.toList = head :: tail ∧ (∀ sign ∈ ['!', '/', '>', ' '], head ≠ sign) ∧
      ∀ letter ∈ tail, ∀ sign ∈ ['>', ' ', '='], letter ≠ sign := by
  obtain ⟨head, tail, letters, alpha, others⟩ := named
  have begins : ['!', '/', '>', ' '].all (!·.isAlpha) = true := by decide
  have continues : ['>', ' ', '='].all (!isNameChar ·) = true := by decide
  refine ⟨head, tail, letters, ?_, ?_⟩
  · rintro sign listed rfl
    have other := List.all_eq_true.mp begins head listed
    simp [alpha] at other
  · rintro letter listed sign member rfl
    have other := List.all_eq_true.mp continues letter member
    simp [others letter listed] at other

theorem read_attribute {given : Attribute} (proper : given.Proper) :
    readFrom (.between name found) (given.written.toList ++ rest) =
      readFrom (.between name (found ++ [given.unescaped])) rest := by
  obtain ⟨named, whole⟩ := proper
  obtain ⟨head, tail, label, begins, continues⟩ := name_letters named
  have noEnd : head ≠ '>' ∧ head ≠ ' ' := ⟨begins _ (by decide), begins _ (by decide)⟩
  have quoted : ∀ letters, readFrom (.value name found given.name letters)
      (given.value.toList ++ '"' :: rest) = readFrom (.between name
        (found ++ [⟨given.name, unescapeHtml (String.ofList (letters ++ given.value.toList))⟩]))
          rest := by
    intro letters
    rw [read_until (.value name found given.name) '"'
      (fun _ _ _ other => by rw [readFrom, if_neg other]) whole, readFrom, if_pos rfl]
  have labelled : readFrom (.label name found [head])
      (tail ++ '=' :: '"' :: (given.value.toList ++ '"' :: rest)) =
        readFrom (.value name found given.name []) (given.value.toList ++ '"' :: rest) := by
    rw [read_letters (.label name found) (· ≠ '=')
      (fun _ _ _ other => by rw [readFrom, if_neg other])
      (fun letter listed => continues letter listed _ (by decide)), readFrom, if_pos rfl, readFrom,
      if_pos rfl, List.singleton_append, ← label, String.ofList_toList]
  have shape : given.written.toList ++ rest =
      ' ' :: head :: (tail ++ '=' :: '"' :: (given.value.toList ++ '"' :: rest)) := by
    simp [Attribute.written, label]
  rw [shape, readFrom, if_neg (by decide), if_pos rfl, readFrom, if_neg noEnd.1, if_neg noEnd.2,
    labelled, quoted, List.nil_append, String.ofList_toList]
  rfl

theorem read_attributes {attributes : List Attribute}
    (each : ∀ given ∈ attributes, given.Proper) :
    readFrom (.between name found)
        ((String.join (attributes.map Attribute.written)).toList ++ '>' :: rest) =
      readFrom (.text (.opening name (found ++ attributes.map Attribute.unescaped)) []) rest := by
  induction attributes generalizing found with
  | nil => simp [readFrom]
  | cons given others induction =>
      obtain ⟨own, later⟩ := List.forall_mem_cons.mp each
      rw [List.map_cons, String.join_cons, String.toList_append, List.append_assoc,
        read_attribute own, induction later, List.append_assoc]
      rfl

/-- Behind the name of a tag stands the bracket that closes it, or the blank before an attribute. -/
theorem read_name_end (letters : List Char) (attributes : List Attribute) :
    readFrom (.name letters)
        ((String.join (attributes.map Attribute.written)).toList ++ '>' :: rest) =
      readFrom (.between (String.ofList letters) [])
        ((String.join (attributes.map Attribute.written)).toList ++ '>' :: rest) := by
  cases attributes with
  | nil => simp [readFrom]
  | cons given others => simp [Attribute.written, String.join_cons, readFrom]

theorem read_opening {attributes : List Attribute} (named : Spelled Char.isAlpha isNameChar name)
    (each : ∀ given ∈ attributes, given.Proper) :
    readFrom .opened ((Tag.opening name attributes).inner.toList ++ '>' :: rest) =
      readFrom (.text (.opening name (attributes.map Attribute.unescaped)) []) rest := by
  obtain ⟨head, tail, shape, begins, continues⟩ := name_letters named
  have noDeclaration : head ≠ '!' := begins _ (by decide)
  have noClosing : head ≠ '/' := begins _ (by decide)
  rw [Tag.inner, String.toList_append, shape, List.append_assoc, List.cons_append, readFrom,
    if_neg noDeclaration, if_neg noClosing,
    read_letters .name (fun letter => letter ≠ '>' ∧ letter ≠ ' ')
      (fun _ _ _ others => by rw [readFrom, if_neg others.1, if_neg others.2])
      fun letter listed => ⟨continues letter listed _ (by decide),
        continues letter listed _ (by decide)⟩,
    read_name_end, read_attributes each, List.singleton_append, ← shape, String.ofList_toList,
    List.nil_append]

/-- A tag is read up to the bracket that closes it. -/
theorem read_tag {tag : Tag} (proper : tag.Proper) :
    readFrom .opened (tag.inner.toList ++ '>' :: rest) =
      readFrom (.text tag.unescaped []) rest := by
  cases tag with
  | declaration text =>
      rw [Tag.inner, String.toList_append]
      change readFrom (.declaration []) (text.toList ++ '>' :: rest) = _
      rw [read_until .declaration '>'
        (fun _ _ _ other => by rw [readFrom, if_neg other]) proper, readFrom, if_pos rfl,
        List.nil_append, String.ofList_toList]
      rfl
  | opening name attributes => exact read_opening proper.1 proper.2
  | closing name =>
      rw [Tag.inner, String.toList_append]
      change readFrom (.closing []) (name.toList ++ '>' :: rest) = _
      rw [read_until .closing '>'
        (fun _ _ _ other => by rw [readFrom, if_neg other]) proper, readFrom, if_pos rfl,
        List.nil_append, String.ofList_toList]
      rfl

theorem written_letters (piece : Piece) (rest : List Char) :
    piece.written.toList ++ rest =
      '<' :: (piece.tag.inner.toList ++ '>' :: (piece.text.toList ++ rest)) := by
  simp [Piece.written]

theorem write_cons (piece : Piece) (pieces : List Piece) :
    (write (piece :: pieces)).toList = piece.written.toList ++ (write pieces).toList := by
  rw [write, List.map_cons, String.join_cons, String.toList_append]
  rfl

/-- Behind a tag its text is read, and then the other tags. -/
theorem read_text {pieces : List Piece} (proper : ∀ piece ∈ pieces, piece.Proper) (tag : Tag)
    {text : String} (whole : '<' ∉ text.toList) :
    readFrom (.text tag []) (text.toList ++ (write pieces).toList) =
      some (⟨tag, unescapeHtml text⟩ :: pieces.map Piece.unescaped) := by
  have own : ∀ rest, readFrom (.text tag []) (text.toList ++ rest) =
      readFrom (.text tag text.toList) rest :=
    fun rest => read_until (.text tag) '<' (fun _ _ _ other => by rw [readFrom, if_neg other]) whole
  rw [own]
  clear own whole
  induction pieces generalizing tag text with
  | nil => simp [write, readFrom]
  | cons piece others induction =>
      obtain ⟨first, later⟩ := List.forall_mem_cons.mp proper
      rw [write_cons, written_letters, readFrom, if_pos rfl, read_tag first.tag,
        read_until (.text piece.tag.unescaped) '<'
          (fun _ _ _ other => by rw [readFrom, if_neg other]) first.text, List.nil_append,
        induction later, String.ofList_toList]
      rfl

/-- A page that was written as some tags is read as these, with their texts and the values of their
attributes as they were before they were escaped. -/
theorem read_page_written {pieces : List Piece} (filled : pieces ≠ [])
    (proper : ∀ piece ∈ pieces, piece.Proper) :
    read (write pieces) = some (pieces.map Piece.unescaped) := by
  obtain ⟨piece, others, rfl⟩ := List.exists_cons_of_ne_nil filled
  obtain ⟨first, later⟩ := List.forall_mem_cons.mp proper
  rw [read, write_cons, written_letters, readFrom, if_pos rfl, read_tag first.tag,
    read_text later _ first.text]
  rfl

end Markup

end ApiCompiler
