import ApiCompiler.Json.Printer
import ApiCompiler.Json.Token
import Mathlib.Data.List.Basic
import Mathlib.Tactic.IntervalCases

/-!
The tokens of JSON text that was written from a value. In either layout the text is read as the
tokens of the value: what is written of a string is read as that string, and a whole number of at
most 64 bits as that number.
-/

set_option autoImplicit false

namespace ApiCompiler.Json

/-! ### Strings -/

theorem hex_value_digit {value : Nat} (small : value < 16) :
    Text.hexValue? (hexDigit value) = some value := by
  interval_cases value <;> decide

theorem read_hex_code {code : Nat} (small : code < 32) (rest : List Char) :
    readHex ('0' :: '0' :: hexDigit (code / 16) :: hexDigit (code % 16) :: rest) =
      .ok (code, rest) := by
  have zero : Text.hexValue? '0' = some 0 := by decide
  simp only [readHex, zero, hex_value_digit (show code / 16 < 16 by omega),
    hex_value_digit (show code % 16 < 16 by omega)]
  congr 2
  omega

/-- How a character is written in a string. -/
inductive EscapeForm (character : Char) : List Char → Prop
  | plain (visible : isControl character = false) (notQuote : character ≠ '"')
      (notBackslash : character ≠ '\\') : EscapeForm character [character]
  | letter {mark : Char} (meant : simpleEscape? mark = some character) :
      EscapeForm character ['\\', mark]
  | code (small : character.toNat < 32) : EscapeForm character
      ['\\', 'u', '0', '0', hexDigit (character.toNat / 16), hexDigit (character.toNat % 16)]

theorem escape_char_form (character : Char) : EscapeForm character (escapeChar character) := by
  unfold escapeChar
  split
  · exact .letter (by decide)
  · exact .letter (by decide)
  · exact .letter (by decide)
  · exact .letter (by decide)
  · exact .letter (by decide)
  · rename_i notQuote notBackslash _ _ _
    split_ifs with backspace feed control
    · apply EscapeForm.letter
      rw [← Char.ofNat_toNat character, backspace]
      decide
    · apply EscapeForm.letter
      rw [← Char.ofNat_toNat character, feed]
      decide
    · exact .code control
    · exact .plain (by simpa [isControl] using control) notQuote notBackslash

theorem EscapeForm.length_pos {character : Char} {written : List Char}
    (form : EscapeForm character written) : 0 < written.length := by
  cases form <;> simp

theorem escaped_length (text : List Char) : text.length ≤ (text.flatMap escapeChar).length := by
  induction text with
  | nil => exact Nat.le_refl 0
  | cons character text induction =>
      have letters := (escape_char_form character).length_pos
      rw [List.flatMap_cons, List.length_append, List.length_cons]
      omega

theorem simple_escape_not_code {mark character : Char} (meant : simpleEscape? mark = some character) :
    mark ≠ 'u' := by
  rintro rfl
  simp [simpleEscape?] at meant

theorem skip_string_escape {character : Char} {written : List Char}
    (form : EscapeForm character written) (rest : List Char) :
    skipString (written ++ rest) = (written ++ (skipString rest).1, (skipString rest).2) := by
  cases form with
  | plain visible notQuote notBackslash =>
      simp [skipString, visible, notBackslash]
  | letter meant =>
      have notCode := simple_escape_not_code meant
      simp [skipString, meant]
  | code small =>
      simp only [List.cons_append, List.nil_append]
      rw [skipString]
      split
      · rename_i after read
        rw [read_hex_code small] at read
        cases read
        rfl
      · rename_i fault read
        rw [read_hex_code small] at read
        cases read

theorem skip_string_quoted (text rest : List Char) :
    skipString (text.flatMap escapeChar ++ '"' :: rest) = (text.flatMap escapeChar, .ok rest) := by
  induction text with
  | nil => simp [skipString]
  | cons character text induction =>
      rw [List.flatMap_cons, List.append_assoc, skip_string_escape (escape_char_form character),
        induction]

theorem read_unicode_escape {code : Nat} (small : code < 32) (rest : List Char) :
    readUnicodeEscape ('0' :: '0' :: hexDigit (code / 16) :: hexDigit (code % 16) :: rest) =
      .ok (Char.ofNat code, rest) := by
  have low : ¬(0xDC00 ≤ code ∧ code ≤ 0xDFFF) := by omega
  have high : ¬(0xD800 ≤ code ∧ code ≤ 0xDBFF) := by omega
  simp only [readUnicodeEscape, read_hex_code small, bind, Except.bind, if_neg low, if_neg high]

theorem read_characters_escape {character : Char} {written : List Char}
    (form : EscapeForm character written) (budget : Nat) (rest : List Char) :
    readCharacters (budget + 1) (written ++ rest) =
      (readCharacters budget rest).map (character :: ·) := by
  cases form with
  | plain visible notQuote notBackslash =>
      simp [readCharacters, visible, notBackslash]
      rfl
  | letter meant =>
      have notCode := simple_escape_not_code meant
      simp [readCharacters, meant]
      rfl
  | code small =>
      simp [readCharacters, read_unicode_escape small, Char.ofNat_toNat]
      rfl

theorem read_characters_quoted {budget : Nat} {text : List Char} (enough : text.length < budget)
    (rest : List Char) :
    readCharacters budget (text.flatMap escapeChar ++ '"' :: rest) = .ok text := by
  induction text generalizing budget with
  | nil =>
      obtain ⟨more, rfl⟩ := Nat.exists_eq_add_one_of_ne_zero (Nat.ne_of_gt enough)
      rfl
  | cons character text induction =>
      rw [List.length_cons] at enough
      obtain ⟨more, rfl⟩ := Nat.exists_eq_add_one_of_ne_zero (show budget ≠ 0 by omega)
      rw [List.flatMap_cons, List.append_assoc,
        read_characters_escape (escape_char_form character), induction (by omega)]
      rfl

/-! ### Whole numbers -/

/-- What stands behind a numeral and is no part of it. -/
def EndsNumeral (rest : List Char) : Prop :=
  ∀ character ∈ rest.head?, character.isDigit = false ∧ character ≠ '.' ∧ isPowerMark character = false

theorem append_digits_number (number significand count : Nat) (rest : List Char)
    (small : significand * 10 ^ (Nat.toDigits 10 number).length + number ≤ wordLimit) :
    appendDigits significand count (Nat.toDigits 10 number ++ rest) =
      appendDigits (significand * 10 ^ (Nat.toDigits 10 number).length + number)
        (count + (Nat.toDigits 10 number).length) rest := by
  induction number using Nat.strong_induction_on generalizing rest with
  | _ number induction =>
      by_cases single : number < 10
      · rw [Nat.toDigits_of_lt_base single] at small ⊢
        have value : (Nat.digitChar number).toNat - '0'.toNat = number := by
          interval_cases number <;> rfl
        simp only [List.length_singleton, pow_one] at small ⊢
        rw [List.singleton_append, appendDigits, value]
        exact if_neg (Nat.not_lt.mpr small)
      · have split : Nat.toDigits 10 number =
            Nat.toDigits 10 (number / 10) ++ [Nat.digitChar (number % 10)] :=
          Nat.toDigits_of_base_le (by decide) (by omega)
        have value : (Nat.digitChar (number % 10)).toNat - '0'.toNat = number % 10 := by
          have last : number % 10 < 10 := Nat.mod_lt number (by decide)
          interval_cases number % 10 <;> rfl
        have next : (significand * 10 ^ (Nat.toDigits 10 (number / 10)).length + number / 10) * 10
            + number % 10 = significand * 10 ^ (Nat.toDigits 10 number).length + number := by
          rw [split, List.length_append, List.length_singleton, pow_succ, Nat.add_mul,
            ← Nat.mul_assoc]
          omega
        have count' : count + (Nat.toDigits 10 number).length =
            count + (Nat.toDigits 10 (number / 10)).length + 1 := by
          rw [split, List.length_append, List.length_singleton, Nat.add_assoc]
        rw [count', ← next, split, List.append_assoc, induction (number / 10) (by omega) _ (by omega),
          List.singleton_append, appendDigits, value]
        exact if_neg (by omega)

theorem digits_of_number {number : Nat} : ∀ digit ∈ Nat.toDigits 10 number, digit.isDigit = true := by
  intro digit listed
  exact Nat.isDigit_of_mem_toDigits (by decide) (by decide) listed

theorem first_digit {number : Nat} (positive : 0 < number) :
    ∃ digit rest, Nat.toDigits 10 number = digit :: rest ∧ digit ≠ '0' := by
  induction number using Nat.strong_induction_on with
  | _ number induction =>
      by_cases single : number < 10
      · refine ⟨Nat.digitChar number, [], Nat.toDigits_of_lt_base single, ?_⟩
        interval_cases number <;> decide
      · obtain ⟨digit, rest, begins, notZero⟩ := induction (number / 10) (by omega) (by omega)
        refine ⟨digit, rest ++ [Nat.digitChar (number % 10)], ?_, notZero⟩
        rw [Nat.toDigits_of_base_le (by decide) (by omega), begins, List.cons_append]

theorem take_while_numeral (number : Nat) {rest : List Char} (ends : EndsNumeral rest) :
    (Nat.toDigits 10 number ++ rest).takeWhile Char.isDigit = Nat.toDigits 10 number ∧
      (Nat.toDigits 10 number ++ rest).dropWhile Char.isDigit = rest := by
  have stop : rest.takeWhile Char.isDigit = [] ∧ rest.dropWhile Char.isDigit = rest := by
    cases rest with
    | nil => exact ⟨rfl, rfl⟩
    | cons character rest =>
        have plain := (ends character rfl).1
        simp [plain]
  rw [List.takeWhile_append_of_pos digits_of_number, List.dropWhile_append_of_pos digits_of_number,
    stop.1, stop.2, List.append_nil]
  exact ⟨rfl, rfl⟩

theorem numeral_begins (number : Nat) :
    ∃ digit later, Nat.toDigits 10 number = digit :: later ∧ digit.isDigit = true := by
  obtain ⟨digit, later, begins⟩ :=
    List.exists_cons_of_ne_nil (Nat.toDigits_ne_nil : Nat.toDigits 10 number ≠ [])
  exact ⟨digit, later, begins, digits_of_number digit (begins ▸ List.mem_cons_self)⟩

theorem read_unsigned_number {number : Nat} {negative : Bool} {value : Number}
    (small : number ≤ wordLimit) (means : wholeNumber negative number = .ok value)
    {rest : List Char} (ends : EndsNumeral rest) :
    readUnsigned negative (Nat.toDigits 10 number ++ rest) = ⟨.ok value, none, rest⟩ := by
  obtain ⟨taken, dropped⟩ := take_while_numeral number ends
  have figures : appendDigits 0 0 (Nat.toDigits 10 number) =
      (number, (Nat.toDigits 10 number).length, []) := by
    have whole := append_digits_number number 0 0 [] (by simpa using small)
    simpa [appendDigits] using whole
  rw [readUnsigned]
  simp only [taken, dropped]
  split
  · rename_i none
    exact absurd none Nat.toDigits_ne_nil
  · -- A zero in front of more digits is a fault, but no numeral is written so.
    rename_i digit others zero
    rcases Nat.eq_zero_or_pos number with rfl | positive
    · cases zero
    · obtain ⟨first, later, begins, notZero⟩ := first_digit positive
      rw [begins] at zero
      cases zero
      exact absurd rfl notZero
  · rw [figures]
    cases rest with
    | nil => simp [means]
    | cons mark tail =>
        obtain ⟨_, notPoint, notPower⟩ := ends mark rfl
        simp [notPoint, notPower, means]

theorem read_whole_number {number : Nat} (small : number ≤ wordLimit) {rest : List Char}
    (ends : EndsNumeral rest) :
    readNumber (Nat.toDigits 10 number ++ rest) = ⟨.ok (.natural number), none, rest⟩ := by
  have unsigned : readUnsigned false (Nat.toDigits 10 number ++ rest) = _ :=
    read_unsigned_number small rfl ends
  obtain ⟨digit, later, begins, isDigit⟩ := numeral_begins number
  rw [begins, List.cons_append] at unsigned ⊢
  rw [readNumber]
  · exact unsigned
  · intro tail same
    obtain ⟨rfl, _⟩ := List.cons.inj same
    cases isDigit

/-- A negative number has at most 63 bits. -/
theorem read_negative_number {magnitude : Nat} (positive : 0 < magnitude)
    (small : magnitude ≤ Nat.pow 2 63) {rest : List Char} (ends : EndsNumeral rest) :
    readNumber ('-' :: (Nat.toDigits 10 magnitude ++ rest)) =
      ⟨.ok (.negative magnitude), none, rest⟩ := by
  apply read_unsigned_number (small.trans (by decide)) _ ends
  simp [wholeNumber, positive, small]

theorem first_token_numeral {character : Char}
    (begins : character = '-' ∨ character.isDigit = true) (text : List Char) :
    firstToken character text =
      ((numberToken (character :: text)).1, (numberToken (character :: text)).2.take text.length) := by
  unfold firstToken
  split
  case h_11 => rw [if_pos begins]
  all_goals exact absurd begins (by decide)

/-! ### One token -/

theorem tokenize_nothing : tokenize [] = [] := by
  rw [tokenize]
  rfl

theorem tokenize_blank {character : Char} (blank : isBlank character = true) (text : List Char) :
    tokenize (character :: text) = tokenize text := by
  have skipped : (character :: text).dropWhile isBlank = text.dropWhile isBlank := by
    simp [blank]
  rw [tokenize, tokenize]
  split
  · rename_i found
    rw [skipped] at found
    split
    · rfl
    · rename_i found'
      rw [found] at found'
      cases found'
  · rename_i found
    rw [skipped] at found
    split
    · rename_i found'
      rw [found] at found'
      cases found'
    · rename_i found'
      rw [found] at found'
      cases found'
      rfl

/-- A token is read from its first character, and what is behind it is read after it. -/
theorem tokenize_token {character : Char} {text rest : List Char} {token : Token}
    (visible : isBlank character = false) (read : firstToken character text = (token, rest))
    (goes : token.ends = false) : tokenize (character :: text) = token :: tokenize rest := by
  have stays : (character :: text).dropWhile isBlank = character :: text := by
    simp [visible]
  rw [tokenize]
  split
  · rename_i found
    rw [stays] at found
    cases found
  · rename_i found
    rw [stays] at found
    cases found
    simp [read, goes]

def textToken (text : String) : Token := .string ⟨text.toList.flatMap escapeChar, .ok text⟩ none

theorem tokenize_quote (text : String) (rest : List Char) :
    tokenize ((quote text).toList ++ rest) = textToken text :: tokenize rest := by
  have shape : (quote text).toList ++ rest =
      '"' :: (text.toList.flatMap escapeChar ++ '"' :: rest) := by
    simp [quote]
  have skipped := skip_string_quoted text.toList rest
  have enough := Nat.lt_succ_of_le (escaped_length text.toList)
  have read : firstToken '"' (text.toList.flatMap escapeChar ++ '"' :: rest) =
      (textToken text, rest) := by
    have meant := read_characters_quoted enough rest
    simp only [firstToken, stringToken, readString, skipped, meant, textToken, Except.map,
      String.ofList_toList]
  rw [shape, tokenize_token rfl read rfl]

theorem numeral_visible {character : Char} (begins : character = '-' ∨ character.isDigit = true) :
    isBlank character = false := by
  simp only [isBlank, Bool.or_eq_false_iff, decide_eq_false_iff_not]
  refine ⟨⟨⟨?_, ?_⟩, ?_⟩, ?_⟩ <;> rintro rfl <;> exact absurd begins (by decide)

theorem tokenize_numeral {first : Char} {later rest : List Char} {value : Number}
    (begins : first = '-' ∨ first.isDigit = true)
    (read : readNumber (first :: (later ++ rest)) = ⟨.ok value, none, rest⟩) :
    tokenize (first :: (later ++ rest)) = .number value :: tokenize rest := by
  have whole : numberToken (first :: (later ++ rest)) = (.number value, rest) := by
    rw [numberToken, read]
  have token : firstToken first (later ++ rest) = (.number value, rest) := by
    rw [first_token_numeral begins, whole, List.take_of_length_le]
    simp
  exact tokenize_token (numeral_visible begins) token rfl

theorem tokenize_whole_number {number : Nat} (small : number ≤ wordLimit) {rest : List Char}
    (ends : EndsNumeral rest) :
    tokenize ((toString number).toList ++ rest) = .number (.natural number) :: tokenize rest := by
  have shape : (toString number).toList = Nat.toDigits 10 number := by
    rw [Nat.toString_eq_repr, Nat.toList_repr]
  have read := read_whole_number small ends
  obtain ⟨digit, later, begins, isDigit⟩ := numeral_begins number
  rw [begins] at read
  rw [shape, begins]
  exact tokenize_numeral (.inr isDigit) read

theorem tokenize_negative_number {magnitude : Nat} (positive : 0 < magnitude)
    (small : magnitude ≤ Nat.pow 2 63) {rest : List Char} (ends : EndsNumeral rest) :
    tokenize (("-" ++ toString magnitude).toList ++ rest) =
      .number (.negative magnitude) :: tokenize rest := by
  have shape : ("-" ++ toString magnitude).toList = '-' :: Nat.toDigits 10 magnitude := by
    rw [String.toList_append, Nat.toString_eq_repr, Nat.toList_repr]
    rfl
  rw [shape]
  exact tokenize_numeral (.inl rfl) (read_negative_number positive small ends)

/-! ### Values -/

/-- The numbers of a value are whole and have at most 64 bits, one of which is for a minus. -/
inductive Value.Plain : Value → Prop
  | null : Plain .null
  | bool (flag : Bool) : Plain (.bool flag)
  | whole {number : Nat} (small : number ≤ wordLimit) : Plain (.ofNat number)
  | negative {magnitude : Nat} (positive : 0 < magnitude) (small : magnitude ≤ Nat.pow 2 63) :
      Plain (.number (.negative magnitude))
  | string (text : String) : Plain (.string text)
  | array {items : List Value} (each : ∀ item ∈ items, Plain item) : Plain (.array items)
  | object {members : List (String × Value)} (each : ∀ member ∈ members, Plain member.2) :
      Plain (.object members)

/-- Rows of tokens with commas between them. -/
def commas : List (List Token) → List Token
  | [] => []
  | [tokens] => tokens
  | tokens :: rest => tokens ++ .comma :: commas rest

mutual

def Value.tokens : Value → List Token
  | .null => [.null]
  | .bool flag => [.bool flag]
  | .number value => [.number value]
  | .string text => [textToken text]
  | .array items => .openList :: (commas (itemTokens items) ++ [.closeList])
  | .object members => .openObject :: (commas (memberTokens members) ++ [.closeObject])

def itemTokens : List Value → List (List Token)
  | [] => []
  | item :: rest => item.tokens :: itemTokens rest

def memberTokens : List (String × Value) → List (List Token)
  | [] => []
  | (key, value) :: rest => (textToken key :: .colon :: value.tokens) :: memberTokens rest

end

theorem item_tokens_eq (items : List Value) : itemTokens items = items.map Value.tokens := by
  induction items with
  | nil => rfl
  | cons item rest induction => rw [itemTokens, induction, List.map_cons]

theorem member_tokens_eq (members : List (String × Value)) :
    memberTokens members = members.map fun member =>
      textToken member.1 :: .colon :: member.2.tokens := by
  induction members with
  | nil => rfl
  | cons member rest induction => rw [memberTokens, induction, List.map_cons]

/-- A text is read as some tokens, whatever stands behind it. -/
def ReadsAs (text : String) (tokens : List Token) : Prop :=
  ∀ rest, EndsNumeral rest → tokenize (text.toList ++ rest) = tokens ++ tokenize rest

/-- The characters that are tokens by themselves. -/
def mark? : Char → Option Token
  | '[' => some .openList
  | ']' => some .closeList
  | '{' => some .openObject
  | '}' => some .closeObject
  | ',' => some .comma
  | ':' => some .colon
  | _ => none

theorem tokenize_mark {mark : Char} {token : Token} (known : mark? mark = some token)
    (rest : List Char) : tokenize (mark :: rest) = token :: tokenize rest := by
  unfold mark? at known
  split at known <;> cases known <;> exact tokenize_token rfl rfl rfl

theorem mark_ends_numeral {mark : Char} {token : Token} (known : mark? mark = some token)
    (rest : List Char) : EndsNumeral (mark :: rest) := by
  intro character first
  cases first
  unfold mark? at known
  split at known <;> cases known <;> decide

theorem reads_as_joined {α : Type} {write : α → String} {tokens : α → List Token} {items : List α}
    (each : ∀ item ∈ items, ReadsAs (write item) (tokens item)) :
    ReadsAs (",".intercalate (items.map write)) (commas (items.map tokens)) := by
  induction items with
  | nil =>
      intro rest ends
      rfl
  | cons item items induction =>
      obtain ⟨first, others⟩ := List.forall_mem_cons.mp each
      cases items with
      | nil =>
          rw [List.map_singleton, String.intercalate_singleton]
          exact first
      | cons next items =>
          intro rest ends
          have behind := induction others rest ends
          simp only [List.map_cons, String.intercalate_cons_cons, String.toList_append, commas,
            List.append_assoc] at behind ⊢
          have comma : ",".toList = [','] := rfl
          rw [comma, List.singleton_append, first _ (mark_ends_numeral rfl _), tokenize_mark rfl,
            behind]
          rfl

theorem ReadsAs.list {text : String} {tokens : List Token} (reads : ReadsAs text tokens) :
    ReadsAs ("[" ++ text ++ "]") (.openList :: (tokens ++ [.closeList])) := by
  intro rest ends
  have shape : ("[" ++ text ++ "]").toList ++ rest = '[' :: (text.toList ++ ']' :: rest) := by
    simp
  rw [shape, tokenize_mark rfl, reads _ (mark_ends_numeral rfl _), tokenize_mark rfl]
  simp

theorem ReadsAs.object {text : String} {tokens : List Token} (reads : ReadsAs text tokens) :
    ReadsAs ("\x7b" ++ text ++ "\x7d") (.openObject :: (tokens ++ [.closeObject])) := by
  intro rest ends
  have shape : ("\x7b" ++ text ++ "\x7d").toList ++ rest =
      '{' :: (text.toList ++ '}' :: rest) := by
    simp
  rw [shape, tokenize_mark rfl, reads _ (mark_ends_numeral rfl _), tokenize_mark rfl]
  simp

/-- A member may have a blank behind its colon. -/
theorem ReadsAs.member {text : String} {tokens : List Token} (reads : ReadsAs text tokens)
    (key : String) : ReadsAs (quote key ++ ":" ++ text) (textToken key :: .colon :: tokens) ∧
      ReadsAs (quote key ++ ": " ++ text) (textToken key :: .colon :: tokens) := by
  constructor
  · intro rest ends
    have shape : (quote key ++ ":" ++ text).toList ++ rest =
        (quote key).toList ++ ':' :: (text.toList ++ rest) := by
      simp
    rw [shape, tokenize_quote, tokenize_mark rfl, reads rest ends]
    rfl
  · intro rest ends
    have shape : (quote key ++ ": " ++ text).toList ++ rest =
        (quote key).toList ++ ':' :: ' ' :: (text.toList ++ rest) := by
      simp
    rw [shape, tokenize_quote, tokenize_mark rfl, tokenize_blank rfl, reads rest ends]
    rfl

theorem tokenize_newline (depth : Nat) (rest : List Char) :
    tokenize ((Value.newline depth).toList ++ rest) = tokenize rest := by
  have shape : (Value.newline depth).toList ++ rest =
      '\n' :: (List.replicate (2 * depth) ' ' ++ rest) := by
    simp [Value.newline]
  rw [shape, tokenize_blank rfl]
  generalize 2 * depth = count
  induction count with
  | zero => rfl
  | succ count induction => rw [List.replicate_succ, List.cons_append, tokenize_blank rfl, induction]

theorem ReadsAs.on_new_line {text : String} {tokens : List Token} (reads : ReadsAs text tokens)
    (depth : Nat) : ReadsAs (Value.newline depth ++ text) tokens := by
  intro rest ends
  rw [String.toList_append, List.append_assoc, tokenize_newline, reads rest ends]

theorem ReadsAs.then_new_line {text : String} {tokens : List Token} (reads : ReadsAs text tokens)
    (depth : Nat) : ReadsAs (text ++ Value.newline depth) tokens := by
  intro rest ends
  have apart : EndsNumeral ((Value.newline depth).toList ++ rest) := by
    intro character first
    have feed : character = '\n' := by
      simpa [Value.newline, eq_comm] using first
    subst feed
    decide
  rw [String.toList_append, List.append_assoc, reads _ apart, tokenize_newline]

/-! ### The two layouts -/

theorem joined_eq {α : Type} {write : α → String} {joined : List α → String}
    (nothing : joined [] = "") (single : ∀ item, joined [item] = write item)
    (several : ∀ item next rest,
      joined (item :: next :: rest) = write item ++ "," ++ joined (next :: rest))
    (items : List α) : joined items = ",".intercalate (items.map write) := by
  induction items with
  | nil => exact nothing
  | cons item rest induction =>
      cases rest with
      | nil => rw [single, List.map_singleton, String.intercalate_singleton]
      | cons next rest =>
          rw [several, induction]
          simp only [List.map_cons, String.intercalate_cons_cons]

theorem words_read : ReadsAs "null" [.null] ∧ ReadsAs "true" [.bool true] ∧
    ReadsAs "false" [.bool false] := by
  have word : ∀ {letter : Char} {text rest : List Char} {token : Token},
      isBlank letter = false → token.ends = false →
        firstToken letter (text ++ rest) = (token, rest) →
          tokenize (letter :: text ++ rest) = [token] ++ tokenize rest :=
    fun visible goes read => tokenize_token visible read goes
  exact ⟨fun rest _ => word rfl rfl rfl, fun rest _ => word rfl rfl rfl,
    fun rest _ => word rfl rfl rfl⟩

namespace Value

theorem Plain.compact_reads {value : Value} (plain : value.Plain) :
    ReadsAs value.compact value.tokens := by
  induction plain with
  | null => exact words_read.1
  | bool flag =>
      cases flag with
      | true => exact words_read.2.1
      | false => exact words_read.2.2
  | whole small => exact fun rest ends => tokenize_whole_number small ends
  | negative positive small => exact fun rest ends => tokenize_negative_number positive small ends
  | string text => exact fun rest _ => tokenize_quote text rest
  | @array items _ induction =>
      have row : compactItems items = ",".intercalate (items.map compact) :=
        joined_eq rfl (fun _ => rfl) (fun _ _ _ => rfl) items
      rw [compact, tokens, item_tokens_eq, row]
      exact (reads_as_joined induction).list
  | @object members _ induction =>
      have row : compactMembers members = ",".intercalate
          (members.map fun member => quote member.1 ++ ":" ++ member.2.compact) :=
        joined_eq rfl (fun _ => rfl) (fun _ _ _ => rfl) members
      rw [compact, tokens, member_tokens_eq, row]
      exact (reads_as_joined fun member listed => ((induction member listed).member _).1).object

theorem Plain.pretty_reads {value : Value} (plain : value.Plain) (depth : Nat) :
    ReadsAs (value.pretty depth) value.tokens := by
  induction plain generalizing depth with
  | null => exact words_read.1
  | bool flag =>
      cases flag with
      | true => exact words_read.2.1
      | false => exact words_read.2.2
  | whole small => exact fun rest ends => tokenize_whole_number small ends
  | negative positive small => exact fun rest ends => tokenize_negative_number positive small ends
  | string text => exact fun rest _ => tokenize_quote text rest
  | @array items each induction =>
      cases items with
      | nil => exact Plain.compact_reads (.array each)
      | cons item rest =>
          have row : prettyItems (depth + 1) (item :: rest) = ",".intercalate
              ((item :: rest).map fun item => newline (depth + 1) ++ item.pretty (depth + 1)) :=
            joined_eq rfl (fun _ => rfl) (fun _ _ _ => rfl) _
          have items := reads_as_joined fun item listed =>
            (induction item listed (depth + 1)).on_new_line (depth + 1)
          rw [pretty, tokens, item_tokens_eq, row]
          simpa only [String.append_assoc] using (items.then_new_line depth).list
  | @object members each induction =>
      cases members with
      | nil => exact Plain.compact_reads (.object each)
      | cons member rest =>
          have row : prettyMembers (depth + 1) (member :: rest) = ",".intercalate
              ((member :: rest).map fun member => newline (depth + 1) ++ quote member.1 ++ ": "
                ++ member.2.pretty (depth + 1)) :=
            joined_eq rfl (fun _ => rfl) (fun _ _ _ => rfl) _
          have members := reads_as_joined fun member listed =>
            ((induction member listed (depth + 1)).member member.1).2.on_new_line (depth + 1)
          rw [pretty, tokens, member_tokens_eq, row]
          simpa only [String.append_assoc] using (members.then_new_line depth).object

end Value

end ApiCompiler.Json
