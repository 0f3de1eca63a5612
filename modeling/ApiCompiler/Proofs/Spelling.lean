import ApiCompiler.Text.Identifier
import Mathlib.Data.List.DropRight

/-!
Names of ASCII letters, digits and underscores. Whatever a text holds, reducing it to an identifier
gives a name that begins with a letter.
-/

set_option autoImplicit false

namespace ApiCompiler.Text

/-- A text begins with a character of one class and goes on with characters of another. -/
def Spelled (first rest : Char → Bool) (text : String) : Prop :=
  ∃ head tail, text.toList = head :: tail ∧ first head = true ∧
    ∀ character ∈ tail, rest character = true

/-- The characters of a name in snake case. -/
def isSnakeChar (character : Char) : Bool :=
  character.isLower || character.isDigit || character = '_'

/-- The names `[A-Za-z][A-Za-z0-9_]*`. -/
def IsPlainName (name : String) : Prop := Spelled Char.isAlpha isIdentifierChar name

/-- The names `[a-z][a-z0-9_]*`. -/
def IsSnakeName (name : String) : Prop := Spelled Char.isLower isSnakeChar name

/-- The names `[a-z][A-Za-z0-9]*`. -/
def IsCamelName (name : String) : Prop := Spelled Char.isLower Char.isAlphanum name

variable {first rest : Char → Bool} {character : Char} {text more fallback : String}

def spells (first rest : Char → Bool) : List Char → Bool
  | [] => false
  | head :: tail => first head && tail.all rest

theorem spells_iff : spells first rest text.toList = true ↔ Spelled first rest text := by
  unfold Spelled
  cases text.toList <;> simp [spells]

instance : Decidable (Spelled first rest text) := decidable_of_iff _ spells_iff

instance : DecidablePred IsPlainName := fun _ => inferInstanceAs (Decidable (Spelled _ _ _))

instance : DecidablePred IsSnakeName := fun _ => inferInstanceAs (Decidable (Spelled _ _ _))

instance : DecidablePred IsCamelName := fun _ => inferInstanceAs (Decidable (Spelled _ _ _))

theorem Spelled.mono {first' rest' : Char → Bool}
    (begins : ∀ character, first character = true → first' character = true)
    (continues : ∀ character, rest character = true → rest' character = true)
    (spelled : Spelled first rest text) : Spelled first' rest' text := by
  obtain ⟨head, tail, letters, isFirst, others⟩ := spelled
  exact ⟨head, tail, letters, begins head isFirst,
    fun character listed => continues character (others character listed)⟩

theorem Spelled.append (spelled : Spelled first rest text)
    (continues : ∀ character ∈ more.toList, rest character = true) :
    Spelled first rest (text ++ more) := by
  obtain ⟨head, tail, letters, isFirst, others⟩ := spelled
  refine ⟨head, tail ++ more.toList, by simp [letters], isFirst, ?_⟩
  exact List.forall_mem_append.mpr ⟨others, continues⟩

theorem lower_is_alpha (small : character.isLower = true) : character.isAlpha = true :=
  (Bool.or_eq_true _ _).mpr (.inr small)

theorem IsCamelName.plain (camel : IsCamelName text) : IsPlainName text :=
  camel.mono (fun _ => lower_is_alpha) fun character known => by simp [isIdentifierChar, known]

/-! ### Reducing a text to an identifier -/

theorem mem_replace_runs {inRun : Bool} {letters : List Char}
    (listed : character ∈ replaceRuns inRun letters) :
    character = '_' ∨ character ∈ letters ∧ isIdentifierChar character = true := by
  induction letters generalizing inRun with
  | nil => cases listed
  | cons letter letters induction =>
      have later : ∀ {inRun}, character ∈ replaceRuns inRun letters →
          character = '_' ∨ character ∈ letter :: letters ∧ isIdentifierChar character = true :=
        fun listed => (induction listed).imp_right fun ⟨known, kept⟩ =>
          ⟨List.mem_cons_of_mem _ known, kept⟩
      rw [replaceRuns] at listed
      split_ifs at listed with kept run
      · rcases List.mem_cons.mp listed with rfl | behind
        · exact .inr ⟨List.mem_cons_self, kept⟩
        · exact later behind
      · exact later listed
      · rcases List.mem_cons.mp listed with rfl | behind
        · exact .inl rfl
        · exact later behind

theorem trimmed_begins {letters tail : List Char} {head : Char}
    (trimmed : trimUnderscores letters = head :: tail) :
    head ≠ '_' ∧ ∀ character ∈ head :: tail, character ∈ letters := by
  have front : head :: tail <+: letters.dropWhile (· = '_') := by
    rw [← trimmed]
    exact List.rdropWhile_prefix _ _
  constructor
  · obtain ⟨behind, shape⟩ := front
    have kept := List.head?_dropWhile_not (· = '_') letters
    rw [← shape] at kept
    simpa using kept
  · intro character listed
    exact (List.dropWhile_sublist _).subset (front.subset listed)

/-- What is left of a text begins with a letter, or the fallback does so in its place. -/
theorem sanitize_spelled (stands : Spelled first rest fallback) (underscore : rest '_' = true)
    (kept : ∀ character ∈ text.toList, isIdentifierChar character = true → rest character = true)
    (begins : ∀ character, rest character = true → character ≠ '_' → character.isDigit = false →
      first character = true) : Spelled first rest (sanitizeIdentifier text fallback) := by
  unfold sanitizeIdentifier
  split
  · exact stands
  · rename_i head tail trimmed
    obtain ⟨named, known⟩ := trimmed_begins trimmed
    have continues : ∀ character ∈ head :: tail, rest character = true := by
      intro character listed
      rcases mem_replace_runs (known character listed) with rfl | ⟨member, isKept⟩
      · exact underscore
      · exact kept character member isKept
    split_ifs with digit
    · exact stands.append (by simpa using continues)
    · obtain ⟨own, others⟩ := List.forall_mem_cons.mp continues
      exact ⟨head, tail, by simp, begins head own named (by simpa using digit), others⟩

theorem sanitize_plain (stands : IsPlainName fallback) :
    IsPlainName (sanitizeIdentifier text fallback) := by
  apply sanitize_spelled stands (by decide) fun _ _ kept => kept
  intro character kept named digit
  simpa [isIdentifierChar, Char.isAlphanum, named, digit] using kept

end ApiCompiler.Text
