import ApiCompiler.OpenApi.Build
import ApiCompiler.Proofs.Validation
import Mathlib

/-!
Tags of operations. The tag of a path is its first segment that is not empty, and a brace remains in
it unless that segment is a text without parameters or one parameter alone. So a path that begins
with several slashes is not tagged as one whose first segment is empty.
-/

set_option autoImplicit false

namespace ApiCompiler

namespace PathTemplate

variable {pieces : List Piece} {text : List Char}

/-! ### Pieces of the first segment -/

/-- The pieces between the slashes that a path begins with and the next slash. -/
def firstPieces (pieces : List Piece) : List Piece :=
  (pieces.dropWhile (· = .plain '/')).takeWhile (· ≠ .plain '/')

theorem drop_slashes (pieces : List Piece) : (pieces.flatMap Piece.text).dropWhile (· = '/') =
    (pieces.dropWhile (· = .plain '/')).flatMap Piece.text := by
  induction pieces with
  | nil => rfl
  | cons piece rest induction =>
      cases piece with
      | plain character =>
          by_cases slash : character = '/'
          · simpa [Piece.text, slash] using induction
          · simp [Piece.text, slash]
      | parameter name => simp [Piece.text]

/-- No name goes over a slash. -/
theorem take_segment (valid : ∀ piece ∈ pieces, piece.Valid) :
    (pieces.flatMap Piece.text).takeWhile (· ≠ '/') =
      (pieces.takeWhile (· ≠ .plain '/')).flatMap Piece.text := by
  induction pieces with
  | nil => rfl
  | cons piece rest induction =>
      obtain ⟨first, others⟩ := List.forall_mem_cons.mp valid
      cases piece with
      | plain character =>
          by_cases slash : character = '/'
          · simp [Piece.text, slash]
          · simpa [Piece.text, slash] using induction others
      | parameter name =>
          have inside : ∀ character ∈ (Piece.parameter name).text, decide (character ≠ '/') := by
            intro character listed
            rw [Piece.text, List.mem_cons, List.mem_append, List.mem_singleton] at listed
            rcases listed with rfl | nameChar | rfl
            · decide
            · simpa using (name_char_ne (first.2 character nameChar)).2.2
            · decide
          rw [List.flatMap_cons, List.takeWhile_append_of_pos inside, induction others]
          simp

theorem Spells.first_segment (spells : Spells pieces text) :
    Spells (firstPieces pieces) (OpenApi.firstSegment text) := by
  obtain ⟨valid, rfl⟩ := spells
  have onward : ∀ piece ∈ pieces.dropWhile (· = .plain '/'), piece.Valid :=
    fun piece listed => valid piece ((List.dropWhile_sublist _).subset listed)
  refine ⟨fun piece listed => onward piece ((List.takeWhile_sublist _).subset listed), ?_⟩
  rw [OpenApi.firstSegment, drop_slashes, take_segment onward, firstPieces]

/-! ### Braces -/

theorem text_ne_nil (some : pieces ≠ []) : pieces.flatMap Piece.text ≠ [] := by
  obtain ⟨piece, rest, rfl⟩ := List.exists_cons_of_ne_nil some
  cases piece <;> simp [Piece.text]

theorem plain_brace_free (spells : Spells pieces text) (plain : names pieces = []) :
    '{' ∉ text ∧ '}' ∉ text := by
  obtain ⟨valid, rfl⟩ := spells
  have each : ∀ character ∈ pieces.flatMap Piece.text, character ≠ '{' ∧ character ≠ '}' := by
    intro character listed
    obtain ⟨piece, member, inside⟩ := List.mem_flatMap.mp listed
    cases piece with
    | plain other =>
        rw [List.mem_singleton.mp inside]
        exact valid _ member
    | parameter name =>
        have unnamed : some name = none := List.filterMap_eq_nil_iff.mp plain _ member
        cases unnamed
  exact ⟨fun opening => (each _ opening).1 rfl, fun closing => (each _ closing).2 rfl⟩

theorem opening_of_names (spells : Spells pieces text) (named : names pieces ≠ []) :
    '{' ∈ text := by
  obtain ⟨name, listed⟩ := List.exists_mem_of_ne_nil _ named
  obtain ⟨piece, member, same⟩ := List.mem_filterMap.mp listed
  rw [spells.2]
  cases piece with
  | plain character => cases same
  | parameter other => exact List.mem_flatMap.mpr ⟨_, member, List.mem_cons_self⟩

end PathTemplate

namespace OpenApi

open PathTemplate (Piece Spells names firstPieces)

variable {pieces : List Piece} {text path : List Char}

/-- A pair of braces around a whole text goes, and otherwise nothing does. -/
theorem without_braces_cases (text : List Char) :
    (∃ inner, text = '{' :: (inner ++ ['}']) ∧ withoutBraces text = inner) ∨
      (∀ inner, text ≠ '{' :: (inner ++ ['}'])) ∧ withoutBraces text = text := by
  unfold withoutBraces
  split
  · rename_i inner
    split_ifs with closed
    · obtain ⟨front, rfl⟩ := List.getLast?_eq_some_iff.mp closed
      exact .inl ⟨front, rfl, List.dropLast_concat⟩
    · refine .inr ⟨?_, rfl⟩
      intro front same
      rw [(List.cons.inj same).2] at closed
      exact closed List.getLast?_concat
  · rename_i unopened
    exact .inr ⟨fun inner => unopened _, rfl⟩

theorem without_braces_parameter {name : List Char} :
    withoutBraces (Piece.parameter name).text = name := by
  rcases without_braces_cases (Piece.parameter name).text with ⟨inner, same, bare⟩ | ⟨unlike, _⟩
  · rw [bare]
    exact (List.append_cancel_right (List.cons.inj same).2).symm
  · exact absurd rfl (unlike name)

/-- A brace remains where something follows a parameter. -/
theorem brace_behind_parameter (name : List Char) {rest : List Char} (some : rest ≠ []) :
    '{' ∈ withoutBraces ((Piece.parameter name).text ++ rest) ∨
      '}' ∈ withoutBraces ((Piece.parameter name).text ++ rest) := by
  rcases without_braces_cases ((Piece.parameter name).text ++ rest) with
    ⟨inner, same, bare⟩ | ⟨_, whole⟩
  · obtain ⟨front, last, rfl⟩ := List.eq_nil_or_concat rest |>.resolve_left some
    have inside : name ++ '}' :: front ++ [last] = inner ++ ['}'] := by
      simpa [Piece.text, List.concat_eq_append] using (List.cons.inj same).2
    rw [bare, ← (List.append_inj' inside rfl).1]
    exact .inr (by simp)
  · rw [whole]
    exact .inl List.mem_cons_self

theorem without_braces_unopened {first : Char} {rest : List Char} (unopened : first ≠ '{') :
    withoutBraces (first :: rest) = first :: rest := by
  rcases without_braces_cases (first :: rest) with ⟨inner, same, _⟩ | ⟨_, whole⟩
  · exact absurd (List.cons.inj same).1 unopened
  · exact whole

theorem brace_remains (spells : Spells pieces text) (named : names pieces ≠ [])
    (more : ∀ name, pieces ≠ [.parameter name]) :
    '{' ∈ withoutBraces text ∨ '}' ∈ withoutBraces text := by
  have opening := PathTemplate.opening_of_names spells named
  obtain ⟨valid, rfl⟩ := spells
  match pieces with
  | [] => exact absurd rfl named
  | .plain character :: rest =>
      have unopened : character ≠ '{' := (valid _ List.mem_cons_self).1
      rw [List.flatMap_cons, Piece.text, List.singleton_append] at opening ⊢
      rw [without_braces_unopened unopened]
      exact .inl opening
  | .parameter name :: rest =>
      have behind : rest ≠ [] := fun alone => more name (by rw [alone])
      rw [List.flatMap_cons]
      exact brace_behind_parameter name (PathTemplate.text_ne_nil behind)

theorem plain_without_braces (spells : Spells pieces text) (plain : names pieces = []) :
    '{' ∉ withoutBraces text ∧ '}' ∉ withoutBraces text := by
  have free := PathTemplate.plain_brace_free spells plain
  rcases without_braces_cases text with ⟨inner, rfl, _⟩ | ⟨_, whole⟩
  · exact absurd List.mem_cons_self free.1
  · rwa [whole]

theorem parameter_without_braces {name : List Char} (spells : Spells [.parameter name] text) :
    '{' ∉ withoutBraces text ∧ '}' ∉ withoutBraces text := by
  obtain ⟨valid, rfl⟩ := spells
  have named := (List.forall_mem_singleton.mp valid).2
  rw [List.flatMap_singleton, without_braces_parameter]
  constructor
  · exact fun opening => (PathTemplate.name_char_ne (named _ opening)).1 rfl
  · exact fun closing => (PathTemplate.name_char_ne (named _ closing)).2.1 rfl

/-- No brace remains of a text without parameters, nor of one parameter. -/
theorem without_braces_free_iff (spells : Spells pieces text) :
    ('{' ∉ withoutBraces text ∧ '}' ∉ withoutBraces text) ↔
      names pieces = [] ∨ ∃ name, pieces = [.parameter name] := by
  constructor
  · rintro ⟨noOpening, noClosing⟩
    by_contra more
    obtain ⟨named, more⟩ := not_or.mp more
    rcases brace_remains spells named (not_exists.mp more) with opening | closing
    · exact noOpening opening
    · exact noClosing closing
  · rintro (plain | ⟨name, rfl⟩)
    · exact plain_without_braces spells plain
    · exact parameter_without_braces spells

/-! ### Tags -/

/-- The text between the slash that a path begins with and the next one. -/
def leadingSegment (path : List Char) : List Char := (path.drop 1).takeWhile (· ≠ '/')

def IsBraceFree (text : String) : Prop := '{' ∉ text.toList ∧ '}' ∉ text.toList

theorem first_segment_leading {rest : List Char} (other : leadingSegment ('/' :: rest) ≠ []) :
    firstSegment ('/' :: rest) = leadingSegment ('/' :: rest) := by
  unfold firstSegment leadingSegment at *
  cases rest with
  | nil => exact absurd rfl other
  | cons character rest =>
      have noSlash : character ≠ '/' := by
        rintro rfl
        exact other rfl
      simp [noSlash]

theorem tag_letters (path : String) : (tagFor path).toList =
    if withoutBraces (firstSegment path.toList) = [] then "default".toList
    else withoutBraces (firstSegment path.toList) := by
  unfold tagFor
  split
  · rename_i bare
    rw [if_pos bare]
  · rename_i named
    rw [if_neg named, String.toList_ofList]

theorem tag_unbroken (path : String) : '/' ∉ (tagFor path).toList := by
  have segment : '/' ∉ firstSegment path.toList := by
    intro slash
    simpa using List.mem_takeWhile_imp slash
  rw [tag_letters]
  split_ifs with bare
  · decide
  · intro slash
    rcases without_braces_cases (firstSegment path.toList) with ⟨inner, same, within⟩ | ⟨_, whole⟩
    · rw [within] at slash
      exact segment (same ▸ by simp [slash])
    · exact segment (whole ▸ slash)

theorem tag_ne_empty (path : String) : tagFor path ≠ "" := by
  intro empty
  have letters := tag_letters path
  rw [empty] at letters
  split_ifs at letters with bare
  · cases letters
  · exact bare letters.symm

theorem tag_brace_free_iff {path : String} (spells : Spells pieces path.toList) :
    IsBraceFree (tagFor path) ↔
      names (firstPieces pieces) = [] ∨ ∃ name, firstPieces pieces = [.parameter name] := by
  rw [← without_braces_free_iff spells.first_segment, IsBraceFree, tag_letters]
  split_ifs with bare
  · rw [bare]
    exact iff_of_true (by decide) (by simp)
  · rfl

theorem text_of_without_braces {word : List Char} (bare : withoutBraces text = word) :
    text = word ∨ text = '{' :: (word ++ ['}']) := by
  rcases without_braces_cases text with ⟨inner, same, within⟩ | ⟨_, whole⟩
  · rw [← bare, within]
    exact .inr same
  · exact .inl (whole.symm.trans bare)

theorem tag_default_iff {path : String} (spells : Spells pieces path.toList) :
    tagFor path = "default" ↔ firstSegment path.toList ∈
      [[], "default".toList, "\x7bdefault\x7d".toList] := by
  have letters := tag_letters path
  constructor
  · intro tagged
    rw [tagged] at letters
    split_ifs at letters with bare
    · rcases text_of_without_braces bare with empty | unnamed
      · simp [empty]
      · -- Braces around no name are not a piece of an accepted path.
        have checked := PathTemplate.check_of_spells spells.first_segment
        rw [unnamed] at checked
        cases checked
    · rcases text_of_without_braces letters.symm with same | same <;> simp [same]
  · intro listed
    apply String.toList_injective
    rw [letters]
    simp only [List.mem_cons, List.not_mem_nil, or_false] at listed
    rcases listed with same | same | same <;> rw [same] <;> decide

/-- What is tagged is the leading segment, unless that is empty and slashes follow. -/
theorem empty_default_iff {path : String} (rooted : ∃ rest, path.toList = '/' :: rest)
    (spells : Spells pieces path.toList) :
    (leadingSegment path.toList = [] → tagFor path = "default") ↔
      firstSegment path.toList = leadingSegment path.toList ∨
        firstSegment path.toList ∈ ["default".toList, "\x7bdefault\x7d".toList] := by
  obtain ⟨rest, begins⟩ := rooted
  by_cases empty : leadingSegment path.toList = []
  · rw [empty, tag_default_iff spells, List.mem_cons]
    simp
  · rw [begins] at empty ⊢
    exact iff_of_true (fun absent => absurd absent empty) (.inl (first_segment_leading empty))

end OpenApi

namespace Manifest

open PathTemplate (Spells names firstPieces)
open OpenApi (tagFor firstSegment leadingSegment IsBraceFree)

variable {manifest : Manifest}

/-- The tag of an accepted path is a text in one segment. It has no braces just when the segment has
no parameter or is one. Where the first segment is empty, it is the default just when the segment
behind all slashes in front is empty as well, or is this very word. -/
theorem tags_clean_iff (validated : manifest.validate = .ok ()) {endpoint : Endpoint}
    (listed : endpoint ∈ manifest.endpoints) :
    tagFor endpoint.path ≠ "" ∧ '/' ∉ (tagFor endpoint.path).toList ∧
    (∃ pieces, Spells pieces endpoint.path.toList ∧
      (IsBraceFree (tagFor endpoint.path) ↔
        names (firstPieces pieces) = [] ∨ ∃ name, firstPieces pieces = [.parameter name])) ∧
    ((leadingSegment endpoint.path.toList = [] → tagFor endpoint.path = "default") ↔
      firstSegment endpoint.path.toList = leadingSegment endpoint.path.toList ∨
        firstSegment endpoint.path.toList ∈
          ["default".toList, "\x7bdefault\x7d".toList]) := by
  have wellFormed := (well_formed_of_validate validated).endpoints endpoint listed
  obtain ⟨pieces, spells, _⟩ := wellFormed.template
  exact ⟨OpenApi.tag_ne_empty _, OpenApi.tag_unbroken _,
    ⟨pieces, spells, OpenApi.tag_brace_free_iff spells⟩,
    OpenApi.empty_default_iff wellFormed.rooted spells⟩

def behindSlashes : Endpoint :=
  ⟨.get, "//pets", ⟨"crate::pets", "list"⟩, .noReqNoResp, none, none, none, []⟩

def ownersPet : Endpoint :=
  ⟨.get, "/\x7bowner\x7d\x7bpet\x7d", ⟨"crate::pets", "find"⟩, .reqNoResp, some "Key", none,
    some ⟨false, [⟨"Owner", "owner", "int64", false, false, none⟩,
      ⟨"Pet", "pet", "int64", false, false, none⟩], [], []⟩, []⟩

/-- One path has two slashes in front, and one has two parameters in its first segment. -/
def looseSegments : Manifest := { empty with
  endpoints := [behindSlashes, ownersPet]
  types := .singleton "Key" ⟨"", .struct, [⟨"Owner", "", "int64", true, none⟩,
    ⟨"Pet", "", "int64", true, none⟩], none, none⟩ }

theorem loose_segments_valid : looseSegments.validate = .ok () := by cbv

theorem owners_pet_tag : looseSegments.validate = .ok () ∧ ownersPet ∈ looseSegments.endpoints ∧
    tagFor ownersPet.path ≠ "" ∧ '/' ∉ (tagFor ownersPet.path).toList ∧
    (∃ pieces, Spells pieces ownersPet.path.toList ∧
      (IsBraceFree (tagFor ownersPet.path) ↔
        names (firstPieces pieces) = [] ∨ ∃ name, firstPieces pieces = [.parameter name])) ∧
    ((leadingSegment ownersPet.path.toList = [] → tagFor ownersPet.path = "default") ↔
      firstSegment ownersPet.path.toList = leadingSegment ownersPet.path.toList ∨
        firstSegment ownersPet.path.toList ∈
          ["default".toList, "\x7bdefault\x7d".toList]) :=
  have listed : ownersPet ∈ looseSegments.endpoints := List.mem_cons_of_mem _ List.mem_cons_self
  ⟨loose_segments_valid, listed, tags_clean_iff loose_segments_valid listed⟩

/-- The tag of one path has braces, and the other begins with an empty segment and has the tag
`pets`. -/
theorem tags_not_always_clean :
    (¬∀ manifest : Manifest, manifest.validate = .ok () → ∀ endpoint ∈ manifest.endpoints,
      IsBraceFree (tagFor endpoint.path)) ∧
    ¬∀ manifest : Manifest, manifest.validate = .ok () → ∀ endpoint ∈ manifest.endpoints,
      leadingSegment endpoint.path.toList = [] → tagFor endpoint.path = "default" := by
  constructor
  · intro clean
    have free := clean looseSegments loose_segments_valid ownersPet
      (List.mem_cons_of_mem _ List.mem_cons_self)
    exact absurd free.1 (by decide)
  · intro clean
    have tag := clean looseSegments loose_segments_valid behindSlashes List.mem_cons_self rfl
    exact absurd tag (by decide)

end Manifest

end ApiCompiler
