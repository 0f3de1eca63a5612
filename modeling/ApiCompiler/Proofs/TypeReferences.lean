import ApiCompiler.Proofs.Lookup
import ApiCompiler.Validation.TypeGraph
import Mathlib.Data.List.Nodup
import Mathlib.Data.List.Perm.Subperm
import Mathlib.Logic.Relation

/-!
References between type-ids, said without a search. A type-id is grounded when everything it
reaches resolves and nothing it reaches leads back to itself. Only the ids that a manifest mentions
can be reached, with leading brackets taken off any number of times, so below a grounded id every
chain of references is shorter than the bound that the searches work with.
-/

set_option autoImplicit false

namespace ApiCompiler.Manifest

open Relation (ReflTransGen TransGen)

/-- One type-id refers to another one: as a struct to the types of its fields, as a named slice to
its element, or as a slice written with brackets to what stands behind them. -/
inductive Refers (manifest : Manifest) : String → String → Prop
  | field {id : String} {entry : TypeEntry} {field : Field}
      (found : manifest.types.get? id = some entry) (form : entry.form = .struct)
      (member : field ∈ entry.fields) : Refers manifest id field.typeId
  | elem {id elem : String} {entry : TypeEntry}
      (found : manifest.types.get? id = some entry) (form : entry.form = .slice)
      (element : entry.elem = some elem) : Refers manifest id elem
  | brackets {id elem : String} (unknown : manifest.types.get? id = none)
      (noKind : Kind.ofName? id = none) (element : sliceElement? id = some elem) :
      Refers manifest id elem

def Resolves (manifest : Manifest) (id : String) : Prop :=
  ∃ target, manifest.resolve id = .ok target

def Reaches (manifest : Manifest) : String → String → Prop := ReflTransGen manifest.Refers

def Grounded (manifest : Manifest) (start : String) : Prop :=
  ∀ id, manifest.Reaches start id → manifest.Resolves id ∧ ¬TransGen manifest.Refers id id

variable {manifest : Manifest} {id next : String}

theorem references_iff_refers {target : TypeRef} (resolved : manifest.resolve id = .ok target) :
    next ∈ target.references ↔ manifest.Refers id next := by
  unfold resolve at resolved
  split at resolved
  · rename_i entry found
    split at resolved
    · rename_i form
      cases resolved
      constructor
      · intro member
        obtain ⟨field, listed, rfl⟩ := List.mem_map.mp member
        exact .field found form listed
      · intro refers
        cases refers with
        | field found' _ listed =>
            rw [found] at found'
            cases found'
            exact List.mem_map_of_mem listed
        | elem found' form' => simp_all
        | brackets unknown => simp_all
    · rename_i form
      split at resolved
      · rename_i elem element
        cases resolved
        constructor
        · intro member
          rw [List.mem_singleton.mp member]
          exact .elem found form element
        · intro refers
          cases refers with
          | field found' form' => simp_all
          | elem found' _ element' => simp_all [TypeRef.references]
          | brackets unknown => simp_all
      · cases resolved
  · rename_i unknown
    split at resolved
    · rename_i kind named
      cases resolved
      constructor
      · intro member
        cases member
      · intro refers
        cases refers <;> simp_all
    · rename_i noKind
      split at resolved
      · rename_i elem element
        cases resolved
        constructor
        · intro member
          rw [List.mem_singleton.mp member]
          exact .brackets unknown noKind element
        · intro refers
          cases refers <;> simp_all [TypeRef.references]
      · cases resolved

theorem resolve_struct_iff {name : String} {entry : TypeEntry} :
    manifest.resolve id = .ok (.struct name entry) ↔
      name = id ∧ manifest.types.get? id = some entry ∧ entry.form = .struct := by
  unfold resolve
  split
  · rename_i stored found
    rw [found]
    split <;> rename_i form
    · simp only [Except.ok.injEq, TypeRef.struct.injEq, Option.some.injEq]
      constructor
      · intro parts
        rcases parts with ⟨rfl, rfl⟩
        exact ⟨rfl, rfl, form⟩
      · intro parts
        rcases parts with ⟨rfl, rfl, _⟩
        exact ⟨rfl, rfl⟩
    · have noStruct : ¬(name = id ∧ some stored = some entry ∧ entry.form = .struct) := by
        intro parts
        rcases parts with ⟨_, same, isStruct⟩
        rw [← Option.some.inj same, form] at isStruct
        cases isStruct
      simp only [noStruct, iff_false]
      split <;> simp
  · rename_i unknown
    rw [unknown]
    simp only [reduceCtorEq, false_and, and_false, iff_false]
    split
    · simp
    · split <;> simp

theorem resolve_error_cases {fault : ManifestFault} (refused : manifest.resolve id = .error fault) :
    fault = .danglingType id ∨ fault = .sliceWithoutElem id := by
  unfold resolve at refused
  split at refused <;> split at refused
  · cases refused
  · split at refused <;> cases refused
    exact .inr rfl
  · cases refused
  · split at refused <;> cases refused
    exact .inl rfl

namespace Grounded

theorem resolves (grounded : manifest.Grounded id) : manifest.Resolves id :=
  (grounded id .refl).1

theorem acyclic (grounded : manifest.Grounded id) : ¬TransGen manifest.Refers id id :=
  (grounded id .refl).2

theorem reference (grounded : manifest.Grounded id) (refers : manifest.Refers id next) :
    manifest.Grounded next := fun later reaches => grounded later (.head refers reaches)

end Grounded

theorem grounded_of_references (resolves : manifest.Resolves id)
    (references : ∀ next, manifest.Refers id next → manifest.Grounded next) :
    manifest.Grounded id := by
  intro later reaches
  rcases ReflTransGen.cases_head reaches with same | ⟨next, refers, onward⟩
  · subst same
    refine ⟨resolves, ?_⟩
    intro cycle
    obtain ⟨next, refers, back⟩ := TransGen.head'_iff.mp cycle
    exact (references next refers id back).2 cycle
  · exact references next refers later onward

/-! ### How many ids can be reached -/

/-- A text with leading brackets taken off any number of times. -/
def unwrappings : List Char → List (List Char)
  | '[' :: ']' :: rest => ('[' :: ']' :: rest) :: unwrappings rest
  | text => [text]

theorem unwrappings_length (text : List Char) : (unwrappings text).length ≤ text.length + 1 := by
  fun_induction unwrappings text with
  | case1 rest induction => simp only [List.length_cons]; omega
  | case2 text => simp

theorem unwrappings_self (text : List Char) : text ∈ unwrappings text := by
  unfold unwrappings
  split <;> simp

theorem unwrappings_closed {text elem : List Char}
    (member : '[' :: ']' :: elem ∈ unwrappings text) : elem ∈ unwrappings text := by
  fun_induction unwrappings text with
  | case1 rest induction =>
      rcases List.mem_cons.mp member with same | later
      · cases same
        exact List.mem_cons_of_mem _ (unwrappings_self elem)
      · exact List.mem_cons_of_mem _ (induction later)
  | case2 text notWrapped =>
      rw [List.mem_singleton] at member
      exact absurd member.symm (notWrapped elem)

/-- The ids that can be reached from a start. -/
def candidates (manifest : Manifest) (start : String) : List String :=
  (start :: manifest.mentionedIds).flatMap fun id => (unwrappings id.toList).map String.ofList

theorem mem_candidates_of_mentioned {start : String}
    (mentioned : id ∈ start :: manifest.mentionedIds) : id ∈ manifest.candidates start :=
  List.mem_flatMap.mpr ⟨id, mentioned, List.mem_map.mpr
    ⟨id.toList, unwrappings_self id.toList, String.ofList_toList⟩⟩

theorem candidates_length (start : String) :
    (manifest.candidates start).length ≤ manifest.reachBound start := by
  unfold candidates reachBound
  induction start :: manifest.mentionedIds with
  | nil => simp
  | cons id rest induction =>
      have first := unwrappings_length id.toList
      simp only [List.flatMap_cons, List.length_append, List.length_map, List.map_cons,
        List.foldr_cons]
      rw [String.length_toList] at first
      omega

theorem mentioned_of_entry {key : String} {entry : TypeEntry}
    (found : manifest.types.get? key = some entry)
    (part : id ∈ entry.elem.toList ++ entry.fields.map (·.typeId)) : id ∈ manifest.mentionedIds :=
  List.mem_flatMap.mpr ⟨(key, entry), SortedMap.mem_entries_iff.mpr found,
    List.mem_cons_of_mem key part⟩

theorem sliceElement_toList {elem : String} (element : sliceElement? id = some elem) :
    id.toList = '[' :: ']' :: elem.toList := by
  unfold sliceElement? at element
  split at element
  · rename_i rest text
    cases element
    rw [text, String.toList_ofList]
  · cases element

theorem sliceElement_shorter {elem : String} (element : sliceElement? id = some elem) :
    elem.length < id.length := by
  have wrapped := congrArg List.length (sliceElement_toList element)
  simp only [List.length_cons, String.length_toList] at wrapped
  omega

theorem candidates_closed {start : String} (member : id ∈ manifest.candidates start)
    (refers : manifest.Refers id next) : next ∈ manifest.candidates start := by
  cases refers with
  | field found form listed =>
      apply mem_candidates_of_mentioned
      refine List.mem_cons_of_mem _ (mentioned_of_entry found ?_)
      exact List.mem_append_right _ (List.mem_map_of_mem listed)
  | elem found form element =>
      apply mem_candidates_of_mentioned
      refine List.mem_cons_of_mem _ (mentioned_of_entry found ?_)
      exact List.mem_append_left _ (by simp [element])
  | brackets unknown noKind element =>
      obtain ⟨origin, mentioned, listed⟩ := List.mem_flatMap.mp member
      obtain ⟨text, unwrapped, rfl⟩ := List.mem_map.mp listed
      have wrapped := sliceElement_toList element
      rw [String.toList_ofList] at wrapped
      rw [wrapped] at unwrapped
      exact List.mem_flatMap.mpr ⟨origin, mentioned, List.mem_map.mpr
        ⟨next.toList, unwrappings_closed unwrapped, String.ofList_toList⟩⟩

/-- Everything resolves on the way from an id, and no chain of references from it has more ids than
the depth says. -/
def Within (manifest : Manifest) : (depth : Nat) → String → Prop
  | 0, _ => False
  | depth + 1, id =>
      manifest.Resolves id ∧ ∀ next, manifest.Refers id next → manifest.Within depth next

theorem Within.mono {depth deeper : Nat} (le : depth ≤ deeper) (within : manifest.Within depth id) :
    manifest.Within deeper id := by
  induction depth generalizing deeper id with
  | zero => exact within.elim
  | succ depth induction =>
      obtain ⟨deeper, rfl⟩ := Nat.exists_eq_add_one_of_ne_zero (by omega : deeper ≠ 0)
      exact ⟨within.1, fun next refers => induction (by omega) (within.2 next refers)⟩

/-- The path holds the ids before the last one of a chain. No id comes twice, so the path cannot
outgrow the ids there are. -/
theorem within_of_path {start : String} {depth : Nat} {path : List String}
    (grounded : manifest.Grounded id) (candidate : id ∈ manifest.candidates start)
    (distinct : path.Nodup) (known : path ⊆ manifest.candidates start)
    (leads : ∀ earlier ∈ path, TransGen manifest.Refers earlier id)
    (enough : manifest.reachBound start + 1 ≤ path.length + depth) :
    manifest.Within depth id := by
  induction depth generalizing path id with
  | zero =>
      have short := (distinct.subperm known).length_le
      have bound := manifest.candidates_length start
      omega
  | succ depth induction =>
      refine ⟨grounded.resolves, ?_⟩
      intro next refers
      have fresh : id ∉ path := fun listed => grounded.acyclic (leads id listed)
      have longer : (id :: path).Nodup := List.nodup_cons.mpr ⟨fresh, distinct⟩
      apply induction (grounded.reference refers) (candidates_closed candidate refers) longer
        (List.cons_subset.mpr ⟨candidate, known⟩)
      · intro earlier listed
        rcases List.mem_cons.mp listed with rfl | before
        · exact .single refers
        · exact (leads earlier before).tail refers
      · simp only [List.length_cons]
        omega

theorem Grounded.within (grounded : manifest.Grounded id) :
    manifest.Within (manifest.reachBound id + 1) id :=
  within_of_path grounded (mem_candidates_of_mentioned List.mem_cons_self) List.nodup_nil
    (List.nil_subset _) (by simp) (by simp)

end ApiCompiler.Manifest
