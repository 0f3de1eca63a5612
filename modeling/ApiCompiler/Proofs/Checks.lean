import ApiCompiler.Validation.Endpoint
import Mathlib.Data.List.Forall2

/-!
Sequences of checks: when the whole of one succeeds.
-/

set_option autoImplicit false

namespace ApiCompiler

variable {ε δ α β : Type}

theorem bind_ok_iff {first : Except ε α} {next : α → Except ε β} {result : β} :
    (first >>= next) = .ok result ↔ ∃ value, first = .ok value ∧ next value = .ok result := by
  cases first <;> simp [bind, Except.bind]

theorem unit_bind_ok_iff {first : Except ε Unit} {next : Unit → Except ε β} {result : β} :
    (first >>= next) = .ok result ↔ first = .ok () ∧ next () = .ok result := by
  rw [bind_ok_iff]
  constructor
  · intro parts
    rcases parts with ⟨⟨⟩, done, onward⟩
    exact ⟨done, onward⟩
  · exact fun both => ⟨(), both⟩

theorem map_error_ok_iff {outcome : Except ε α} {wrap : ε → δ} {result : α} :
    outcome.mapError wrap = .ok result ↔ outcome = .ok result := by
  cases outcome <;> simp [Except.mapError]

theorem for_each_ok_iff {items : List α} {check : α → Except ε Unit} :
    items.forM check = .ok () ↔ ∀ item ∈ items, check item = .ok () := by
  induction items with
  | nil => simp [List.forM, pure, Except.pure]
  | cons item rest induction =>
      change (check item >>= fun _ => rest.forM check) = .ok () ↔ _
      rw [unit_bind_ok_iff, induction, List.forall_mem_cons]

theorem for_option_ok_iff {item : Option α} {check : α → Except ε Unit} :
    item.forM check = .ok () ↔ ∀ value ∈ item, check value = .ok () := by
  cases item with
  | none => simp [Option.forM, pure, Except.pure]
  | some value => simp [Option.forM]

theorem map_each_succeeds {items : List α} {make : α → Except ε β}
    (succeeds : ∀ item ∈ items, ∃ result, make item = .ok result) :
    ∃ results, items.mapM make = .ok results := by
  induction items with
  | nil => exact ⟨[], rfl⟩
  | cons item rest induction =>
      obtain ⟨⟨result, made⟩, others⟩ := List.forall_mem_cons.mp succeeds
      obtain ⟨results, rests⟩ := induction others
      exact ⟨result :: results, by rw [List.mapM_cons, made, rests]; rfl⟩

theorem map_each_ok_iff {items : List α} {make : α → Except ε β} {results : List β} :
    items.mapM make = .ok results ↔
      List.Forall₂ (fun item result => make item = .ok result) items results := by
  induction items generalizing results with
  | nil => simp [pure, Except.pure, eq_comm]
  | cons item rest induction =>
      rw [List.mapM_cons, List.forall₂_cons_left_iff]
      simp only [bind_ok_iff, induction]
      constructor
      · intro parts
        rcases parts with ⟨first, made, others, each, same⟩
        cases same
        exact ⟨first, others, made, each, rfl⟩
      · intro parts
        rcases parts with ⟨first, others, made, each, rfl⟩
        exact ⟨first, made, others, each, rfl⟩

theorem map_each_congr {items : List α} {make make' : α → Except ε β}
    (same : ∀ item ∈ items, make item = make' item) : items.mapM make = items.mapM make' := by
  induction items with
  | nil => rfl
  | cons item rest induction =>
      rw [List.forall_mem_cons] at same
      rw [List.mapM_cons, List.mapM_cons, same.1, induction same.2]

theorem fold_congr {m : Type → Type} [Monad m] {items : List α} {step step' : β → α → m β}
    (same : ∀ item ∈ items, ∀ value, step value item = step' value item) (start : β) :
    items.foldlM step start = items.foldlM step' start := by
  induction items generalizing start with
  | nil => rfl
  | cons item rest induction =>
      rw [List.forall_mem_cons] at same
      rw [List.foldlM_cons, List.foldlM_cons, same.1]
      exact congrArg (step' start item >>= ·) (funext (induction same.2))

/-! ### Lists that are related one by one -/

theorem mem_of_forall₂ {related : α → β → Prop} {items : List α} {results : List β}
    (each : List.Forall₂ related items results) {result : β} (listed : result ∈ results) :
    ∃ item ∈ items, related item result := by
  induction each with
  | nil => cases listed
  | cons own _ induction =>
      rcases List.mem_cons.mp listed with rfl | later
      · exact ⟨_, List.mem_cons_self, own⟩
      · obtain ⟨item, member, onward⟩ := induction later
        exact ⟨item, List.mem_cons_of_mem _ member, onward⟩

theorem result_of_forall₂ {related : α → β → Prop} {items : List α} {results : List β}
    (each : List.Forall₂ related items results) {item : α} (listed : item ∈ items) :
    ∃ result ∈ results, related item result := mem_of_forall₂ each.flip listed

theorem mem_of_map_each {items : List α} {make : α → Except ε β} {results : List β}
    (made : items.mapM make = .ok results) {result : β} (listed : result ∈ results) :
    ∃ item ∈ items, make item = .ok result := mem_of_forall₂ (map_each_ok_iff.mp made) listed

/-- What is seen of each result is given by its item, so the items give it for all results. -/
theorem map_of_forall₂ {γ : Type} {related : α → β → Prop} {items : List α} {results : List β}
    {seen : β → γ} {given : α → γ} (each : List.Forall₂ related items results)
    (keeps : ∀ item result, related item result → seen result = given item) :
    results.map seen = items.map given := by
  induction each with
  | nil => rfl
  | cons own _ induction => rw [List.map_cons, List.map_cons, keeps _ _ own, induction]

/-- Two lists that are related to the items of one list are related to each other. -/
theorem forall₂_join {γ : Type} {first : α → β → Prop} {second : α → γ → Prop} {items : List α}
    {lefts : List β} {rights : List γ} (each : List.Forall₂ first items lefts)
    (each' : List.Forall₂ second items rights) :
    List.Forall₂ (fun left right => ∃ item, first item left ∧ second item right) lefts rights := by
  induction each generalizing rights with
  | nil =>
      cases each'
      exact .nil
  | cons own _ induction =>
      cases each' with
      | cons own' others' => exact .cons ⟨_, own, own'⟩ (induction others')

namespace Validation

theorem require_ok_iff {condition : Bool} {fault : ManifestFault} :
    require condition fault = .ok () ↔ condition = true := by
  cases condition <;> simp [require]

end Validation

end ApiCompiler
