import ApiCompiler.Binding.Parts
import ApiCompiler.Proofs.IntegerText

/-!
Requests that are bound slot by slot. A binder demands of each slot that a value is there and that
it is one of the slot's kind, and what it complains about is the first demand that is not met.
-/

set_option autoImplicit false

namespace ApiCompiler

/-! ### Demands -/

section

variable {α : Type}

/-- The first of several demands that is not met, by what is said about it. -/
inductive FirstUnmet : List (Prop × α) → α → Prop
  | here {demand : Prop} {said : α} {rest : List (Prop × α)} (unmet : ¬demand) :
      FirstUnmet ((demand, said) :: rest) said
  | later {demand : Prop} {other said : α} {rest : List (Prop × α)} (met : demand)
      (unmet : FirstUnmet rest said) : FirstUnmet ((demand, other) :: rest) said

def AllMet (demands : List (Prop × α)) : Prop := ∀ demand ∈ demands, demand.1

theorem all_met_cons {demand : Prop × α} {rest : List (Prop × α)} :
    AllMet (demand :: rest) ↔ demand.1 ∧ AllMet rest := List.forall_mem_cons

theorem all_met_append {front rest : List (Prop × α)} :
    AllMet (front ++ rest) ↔ AllMet front ∧ AllMet rest := List.forall_mem_append

theorem first_unmet_append {front rest : List (Prop × α)} {said : α} :
    FirstUnmet (front ++ rest) said ↔
      FirstUnmet front said ∨ AllMet front ∧ FirstUnmet rest said := by
  induction front with
  | nil =>
      constructor
      · exact fun unmet => .inr ⟨nofun, unmet⟩
      · rintro (unmet | ⟨_, unmet⟩)
        · cases unmet
        · exact unmet
  | cons demand front induction =>
      rw [List.cons_append]
      constructor
      · intro unmet
        cases unmet with
        | here unmet => exact .inl (.here unmet)
        | later met unmet =>
            rcases induction.mp unmet with unmet | ⟨others, unmet⟩
            · exact .inl (.later met unmet)
            · exact .inr ⟨all_met_cons.mpr ⟨met, others⟩, unmet⟩
      · rintro (unmet | ⟨all, unmet⟩)
        · cases unmet with
          | here unmet => exact .here unmet
          | later met unmet => exact .later met (induction.mpr (.inl unmet))
        · obtain ⟨met, others⟩ := all_met_cons.mp all
          exact .later met (induction.mpr (.inr ⟨others, unmet⟩))

/-- Either all demands are met, or there is a first one that is not. -/
theorem all_met_or_first_unmet (demands : List (Prop × α)) :
    AllMet demands ∨ ∃ said, FirstUnmet demands said := by
  induction demands with
  | nil => exact .inl nofun
  | cons demand rest induction =>
      by_cases met : demand.1
      · rcases induction with all | ⟨said, unmet⟩
        · exact .inl (all_met_cons.mpr ⟨met, all⟩)
        · exact .inr ⟨said, .later met unmet⟩
      · exact .inr ⟨demand.2, .here met⟩

end

/-! ### Complaints -/

/-- What is said about a slot: that it has no value, or that its value is not one of its kind. -/
inductive Complaint
  | missing (slot : Slot)
  | invalid (slot : Slot)

namespace Complaint

def Reports : Complaint → BindFault → Prop
  | .missing slot, fault => fault = .missing slot
  | .invalid slot, fault => ∃ cause, fault = .invalid slot cause

/-- The answer to a request that a complaint is made of names the slot. -/
def Answers : Complaint → Http.Response → Prop
  | .missing slot, response =>
      response = .error 400 "missing_parameter" ("missing " ++ slot.describe)
  | .invalid slot, response => ∃ reason,
      response = .error 400 "invalid_parameter" ("invalid " ++ slot.describe ++ ": " ++ reason)

theorem Reports.answers {complaint : Complaint} {fault : BindFault}
    (reports : complaint.Reports fault) : complaint.Answers fault.respond := by
  cases complaint with
  | missing slot =>
      cases reports
      rfl
  | invalid slot =>
      obtain ⟨cause, rfl⟩ := reports
      exact ⟨cause.message, rfl⟩

end Complaint

section

variable {α β : Type}

/-- What is bound succeeds if all demands are met, and otherwise the first one that is not is
complained about. -/
structure Binds (demands : List (Prop × Complaint)) (outcome : Except BindFault α) : Prop where
  accepts : AllMet demands → ∃ value, outcome = .ok value
  refuses : ∀ complaint, FirstUnmet demands complaint →
    ∃ fault, outcome = .error fault ∧ complaint.Reports fault

namespace Binds

theorem done (value : α) : Binds [] (Except.ok value) := ⟨fun _ => ⟨value, rfl⟩, nofun⟩

variable {demand : Prop} {complaint : Complaint} {rest : List (Prop × Complaint)}

theorem met {outcome : Except BindFault α} (met : demand) (binds : Binds rest outcome) :
    Binds ((demand, complaint) :: rest) outcome := by
  constructor
  · exact fun all => binds.accepts (all_met_cons.mp all).2
  · intro complaint unmet
    cases unmet with
    | here unmet => exact absurd met unmet
    | later _ unmet => exact binds.refuses complaint unmet

theorem unmet {fault : BindFault} (unmet : ¬demand) (reports : complaint.Reports fault) :
    Binds ((demand, complaint) :: rest) (Except.error fault : Except BindFault α) := by
  constructor
  · exact fun all => absurd (all_met_cons.mp all).1 unmet
  · intro said first
    cases first with
    | here _ => exact ⟨fault, rfl, reports⟩
    | later met _ => exact absurd met unmet

theorem congr {demand' : Prop} {outcome : Except BindFault α} (same : demand ↔ demand')
    (binds : Binds ((demand', complaint) :: rest) outcome) :
    Binds ((demand, complaint) :: rest) outcome := by
  rwa [propext same]

theorem bind {front rest : List (Prop × Complaint)} {first : Except BindFault α}
    {next : α → Except BindFault β} (binds : Binds front first)
    (others : ∀ value, first = .ok value → Binds rest (next value)) :
    Binds (front ++ rest) (first >>= next) := by
  constructor
  · intro all
    obtain ⟨own, behind⟩ := all_met_append.mp all
    obtain ⟨value, succeeds⟩ := binds.accepts own
    obtain ⟨result, same⟩ := (others value succeeds).accepts behind
    exact ⟨result, bind_ok_iff.mpr ⟨value, succeeds, same⟩⟩
  · intro complaint unmet
    rcases first_unmet_append.mp unmet with own | ⟨own, behind⟩
    · obtain ⟨fault, same, reports⟩ := binds.refuses complaint own
      exact ⟨fault, by rw [same]; rfl, reports⟩
    · obtain ⟨value, succeeds⟩ := binds.accepts own
      obtain ⟨fault, same, reports⟩ := (others value succeeds).refuses complaint behind
      exact ⟨fault, by rw [succeeds]; exact same, reports⟩

end Binds

end

/-! ### What a text denotes -/

/-- A text that spells a truth value. -/
def SpellsFlag (text : String) (flag : Bool) : Prop :=
  (text = "true" ∨ text = "1") ∧ flag = true ∨ (text = "false" ∨ text = "0") ∧ flag = false

namespace Kind

/-- The value of a kind that a text stands for. -/
def Denotes : (kind : Kind) → String → kind.family.Value → Prop
  | .string => fun text value => value = text
  | .bool => SpellsFlag
  | .int | .int64 => IntegerWidth.Denotes ⟨true, 64⟩
  | .int8 => IntegerWidth.Denotes ⟨true, 8⟩
  | .int16 => IntegerWidth.Denotes ⟨true, 16⟩
  | .int32 => IntegerWidth.Denotes ⟨true, 32⟩
  | .uint | .uint64 => IntegerWidth.Denotes ⟨false, 64⟩
  | .uint8 => IntegerWidth.Denotes ⟨false, 8⟩
  | .uint16 => IntegerWidth.Denotes ⟨false, 16⟩
  | .uint32 => IntegerWidth.Denotes ⟨false, 32⟩
  | .float32 => fun text value => BinaryNumber.parse .single text = .ok value
  | .float64 => fun text value => BinaryNumber.parse .double text = .ok value

theorem parse_boolean_ok_iff {text : String} {flag : Bool} :
    parseBoolean text = .ok flag ↔ SpellsFlag text flag := by
  unfold parseBoolean SpellsFlag
  split_ifs with yes no
  · have other : ¬(text = "false" ∨ text = "0") := by
      rcases yes with rfl | rfl <;> decide
    simp [yes, other, eq_comm]
  · simp [yes, no, eq_comm]
  · simp [yes, no]

theorem parse_integer_ok_iff {signed : Bool} {bits : Nat} {text : String} {value : Int} :
    parseInteger signed bits text = .ok value ↔
      IntegerWidth.Denotes ⟨signed, bits⟩ text value := by
  rw [parseInteger, map_error_ok_iff, IntegerWidth.parse_ok_iff]

theorem parse_ok_iff {kind : Kind} {text : String} {value : kind.family.Value} :
    kind.parse text = .ok value ↔ kind.Denotes text value := by
  cases kind with
  | string =>
      constructor
      · exact fun read => (Except.ok.inj read).symm
      · exact fun same => congrArg Except.ok (Eq.symm same)
  | bool => exact parse_boolean_ok_iff
  | float32 | float64 => exact map_error_ok_iff
  | int | int8 | int16 | int32 | int64 => exact parse_integer_ok_iff
  | uint | uint8 | uint16 | uint32 | uint64 => exact parse_integer_ok_iff

/-- No text stands for two values. -/
theorem Denotes.unique {kind : Kind} {text : String} {first second : kind.family.Value}
    (denotes : kind.Denotes text first) (also : kind.Denotes text second) : first = second := by
  rw [← parse_ok_iff] at denotes also
  rw [denotes] at also
  exact Except.ok.inj also

end Kind

/-! ### The ways of binding -/

namespace Slot

variable {slot : Slot} {kind : Kind} {parts : RequestParts}

theorem parse_ok_iff {text : String} {value : kind.family.Value} :
    slot.parse kind text = .ok value ↔ kind.Denotes text value := by
  rw [Slot.parse, map_error_ok_iff, Kind.parse_ok_iff]

theorem parse_refuses {text : String} (none : ¬∃ value, kind.Denotes text value) :
    ∃ cause, slot.parse kind text = .error (.invalid slot cause) := by
  unfold Slot.parse
  cases read : kind.parse text with
  | ok value => exact absurd ⟨value, Kind.parse_ok_iff.mp read⟩ none
  | error cause => exact ⟨cause, rfl⟩

theorem parse_binds (slot : Slot) (kind : Kind) (text : String) :
    Binds [(∃ value, kind.Denotes text value, .invalid slot)] (slot.parse kind text) := by
  by_cases denotes : ∃ value, kind.Denotes text value
  · obtain ⟨value, own⟩ := denotes
    rw [parse_ok_iff.mpr own]
    exact .met ⟨value, own⟩ (.done value)
  · obtain ⟨cause, fault⟩ := parse_refuses denotes
    rw [fault]
    exact .unmet denotes ⟨cause, rfl⟩

theorem parse_each_binds (slot : Slot) (kind : Kind) (texts : List String) : Binds
    [(∀ text ∈ texts, ∃ value, kind.Denotes text value, .invalid slot)]
    (texts.mapM (slot.parse kind)) := by
  induction texts with
  | nil => exact .met nofun (.done [])
  | cons text texts induction =>
      rw [List.mapM_cons]
      by_cases denotes : ∃ value, kind.Denotes text value
      · have each : (∀ other ∈ text :: texts, ∃ value, kind.Denotes other value) ↔
            ∀ other ∈ texts, ∃ value, kind.Denotes other value := by
          rw [List.forall_mem_cons, and_iff_right denotes]
        obtain ⟨value, own⟩ := denotes
        rw [parse_ok_iff.mpr own]
        have binds := induction.bind fun values _ => Binds.done (value :: values)
        exact binds.congr each
      · obtain ⟨cause, fault⟩ := parse_refuses denotes
        rw [fault]
        exact .unmet (fun each => denotes (each text List.mem_cons_self)) ⟨cause, rfl⟩

/-- The first of the values for a slot. -/
def first? (slot : Slot) (parts : RequestParts) : Option String := (parts.values slot).head?

theorem required_one_of_some {text : String} (first : slot.first? parts = some text) :
    slot.requiredOne kind parts = slot.parse kind text := by
  unfold first? at first
  simp only [requiredOne, first]

theorem required_one_of_none (absent : slot.first? parts = none) :
    slot.requiredOne kind parts = .error (.missing slot) := by
  unfold first? at absent
  simp only [requiredOne, absent]

theorem required_one_binds (slot : Slot) (kind : Kind) (parts : RequestParts) : Binds
    [(∃ text, slot.first? parts = some text, .missing slot),
      (∀ text, slot.first? parts = some text → ∃ value, kind.Denotes text value, .invalid slot)]
    (slot.requiredOne kind parts) := by
  cases first : slot.first? parts with
  | some text =>
      rw [required_one_of_some first]
      apply Binds.met ⟨text, rfl⟩
      exact (slot.parse_binds kind text).congr (by simp)
  | none =>
      rw [required_one_of_none first]
      exact .unmet nofun rfl

theorem optional_one_binds (slot : Slot) (kind : Kind) (parts : RequestParts) : Binds
    [(∀ text, slot.first? parts = some text → ∃ value, kind.Denotes text value, .invalid slot)]
    (slot.optionalOne kind parts) := by
  cases first : slot.first? parts with
  | some text =>
      unfold first? at first
      simp only [optionalOne, first]
      have binds := (slot.parse_binds kind text).bind fun value _ => Binds.done (some value)
      exact binds.congr (by simp)
  | none =>
      unfold first? at first
      simp only [optionalOne, first]
      exact .met nofun (.done none)

theorem required_many_of_some (given : parts.values slot ≠ []) :
    slot.requiredMany kind parts = (parts.values slot).mapM (slot.parse kind) := by
  unfold requiredMany optionalMany
  cases found : parts.values slot with
  | nil => exact absurd found given
  | cons text texts =>
      simp only
      cases (text :: texts).mapM (slot.parse kind) <;> rfl

theorem required_many_binds (slot : Slot) (kind : Kind) (parts : RequestParts) : Binds
    [(parts.values slot ≠ [], .missing slot),
      (∀ text ∈ parts.values slot, ∃ value, kind.Denotes text value, .invalid slot)]
    (slot.requiredMany kind parts) := by
  by_cases given : parts.values slot = []
  · have fault : slot.requiredMany kind parts = .error (.missing slot) := by
      simp only [requiredMany, optionalMany, given]
      rfl
    rw [fault]
    exact .unmet (by simp [given]) rfl
  · rw [required_many_of_some given]
    exact .met given (slot.parse_each_binds kind _)

/-! ### What is bound -/

theorem required_one_ok_iff {value : kind.family.Value} :
    slot.requiredOne kind parts = .ok value ↔
      ∃ text, slot.first? parts = some text ∧ kind.Denotes text value := by
  unfold requiredOne first?
  cases (parts.values slot).head? with
  | some text => simp [parse_ok_iff]
  | none => simp

theorem optional_one_ok_iff {bound : Option kind.family.Value} :
    slot.optionalOne kind parts = .ok bound ↔
      Option.Rel kind.Denotes (slot.first? parts) bound := by
  unfold optionalOne first?
  cases (parts.values slot).head? with
  | some text => cases bound <;> simp [bind_ok_iff, parse_ok_iff, pure, Except.pure]
  | none => cases bound <;> simp [pure, Except.pure]

theorem required_many_ok_iff {values : List kind.family.Value} :
    slot.requiredMany kind parts = .ok values ↔ parts.values slot ≠ [] ∧
      List.Forall₂ kind.Denotes (parts.values slot) values := by
  by_cases given : parts.values slot = []
  · simp only [requiredMany, optionalMany, given]
    simp [bind, Except.bind, pure, Except.pure]
  · rw [required_many_of_some given, map_each_ok_iff]
    simp [given, parse_ok_iff]

end Slot

/-! ### The values of a request -/

namespace Http.Request

/-- The values of the query's pairs with some key, in their order. -/
def queryValues (request : Request) (key : String) : List String :=
  RequestParts.valuesOf key (Form.pairs (request.target.query.getD ""))

/-- The value of the first header of a name, which is absent if it cannot be shown. -/
def header? (request : Request) (name : String) : Option String :=
  ((request.headers.find? (RequestParts.isNamed name)).map Prod.snd).filter isVisible

variable {request : Request} {path : List (String × String)} {tag field : String}

theorem first_query_eq : Slot.first? ⟨.query, tag, field⟩ (.ofRequest path request) =
    (request.queryValues tag).head? := rfl

theorem first_header_eq : Slot.first? ⟨.header, tag, field⟩ (.ofRequest path request) =
    request.header? tag := by
  change (request.header? tag).toList.head? = _
  cases request.header? tag <;> rfl

end Http.Request

end ApiCompiler
