import ApiCompiler.Proofs.WrittenRecords

/-!
Records that nest as deep as their data. How many levels are needed to read a value back is how deep
the value nests, so each list, map and record asks for one level more than the deepest part of it.
-/

set_option autoImplicit false

namespace ApiCompiler.Json

namespace Value

mutual

/-- How many lists and objects are open where a value is deepest. -/
def nesting : Value → Nat
  | .array items => itemsNesting items + 1
  | .object members => membersNesting members + 1
  | _ => 0

def itemsNesting : List Value → Nat
  | [] => 0
  | item :: rest => max item.nesting (itemsNesting rest)

def membersNesting : List (String × Value) → Nat
  | [] => 0
  | (_, value) :: rest => max value.nesting (membersNesting rest)

end

theorem item_nesting_le {item : Value} {items : List Value} (listed : item ∈ items) :
    item.nesting ≤ itemsNesting items := by
  induction items with
  | nil => cases listed
  | cons first rest induction =>
      rw [itemsNesting]
      rcases List.mem_cons.mp listed with rfl | later
      · exact Nat.le_max_left _ _
      · exact (induction later).trans (Nat.le_max_right _ _)

theorem member_nesting_le {member : String × Value} {members : List (String × Value)}
    (listed : member ∈ members) : member.2.nesting ≤ membersNesting members := by
  induction members with
  | nil => cases listed
  | cons first rest induction =>
      rw [membersNesting]
      rcases List.mem_cons.mp listed with rfl | later
      · exact Nat.le_max_left _ _
      · exact (induction later).trans (Nat.le_max_right _ _)

end Value

variable {α β : Type} {read : Node → Except Fault α} {write : α → Value} {name : String}

theorem Restores.mono {levels more : Nat} {value : Value} {item : α}
    (restores : Restores levels read value item) (le : levels ≤ more) :
    Restores more read value item :=
  ⟨restores.plain, fun depth enough => restores.reads depth (lt_of_le_of_lt le enough)⟩

/-- What was written can be read wherever its deepest part may be opened. -/
def Recovers (read : Node → Except Fault α) (value : Value) (item : α) : Prop :=
  Restores value.nesting read value item

/-- Members that are written for the fields of a record, whatever the depth that they need. -/
def Completes (rules : List (FieldRule Node Fault β)) (members : List (String × Value))
    (before after : β) : Prop :=
  ∀ levels, (∀ member ∈ members, member.2.nesting ≤ levels) →
    Fills levels rules members before after

namespace Recovers

theorem list {items : List α} (each : ∀ item ∈ items, Recovers read (write item) item) :
    Recovers (textFormat.readList read) (.array (items.map write)) items := by
  apply Restores.list
  intro item listed
  apply Restores.mono (each item listed)
  exact Value.item_nesting_le (List.mem_map_of_mem listed)

theorem map {map : SortedMap String α}
    (each : ∀ entry ∈ map.entries, Recovers read (write entry.2) entry.2) :
    Recovers (textFormat.readMap read) (Value.ofMap write map) map := by
  apply Restores.map
  intro entry listed
  apply Restores.mono (each entry listed)
  exact Value.member_nesting_le
    (List.mem_map_of_mem (f := fun entry => (entry.1, write entry.2)) listed)

theorem record {rules : List (FieldRule Node Fault β)} {members : List (String × Value)}
    {title : String} {initial after : β} (apart : (rules.map (·.name)).Nodup)
    (completes : Completes rules members initial after) :
    Recovers (textFormat.readRecord title initial rules) (.object members) after := by
  apply Fills.record apart
  apply completes
  intro member listed
  exact Value.member_nesting_le listed

end Recovers

namespace Completes

variable {rules : List (FieldRule Node Fault β)} {members : List (String × Value)}
  {before between after : β}

theorem done : Completes [] [] before before := fun _ _ => .done

theorem given {rule : FieldRule Node Fault β} {value : Value}
    (recovers : Recovers (rule.read · before) value between)
    (rest : Completes rules members between after) :
    Completes (rule :: rules) ((rule.name, value) :: members) before after := by
  intro levels fits
  obtain ⟨own, others⟩ := List.forall_mem_cons.mp fits
  exact .given (Restores.mono recovers own) (rest levels others)

variable {required : Bool} {put : β → α → β} {item : α}

/-- A field whose value is always written. -/
theorem field {value : Value} (recovers : Recovers read value item)
    (rest : Completes rules members (put before item) after) :
    Completes (⟨name, required, fun node record => do return put record (← read node)⟩ :: rules)
      ((name, value) :: members) before after := by
  intro levels fits
  obtain ⟨own, others⟩ := List.forall_mem_cons.mp fits
  exact .field (Restores.mono recovers own) (rest levels others)

/-- A field whose value is written unless it is the one that the record begins with. -/
theorem optional {written : List (String × Value)}
    (either : written = [] ∧ put before item = before ∨
      ∃ value, written = [(name, value)] ∧ Recovers read value item)
    (rest : Completes rules members (put before item) after) :
    Completes (⟨name, false, fun node record => do return put record (← read node)⟩ :: rules)
      (written ++ members) before after := by
  rcases either with ⟨rfl, same⟩ | ⟨value, rfl, recovers⟩
  · intro levels fits
    exact .optional (.inl ⟨rfl, same⟩) (rest levels fits)
  · exact field recovers rest

end Completes

/-! ### Members that may be left out -/

variable {before : β}

theorem recovered_member {put : β → Option α → β} {held : Option α}
    (unset : put before none = before)
    (each : ∀ item, held = some item → Recovers read (write item) item ∧ write item ≠ .null) :
    Value.member name write held = [] ∧ put before held = before ∨
      ∃ value, Value.member name write held = [(name, value)] ∧
        Recovers (textFormat.readOptional read) value held := by
  cases held with
  | none => exact .inl ⟨rfl, unset⟩
  | some item =>
      have recovers := each item rfl
      exact .inr ⟨write item, rfl, recovers.1.held recovers.2⟩

theorem recovered_text_member {put : β → Option String → β} {text : Option String}
    (unset : put before none = before) :
    Value.textMember name text = [] ∧ put before text = before ∨
      ∃ value, Value.textMember name text = [(name, value)] ∧
        Recovers (textFormat.readOptional textFormat.text) value text := by
  cases text with
  | none => exact .inl ⟨rfl, unset⟩
  | some text => exact .inr ⟨.string text, rfl, (Restores.text text).held nofun⟩

theorem recovered_list_member {put : β → List α → β} {items : List α}
    (unset : put before [] = before) (each : ∀ item ∈ items, Recovers read (write item) item) :
    Value.listMember name write items = [] ∧ put before items = before ∨
      ∃ value, Value.listMember name write items = [(name, value)] ∧
        Recovers (textFormat.readList read) value items := by
  cases items with
  | nil => exact .inl ⟨rfl, unset⟩
  | cons item rest => exact .inr ⟨_, rfl, .list each⟩

end ApiCompiler.Json
