import ApiCompiler.Http.Response
import ApiCompiler.Json.Reader
import ApiCompiler.Proofs.IntegerText
import ApiCompiler.Proofs.NestedRecords

/-!
Answers that are read back. One who reads the body of an answer as JSON finds each member that was
written, with its value, and no other.
-/

set_option autoImplicit false

namespace ApiCompiler

namespace SortedMap

variable {κ α : Type} [Ord κ] [Std.LawfulEqOrd κ] [Std.TransOrd κ]

/-- Of entries with different keys, each is found in whatever order they are put in. -/
theorem get?_of_list {key : κ} {entries : List (κ × α)} (apart : (entries.map (·.1)).Nodup) :
    (ofList entries).get? key = find key entries := by
  have folded : ∀ map : SortedMap κ α,
      (map.insertAll entries).get? key = (find key entries).or (map.get? key) := by
    induction entries with
    | nil => exact fun map => rfl
    | cons entry rest induction =>
        intro map
        obtain ⟨name, value⟩ := entry
        rw [List.map_cons, List.nodup_cons] at apart
        have step : map.insertAll ((name, value) :: rest) =
            (map.insert name value).insertAll rest := rfl
        rw [step, induction apart.2]
        by_cases same : key = name
        · subst same
          have absent : find key rest = none := by
            cases found : find key rest with
            | none => rfl
            | some other => exact absurd (List.mem_map_of_mem (find_mem found)) apart.1
          rw [absent, get?_insert_self, find, if_pos (Std.ReflOrd.compare_self)]
          rfl
        · rw [get?_insert_other map same, find, if_neg]
          exact fun equal => same (Std.LawfulEqOrd.eq_of_compare equal)
  exact (folded empty).trans (Option.or_none)

end SortedMap

namespace Json

/-! ### Values as they are read -/

@[simp]
theorem plain_null : Value.null.Plain := .null

@[simp]
theorem plain_bool (flag : Bool) : (Value.bool flag).Plain := .bool flag

@[simp]
theorem plain_string (text : String) : (Value.string text).Plain := .string text

@[simp]
theorem plain_array_iff {items : List Value} :
    (Value.array items).Plain ↔ ∀ item ∈ items, item.Plain := by
  constructor
  · intro plain
    cases plain with
    | array each => exact each
  · exact .array

@[simp]
theorem plain_object_iff {members : List (String × Value)} :
    (Value.object members).Plain ↔ ∀ member ∈ members, member.2.Plain := by
  constructor
  · intro plain
    cases plain with
    | object each => exact each
  · exact .object

/-- Integers of a signed and of an unsigned width of 64 bits, and of less. -/
theorem plain_integer {value : Int} (least : -(2 ^ 63) ≤ value) (greatest : value < 2 ^ 64) :
    (Value.ofInt value).Plain := by
  unfold Value.ofInt
  split_ifs with natural
  · apply Value.Plain.whole
    have limit : wordLimit = 2 ^ 64 - 1 := rfl
    omega
  · apply Value.Plain.negative
    · omega
    · change (-value).toNat ≤ 2 ^ 63
      omega

theorem plain_of_holds {width : IntegerWidth} (word : width.bits ≤ 64) {value : Int}
    (holds : width.Holds value) : (Value.ofInt value).Plain := by
  have power : ∀ {bits limit : Nat}, bits ≤ limit → Nat.pow 2 bits ≤ Nat.pow 2 limit :=
    fun le => Nat.pow_le_pow_right (by decide) le
  obtain ⟨least, greatest⟩ := holds
  have depth : width.depth ≤ 2 ^ 63 := by
    unfold IntegerWidth.depth
    split_ifs
    · exact power (by omega : width.bits - 1 ≤ 63)
    · exact Nat.zero_le _
  have limit : width.greatest < 2 ^ 64 := by
    unfold IntegerWidth.greatest
    split_ifs
    · have half := power (by omega : width.bits - 1 ≤ 63)
      have value : Nat.pow 2 63 < 2 ^ 64 := by decide
      omega
    · have whole := power word
      have value : Nat.pow 2 64 = 2 ^ 64 := rfl
      have positive : 0 < Nat.pow 2 width.bits := Nat.two_pow_pos _
      omega
  apply plain_integer <;> omega

theorem integer_flat (value : Int) : (Value.ofInt value).nesting = 0 := by
  unfold Value.ofInt
  split_ifs <;> rfl

theorem integers_flat (values : List Int) : Value.itemsNesting (values.map .ofInt) = 0 := by
  induction values with
  | nil => rfl
  | cons value values induction =>
      rw [List.map_cons, Value.itemsNesting, integer_flat, induction, Nat.max_self]

mutual

/-- A value with the members of each object in the order of their keys. -/
def Value.sorted : Value → Value
  | .array items => .array (sortedItems items)
  | .object members => .ofMembers (sortedMembers members)
  | value => value

def sortedItems : List Value → List Value
  | [] => []
  | item :: rest => item.sorted :: sortedItems rest

def sortedMembers : List (String × Value) → List (String × Value)
  | [] => []
  | (key, value) :: rest => (key, value.sorted) :: sortedMembers rest

end

theorem sorted_items_eq (items : List Value) : sortedItems items = items.map Value.sorted := by
  induction items with
  | nil => rfl
  | cons item rest induction => rw [sortedItems, induction, List.map_cons]

/-- Reads any value. -/
def readValue (node : Node) : Except Fault Value := node.source.toValue node.depth

theorem read_items {items : List Value} {depth : Nat}
    (each : ∀ item ∈ items, item.source.toValue depth = .ok item.sorted) :
    itemsToValues depth (itemSources items) = .ok (sortedItems items) := by
  induction items with
  | nil => rfl
  | cons item rest induction =>
      obtain ⟨first, others⟩ := List.forall_mem_cons.mp each
      rw [itemSources, itemsToValues, first, induction others]
      rfl

theorem read_value_members {members : List (String × Value)} {depth : Nat}
    (each : ∀ member ∈ members, member.2.source.toValue depth = .ok member.2.sorted) :
    membersToValues depth (memberSources members) = .ok (sortedMembers members) := by
  induction members with
  | nil => rfl
  | cons member rest induction =>
      obtain ⟨first, others⟩ := List.forall_mem_cons.mp each
      rw [memberSources, membersToValues, first, induction others]
      rfl

theorem value_recovered {value : Value} (plain : value.Plain) :
    Recovers readValue value value.sorted := by
  refine ⟨plain, ?_⟩
  induction plain with
  | null | bool | whole | negative | string => exact fun depth enough => rfl
  | @array items each induction =>
      intro depth enough
      obtain ⟨entered, inside⟩ := Restores.enter .null enough
      have read := read_items fun item listed =>
        induction item listed _ (lt_of_le_of_lt (Value.item_nesting_le listed) inside)
      simp only [readValue, Value.source, Source.toValue, below, entered, read, Value.sorted,
        Ending.check, Ending.fault, bind, Except.bind, pure, Except.pure]
  | @object members each induction =>
      intro depth enough
      obtain ⟨entered, inside⟩ := Restores.enter .null enough
      have read := read_value_members fun member listed =>
        induction member listed _ (lt_of_le_of_lt (Value.member_nesting_le listed) inside)
      simp only [readValue, Value.source, Source.toValue, below, entered, read, Value.sorted,
        Ending.check, Ending.fault, bind, Except.bind, pure, Except.pure]

theorem of_text_compact {value : Value} (plain : value.Plain)
    (shallow : value.nesting < depthLimit) : Value.ofText value.compact = .ok value.sorted := by
  have top := (value_recovered plain).reads depthLimit shallow
  unfold readValue at top
  simp only [Value.ofText, readText, Source.read_compact plain, top, bind, Except.bind,
    Bool.false_eq_true, if_false]

/-- A value that is read as it was written. -/
def Value.Settled (value : Value) : Prop := value.sorted = value

@[simp]
theorem settled_null : Value.null.Settled := rfl

@[simp]
theorem settled_bool (flag : Bool) : (Value.bool flag).Settled := rfl

@[simp]
theorem settled_string (text : String) : (Value.string text).Settled := rfl

@[simp]
theorem settled_integer (value : Int) : (Value.ofInt value).Settled := by
  unfold Value.ofInt
  split_ifs <;> rfl

theorem settled_array {items : List Value} (each : ∀ item ∈ items, item.Settled) :
    (Value.array items).Settled := by
  rw [Value.Settled, Value.sorted, sorted_items_eq, List.map_congr_left each, List.map_id']

theorem settled_members {members : List (String × Value)}
    (each : ∀ member ∈ members, member.2.Settled) : sortedMembers members = members := by
  induction members with
  | nil => rfl
  | cons member rest induction =>
      obtain ⟨first, others⟩ := List.forall_mem_cons.mp each
      rw [sortedMembers, induction others, first]

theorem settled_object {members : List (String × Value)}
    (each : ∀ member ∈ members, member.2.Settled)
    (ascending : (members.map (·.1)).Pairwise fun first second => compare first second = .lt) :
    (Value.object members).Settled := by
  have whole := SortedMap.of_list_entries ⟨members, List.pairwise_map.mp ascending⟩
  rw [Value.Settled, Value.sorted, settled_members each, Value.ofMembers, whole]

theorem find_eq (key : String) (members : List (String × Value)) :
    Value.find key members = SortedMap.find key members := by
  induction members with
  | nil => rfl
  | cons member rest induction =>
      obtain ⟨name, value⟩ := member
      have same : compare key name = .eq ↔ name = key := by
        rw [Std.LawfulEqOrd.compare_eq_iff_eq, eq_comm]
      simp only [Value.find, SortedMap.find, induction, same]

/-- Members of different keys are found in whatever order they are written. -/
theorem get?_of_members {members : List (String × Value)} (apart : (members.map (·.1)).Nodup)
    (key : String) : (Value.ofMembers members).get? key = Value.find key members := by
  rw [find_eq, ← SortedMap.get?_of_list apart]
  exact find_eq key _

end Json

namespace Http.Response

open Json (Value)

/-- A member of an answer, as it is found by one who reads the body as JSON. -/
def member? (response : Response) (key : String) : Option Value :=
  match Value.ofText response.body with
  | .ok value => value.get? key
  | .error _ => none

/-- One who reads an answer as JSON finds these members and no others. -/
def Shows (response : Response) (members : List (String × Value)) : Prop :=
  ∀ key, response.member? key = Value.find key members

theorem json_shows {members : List (String × Value)} (plain : (Value.object members).Plain)
    (shallow : (Value.object members).nesting < Json.depthLimit)
    (apart : (members.map (·.1)).Nodup) (settled : ∀ member ∈ members, member.2.Settled)
    (status : Nat) : (json status (.object members)).Shows members := by
  intro key
  have read := Json.of_text_compact plain shallow
  rw [member?, json, read, Value.sorted, Json.settled_members settled]
  exact Json.get?_of_members apart key

/-- What an error shows: its code and its message. -/
def errorMembers (code message : String) : List (String × Value) :=
  [("error", .object [("code", .string code), ("message", .string message)])]

theorem error_shows (status : Nat) (code message : String) :
    (error status code message).Shows (errorMembers code message) := by
  have detail : (Value.object [("code", .string code), ("message", .string message)]).Settled := by
    apply Json.settled_object
    · simp
    · simp only [List.map_cons, List.map_nil]
      decide
  apply json_shows
  · simp
  · simp [Value.nesting, Value.membersNesting, Json.depthLimit]
  · simp
  · simpa using detail

end Http.Response

end ApiCompiler
