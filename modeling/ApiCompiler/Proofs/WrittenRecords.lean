import ApiCompiler.Json.Format
import ApiCompiler.Json.Member
import ApiCompiler.Proofs.Checks
import ApiCompiler.Proofs.Lookup
import ApiCompiler.Proofs.WrittenTrees

/-!
Records that are read back from the values they were written as. The members of a record stand in
the order of its fields, and a field that is left out is one that has the value it begins with.
-/

set_option autoImplicit false

namespace ApiCompiler.Json

variable {α β : Type} {levels : Nat}

/-- What was written can be read, wherever so many more lists and objects may be opened. -/
structure Restores (levels : Nat) (read : Node → Except Fault α) (value : Value) (item : α) :
    Prop where
  plain : value.Plain
  reads : ∀ depth, levels < depth → read ⟨value.source, depth⟩ = .ok item

namespace Restores

theorem text (text : String) : Restores levels textFormat.text (.string text) text :=
  ⟨.string text, fun _ _ => rfl⟩

theorem flag (flag : Bool) : Restores levels textFormat.flag (.bool flag) flag :=
  ⟨.bool flag, fun _ _ => rfl⟩

theorem natural (bits : Nat) (number : Fin (Nat.pow 2 bits)) (word : bits ≤ 64) :
    Restores levels (textFormat.natural bits) (.ofNat number) number := by
  have fits : number.val ≤ wordLimit := by
    have width : 2 ^ bits ≤ 2 ^ 64 := Nat.pow_le_pow_right (by decide) word
    have small : number.val < 2 ^ bits := number.isLt
    change number.val ≤ 2 ^ 64 - 1
    omega
  refine ⟨.whole fits, fun depth _ => ?_⟩
  exact dif_pos number.isLt

theorem named {all : List α} {nameOf : α → String} {item : α}
    (spelled : (all.find? fun other => nameOf other == nameOf item) = some item) :
    Restores levels (textFormat.named all nameOf) (.string (nameOf item)) item := by
  refine ⟨.string _, fun depth _ => ?_⟩
  have variant : textFormat.variant ⟨(Value.string (nameOf item)).source, depth⟩ =
      .ok (nameOf item, .ok ()) := rfl
  simp only [DataFormat.named, variant, spelled, bind, Except.bind, pure, Except.pure]

theorem held {read : Node → Except Fault α} {value : Value} {item : α}
    (restores : Restores levels read value item) (shown : value ≠ .null) :
    Restores levels (textFormat.readOptional read) value (some item) := by
  refine ⟨restores.plain, fun depth enough => ?_⟩
  have present : textFormat.optional ⟨value.source, depth⟩ = .ok (some ⟨value.source, depth⟩) := by
    cases value with
    | null => exact absurd rfl shown
    | bool | number | string | array | object => rfl
  simp only [DataFormat.readOptional, present, restores.reads depth enough, bind, Except.bind, pure,
    Except.pure]

theorem enter (source : Source) {depth : Nat} (enough : levels + 1 < depth) :
    Node.enter ⟨source, depth⟩ = .ok (depth - 1) ∧ levels < depth - 1 := by
  obtain ⟨more, rfl⟩ : ∃ more, depth = more + 2 := ⟨depth - 2, by omega⟩
  exact ⟨rfl, Nat.lt_of_succ_lt_succ enough⟩

theorem list {read : Node → Except Fault α} {write : α → Value} {items : List α}
    (each : ∀ item ∈ items, Restores levels read (write item) item) :
    Restores (levels + 1) (textFormat.readList read) (.array (items.map write)) items := by
  constructor
  · apply Value.Plain.array
    intro value listed
    obtain ⟨item, member, rfl⟩ := List.mem_map.mp listed
    exact (each item member).plain
  · intro depth enough
    obtain ⟨entered, inside⟩ := enter (Value.array (items.map write)).source enough
    have readEach : (Node.listing (itemSources (items.map write)) .closed (depth - 1)).items.mapM
        read = .ok items := by
      rw [Node.listing, item_sources_eq, map_each_ok_iff, List.forall₂_map_left_iff, List.forall₂_map_left_iff,
        List.forall₂_map_left_iff, List.forall₂_same]
      exact fun item member => (each item member).reads _ inside
    have opened : textFormat.list ⟨(Value.array (items.map write)).source, depth⟩ =
        .ok (Node.listing (itemSources (items.map write)) .closed (depth - 1)) := by
      change (do return Node.listing _ _ (← Node.enter _)) = _
      rw [entered]
      rfl
    have closed : (Node.listing (itemSources (items.map write)) .closed (depth - 1)).finish =
        .ok () := rfl
    simp only [DataFormat.readList, opened, readEach, closed, bind, Except.bind, pure, Except.pure]

theorem read_entries {read : Node → Except Fault α} {write : α → Value}
    {entries : List (String × α)} {depth : Nat}
    (each : ∀ entry ∈ entries, read ⟨(write entry.2).source, depth⟩ = .ok entry.2) :
    DataFormat.readEntries read (Node.members
      (memberSources (entries.map fun entry => (entry.1, write entry.2))) .closed depth).items =
      .ok entries := by
  induction entries with
  | nil => rfl
  | cons entry entries induction =>
      obtain ⟨first, others⟩ := List.forall_mem_cons.mp each
      change (do
        let name ← Except.ok entry.1
        let item ← read ⟨(write entry.2).source, depth⟩
        let later ← DataFormat.readEntries read (Node.members _ .closed depth).items
        return (name, item) :: later) = _
      rw [first, induction others]
      rfl

theorem map {read : Node → Except Fault α} {write : α → Value} {map : SortedMap String α}
    (each : ∀ entry ∈ map.entries, Restores levels read (write entry.2) entry.2) :
    Restores (levels + 1) (textFormat.readMap read) (Value.ofMap write map) map := by
  constructor
  · apply Value.Plain.object
    intro member listed
    obtain ⟨entry, inside, rfl⟩ := List.mem_map.mp listed
    exact (each entry inside).plain
  · intro depth enough
    obtain ⟨entered, inside⟩ := enter (Value.ofMap write map).source enough
    have opened : textFormat.map ⟨(Value.ofMap write map).source, depth⟩ =
        .ok (Node.members (memberSources (map.entries.map fun entry => (entry.1, write entry.2)))
          .closed (depth - 1)) := by
      change (do return Node.members _ _ (← Node.enter _)) = _
      rw [entered]
      rfl
    have readEach := read_entries fun entry member => (each entry member).reads _ inside
    have closed : (Node.members (memberSources (map.entries.map fun entry =>
        (entry.1, write entry.2))) .closed (depth - 1)).finish = .ok () := rfl
    simp only [DataFormat.readMap, opened, readEach, closed, SortedMap.of_list_entries, bind,
      Except.bind, pure, Except.pure]

end Restores

/-! ### Records -/

/-- Members that are written for the fields of a record, and what each of them puts into it. -/
inductive Fills (levels : Nat) :
    List (FieldRule Node Fault α) → List (String × Value) → α → α → Prop
  | done {record : α} : Fills levels [] [] record record
  | given {rule : FieldRule Node Fault α} {rules : List (FieldRule Node Fault α)} {value : Value}
      {members : List (String × Value)} {before between after : α}
      (restores : Restores levels (rule.read · before) value between)
      (rest : Fills levels rules members between after) :
      Fills levels (rule :: rules) ((rule.name, value) :: members) before after
  | absent {rule : FieldRule Node Fault α} {rules : List (FieldRule Node Fault α)}
      {members : List (String × Value)} {before after : α} (optional : rule.required = false)
      (rest : Fills levels rules members before after) :
      Fills levels (rule :: rules) members before after

namespace Fills

variable {rules : List (FieldRule Node Fault α)} {members : List (String × Value)}
  {before after : α} {name : String} {required : Bool} {read : Node → Except Fault β}
  {put : α → β → α} {item : β}

theorem plain (fills : Fills levels rules members before after) :
    ∀ member ∈ members, member.2.Plain := by
  induction fills with
  | done => exact nofun
  | given restores _ induction => exact List.forall_mem_cons.mpr ⟨restores.plain, induction⟩
  | absent _ _ induction => exact induction

/-- All members are read, and no field that must be given is missing. -/
theorem read_members {all : List (FieldRule Node Fault α)} {depth : Nat}
    (fills : Fills levels rules members before after) (enough : levels < depth)
    (known : ∀ rule ∈ rules, (all.find? fun other => other.name == rule.name) = some rule)
    (apart : (rules.map (·.name)).Nodup) (seen : List String)
    (fresh : ∀ rule ∈ rules, rule.name ∉ seen) :
    ∃ named, textFormat.readMembers all seen
        (Node.members (memberSources members) .closed depth).items before = .ok (named, after) ∧
      seen ⊆ named ∧ ∀ rule ∈ rules, rule.required = true → rule.name ∈ named := by
  induction fills generalizing seen with
  | done => exact ⟨seen, rfl, List.Subset.refl seen, nofun⟩
  | @given rule rules value members before between after restores rest induction =>
      obtain ⟨own, others⟩ := List.forall_mem_cons.mp known
      obtain ⟨unseen, unseenLater⟩ := List.forall_mem_cons.mp fresh
      rw [List.map_cons, List.nodup_cons] at apart
      have later : ∀ other ∈ rules, other.name ∉ rule.name :: seen := by
        intro other listed same
        rcases List.mem_cons.mp same with same | same
        · exact apart.1 (same ▸ List.mem_map_of_mem listed)
        · exact unseenLater other listed same
      obtain ⟨named, readRest, keeps, given⟩ := induction others apart.2 _ later
      rw [List.cons_subset] at keeps
      refine ⟨named, ?_, keeps.2, List.forall_mem_cons.mpr ⟨fun _ => keeps.1, given⟩⟩
      have absent : seen.contains rule.name = false := by
        simpa using unseen
      have items : (Node.members (memberSources ((rule.name, value) :: members)) .closed
          depth).items = (.ok rule.name, ⟨value.source, depth⟩) ::
            (Node.members (memberSources members) .closed depth).items := rfl
      rw [items, DataFormat.readMembers]
      simp only [own, absent, restores.reads depth enough, bind, Except.bind, Bool.false_eq_true,
        if_false]
      exact readRest
  | @absent rule rules members before after optional rest induction =>
      rw [List.map_cons, List.nodup_cons] at apart
      obtain ⟨named, readRest, keeps, given⟩ := induction (List.forall_mem_cons.mp known).2 apart.2
        seen (List.forall_mem_cons.mp fresh).2
      refine ⟨named, readRest, keeps, List.forall_mem_cons.mpr ⟨fun must => ?_, given⟩⟩
      rw [optional] at must
      cases must

theorem find_by_name {all : List (FieldRule Node Fault α)} (apart : (all.map (·.name)).Nodup) :
    ∀ rule ∈ all, (all.find? fun other => other.name == rule.name) = some rule := by
  induction all with
  | nil => exact nofun
  | cons first rest induction =>
      rw [List.map_cons, List.nodup_cons] at apart
      intro rule listed
      rcases List.mem_cons.mp listed with rfl | later
      · simp
      · have different : first.name ≠ rule.name := by
          intro same
          exact apart.1 (same ▸ List.mem_map_of_mem later)
        rw [List.find?_cons_of_neg (by simpa using different)]
        exact induction apart.2 rule later

theorem record {title : String} {initial : α} (apart : (rules.map (·.name)).Nodup)
    (fills : Fills levels rules members initial after) :
    Restores (levels + 1) (textFormat.readRecord title initial rules) (.object members) after := by
  refine ⟨.object fills.plain, fun depth enough => ?_⟩
  obtain ⟨entered, inside⟩ := Restores.enter (Value.object members).source enough
  obtain ⟨named, read, _, given⟩ := fills.read_members inside (find_by_name apart) apart []
    nofun
  have opened : textFormat.record title rules.length ⟨(Value.object members).source, depth⟩ =
      .ok (.named (Node.members (memberSources members) .closed (depth - 1))) := by
    change (do return RecordForm.named (Node.members _ _ (← Node.enter _))) = _
    rw [entered]
    rfl
  have complete : (rules.find? fun rule => rule.required && !named.contains rule.name) = none := by
    rw [List.find?_eq_none]
    intro rule listed
    have present := given rule listed
    simpa using present
  have closed : (Node.members (memberSources members) .closed (depth - 1)).finish = .ok () := rfl
  simp only [DataFormat.readRecord, opened, read, closed, complete, bind, Except.bind]

/-- A field whose value is always written. -/
theorem field {value : Value} (restores : Restores levels read value item)
    (rest : Fills levels rules members (put before item) after) :
    Fills levels (⟨name, required, fun node record => do return put record (← read node)⟩ :: rules)
      ((name, value) :: members) before after := by
  refine .given ⟨restores.plain, fun depth enough => ?_⟩ rest
  simp only [restores.reads depth enough, bind, Except.bind, pure, Except.pure]

/-- A field whose value is written unless it is the one that the record begins with. -/
theorem optional {written : List (String × Value)}
    (either : written = [] ∧ put before item = before ∨
      ∃ value, written = [(name, value)] ∧ Restores levels read value item)
    (rest : Fills levels rules members (put before item) after) :
    Fills levels (⟨name, false, fun node record => do return put record (← read node)⟩ :: rules)
      (written ++ members) before after := by
  rcases either with ⟨rfl, same⟩ | ⟨value, rfl, restores⟩
  · rw [same] at rest
    exact .absent rfl rest
  · exact field restores rest

end Fills

end ApiCompiler.Json
