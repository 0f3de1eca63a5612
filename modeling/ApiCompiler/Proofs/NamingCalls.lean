import ApiCompiler.Proofs.CallLog
import ApiCompiler.Proofs.ComponentNames

/-!
Names of components over any calls. A type keeps the name that it is given first, no other type gets
it, and a type without a name is given none that was reserved before. Looking up a type shows
whether a name has been given to it, and which.
-/

set_option autoImplicit false

namespace ApiCompiler.ComponentNames

variable {names : ComponentNames} {id name : String}

inductive Request
  | change (call : Call)
  | lookup (typeId : String)

inductive Event
  | reserved (name : String)
  | named (typeId name : String)
  | lookedUp (typeId : String) (answer : Option String)
  deriving DecidableEq

def serve (names : ComponentNames) : Request → Event × ComponentNames
  | .change (.reserve name) => (.reserved name, names.call (.reserve name))
  | .change (.nameOf typeId) => (.named typeId (names.nameOf typeId).1, names.call (.nameOf typeId))
  | .lookup typeId => (.lookedUp typeId (names.lookup typeId), names)

def Event.request : Event → Request
  | reserved name => .change (.reserve name)
  | named typeId _ => .change (.nameOf typeId)
  | lookedUp typeId _ => .lookup typeId

/-! ### What is remembered -/

/-- The types with names are those that have been asked for, and names are not forgotten. -/
structure Remembers (log : List Event) (names : ComponentNames) : Prop where
  lookup_iff : ∀ id name, names.lookup id = some name ↔ .named id name ∈ log
  reserved_taken : ∀ name, .reserved name ∈ log → name ∈ names.registry.taken
  proper : names.Proper []

variable {log : List Event}

theorem remembers_nothing : Remembers [] empty := by
  have unnamed : ∀ id name, empty.lookup id ≠ some name := by
    intro id name known
    cases known
  refine ⟨?_, nofun, ⟨?_, ?_, List.nil_subset _, ?_⟩⟩
  · exact fun id name => by simp [unnamed]
  · exact fun id name known => absurd known (unnamed id name)
  · exact fun id other name known => absurd known (unnamed id name)
  · exact fun id name known => List.not_mem_nil

theorem Remembers.reserve (remembers : Remembers log names) (name : String) :
    Remembers (log ++ [.reserved name]) (names.reserve name) := by
  have still : ∀ other, other ∈ names.registry.taken →
      other ∈ (names.reserve name).registry.taken :=
    fun other taken => NameRegistry.mem_reserve_iff.mpr (.inr taken)
  refine ⟨?_, ?_, ?_, remembers.proper.injective, List.nil_subset _, ?_⟩
  · intro id given
    change names.lookup id = some given ↔ _
    simpa using remembers.lookup_iff id given
  · intro other listed
    rcases List.mem_append.mp listed with earlier | own
    · exact still other (remembers.reserved_taken other earlier)
    · obtain rfl : other = name := by simpa using own
      exact NameRegistry.mem_reserve_iff.mpr (.inl rfl)
  · exact fun id given known => still given (remembers.proper.taken id given known)
  · exact fun id given known => List.not_mem_nil

theorem Remembers.name_of (remembers : Remembers log names) (id : String) :
    Remembers (log ++ [.named id (names.nameOf id).1]) (names.nameOf id).2 := by
  cases known : names.lookup id with
  | some name =>
      have listed := (remembers.lookup_iff id name).mp known
      rw [name_of_known known]
      refine ⟨?_, ?_, remembers.proper⟩
      · intro other given
        rw [remembers.lookup_iff, List.mem_append, List.mem_singleton, Event.named.injEq]
        constructor
        · exact .inl
        · rintro (earlier | ⟨rfl, rfl⟩)
          · exact earlier
          · exact listed
      · exact fun other reserved => remembers.reserved_taken other (by simpa using reserved)
  | none =>
      rw [name_of_fresh known]
      refine ⟨?_, ?_, remembers.proper.with_fresh id⟩
      · intro other given
        rw [List.mem_append, List.mem_singleton, Event.named.injEq, ← remembers.lookup_iff]
        by_cases same : other = id
        · subst same
          rw [lookup_fresh_self, known]
          simp [eq_comm]
        · rw [lookup_fresh_other same]
          simp [same]
      · intro other reserved
        apply NameRegistry.mem_reserve_iff.mpr
        exact .inr (remembers.reserved_taken other (by simpa using reserved))

theorem Remembers.looked_up (remembers : Remembers log names) (id : String)
    (answer : Option String) : Remembers (log ++ [.lookedUp id answer]) names := by
  refine ⟨?_, ?_, remembers.proper⟩
  · exact fun other name => by simpa using remembers.lookup_iff other name
  · exact fun name reserved => remembers.reserved_taken name (by simpa using reserved)

/-! ### What is answered -/

/-- What an event shows, by what has happened before it. -/
def Event.Follows (before : List Event) : Event → Prop
  | reserved _ => True
  | named id name => .named id name ∈ before ∨ .reserved name ∉ before
  | lookedUp id answer => ∀ name, answer = some name ↔ .named id name ∈ before

theorem Remembers.named_follows (remembers : Remembers log names) (id : String) :
    (Event.named id (names.nameOf id).1).Follows log := by
  cases known : names.lookup id with
  | some name =>
      rw [name_of_known known]
      exact .inl ((remembers.lookup_iff id name).mp known)
  | none =>
      rw [name_of_fresh known]
      refine .inr fun reserved => ?_
      exact names.registry.free_name_not_taken _ (remembers.reserved_taken _ reserved)

/-- The state that calls have led to, and what each of them has answered. -/
structure Recorded (log : List Event) (names : ComponentNames) : Prop where
  remembers : Remembers log names
  follows : EachAfter Event.Follows log

theorem Recorded.serve (recorded : Recorded log names) (request : Request) :
    Recorded (log ++ [(names.serve request).1]) (names.serve request).2 := by
  have remembers := recorded.remembers
  cases request with
  | change call =>
      cases call with
      | reserve name => exact ⟨remembers.reserve name, each_after_concat recorded.follows trivial⟩
      | nameOf id =>
          exact ⟨remembers.name_of id,
            each_after_concat recorded.follows (remembers.named_follows id)⟩
  | lookup id =>
      exact ⟨remembers.looked_up id _,
        each_after_concat recorded.follows (remembers.lookup_iff id)⟩

/-- Over any calls, one type has one name and different types have different names; a name is given
anew only if it was not reserved before, and a lookup shows just the names that were given. -/
theorem names_of_calls (endpoints : List Endpoint) (requests : List Request) :
    let run := runCalls serve (BuildContext.ofEndpoints endpoints).components requests
    run.1.map Event.request = requests ∧
    (∀ id other name name', .named id name ∈ run.1 → .named other name' ∈ run.1 →
      (name = name' ↔ id = other)) ∧
    EachAfter Event.Follows run.1 ∧
    ∀ id name, run.2.lookup id = some name ↔ .named id name ∈ run.1 := by
  have recorded : Recorded [] empty := ⟨remembers_nothing, by simp [EachAfter]⟩
  obtain ⟨remembers, follows⟩ :=
    run_calls_keep (fun log names request kept => kept.serve request) requests recorded
  refine ⟨run_calls_told ?_ requests _, ?_, follows, remembers.lookup_iff⟩
  · intro names request
    cases request with
    | change call => cases call <;> rfl
    | lookup id => rfl
  · intro id other name name' given given'
    have known := (remembers.lookup_iff id name).mpr given
    have known' := (remembers.lookup_iff other name').mpr given'
    constructor
    · rintro rfl
      exact remembers.proper.injective id other name known known'
    · rintro rfl
      exact Option.some.inj (known.symm.trans known')

-- A reservation that comes too late for one type holds for the next.
example : (runCalls serve empty [.change (.nameOf "shop::Pet"), .change (.reserve "Pet"),
    .change (.reserve "Pet2"), .change (.nameOf "zoo::Pet"), .change (.nameOf "shop::Pet"),
    .lookup "zoo::Pet", .lookup "Pet"]).1 = [.named "shop::Pet" "Pet", .reserved "Pet",
      .reserved "Pet2", .named "zoo::Pet" "Pet3", .named "shop::Pet" "Pet",
      .lookedUp "zoo::Pet" (some "Pet3"), .lookedUp "Pet" none] := by decide +kernel

end ApiCompiler.ComponentNames
