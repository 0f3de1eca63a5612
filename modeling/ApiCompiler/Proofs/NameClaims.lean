import ApiCompiler.Proofs.CallLog
import ApiCompiler.Proofs.NameRegistry
import Mathlib.Order.Bounds.Defs

/-!
Runs of a name registry. The search for a number has no bound of its own; it ends, because only
finitely many names are taken, at the least number that makes a free name. A name that is claimed is
one that no earlier call has claimed or reserved.
-/

set_option autoImplicit false

namespace ApiCompiler.NameRegistry

variable {registry : NameRegistry} {base name : String} {number : Nat}

/-! ### One claim -/

/-- The search for a free number, from some number on and as far as it takes. -/
inductive Searches (registry : NameRegistry) (base : String) : Nat → String → Prop
  | free {number : Nat} (free : numbered base number ∉ registry.taken) :
      Searches registry base number (numbered base number)
  | taken {number : Nat} {name : String} (taken : numbered base number ∈ registry.taken)
      (onward : Searches registry base (number + 1) name) : Searches registry base number name

theorem searches_least {chosen : Nat} (within : number ≤ chosen)
    (free : numbered base chosen ∉ registry.taken)
    (before : ∀ earlier, number ≤ earlier → earlier < chosen →
      numbered base earlier ∈ registry.taken) :
    Searches registry base number (numbered base chosen) := by
  obtain ⟨gap, rfl⟩ := Nat.exists_eq_add_of_le within
  induction gap generalizing number with
  | zero => exact .free free
  | succ gap induction =>
      have next : number + 1 + gap = number + (gap + 1) := by omega
      refine .taken (before number (Nat.le_refl number) (by omega)) ?_
      rw [← next] at free before ⊢
      exact induction (by omega) free fun earlier atLeast => before earlier (by omega)

theorem free_name_least (taken : base ∈ registry.taken) :
    ∃ number, registry.freeName base = numbered base number ∧
      IsLeast {number | 2 ≤ number ∧ numbered base number ∉ registry.taken} number := by
  rcases registry.free_name_eq base with ⟨free, _⟩ | ⟨_, chosen, same, atLeast, free, before⟩
  · exact absurd taken free
  · refine ⟨chosen, same, ⟨atLeast, free⟩, ?_⟩
    rintro other ⟨atLeast', free'⟩
    by_contra above
    exact free' (before other atLeast' (Nat.lt_of_not_le above))

/-- What a claim of a base gives, and what it changes. -/
structure Claims (registry : NameRegistry) (base name : String) (after : NameRegistry) : Prop where
  own : base ∉ registry.taken → name = base
  searched : base ∈ registry.taken → Searches registry base 2 name
  least : base ∈ registry.taken → ∃ number, name = numbered base number ∧
    number ≤ registry.taken.length + 2 ∧
      IsLeast {number | 2 ≤ number ∧ numbered base number ∉ registry.taken} number
  free : name ∉ registry.taken
  taken_iff : ∀ other, other ∈ after.taken ↔ other = name ∨ other ∈ registry.taken

theorem claim_claims (registry : NameRegistry) (base : String) :
    registry.Claims base (registry.claim base).1 (registry.claim base).2 := by
  change registry.Claims base (registry.freeName base)
    (registry.reserve (registry.freeName base))
  refine ⟨?_, ?_, ?_, registry.free_name_not_taken base, fun other => mem_reserve_iff⟩
  · intro free
    rw [freeName, if_neg (by simpa [isTaken] using free)]
  · intro taken
    obtain ⟨chosen, same, ⟨atLeast, free⟩, least⟩ := free_name_least taken
    rw [same]
    apply searches_least atLeast free
    intro earlier atLeast' below
    by_contra free'
    exact absurd (least ⟨atLeast', free'⟩) (Nat.not_le_of_lt below)
  · intro taken
    obtain ⟨chosen, same, least⟩ := free_name_least taken
    -- One of the first numbers is free, as there are more of them than taken names.
    obtain ⟨other, atLeast, atMost, free⟩ := exists_free registry.taken base 2
    refine ⟨chosen, same, ?_, least⟩
    have near := least.2 ⟨atLeast, free⟩
    omega

/-! ### Runs -/

inductive Call
  | reserve (name : String)
  | claim (base : String)

inductive Event
  | reserved (name : String)
  | claimed (base name : String)
  deriving DecidableEq

def serve (registry : NameRegistry) : Call → Event × NameRegistry
  | .reserve name => (.reserved name, registry.reserve name)
  | .claim base => (.claimed base (registry.claim base).1, (registry.claim base).2)

def Event.call : Event → Call
  | reserved name => .reserve name
  | claimed base _ => .claim base

/-- The name that is in use from an event on. -/
def Event.used : Event → String
  | reserved name => name
  | claimed _ name => name

/-- The names in use are those of the events, and no claim has given the name of an event before
it. -/
structure Records (log : List Event) (registry : NameRegistry) : Prop where
  taken_iff : ∀ name, name ∈ registry.taken ↔ ∃ event ∈ log, event.used = name
  claimed_fresh : log.Pairwise fun earlier later =>
    ∀ base name, later = .claimed base name → earlier.used ≠ name

theorem Records.concat {log : List Event} {event : Event} {after : NameRegistry}
    (records : Records log registry)
    (taken : ∀ other, other ∈ after.taken ↔ other = event.used ∨ other ∈ registry.taken)
    (fresh : ∀ base name, event = .claimed base name → name ∉ registry.taken) :
    Records (log ++ [event]) after := by
  constructor
  · intro name
    simp only [taken, records.taken_iff, List.mem_append, List.mem_singleton, or_and_right,
      exists_or, exists_eq_left]
    rw [or_comm, eq_comm]
  · rw [List.pairwise_append]
    refine ⟨records.claimed_fresh, List.pairwise_singleton _ _, ?_⟩
    intro earlier listed later own base name claimed same
    rw [List.mem_singleton.mp own] at claimed
    exact fresh base name claimed ((records.taken_iff name).mpr ⟨earlier, listed, same⟩)

theorem Records.serve {log : List Event} (records : Records log registry) (call : Call) :
    Records (log ++ [(registry.serve call).1]) (registry.serve call).2 := by
  cases call with
  | reserve name => exact records.concat (fun other => mem_reserve_iff) nofun
  | claim base =>
      have claims := registry.claim_claims base
      refine records.concat claims.taken_iff ?_
      rintro _ _ ⟨⟩
      exact claims.free

/-- In every registry that some calls have led to, a claim gives the base or else the base with the
least number from two on that makes it free, and takes this name only. So a name that is claimed
differs from all that were claimed or reserved before it. -/
theorem claims_after_calls (calls : List Call) :
    let run := runCalls serve empty calls
    run.1.map Event.call = calls ∧ Records run.1 run.2 ∧
      ∀ base, run.2.Claims base (run.2.claim base).1 (run.2.claim base).2 := by
  have records : Records [] empty := ⟨by simp [empty], .nil⟩
  refine ⟨run_calls_told ?_ calls empty, ?_, fun base => claim_claims _ base⟩
  · intro registry call
    cases call <;> rfl
  · exact run_calls_keep (fun log registry call kept => kept.serve call) calls records

-- The number of one base meets the figures in which another base ends.
example : (runCalls serve empty [.claim "pets", .claim "pets", .reserve "pets3", .claim "pets",
    .claim "pets2"]).1 = [.claimed "pets" "pets", .claimed "pets" "pets2", .reserved "pets3",
    .claimed "pets" "pets4", .claimed "pets2" "pets22"] := by decide +kernel

end ApiCompiler.NameRegistry
