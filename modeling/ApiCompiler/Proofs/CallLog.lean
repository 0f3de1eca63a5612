/-!
Calls that are made one after the other on a state, and the log of what has happened in them. What
one call carries over from a log to the log with its own event holds after any calls.
-/

set_option autoImplicit false

namespace ApiCompiler

section

variable {State Call Event : Type}

/-- The events of some calls, and the state behind the last one. -/
def runCalls (serve : State → Call → Event × State) : State → List Call → List Event × State
  | state, [] => ([], state)
  | state, call :: rest =>
      let (event, next) := serve state call
      let (log, last) := runCalls serve next rest
      (event :: log, last)

variable {serve : State → Call → Event × State}

theorem run_calls_keep {Holds : List Event → State → Prop}
    (keeps : ∀ log state call, Holds log state →
      Holds (log ++ [(serve state call).1]) (serve state call).2)
    (calls : List Call) {log : List Event} {state : State} (start : Holds log state) :
    Holds (log ++ (runCalls serve state calls).1) (runCalls serve state calls).2 := by
  induction calls generalizing log state with
  | nil => simpa [runCalls] using start
  | cons call rest induction => simpa [runCalls] using induction (keeps log state call start)

/-- Where an event tells its call, the log tells the calls. -/
theorem run_calls_told {told : Event → Call} (tells : ∀ state call, told (serve state call).1 = call)
    (calls : List Call) (state : State) : (runCalls serve state calls).1.map told = calls := by
  induction calls generalizing state with
  | nil => rfl
  | cons call rest induction => simp [runCalls, tells, induction]

/-- Something holds of each event and the log before it. -/
def EachAfter (holds : List Event → Event → Prop) (log : List Event) : Prop :=
  ∀ before event after, log = before ++ event :: after → holds before event

theorem each_after_concat {holds : List Event → Event → Prop} {log : List Event} {event : Event}
    (each : EachAfter holds log) (last : holds log event) : EachAfter holds (log ++ [event]) := by
  intro before own after split
  rcases List.eq_nil_or_concat after with rfl | ⟨rest, final, rfl⟩
  · obtain ⟨rfl, same⟩ := List.append_inj' split rfl
    cases same
    exact last
  · rw [List.concat_eq_append, ← List.cons_append, ← List.append_assoc] at split
    exact each before own rest (List.append_inj' split rfl).1

end

end ApiCompiler
