import ApiCompiler.Json.Source
import ApiCompiler.Proofs.WrittenTokens

/-!
The tree of JSON text that was written from a value: the value itself, in which nothing is broken.
Whatever lists and objects are open around the value, it is built as if it stood alone.
-/

set_option autoImplicit false

namespace ApiCompiler.Json

/-- A key as it is written. -/
def writtenKey (key : String) : Key := ⟨key.toList.flatMap escapeChar, .ok key⟩

mutual

/-- A value as a tree. -/
def Value.source : Value → Source
  | .null => .null
  | .bool flag => .bool flag
  | .number value => .number value
  | .string text => .string text
  | .array items => .list (itemSources items) .closed
  | .object members => .object (memberSources members) .closed

def itemSources : List Value → List Source
  | [] => []
  | item :: rest => item.source :: itemSources rest

def memberSources : List (String × Value) → List (Key × Source)
  | [] => []
  | (key, value) :: rest => (writtenKey key, value.source) :: memberSources rest

end

theorem item_sources_eq (items : List Value) : itemSources items = items.map Value.source := by
  induction items with
  | nil => rfl
  | cons item rest induction => rw [itemSources, induction, List.map_cons]

namespace Source

/-- What is built once a step is made. -/
def Step.resume (rest : List Token) : Step → Source × List Token
  | .next expected frames => build rest expected frames
  | .finished source => (source, rest)
  | .stopped source => (source, [])

theorem build_cons (token : Token) (rest : List Token) (expected : Expected) (frames : List Frame) :
    build (token :: rest) expected frames = (step token frames expected).resume rest := by
  rw [build]
  cases step token frames expected <;> rfl

/-- Tokens are built as a value, whatever is open around it and stands behind it. -/
def BuiltAs (tokens : List Token) (source : Source) : Prop :=
  ∀ rest frames, build (tokens ++ rest) .value frames = (Step.deliver source frames).resume rest

/-- A value does not begin as the end of a list does. -/
theorem value_begins (value : Value) :
    ∃ token rest, value.tokens = token :: rest ∧ token ≠ .closeList := by
  cases value <;> exact ⟨_, _, rfl, nofun⟩

/-- The places in which an item of a list may stand. -/
inductive Expected.IsItem : Expected → Prop
  | first : IsItem .firstItem
  | next : IsItem .nextItem

/-- The places in which a key of an object may stand. -/
inductive Expected.IsKey : Expected → Prop
  | first : IsKey .firstKey
  | next : IsKey .nextKey

theorem step_item {expected : Expected} (place : expected.IsItem) {token : Token}
    (notEnd : token ≠ .closeList) (frames : List Frame) :
    step token frames expected = step token frames .value := by
  cases place <;> cases token <;> first | rfl | exact absurd rfl notEnd

theorem build_item {expected : Expected} (place : expected.IsItem) (value : Value)
    (rest : List Token) (frames : List Frame) :
    build (value.tokens ++ rest) expected frames = build (value.tokens ++ rest) .value frames := by
  obtain ⟨token, others, begins, notEnd⟩ := value_begins value
  rw [begins, List.cons_append, build_cons, build_cons, step_item place notEnd]

theorem build_key {expected : Expected} (place : expected.IsKey) (key : String)
    (rest : List Token) (before : List (Key × Source)) (frames : List Frame) :
    build (textToken key :: .colon :: rest) expected (.object before :: frames) =
      build rest .value (.member before (writtenKey key) :: frames) := by
  cases place <;> rw [build_cons] <;> rfl

theorem build_items {items : List Value}
    (each : ∀ item ∈ items, BuiltAs item.tokens item.source) (filled : items ≠ [])
    {expected : Expected} (place : expected.IsItem) (before : List Source) (rest : List Token)
    (frames : List Frame) :
    build (commas (items.map Value.tokens) ++ .closeList :: rest) expected
        (.list before :: frames) =
      (Step.deliver (.list (before.reverse ++ items.map Value.source) .closed) frames).resume
        rest := by
  induction items generalizing before expected with
  | nil => exact absurd rfl filled
  | cons item items induction =>
      obtain ⟨first, others⟩ := List.forall_mem_cons.mp each
      cases items with
      | nil =>
          rw [List.map_singleton, commas, build_item place, first, Step.deliver, Step.resume,
            build_cons]
          simp [step, Step.separator, Step.leave, Frame.finish, Frame.add]
      | cons next items =>
          have comma : step .comma ((Frame.list before).add item.source :: frames) .separator =
              .next .nextItem (.list (item.source :: before) :: frames) := rfl
          have behind := induction others (List.cons_ne_nil _ _) .next (item.source :: before)
          rw [List.reverse_cons, List.append_assoc] at behind
          have several : commas ((item :: next :: items).map Value.tokens) =
              item.tokens ++ .comma :: commas ((next :: items).map Value.tokens) := rfl
          rw [several, List.append_assoc, build_item place, first, Step.deliver, Step.resume,
            List.cons_append, build_cons, comma, Step.resume, behind]
          rfl

theorem build_members {members : List (String × Value)}
    (each : ∀ member ∈ members, BuiltAs member.2.tokens member.2.source) (filled : members ≠ [])
    {expected : Expected} (place : expected.IsKey) (before : List (Key × Source))
    (rest : List Token) (frames : List Frame) :
    build (commas (memberTokens members) ++ .closeObject :: rest) expected
        (.object before :: frames) =
      (Step.deliver (.object (before.reverse ++ memberSources members) .closed) frames).resume
        rest := by
  induction members generalizing before expected with
  | nil => exact absurd rfl filled
  | cons member members induction =>
      obtain ⟨key, value⟩ := member
      obtain ⟨first, others⟩ := List.forall_mem_cons.mp each
      cases members with
      | nil =>
          simp only [memberTokens, commas, List.cons_append]
          rw [build_key place, first, Step.deliver, Step.resume, build_cons]
          simp [step, Step.separator, Step.leave, Frame.finish, Frame.add, memberSources]
      | cons next members =>
          have comma : step .comma
              ((Frame.member before (writtenKey key)).add value.source :: frames) .separator =
                .next .nextKey (.object ((writtenKey key, value.source) :: before) :: frames) := rfl
          have behind := induction others (List.cons_ne_nil _ _) .next
            ((writtenKey key, value.source) :: before)
          rw [List.reverse_cons, List.append_assoc] at behind
          simp only [memberTokens, commas, List.cons_append, List.append_assoc] at behind ⊢
          rw [build_key place, first, Step.deliver, Step.resume, build_cons, comma, Step.resume]
          exact behind

theorem plain_built {value : Value} (plain : value.Plain) : BuiltAs value.tokens value.source := by
  induction plain with
  | null | bool | whole | negative | string => exact fun rest frames => build_cons _ _ _ _
  | @array items _ induction =>
      intro rest frames
      rw [Value.tokens, Value.source, List.cons_append, build_cons, item_tokens_eq, item_sources_eq,
        List.append_assoc, List.singleton_append]
      change build _ .firstItem (.list [] :: frames) = _
      cases items with
      | nil => exact build_cons _ _ _ _
      | cons item items => exact build_items induction (List.cons_ne_nil _ _) .first [] rest frames
  | @object members _ induction =>
      intro rest frames
      rw [Value.tokens, Value.source, List.cons_append, build_cons, List.append_assoc,
        List.singleton_append]
      change build _ .firstKey (.object [] :: frames) = _
      cases members with
      | nil => exact build_cons _ _ _ _
      | cons member members =>
          exact build_members induction (List.cons_ne_nil _ _) .first [] rest frames

/-- A text that is read as the tokens of a value is read as the value, and nothing is left over. -/
theorem read_of_reads_as {text : String} {value : Value} (plain : value.Plain)
    (reads : ReadsAs text value.tokens) : read text = (value.source, false) := by
  have whole : tokenize text.toList = value.tokens ++ [] := by
    have alone := reads [] nofun
    rwa [List.append_nil, tokenize_nothing] at alone
  rw [read, whole, plain_built plain [] []]
  rfl

theorem read_compact {value : Value} (plain : value.Plain) :
    read value.compact = (value.source, false) := read_of_reads_as plain plain.compact_reads

theorem read_pretty {value : Value} (plain : value.Plain) (depth : Nat) :
    read (value.pretty depth) = (value.source, false) :=
  read_of_reads_as plain (plain.pretty_reads depth)

end Source

end ApiCompiler.Json
