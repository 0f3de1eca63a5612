import ApiCompiler.Proofs.PetRequests

/-!
Requests that make a pet. The body gives the name and the query says whether it is a dry run, and
neither can say what the other one does.
-/

set_option autoImplicit false

namespace ApiCompiler

namespace Json

/-! ### Texts as bytes -/

theorem Source.read_bytes_of_text (text : String) :
    Source.readBytes (Text.toUtf8 text) = Source.read text := by
  rw [Source.readBytes, tokenizeBytes, Text.of_utf8_encoded]
  rfl

/-- A text is read from its bytes as it is read itself. -/
theorem read_bytes_of_text {α : Type} (read : Node → Except Fault α) (text : String) :
    readBytes read (Text.toUtf8 text) = readText read text := by
  rw [readBytes, Source.read_bytes_of_text]
  rfl

-- A byte of no character between two quotes is in the way of a reader, and of no one else.
example : readBytes Node.text [0x22, 0xFF, 0x22] = .error (.malformed .invalidCodePoint) ∧
    readBytes Node.skip [0x22, 0xFF, 0x22] = .ok () := by decide +kernel

/-! ### Members that no record asks for -/

theorem plain_skipped {value : Value} (plain : value.Plain) : value.source.skipFault = none := by
  induction plain with
  | null | bool | whole | negative | string => rfl
  | @array items each induction =>
      have nothing : itemsSkipFault (itemSources items) = none := by
        rw [item_sources_eq]
        clear each
        induction items with
        | nil => rfl
        | cons item items rest =>
            obtain ⟨own, others⟩ := List.forall_mem_cons.mp induction
            rw [List.map_cons, itemsSkipFault, own, rest others]
            rfl
      rw [Value.source, Source.skipFault, nothing]
      rfl
  | @object members each induction =>
      have nothing : membersSkipFault (memberSources members) = none := by
        clear each
        induction members with
        | nil => rfl
        | cons member members rest =>
            obtain ⟨own, others⟩ := List.forall_mem_cons.mp induction
            rw [memberSources, membersSkipFault, own, rest others]
            rfl
      rw [Value.source, Source.skipFault, nothing]
      rfl

theorem member_sources_append (front rest : List (String × Value)) :
    memberSources (front ++ rest) = memberSources front ++ memberSources rest := by
  induction front with
  | nil => rfl
  | cons member front induction =>
      rw [List.cons_append, memberSources, memberSources, induction]
      rfl

variable {α : Type} {rules : List (FieldRule Node Fault α)}

/-- Members whose keys mean nothing are passed over. -/
theorem read_members_unknown {unknown : List (String × Value)}
    (skipped : ∀ member ∈ unknown, member.2.Plain ∧
      (rules.find? fun rule => rule.name == member.1) = none)
    (rest : List (Key × Source)) (depth : Nat) (seen : List String) (record : α) :
    textFormat.readMembers rules seen
        (Node.members (memberSources unknown ++ rest) .closed depth).items record =
      textFormat.readMembers rules seen (Node.members rest .closed depth).items record := by
  induction unknown with
  | nil => rfl
  | cons member unknown induction =>
      obtain ⟨⟨plain, foreign⟩, others⟩ := List.forall_mem_cons.mp skipped
      have items : (Node.members (memberSources (member :: unknown) ++ rest) .closed depth).items =
          (.ok member.1, ⟨member.2.source, depth⟩) ::
            (Node.members (memberSources unknown ++ rest) .closed depth).items := rfl
      have skip : textFormat.skip ⟨member.2.source, depth⟩ = .ok () := by
        change Node.skip _ = _
        rw [Node.skip, plain_skipped plain]
      rw [items, DataFormat.readMembers]
      simp only [foreign, skip, bind, Except.bind]
      exact induction others

end Json

namespace Petstore

open Http (Request Response)
open Json (Value)

/-- A body in which the name stands among members of other names. -/
def petBody (before after : List (String × Value)) (name : String) : Value :=
  .object (before ++ ("name", .string name) :: after)

/-- The only member of a body that counts. -/
def nameRule : FieldRule Json.Node Json.Fault CreatePet :=
  ⟨"name", true, fun value request => return { request with name := ← Json.textFormat.text value }⟩

theorem read_pet_members {before after : List (String × Value)} (name : String)
    (others : ∀ member ∈ before ++ after, member.2.Plain ∧ member.1 ≠ "name") (depth : Nat) :
    Json.textFormat.readMembers [nameRule] []
        (Json.Node.members (Json.memberSources (before ++ ("name", .string name) :: after)) .closed
          depth).items ⟨"", none⟩ = .ok (["name"], ⟨name, none⟩) := by
  have foreign : ∀ member ∈ before ++ after, member.2.Plain ∧
      ([nameRule].find? fun rule => rule.name == member.1) = none := by
    intro member listed
    obtain ⟨plain, other⟩ := others member listed
    exact ⟨plain, by simp [nameRule, Ne.symm other]⟩
  obtain ⟨front, back⟩ := List.forall_mem_append.mp foreign
  rw [Json.member_sources_append, Json.read_members_unknown front, Json.memberSources]
  have items : (Json.Node.members ((Json.writtenKey "name", (Value.string name).source) ::
      Json.memberSources after) .closed depth).items = (.ok "name", ⟨.string name, depth⟩) ::
        (Json.Node.members (Json.memberSources after ++ []) .closed depth).items := by
    rw [List.append_nil]
    rfl
  have known : ([nameRule].find? fun rule => rule.name == "name") = some nameRule := rfl
  have own : nameRule.read ⟨.string name, depth⟩ ⟨"", none⟩ = .ok ⟨name, none⟩ := rfl
  rw [items, DataFormat.readMembers]
  simp only [known, own, bind, Except.bind, List.contains_nil, Bool.false_eq_true, if_false]
  exact Json.read_members_unknown back [] depth _ _

theorem pet_body_plain {before after : List (String × Value)} (name : String)
    (others : ∀ member ∈ before ++ after, member.2.Plain) :
    (petBody before after name).Plain := by
  obtain ⟨front, back⟩ := List.forall_mem_append.mp others
  apply Value.Plain.object
  exact List.forall_mem_append.mpr ⟨front, List.forall_mem_cons.mpr ⟨.string name, back⟩⟩

theorem pet_body_read {before after : List (String × Value)} (name : String)
    (others : ∀ member ∈ before ++ after, member.2.Plain ∧ member.1 ≠ "name") {text : String}
    (reads : Json.Source.read text = ((petBody before after name).source, false)) :
    Json.readText readCreatePet text = .ok ⟨name, none⟩ := by
  have members := read_pet_members name others (Json.depthLimit - 1)
  have opened : Json.textFormat.record "CreatePet" [nameRule].length
      ⟨(petBody before after name).source, Json.depthLimit⟩ = .ok (.named (Json.Node.members
        (Json.memberSources (before ++ ("name", .string name) :: after)) .closed
          (Json.depthLimit - 1))) := rfl
  have closed : (Json.Node.members (Json.memberSources (before ++ ("name", .string name) :: after))
      .closed (Json.depthLimit - 1)).finish = .ok () := rfl
  have top : Json.textFormat.readRecord "CreatePet" ⟨"", none⟩ [nameRule]
      ⟨(petBody before after name).source, Json.depthLimit⟩ = .ok ⟨name, none⟩ := by
    simp only [DataFormat.readRecord, opened, members, closed, bind, Except.bind]
    rfl
  change Json.readText (Json.textFormat.readRecord "CreatePet" ⟨"", none⟩ [nameRule]) text = _
  simp only [Json.readText, reads, top, bind, Except.bind, Bool.false_eq_true, if_false]

/-! ### Serving -/

def dryRunSlot : Slot := ⟨.query, "dry_run", "dry_run"⟩

/-- A request that a pet be made, with a body that is not too long. -/
structure Creates (request : Request) : Prop where
  method : request.method = "POST"
  path : request.target.path = "/pets"
  short : request.body.length ≤ bodyLimit

/-- What is made of a body that was read. -/
def answerDecoded (decoded : CreatePet) (request : Request) : Response :=
  answer (dryRunSlot.optionalOne .bool (.ofRequest [] request)) fun dryRun =>
    .ok (createPet { decoded with dryRun }).toJson

variable {request : Request}

/-- The body is read before the query is looked at. -/
theorem serve_create_pet (creates : Creates request) : serve request =
    match Json.readBytes readCreatePet request.body with
    | .ok decoded => answerDecoded decoded request
    | .error fault => (BindFault.malformedBody fault).respond := by
  have method : Method.ofName? "POST" = some .post := by decide
  have route : Route.ofPath? "/pets" = some .pets := by decide
  have short : ¬bodyLimit < request.body.length := Nat.not_lt.mpr creates.short
  rw [serve, creates.path, route]
  simp only [answerAt, creates.method, method, dispatch?, answerCreatePet, withBody, if_neg short,
    Option.getD_some, bindCreatePet, RequestParts.bodyAs, RequestParts.ofRequest]
  cases Json.readBytes readCreatePet request.body with
  | error fault => rfl
  | ok decoded =>
      change answer (do
        let dryRun ← dryRunSlot.optionalOne .bool (.ofRequest [] request)
        return { decoded with dryRun }) _ = answerDecoded decoded request
      unfold answerDecoded
      cases dryRunSlot.optionalOne .bool (.ofRequest [] request) <;> rfl

theorem first_dry_run (request : Request) : dryRunSlot.first? (.ofRequest [] request) =
    (request.queryValues "dry_run").head? := Http.Request.first_query_eq

/-- The id of a pet that is made, or is not. -/
def madeId (dryRun : Option Bool) : Int := if dryRun = some true then 0 else 1

theorem made_shown (name : String) (dryRun : Option Bool) :
    (Response.ok (createPet ⟨name, dryRun⟩).toJson).Shows
      (petMembers ⟨madeId dryRun, name, [], none⟩) := by
  have id : IntegerWidth.Holds ⟨true, 64⟩ (madeId dryRun) := by
    unfold madeId
    split_ifs <;> decide
  have made : createPet ⟨name, dryRun⟩ = ⟨madeId dryRun, name, [], none⟩ := rfl
  rw [made]
  exact pet_shown id nofun

theorem made_members (name : String) (dryRun : Option Bool) :
    (Response.ok (createPet ⟨name, dryRun⟩).toJson).member? "id" =
        some (.ofInt (madeId dryRun)) ∧
      (Response.ok (createPet ⟨name, dryRun⟩).toJson).member? "name" = some (.string name) :=
  ⟨made_shown name dryRun "id", made_shown name dryRun "name"⟩

/-- What was read of the body and what is bound from the query settle the answer. -/
theorem decoded_accepted {decoded : CreatePet}
    (accepted : (answerDecoded decoded request).status = 200) :
    ∃ dryRun, Option.Rel SpellsFlag (request.queryValues "dry_run").head? dryRun ∧
      answerDecoded decoded request = .ok (createPet ⟨decoded.name, dryRun⟩).toJson := by
  unfold answerDecoded at accepted ⊢
  cases bound : dryRunSlot.optionalOne .bool (.ofRequest [] request) with
  | error fault =>
      rw [bound] at accepted
      exact absurd accepted (by simp [answer, BindFault.respond, Response.error, Response.json])
  | ok dryRun =>
      have spells := Slot.optional_one_ok_iff.mp bound
      rw [first_dry_run] at spells
      exact ⟨dryRun, spells, rfl⟩

theorem decoded_accepted_iff {decoded : CreatePet} :
    (answerDecoded decoded request).status = 200 ↔
      ∀ word, (request.queryValues "dry_run").head? = some word → ∃ flag, SpellsFlag word flag := by
  constructor
  · intro accepted word first
    obtain ⟨dryRun, spells, _⟩ := decoded_accepted accepted
    rw [first] at spells
    cases spells with
    | some denotes => exact ⟨_, denotes⟩
  · intro each
    have binds := dryRunSlot.optional_one_binds .bool (.ofRequest [] request)
    rw [first_dry_run] at binds
    obtain ⟨dryRun, bound⟩ := binds.accepts (all_met_cons.mpr ⟨each, nofun⟩)
    rw [answerDecoded, bound]
    rfl

/-- The values of the query are all that an answer takes from it. -/
theorem decoded_same_query {first second : Request} {decoded other : CreatePet}
    (same : first.target.query = second.target.query) :
    (answerDecoded decoded first).status = (answerDecoded other second).status ∧
      (answerDecoded decoded first).member? "id" = (answerDecoded other second).member? "id" := by
  have bound : dryRunSlot.optionalOne .bool (.ofRequest [] first) =
      dryRunSlot.optionalOne .bool (.ofRequest [] second) := by
    have values : (RequestParts.ofRequest [] first).values dryRunSlot =
        (RequestParts.ofRequest [] second).values dryRunSlot := by
      simp only [RequestParts.values, dryRunSlot, RequestParts.ofRequest, same]
    simp only [Slot.optionalOne, values]
  unfold answerDecoded
  rw [bound]
  cases dryRunSlot.optionalOne .bool (.ofRequest [] second) with
  | error fault => simp only [answer, and_self]
  | ok dryRun =>
      have succeeds : ∀ value, (Response.ok value).status = 200 := fun _ => rfl
      have ids := (made_members decoded.name dryRun).1.trans (made_members other.name dryRun).1.symm
      simp only [answer, succeeds]
      exact ⟨trivial, ids⟩

/-- A body that can be read, with some name. -/
def Decodes (body : List UInt8) (name : String) : Prop :=
  ∃ decoded, Json.readBytes readCreatePet body = .ok decoded ∧ decoded.name = name

theorem accepted_decodes (creates : Creates request) (accepted : (serve request).status = 200) :
    ∃ name dryRun, Decodes request.body name ∧
      Option.Rel SpellsFlag (request.queryValues "dry_run").head? dryRun ∧
      serve request = .ok (createPet ⟨name, dryRun⟩).toJson := by
  have served := serve_create_pet creates
  cases read : Json.readBytes readCreatePet request.body with
  | error fault =>
      rw [read] at served
      rw [served] at accepted
      exact absurd accepted (by simp [BindFault.respond, Response.error, Response.json])
  | ok decoded =>
      rw [read] at served
      rw [served] at accepted ⊢
      obtain ⟨dryRun, spells, made⟩ := decoded_accepted accepted
      exact ⟨decoded.name, dryRun, ⟨decoded, read, rfl⟩, spells, made⟩

theorem made_id_zero_iff {text : Option String} {dryRun : Option Bool}
    (spells : Option.Rel SpellsFlag text dryRun) :
    madeId dryRun = 0 ↔ ∃ word, text = some word ∧ (word = "true" ∨ word = "1") := by
  cases spells with
  | none => simp [madeId]
  | @some word flag denotes =>
      rcases denotes with ⟨yes, rfl⟩ | ⟨no, rfl⟩
      · simp [madeId, yes]
      · have other : ¬(word = "true" ∨ word = "1") := by
          rcases no with rfl | rfl <;> decide
        simp [madeId, other]

theorem integer_value_injective : Function.Injective Value.ofInt := by
  intro first second same
  unfold Value.ofInt at same
  split_ifs at same <;> simp at same <;> omega

theorem Decodes.unique {body : List UInt8} {name other : String} (decodes : Decodes body name)
    (also : Decodes body other) : name = other := by
  obtain ⟨decoded, read, rfl⟩ := decodes
  obtain ⟨decoded', read', rfl⟩ := also
  rw [read] at read'
  cases read'
  rfl

/-- The body settles whether it can be read and what the pet is called, and the query whether the
request is accepted and which id the pet has. Of the message about a body that cannot be read, the
beginning is told. -/
theorem body_and_query_apart :
    (∀ request fault, Creates request → Json.readBytes readCreatePet request.body = .error fault →
      ∃ rest, serve request =
        .error 400 "malformed_body" ("malformed JSON body: " ++ fault.message ++ rest)) ∧
    (∀ first second name other, Creates first → Creates second →
      first.target.query = second.target.query → Decodes first.body name →
      Decodes second.body other → (serve first).status = (serve second).status ∧
        (serve first).member? "id" = (serve second).member? "id") ∧
    (∀ first second, Creates first → Creates second → first.body = second.body →
      (serve first).status = 200 → (serve second).status = 200 →
      ∃ name, (serve first).member? "name" = some (.string name) ∧
        (serve second).member? "name" = some (.string name)) ∧
    (∀ request, Creates request → (serve request).status = 200 →
      ((serve request).member? "id" = some (.ofInt 0) ↔
        ∃ word, (request.queryValues "dry_run").head? = some word ∧
          (word = "true" ∨ word = "1"))) ∧
    (∀ request name, Creates request → Decodes request.body name → ((serve request).status = 200 ↔
      ∀ word, (request.queryValues "dry_run").head? = some word →
        ∃ flag, SpellsFlag word flag)) ∧
    (∀ request name before after, Creates request →
      (∀ member ∈ before ++ after, member.2.Plain ∧ member.1 ≠ "name") →
      (request.body = Text.toUtf8 (petBody before after name).compact ∨
        ∃ depth, request.body = Text.toUtf8 ((petBody before after name).pretty depth)) →
      Decodes request.body name ∧
        ((serve request).status = 200 → (serve request).member? "name" = some (.string name))) := by
  refine ⟨?_, ?_, ?_, ?_, ?_, ?_⟩
  · intro request fault creates read
    refine ⟨"", ?_⟩
    rw [serve_create_pet creates, read, String.append_empty]
    rfl
  · rintro first second name other creates also same ⟨decoded, read, _⟩ ⟨decoded', read', _⟩
    rw [serve_create_pet creates, serve_create_pet also, read, read']
    exact decoded_same_query same
  · intro first second creates also same accepted accepted'
    obtain ⟨name, dryRun, decodes, _, made⟩ := accepted_decodes creates accepted
    obtain ⟨name', dryRun', decodes', _, made'⟩ := accepted_decodes also accepted'
    rw [← same] at decodes'
    rw [made, made', decodes'.unique decodes]
    exact ⟨name, (made_members name dryRun).2, (made_members name dryRun').2⟩
  · intro request creates accepted
    obtain ⟨name, dryRun, _, spells, made⟩ := accepted_decodes creates accepted
    rw [made, (made_members name dryRun).1, Option.some_inj, integer_value_injective.eq_iff]
    exact made_id_zero_iff spells
  · rintro request name creates ⟨decoded, read, _⟩
    rw [serve_create_pet creates, read]
    exact decoded_accepted_iff
  · intro request name before after creates others body
    have plain := pet_body_plain name fun member listed => (others member listed).1
    have decodes : Decodes request.body name := by
      refine ⟨⟨name, none⟩, ?_, rfl⟩
      rcases body with compact | ⟨depth, pretty⟩
      · rw [compact, Json.read_bytes_of_text]
        exact pet_body_read name others (Json.Source.read_compact plain)
      · rw [pretty, Json.read_bytes_of_text]
        exact pet_body_read name others (Json.Source.read_pretty plain depth)
    refine ⟨decodes, fun accepted => ?_⟩
    obtain ⟨name', dryRun, decodes', _, made⟩ := accepted_decodes creates accepted
    rw [made, decodes'.unique decodes]
    exact (made_members name dryRun).2

/-- A dry run of which the body says that it is none. -/
def dryRunOfRex : Request := ⟨"POST", ⟨"/pets", some "dry_run=1"⟩, [],
  Text.toUtf8 (petBody [] [("dry_run", .bool false)] "Rex").compact⟩

theorem dry_run_of_rex_answered : (serve dryRunOfRex).status = 200 ∧
    (serve dryRunOfRex).member? "id" = some (.ofInt 0) ∧
    (serve dryRunOfRex).member? "name" = some (.string "Rex") := by
  have creates : Creates dryRunOfRex := ⟨rfl, rfl, by decide +kernel⟩
  have word : (dryRunOfRex.queryValues "dry_run").head? = some "1" := by decide +kernel
  obtain ⟨_, _, _, idZero, acceptedIff, named⟩ := body_and_query_apart
  obtain ⟨decodes, name⟩ := named dryRunOfRex "Rex" [] [("dry_run", .bool false)] creates
    (by simp) (.inl rfl)
  have accepted : (serve dryRunOfRex).status = 200 := by
    apply (acceptedIff _ _ creates decodes).mpr
    rw [word]
    rintro text ⟨⟩
    exact ⟨true, .inl ⟨.inr rfl, rfl⟩⟩
  refine ⟨accepted, ?_, name accepted⟩
  exact (idZero _ creates accepted).mpr ⟨"1", word, .inr rfl⟩

end Petstore

end ApiCompiler
