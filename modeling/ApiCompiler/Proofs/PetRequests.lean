import ApiCompiler.Petstore.Service
import ApiCompiler.Proofs.AnswerText
import ApiCompiler.Proofs.BoundSlots
import ApiCompiler.Proofs.EncodedText
import ApiCompiler.Proofs.PathPieces

/-!
Requests for one pet. The answer is settled by the first thing that is wrong with the request, in
the order of the binder, and shows what was bound if nothing is.
-/

set_option autoImplicit false

namespace ApiCompiler.Petstore

open Http (Request Response)
open Json (Value)

def idSlot : Slot := ⟨.path, "id", "id"⟩

def tagSlot : Slot := ⟨.query, "tag", "tags"⟩

def verboseSlot : Slot := ⟨.header, "X-Verbose", "verbose"⟩

/-- What is asked of a request for a pet, in order. -/
def petDemands (id : String) (request : Request) : List (Prop × Complaint) := [
  (∃ number, Kind.int64.Denotes id number, .invalid idSlot),
  (request.queryValues "tag" ≠ [], .missing tagSlot),
  (∀ text ∈ request.queryValues "tag", ∃ number, Kind.int8.Denotes text number, .invalid tagSlot),
  (∀ text, request.header? "X-Verbose" = some text → ∃ flag, SpellsFlag text flag,
    .invalid verboseSlot)]

variable {request : Request} {segment id : String}

/-! ### Binding -/

theorem first_id (id : String) (request : Request) :
    idSlot.first? (.ofRequest [("id", id)] request) = some id := by
  simp [Slot.first?, idSlot, RequestParts.values, RequestParts.valuesOf, RequestParts.ofRequest]

theorem first_verbose (id : String) (request : Request) :
    verboseSlot.first? (.ofRequest [("id", id)] request) = request.header? "X-Verbose" :=
  Http.Request.first_header_eq

theorem get_pet_binds (id : String) (request : Request) :
    Binds (petDemands id request) (bindGetPet (.ofRequest [("id", id)] request)) := by
  have tags := tagSlot.required_many_binds .int8 (.ofRequest [("id", id)] request)
  have flags := verboseSlot.optional_one_binds .bool (.ofRequest [("id", id)] request)
  rw [first_verbose] at flags
  unfold bindGetPet
  rw [← idSlot, Slot.required_one_of_some (first_id id request)]
  apply (idSlot.parse_binds .int64 id).bind
  intro number _
  apply tags.bind
  intro numbers _
  exact flags.bind fun flag _ => Binds.done (GetPet.mk number numbers flag)

/-- What is bound is what the texts stand for. -/
theorem get_pet_bound {bound : GetPet}
    (binds : bindGetPet (.ofRequest [("id", id)] request) = .ok bound) :
    Kind.int64.Denotes id bound.id ∧
      List.Forall₂ Kind.int8.Denotes (request.queryValues "tag") bound.tags ∧
      Option.Rel SpellsFlag (request.header? "X-Verbose") bound.verbose := by
  obtain ⟨number, one, binds⟩ := bind_ok_iff.mp binds
  obtain ⟨numbers, many, binds⟩ := bind_ok_iff.mp binds
  obtain ⟨flag, optional, binds⟩ := bind_ok_iff.mp binds
  cases binds
  rw [← idSlot, Slot.required_one_of_some (first_id id request)] at one
  have flags := Slot.optional_one_ok_iff.mp optional
  rw [← verboseSlot, first_verbose] at flags
  exact ⟨Slot.parse_ok_iff.mp one, (Slot.required_many_ok_iff.mp many).2, flags⟩

/-! ### Serving -/

/-- A piece of a path behind the pets is the encoded id of one. -/
theorem pet_route (some : segment ≠ "") (whole : '/' ∉ segment.toList) :
    Route.ofPath? ("/pets/" ++ segment) = Option.some (.pet segment) := by
  have split : "/pets/" ++ segment = "/pets" ++ "/" ++ segment := rfl
  have pieces : Path.pieces ("/pets/" ++ segment) = ["", "pets", segment] := by
    rw [split, Path.pieces_append, Path.pieces_whole whole]
    rfl
  change Route.ofSegments? (Path.pieces ("/pets/" ++ segment)) = _
  rw [pieces]
  simp [Route.ofSegments?, some]

theorem serve_get_pet (get : request.method = "GET")
    (path : request.target.path = "/pets/" ++ segment) (some : segment ≠ "")
    (whole : '/' ∉ segment.toList)
    (encoded : Text.percentDecode (Text.toUtf8 segment) = Text.toUtf8 id) :
    serve request = answer (bindGetPet (.ofRequest [("id", id)] request)) fun bound =>
      respond ((getPet bound).map Pet.toJson) := by
  have method : Method.ofName? "GET" = Option.some .get := by decide
  have text : Text.ofUtf8? (Text.percentDecode (Text.toUtf8 segment)) = Option.some id := by
    rw [encoded, Text.of_utf8_encoded]
  rw [serve, path, pet_route some whole]
  simp only [answerAt, get, method, dispatch?, answerGetPet, withParameter, text,
    Option.getD_some]

/-! ### Answers -/

def petMembers (pet : Pet) : List (String × Value) := [("id", .ofInt pet.id),
  ("name", .string pet.name), ("tags", .array (pet.tags.map .ofInt)),
  ("verbose", .ofOption .bool pet.verbose)]

/-- A pet is shown as what it is. -/
theorem pet_shown {pet : Pet} (id : IntegerWidth.Holds ⟨true, 64⟩ pet.id)
    (tags : ∀ tag ∈ pet.tags, IntegerWidth.Holds ⟨true, 8⟩ tag) :
    (Response.ok pet.toJson).Shows (petMembers pet) := by
  have flag : (Value.ofOption Value.bool pet.verbose).nesting = 0 ∧
      (Value.ofOption Value.bool pet.verbose).Plain ∧
      (Value.ofOption Value.bool pet.verbose).Settled := by
    cases pet.verbose <;> exact ⟨rfl, by simp [Value.ofOption], rfl⟩
  apply Response.json_shows
  · simpa [flag.2.1, Json.plain_of_holds (by decide) id] using
      fun tag listed => Json.plain_of_holds (by decide) (tags tag listed)
  · simp [Value.nesting, Value.membersNesting, Json.integer_flat, Json.integers_flat, flag.1,
      Json.depthLimit]
  · simp
  · simpa [flag.2.2] using Json.settled_array (by simp)

theorem answer_of_unmet {complaint : Complaint} {α : Type} {demands : List (Prop × Complaint)}
    {bound : Except BindFault α} (binds : Binds demands bound)
    (unmet : FirstUnmet demands complaint) (handle : α → Response) :
    complaint.Answers (answer bound handle) := by
  obtain ⟨fault, same, reports⟩ := binds.refuses complaint unmet
  rw [same]
  exact reports.answers

/-- A request that was bound is answered by its id. -/
theorem respond_get_pet (bound : GetPet) :
    (bound.id = 0 → respond ((getPet bound).map Pet.toJson) =
      .error 404 "not_found" "pet 0 not found") ∧
    (bound.id = 13 → respond ((getPet bound).map Pet.toJson) =
      .error 500 "internal_error" "storage unavailable") ∧
    (bound.id ≠ 0 → bound.id ≠ 13 → respond ((getPet bound).map Pet.toJson) =
      .ok (Pet.toJson ⟨bound.id, "Rex", bound.tags, bound.verbose⟩)) := by
  unfold getPet
  refine ⟨fun zero => ?_, fun thirteen => ?_, fun notZero notThirteen => ?_⟩
  · rw [if_pos zero]
    rfl
  · rw [if_neg (by omega), if_pos thirteen]
    rfl
  · rw [if_neg notZero, if_neg notThirteen]
    rfl

/-- Whatever is not a success is an error. -/
theorem answer_error {α : Type} {bound : Except BindFault α} {result : α → Except PetFault Value}
    (failed : (answer bound fun request => respond (result request)).status ≠ 200) :
    ∃ status code message,
      answer bound (fun request => respond (result request)) = .error status code message := by
  cases bound with
  | error fault => exact ⟨400, fault.code, fault.message, rfl⟩
  | ok request =>
      cases outcome : result request with
      | error fault =>
          refine ⟨fault.status, fault.code, fault.message, ?_⟩
          simp only [answer, outcome]
          rfl
      | ok value =>
          simp only [answer, outcome, respond] at failed
          exact absurd rfl failed

/-- The first thing that is wrong with a request for a pet settles the answer; if nothing is, the
pet is shown, but for two ids. -/
theorem get_pet_answer (get : request.method = "GET")
    (path : request.target.path = "/pets/" ++ segment) (some : segment ≠ "")
    (whole : '/' ∉ segment.toList)
    (encoded : Text.percentDecode (Text.toUtf8 segment) = Text.toUtf8 id) :
    (∀ complaint, FirstUnmet (petDemands id request) complaint →
      complaint.Answers (serve request)) ∧
    (AllMet (petDemands id request) → ∃ (number : Int) (tags : List Int) (verbose : Option Bool),
      Kind.int64.Denotes id number ∧
      List.Forall₂ Kind.int8.Denotes (request.queryValues "tag") tags ∧
      Option.Rel SpellsFlag (request.header? "X-Verbose") verbose ∧
      (number = 0 → serve request = .error 404 "not_found" "pet 0 not found") ∧
      (number = 13 → serve request = .error 500 "internal_error" "storage unavailable") ∧
      (number ≠ 0 → number ≠ 13 →
        serve request = .ok (.object (petMembers ⟨number, "Rex", tags, verbose⟩)) ∧
          (serve request).Shows (petMembers ⟨number, "Rex", tags, verbose⟩))) ∧
    ((serve request).status ≠ 200 → ∃ code message,
      serve request = .error (serve request).status code message ∧
        (serve request).Shows (Response.errorMembers code message)) := by
  rw [serve_get_pet get path some whole encoded]
  have binds := get_pet_binds id request
  refine ⟨fun complaint unmet => answer_of_unmet binds unmet _, ?_, ?_⟩
  · intro all
    obtain ⟨bound, same⟩ := binds.accepts all
    obtain ⟨own, each, flag⟩ := get_pet_bound same
    obtain ⟨missing, unreadable, found⟩ := respond_get_pet bound
    refine ⟨bound.id, bound.tags, bound.verbose, own, each, flag, ?_⟩
    rw [same]
    refine ⟨missing, unreadable, fun notZero notThirteen => ?_⟩
    have shown := found notZero notThirteen
    rw [answer, shown]
    refine ⟨rfl, pet_shown own.2 fun tag listed => ?_⟩
    obtain ⟨text, _, denotes⟩ := mem_of_forall₂ each listed
    exact denotes.2
  · intro failed
    obtain ⟨status, code, message, same⟩ := answer_error failed
    rw [same]
    exact ⟨code, message, rfl, Response.error_shows status code message⟩

/-- The third pet is asked for with two tags, one of which is written with a percent sign. -/
def thirdPet : Request := ⟨"GET", ⟨"/pets/%33", some "tag=1&tag=%2D2"⟩, [("x-verbose", "1")], []⟩

theorem third_pet_texts : thirdPet.queryValues "tag" = ["1", "-2"] ∧
    thirdPet.header? "X-Verbose" = some "1" := by decide +kernel

theorem third_pet_denotes : Kind.int64.Denotes "3" (3 : Int) ∧
    List.Forall₂ Kind.int8.Denotes ["1", "-2"] ([1, -2] : List Int) ∧
    Option.Rel SpellsFlag (some "1") (some true) := by
  refine ⟨Kind.parse_ok_iff.mp rfl, ?_, .some (.inl ⟨.inr rfl, rfl⟩)⟩
  exact .cons (Kind.parse_ok_iff.mp rfl) (.cons (Kind.parse_ok_iff.mp rfl) .nil)

theorem third_pet_met : AllMet (petDemands "3" thirdPet) := by
  obtain ⟨id, tags, flag⟩ := third_pet_denotes
  simp only [AllMet, petDemands, third_pet_texts, List.forall_mem_cons]
  refine ⟨⟨_, id⟩, by simp, ?_, ?_, nofun⟩
  · exact ⟨⟨_, Kind.parse_ok_iff.mp rfl⟩, ⟨_, Kind.parse_ok_iff.mp rfl⟩, nofun⟩
  · rintro text ⟨⟩
    exact ⟨true, .inl ⟨.inr rfl, rfl⟩⟩

/-- The third pet is shown, and a pet whose id is a word is complained about. -/
theorem third_pet_answered :
    (serve thirdPet).Shows (petMembers ⟨3, "Rex", [1, -2], some true⟩) ∧
      (Complaint.invalid idSlot).Answers (serve ⟨"GET", ⟨"/pets/rex", none⟩, [], []⟩) := by
  constructor
  · have encoded : Text.percentDecode (Text.toUtf8 "%33") = Text.toUtf8 "3" := by decide +kernel
    have path : thirdPet.target.path = "/pets/" ++ "%33" := rfl
    obtain ⟨number, tags, verbose, own, each, flag, _, _, found⟩ :=
      (get_pet_answer rfl path (by decide) (by decide) encoded).2.1 third_pet_met
    rw [third_pet_texts.1] at each
    rw [third_pet_texts.2] at flag
    obtain ⟨three, both, shown⟩ := third_pet_denotes
    have numberIs : number = 3 := own.unique three
    have tagsAre : tags = [1, -2] := by
      have unique : Relator.RightUnique Kind.int8.Denotes := fun _ _ _ first second =>
        first.unique second
      exact unique.forall₂ each both
    have verboseIs : verbose = some true := by
      cases flag with
      | @some _ given spells =>
          have denotes : Kind.bool.Denotes "1" given := spells
          have truth : Kind.bool.Denotes "1" true := .inl ⟨.inr rfl, rfl⟩
          exact congrArg some (denotes.unique truth)
    subst numberIs tagsAre verboseIs
    exact (found (by decide) (by decide)).2
  · have encoded : Text.percentDecode (Text.toUtf8 "rex") = Text.toUtf8 "rex" := by decide +kernel
    have word : ¬∃ number, Kind.int64.Denotes "rex" number := by
      rintro ⟨number, denotes⟩
      have read := Kind.parse_ok_iff.mpr denotes
      cases read
    exact (get_pet_answer rfl rfl (by decide) (by decide) encoded).1 _ (.here word)

end ApiCompiler.Petstore
