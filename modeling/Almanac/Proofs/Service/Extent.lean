import Almanac.Proofs.Forecast.Rereading
import Almanac.Proofs.Json.Extent
import Almanac.Proofs.Service.Deciding

set_option autoImplicit false

namespace Almanac

open Http Json

namespace Request

def members (request : Request) : List (String × Json) :=
  [("location", .ofOption request.location), ("days", .integer request.days.toInt),
    ("units", .string request.units)]

theorem days_recovers (days : Int32) :
    (Reader.optional .int32).Recovers (.integer days.toInt) (some days) := by
  obtain ⟨n, value, writes⟩ := integer_writes days.toInt
  have fits := Tree.orNull_int32 value ⟨days.le_toInt, days.toInt_lt⟩
  rw [Int32.ofInt_toInt] at fits
  exact Reads.recovers (optional_reads int32_reads) writes fits

theorem members_fill (request : Request) : record.Fills record.empty request.members
    ⟨some request.location, some (some request.days), some (some request.units)⟩ :=
  .cons rfl rfl (Field.of_recovers (optional_string_recovers request.location))
    (.cons rfl rfl (Field.of_recovers (days_recovers request.days))
      (.cons rfl rfl (Field.of_recovers (optional_string_recovers (some request.units))) .nil))

theorem members_exhaust (request : Request) : ∀ m ∈ request.members,
    ∀ field ∈ record.fields.find? (·.name == m.1), ∀ draft,
      (field.read draft).Exhausts m.2 := by
  intro m mem field found draft
  simp only [members, List.mem_cons, List.not_mem_nil, or_false] at mem
  rcases mem with rfl | rfl | rfl
  · cases found
    exact Field.of_exhausts (optional_string_exhausts request.location) draft
  · cases found
    exact Field.of_exhausts (int32_exhausts request.days.le_toInt request.days.toInt_lt) draft
  · cases found
    exact Field.of_exhausts (optional_string_exhausts (some request.units)) draft

theorem parse_cut {request : Request} {cut : List UInt8}
    (beginning : cut <+: Utf8.encode request.text) (proper : cut ≠ Utf8.encode request.text) :
    ∃ fault, parse cut = .error fault ∧ fault.IsUnfinished :=
  (Record.read_cut request.members_fill request.members_exhaust beginning proper .start).all

theorem parse_followed (request : Request) (more : List UInt8) :
    ((∀ b ∈ more, isSpace b = true) → parse (Utf8.encode request.text ++ more) = .ok request) ∧
      ((∃ b ∈ more, isSpace b = false) → ∃ fault,
        parse (Utf8.encode request.text ++ more) = .error fault ∧ fault.IsMalformed) := by
  obtain ⟨p, read⟩ := Record.read_object request.members_fill (a := request) rfl more .start
  obtain ⟨blanks, others⟩ := Reader.all_followed read
  refine ⟨blanks, fun more => ?_⟩
  obtain ⟨p, failed⟩ := others more
  exact ⟨_, failed, .trailingCharacters, rfl⟩

end Request

/-- Whether a call posts a body as JSON to the place of forecasts, and one that is not too large. -/
structure Http.Request.Posts (call : Http.Request) (body : List UInt8) : Prop where
  path : call.path = "/weather"
  method : call.method = "POST"
  json : call.HasJson
  content : call.body = body
  fits : body.length ≤ 2097152

namespace Service

variable {σ : Type} [Source σ]

/-- A body that is no JSON text is answered with status 400, and the service stays as it is. -/
theorem serve_no_json (service : Service σ) (today : Date) {call : Http.Request}
    {body : List UInt8} (posts : call.Posts body) {fault : Fault}
    (failed : Request.parse body = .error fault) (h : fault.IsUnfinished ∨ fault.IsMalformed) :
    (∃ response, (service.serve today call).reply = .direct response ∧ response.status = 400) ∧
      (service.serve today call).service = service := by
  obtain ⟨place, post, json, rfl, fits⟩ := posts
  have notHealth : ¬ call.path = "/health" := by
    rw [place]
    decide
  have path : Check.path call = none := if_pos (.inr place)
  have method : Check.method call = none := by
    unfold Check.method
    rw [if_neg (fun both => notHealth both.1), if_neg (fun both => both.2 post)]
  have health : Check.health call = none := if_neg notHealth
  have mediaType : Check.mediaType call = none := if_pos json
  have size : Check.size call = none := if_pos fits
  have content : Check.body call = some (Check.ofFault fault) := by
    simp only [Check.body, failed]
  have decided := Admission.of_decided service.limit call
  simp only [Check.first, Check.all, List.findSome?_cons, path, method, health, mediaType, size,
    content] at decided
  obtain ⟨reply, left⟩ := serve_of_answered today decided
  refine ⟨⟨Check.ofFault fault, reply, ?_⟩, left⟩
  unfold Check.ofFault
  rcases h with ⟨cause, eq⟩ | ⟨cause, eq⟩
  · rw [eq]
    rfl
  · rw [eq]
    rfl

/-- The text of a request ends too early wherever it is cut off, be it within a character; it may
be followed by blanks, and is malformed if anything else follows. Posted as JSON, what is refused
is answered with status 400 and leaves the service, and so its generator, as it was. -/
theorem whole_text_alone (request : Request) :
    let text := Utf8.encode request.text
    (∀ cut, cut <+: text → cut ≠ text →
      ∃ fault, Request.parse cut = .error fault ∧ fault.IsUnfinished) ∧
      (∀ more, (∃ b ∈ more, isSpace b = false) →
        ∃ fault, Request.parse (text ++ more) = .error fault ∧ fault.IsMalformed) ∧
      (∀ more, (∀ b ∈ more, isSpace b = true) → Request.parse (text ++ more) = .ok request) ∧
      ∀ (service : Service σ) (today : Date) (call : Http.Request) (body : List UInt8),
        call.Posts body → (body <+: text ∧ body ≠ text ∨
          ∃ more, body = text ++ more ∧ ∃ b ∈ more, isSpace b = false) →
        (∃ response, (service.serve today call).reply = .direct response ∧
          response.status = 400) ∧ (service.serve today call).service = service := by
  intro text
  refine ⟨fun cut => Request.parse_cut, fun more => (Request.parse_followed request more).2,
    fun more => (Request.parse_followed request more).1, ?_⟩
  rintro service today call body posts (⟨beginning, proper⟩ | ⟨more, rfl, others⟩)
  · obtain ⟨fault, failed, unfinished⟩ := Request.parse_cut beginning proper
    exact serve_no_json service today posts failed (.inl unfinished)
  · obtain ⟨fault, failed, malformed⟩ := (Request.parse_followed request more).2 others
    exact serve_no_json service today posts failed (.inr malformed)

theorem cut_character_refused :
    let request : Request := ⟨some "é", 7, "F"⟩
    let text := Utf8.encode request.text
    let cut := text.take 14
    let service : Service Generator := ⟨⟨Vector.replicate 8 0, 0⟩, some 3⟩
    let today : Date := ⟨2024, 2, 28, by decide, by decide, by decide, by decide⟩
    let call : Http.Request := ⟨"POST", "/weather", [⟨"content-type", "application/json"⟩], cut⟩
    (cut <+: text ∧ cut ≠ text ∧
      ∃ fault, Request.parse cut = .error fault ∧ fault.IsUnfinished) ∧
      ((∃ b ∈ [Ascii.space, Ascii.comma], isSpace b = false) ∧ ∃ fault,
        Request.parse (text ++ [Ascii.space, Ascii.comma]) = .error fault ∧ fault.IsMalformed) ∧
      ((∀ b ∈ [Ascii.lineFeed], isSpace b = true) ∧
        Request.parse (text ++ [Ascii.lineFeed]) = .ok request) ∧
      call.Posts cut ∧
        (∃ response, (service.serve today call).reply = .direct response ∧
          response.status = 400) ∧ (service.serve today call).service = service := by
  intro request text cut service today call
  obtain ⟨early, late, blank, posted⟩ := @whole_text_alone Generator _ request
  have beginning : cut <+: text := List.take_prefix 14 text
  have short : cut.length ≤ 14 := List.length_take_le 14 text
  have proper : cut ≠ text := by
    have written : Request.text ⟨some "é", 7, "F"⟩ =
        "\x7b\"location\":\"é\",\"days\":7,\"units\":\"F\"\x7d" := by rfl
    have size : text.length = 38 := by
      change (Utf8.encode (Request.text ⟨some "é", 7, "F"⟩)).length = 38
      rw [written]
      rfl
    intro same
    rw [same, size] at short
    exact absurd short (by decide)
  have comma : ∃ b ∈ [Ascii.space, Ascii.comma], isSpace b = false := by decide
  have lineFeed : ∀ b ∈ [Ascii.lineFeed], isSpace b = true := List.forall_mem_singleton.2 rfl
  have posts (body : List UInt8) (fits : body.length ≤ 2097152) : Http.Request.Posts
      ⟨"POST", "/weather", [⟨"content-type", "application/json"⟩], body⟩ body :=
    ⟨by cbv, rfl, (Http.Request.isJson_iff _).1 (by cbv), rfl, fits⟩
  have posts : call.Posts cut := posts cut (by omega)
  exact ⟨⟨beginning, proper, early cut beginning proper⟩, ⟨comma, late _ comma⟩,
    ⟨lineFeed, blank _ lineFeed⟩, posts, posted service today call cut posts
      (.inl ⟨beginning, proper⟩)⟩

end Service

end Almanac
