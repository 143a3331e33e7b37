import Almanac.Proofs.Http.MediaType
import Almanac.Proofs.Service.Serving
import Mathlib

set_option autoImplicit false

namespace Almanac

open Http

def Http.Request.HasJson (call : Http.Request) : Prop :=
  ∃ value, call.header? "content-type" = some value ∧
    MediaType.IsApplication MediaType.JsonName value

theorem Http.Request.isJson_iff (call : Http.Request) : call.isJson = true ↔ call.HasJson := by
  unfold Http.Request.isJson Http.Request.HasJson
  cases call.header? "content-type" with
  | none =>
    simp only [Option.bind_none, Option.any_none, Bool.false_eq_true, reduceCtorEq, false_and,
      exists_false]
  | some value =>
    rw [Option.bind_some, MediaType.any_isJson_iff]
    simp only [Option.some.injEq, exists_eq_left']

instance (call : Http.Request) : Decidable call.HasJson := decidable_of_iff _ call.isJson_iff

/-- A check: the answer to a request, if the check decides about it. -/
abbrev Check : Type := Http.Request → Option Http.Response

namespace Check

def path : Check := fun call =>
  if call.path = "/health" ∨ call.path = "/weather" then none
  else some (if call.hasPath then .notFound else Http.Response.notFound.withLength)

def method : Check := fun call =>
  if call.path = "/health" ∧ call.method ≠ "GET" ∧ call.method ≠ "HEAD" then
    some (.methodNotAllowed ["GET", "HEAD"])
  else if call.path = "/weather" ∧ call.method ≠ "POST" then some (.methodNotAllowed ["POST"])
  else none

def health : Check := fun call =>
  if call.path = "/health" then
    some ⟨200, [⟨"content-length", "2"⟩, ⟨"content-type", "text/plain; charset=utf-8"⟩],
      if call.method = "HEAD" then "" else "ok"⟩
  else none

def mediaType : Check := fun call =>
  if call.HasJson then none
  else some (Http.Response.plainText 415
    "Expected request with `Content-Type: application/json`").withLength

def size : Check := fun call =>
  if call.body.length ≤ 2097152 then none
  else some (Http.Response.plainText 413
    "Failed to buffer the request body: length limit exceeded").withLength

def ofFault (fault : Json.Fault) : Http.Response :=
  match fault.cause with
  | .mismatch _ => (Http.Response.plainText 422
      ("Failed to deserialize the JSON body into the target type: " ++ fault.located)).withLength
  | .malformed _ | .unfinished _ => (Http.Response.plainText 400
      ("Failed to parse the request body as JSON: " ++ fault.located)).withLength

def body : Check := fun call =>
  match Request.parse call.body with
  | .ok _ => none
  | .error fault => some (ofFault fault)

def days (limit : Option UInt32) : Check := fun call =>
  match limit, Request.parse call.body with
  | some limit, .ok request =>
    if request.days.toInt ≤ limit.toNat then none
    else some (Http.Response.json 422 (Json.object [("error", .string
      ("requested " ++ toString request.days.toInt ++ " days but at most " ++
        toString limit.toNat ++ " are served"))]).text).withLength
  | _, _ => none

def all (limit : Option UInt32) : List Check :=
  [path, method, health, mediaType, size, body, days limit]

/-- The answer of the first check that decides about a request. -/
def first (limit : Option UInt32) (call : Http.Request) : Option Http.Response :=
  (all limit).findSome? (· call)

end Check

namespace Admission

theorem of_nowhere (limit : Option UInt32) {call : Http.Request} (health : call.path ≠ "/health")
    (weather : call.path ≠ "/weather") : ∃ response, Check.first limit call = some response ∧
      (of limit call).1 = .answered response := by
  have unknown : Endpoint.ofPath? call.path = none := by
    unfold Endpoint.ofPath?
    rw [if_neg health, if_neg weather]
  have path : Check.path call = some (nowhere call) := by
    unfold Check.path
    rw [if_neg (not_or.2 ⟨health, weather⟩)]
    rfl
  refine ⟨nowhere call, ?_, ?_⟩
  · simp only [Check.first, Check.all, List.findSome?_cons, path]
  · simp only [of, unknown]

theorem health_get : health "GET" = ⟨200, [⟨"content-length", "2"⟩,
    ⟨"content-type", "text/plain; charset=utf-8"⟩], "ok"⟩ := by cbv

theorem health_head : health "HEAD" = ⟨200, [⟨"content-length", "2"⟩,
    ⟨"content-type", "text/plain; charset=utf-8"⟩], ""⟩ := by cbv

theorem contains_health (method : String) :
    Endpoint.health.methods.contains method = true ↔ method = "GET" ∨ method = "HEAD" := by
  rw [List.contains_iff_mem]
  simp only [Endpoint.methods, List.mem_cons, List.not_mem_nil, or_false]

theorem contains_weather (method : String) :
    Endpoint.weather.methods.contains method = true ↔ method = "POST" := by
  rw [List.contains_iff_mem]
  exact List.mem_singleton

theorem health_eq {method : String} (served : method = "GET" ∨ method = "HEAD") :
    health method = ⟨200, [⟨"content-length", "2"⟩, ⟨"content-type", "text/plain; charset=utf-8"⟩],
      if method = "HEAD" then "" else "ok"⟩ := by
  rcases served with rfl | rfl
  · exact health_get
  · exact health_head

theorem of_health (limit : Option UInt32) {call : Http.Request} (h : call.path = "/health") :
    ∃ response, Check.first limit call = some response ∧
      (of limit call).1 = .answered response := by
  have known : Endpoint.ofPath? call.path = some .health := by
    unfold Endpoint.ofPath?
    rw [if_pos h]
  have path : Check.path call = none := if_pos (.inl h)
  have otherPath : ¬ call.path = "/weather" := by
    rw [h]
    decide
  by_cases served : call.method = "GET" ∨ call.method = "HEAD"
  · have method : Check.method call = none := by
      unfold Check.method
      rw [if_neg, if_neg (fun both => otherPath both.1)]
      rintro ⟨_, noGet, noHead⟩
      exact served.elim noGet noHead
    have answer : Check.health call = some (health call.method) := by
      rw [health_eq served]
      exact if_pos h
    refine ⟨health call.method, ?_, ?_⟩
    · simp only [Check.first, Check.all, List.findSome?_cons, path, method, answer]
    · simp only [of, known, if_pos ((contains_health call.method).2 served)]
  · obtain ⟨noGet, noHead⟩ := not_or.1 served
    have method : Check.method call = some (.methodNotAllowed ["GET", "HEAD"]) :=
      if_pos ⟨h, noGet, noHead⟩
    refine ⟨.methodNotAllowed ["GET", "HEAD"], ?_, ?_⟩
    · simp only [Check.first, Check.all, List.findSome?_cons, path, method]
    · simp only [of, known, if_neg (mt (contains_health call.method).1 served)]
      rfl

theorem bind_decided (call : Http.Request) :
    match [Check.mediaType, Check.size, Check.body].findSome? (· call) with
    | some response => ∃ e, Request.bind call = .error e ∧ e.response.withLength = response
    | none => ∃ request, Request.parse call.body = .ok request ∧
        Request.bind call = .ok request := by
  by_cases json : call.HasJson
  · have mediaType : Check.mediaType call = none := if_pos json
    have isJson : call.isJson = true := call.isJson_iff.2 json
    by_cases fits : call.body.length ≤ 2097152
    · have size : Check.size call = none := if_pos fits
      have notTooLarge : ¬ bodyLimit < call.body.length := Nat.not_lt.2 fits
      have bound : Request.bind call = (Request.parse call.body).mapError .body := by
        unfold Request.bind
        rw [isJson, if_neg notTooLarge]
        rfl
      cases parsed : Request.parse call.body with
      | error fault =>
        simp only [List.findSome?_cons, mediaType, size, Check.body, parsed]
        refine ⟨.body fault, bound.trans (congrArg _ parsed), ?_⟩
        unfold Check.ofFault
        cases cause : fault.cause <;>
          simp only [BindingError.response, BindingError.status, BindingError.message, cause]
      | ok request =>
        simp only [List.findSome?_cons, mediaType, size, Check.body, parsed, List.findSome?_nil]
        exact ⟨request, rfl, bound.trans (congrArg _ parsed)⟩
    · have size : Check.size call = some (Http.Response.plainText 413
          "Failed to buffer the request body: length limit exceeded").withLength := if_neg fits
      have tooLarge : bodyLimit < call.body.length := Nat.not_le.1 fits
      have bound : Request.bind call = .error .bodyTooLarge := by
        unfold Request.bind
        rw [isJson, if_pos tooLarge]
        rfl
      simp only [List.findSome?_cons, mediaType, size]
      exact ⟨.bodyTooLarge, bound, rfl⟩
  · have mediaType : Check.mediaType call = some (Http.Response.plainText 415
        "Expected request with `Content-Type: application/json`").withLength := if_neg json
    have notJson : call.isJson = false := by
      rw [← Bool.not_eq_true]
      exact mt call.isJson_iff.1 json
    have bound : Request.bind call = .error .mediaType := by
      unfold Request.bind
      rw [notJson]
      rfl
    simp only [List.findSome?_cons, mediaType]
    exact ⟨.mediaType, bound, rfl⟩

theorem days_decided (limit : Option UInt32) {call : Http.Request} {request : Request}
    (parsed : Request.parse call.body = .ok request) : Check.days limit call =
      (TooManyDays.check? limit request).map fun refusal => refusal.response.withLength := by
  cases limit with
  | none => rfl
  | some limit =>
    simp only [Check.days, parsed, TooManyDays.check?]
    by_cases within : request.days.toInt ≤ limit.toNat
    · rw [if_pos within, if_neg (Int.not_lt.2 within)]
      rfl
    · rw [if_neg within, if_pos (Int.not_le.1 within)]
      rfl

theorem weather_decided (limit : Option UInt32) (call : Http.Request) :
    match [Check.mediaType, Check.size, Check.body, Check.days limit].findSome? (· call) with
    | some response => (weather limit call).1 = .answered response
    | none => ∃ request, Request.parse call.body = .ok request ∧
        (weather limit call).1 = .granted request := by
  have content := bind_decided call
  have last : [Check.mediaType, Check.size, Check.body, Check.days limit].findSome? (· call) =
      ([Check.mediaType, Check.size, Check.body].findSome? (· call)).or
        (Check.days limit call) := by
    change ([Check.mediaType, Check.size, Check.body] ++ [Check.days limit]).findSome? _ = _
    rw [List.findSome?_append, List.findSome?_singleton]
  rw [last]
  cases decided : [Check.mediaType, Check.size, Check.body].findSome? (· call) with
  | some response =>
    rw [decided] at content
    obtain ⟨e, bound, rfl⟩ := content
    simp only [Option.some_or, weather, bound]
  | none =>
    rw [decided] at content
    obtain ⟨request, parsed, bound⟩ := content
    rw [Option.none_or, days_decided limit parsed]
    cases limited : TooManyDays.check? limit request with
    | some refusal => simp only [Option.map_some, weather, bound, limited]
    | none =>
      simp only [Option.map_none, weather, bound, limited]
      exact ⟨request, parsed, rfl⟩

/-- A request is admitted exactly if no check decides about it, and then it is the request in its
body; otherwise it has the answer of the first check that does. -/
theorem of_decided (limit : Option UInt32) (call : Http.Request) :
    match Check.first limit call with
    | some response => (of limit call).1 = .answered response
    | none => ∃ request, Request.parse call.body = .ok request ∧
        (of limit call).1 = .granted request := by
  by_cases health : call.path = "/health"
  · obtain ⟨response, first, answered⟩ := of_health limit health
    rw [first]
    exact answered
  by_cases weather : call.path = "/weather"
  · have known : Endpoint.ofPath? call.path = some .weather := by
      unfold Endpoint.ofPath?
      rw [if_neg health, if_pos weather]
    have path : Check.path call = none := if_pos (.inr weather)
    have noHealth : Check.health call = none := if_neg health
    by_cases post : call.method = "POST"
    · have method : Check.method call = none := by
        unfold Check.method
        rw [if_neg (fun both => health both.1), if_neg (fun both => both.2 post)]
      have content := weather_decided limit call
      have later : Check.first limit call =
          [Check.mediaType, Check.size, Check.body, Check.days limit].findSome? (· call) := by
        simp only [Check.first, Check.all, List.findSome?_cons, path, method, noHealth]
      have admitted : of limit call = Admission.weather limit call := by
        simp only [of, known, if_pos ((contains_weather call.method).2 post)]
      rw [later, admitted]
      exact content
    · have method : Check.method call = some (.methodNotAllowed ["POST"]) := by
        unfold Check.method
        rw [if_neg (fun both => health both.1), if_pos ⟨weather, post⟩]
      simp only [Check.first, Check.all, List.findSome?_cons, path, method, of, known,
        if_neg (mt (contains_weather call.method).1 post)]
      rfl
  · obtain ⟨response, first, answered⟩ := of_nowhere limit health weather
    rw [first]
    exact answered

end Admission

namespace Service

/-- Serving decides about a request in the order of the checks. Whatever fails one leaves the
service as it was; past all of them the answer is the forecast, made from the generator, and that
moves the generator exactly if the forecast has a day. -/
theorem serve_decided (service : Service Generator) (today : Date) (call : Http.Request) :
    (match Check.first service.limit call with
      | some response => (service.serve today call).reply = .direct response ∧
          (service.serve today call).service = service
      | none => ∃ request f, Request.parse call.body = .ok request ∧
          (Forecast.generate request today service.source).result = .ok f ∧
          (service.serve today call).reply = .forecast f ∧
          (service.serve today call).reply.response = .ok ⟨200,
            [⟨"content-length", toString f.text.utf8ByteSize⟩,
              ⟨"content-type", "application/json"⟩], f.text⟩ ∧
          (service.serve today call).service =
            { service with source := (Forecast.generate request today service.source).source }) ∧
      ((service.serve today call).service.source ≠ service.source ↔
        (service.serve today call).reply.days ≠ []) := by
  constructor
  · have decided := Admission.of_decided service.limit call
    cases first : Check.first service.limit call with
    | some response =>
      rw [first] at decided
      exact serve_of_answered today decided
    | none =>
      rw [first] at decided
      obtain ⟨request, parsed, granted⟩ := decided
      obtain ⟨f, made, reply, _⟩ := serve_of_granted_ranged today granted
      refine ⟨request, f, parsed, made, reply, ?_, (serve_of_granted today granted).2⟩
      rw [reply]
      rfl
  · have source := serve_source service today call
    rw [source, ← List.length_pos_iff]
    -- every day takes at least two words, so a forecast with days cannot leave the generator as is
    generalize (service.serve today call).reply.days.length = days
    obtain ⟨words, taken, _, moved⟩ := Forecast.afterDay_iterate_skip days service.source
    constructor
    · intro changed
      rw [Nat.pos_iff_ne_zero]
      rintro rfl
      exact changed rfl
    · intro positive same
      rw [moved] at same
      have unmoved : service.source.taken + words = service.source.taken :=
        congrArg Generator.taken same
      omega

/-- A name before a plus may be that of JSON as well, whatever the name after it: not only
`application/json` and `application/*+json` are past the check of the media type. -/
theorem base_name_accepted :
    ¬ ∀ (service : Service Generator) (today : Date) (call : Http.Request),
      call.path = "/weather" → call.method = "POST" →
      (∀ value, call.header? "content-type" = some value →
        ¬ MediaType.IsApplication (fun name => name = "json".toList ∨
          ∃ stem, name = stem ++ "+json".toList) value) →
      ∃ response, (service.serve today call).reply = .direct response ∧ response.status = 415 := by
  intro refused
  let service : Service Generator := ⟨⟨Vector.replicate 8 0, 0⟩, none⟩
  let today : Date := ⟨2024, 2, 28, by decide, by decide, by decide, by decide⟩
  let call : Http.Request := ⟨"POST", "/weather", [⟨"content-type", "application/json+xml"⟩],
    Utf8.encode "\x7b\"days\":0\x7d"⟩
  have path : call.path = "/weather" := by cbv
  have type : call.header? "content-type" = some "application/json+xml" := by cbv
  have other : ∀ value, call.header? "content-type" = some value →
      ¬ MediaType.IsApplication (fun name => name = "json".toList ∨
        ∃ stem, name = stem ++ "+json".toList) value := by
    intro value first
    rw [type] at first
    cases first
    rintro ⟨main, subtype, parameters, split, tokens, application, name, valid⟩
    have hmain : main ≠ [] := by
      rintro rfl
      cases application
    have hsubtype : subtype ≠ [] := by
      rintro rfl
      rcases name with name | ⟨stem, name⟩
      · cases name
      · exact absurd (List.append_eq_nil_iff.1 name.symm).2 (by decide)
    have read := MediaType.ofString?_of_parts split tokens hmain hsubtype valid
    have known : MediaType.ofString? "application/json+xml" =
        some ⟨"application".toList, "json+xml".toList⟩ := by cbv
    rw [known] at read
    cases read
    have last : ("json+xml".toList.map Char.toLower).getLast? = some 'l' := by decide
    rcases name with name | ⟨stem, name⟩
    · rw [name] at last
      exact absurd last (by decide)
    · have tail : "+json".toList.getLast? = some 'n' := by decide
      rw [name, List.getLast?_append, tail] at last
      exact absurd (Option.some.inj last) (by decide)
  obtain ⟨response, reply, _⟩ := refused service today call path rfl other
  have forecast : (service.serve today call).reply = .forecast ⟨none, "Farenheit", []⟩ := by cbv
  rw [forecast] at reply
  cases reply

end Service

end Almanac
