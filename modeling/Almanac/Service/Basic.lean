import Almanac.Draw.Source
import Almanac.Forecast.Generation
import Almanac.Forecast.Wire
import Almanac.Http.Message
import Almanac.Json.Value
import Almanac.Text.Quoted

set_option autoImplicit false

namespace Almanac

structure TooManyDays where
  requested : Int32
  limit : UInt32
deriving DecidableEq

namespace TooManyDays

def check? (limit : Option UInt32) (request : Request) : Option TooManyDays :=
  match limit with
  | none => none
  | some limit =>
    if (limit.toNat : Int) < request.days.toInt then some ⟨request.days, limit⟩ else none

def message (e : TooManyDays) : String :=
  "requested " ++ toString e.requested.toInt ++ " days but at most " ++
    toString e.limit.toNat ++ " are served"

def diagnosis (e : TooManyDays) : String :=
  "TooManyDays \x7b requested: " ++ toString e.requested.toInt ++ ", limit: " ++
    toString e.limit.toNat ++ " \x7d"

def response (e : TooManyDays) : Http.Response :=
  .json 422 (Json.object [("error", .string e.message)]).text

end TooManyDays

inductive Event where
  | seeded (seed : Option UInt64)
  | requested (request : Request)
  | refused (refusal : TooManyDays)
deriving DecidableEq

namespace Event

def level : Event → String
  | seeded _ => "INFO"
  | requested _ => "DEBUG"
  | refused _ => "WARN"

def topic : Event → String
  | seeded _ => "random"
  | requested _ => "weather_routes"
  | refused _ => "error"

/-- The message; of a request the location is quoted, the units stand as they are. -/
def message : Event → String
  | seeded (some seed) => "seeding temperature generator with " ++ toString seed.toNat
  | seeded none => "seeding temperature generator from os entropy"
  | requested request =>
    "Forecast requested for " ++ quotedOption request.location ++ ", " ++
      toString request.days.toInt ++ " days in " ++ request.units
  | refused refusal => "Rejecting forecast request: " ++ refusal.message

def record (e : Event) : String := e.level ++ " " ++ e.topic ++ " " ++ e.message

end Event

inductive BindingError where
  | mediaType
  | bodyTooLarge
  | body (fault : Json.Fault)
deriving DecidableEq

namespace BindingError

def status : BindingError → Nat
  | mediaType => 415
  | bodyTooLarge => 413
  | body fault =>
    match fault.cause with
    | .malformed _ | .unfinished _ => 400
    | .mismatch _ => 422

def message : BindingError → String
  | mediaType => "Expected request with `Content-Type: application/json`"
  | bodyTooLarge => "Failed to buffer the request body: length limit exceeded"
  | body fault =>
    match fault.cause with
    | .malformed _ | .unfinished _ =>
      "Failed to parse the request body as JSON: " ++ fault.located
    | .mismatch _ =>
      "Failed to deserialize the JSON body into the target type: " ++ fault.located

def response (e : BindingError) : Http.Response := .plainText e.status e.message

end BindingError

def bodyLimit : Nat := 2097152

def Http.Request.isJson (request : Http.Request) : Bool :=
  ((request.header? "content-type").bind MediaType.ofString?).any (·.isJson)

def Request.bind (request : Http.Request) : Except BindingError Request :=
  if !request.isJson then .error .mediaType
  else if bodyLimit < request.body.length then .error .bodyTooLarge
  else (Request.parse request.body).mapError .body

inductive Endpoint where
  | health
  | weather
deriving DecidableEq

namespace Endpoint

def ofPath? (path : String) : Option Endpoint :=
  if path = "/health" then some health else if path = "/weather" then some weather else none

def methods : Endpoint → List String
  | health => ["GET", "HEAD"]
  | weather => ["POST"]

end Endpoint

inductive Admission where
  | answered (response : Http.Response)
  | granted (request : Request)

namespace Admission

def health (method : String) : Http.Response :=
  let response := (Http.Response.plainText 200 "ok").withLength
  if method = "HEAD" then response.withoutBody else response

def weather (limit : Option UInt32) (call : Http.Request) : Admission × List Event :=
  match Request.bind call with
  | .error e => (.answered e.response.withLength, [])
  | .ok request =>
    match TooManyDays.check? limit request with
    | some refusal =>
      (.answered refusal.response.withLength, [.requested request, .refused refusal])
    | none => (.granted request, [.requested request])

/-- The answer to a request for none of the endpoints. The length of its body is told only where the
request has no path at all. -/
def nowhere (call : Http.Request) : Http.Response :=
  if call.hasPath then .notFound else Http.Response.notFound.withLength

/-- Admits an HTTP request: the path is looked at first, then the method, then the content. -/
def of (limit : Option UInt32) (call : Http.Request) : Admission × List Event :=
  match Endpoint.ofPath? call.path with
  | none => (.answered (nowhere call), [])
  | some endpoint =>
    if endpoint.methods.contains call.method then
      match endpoint with
      | .health => (.answered (health call.method), [])
      | .weather => weather limit call
    else (.answered (.methodNotAllowed endpoint.methods), [])

end Admission

structure Service (σ : Type) where
  source : σ
  limit : Option UInt32

inductive Reply where
  | direct (response : Http.Response)
  | forecast (forecast : Forecast)
  | failed (error : ForecastError)

namespace Reply

def ofResult : Except ForecastError Forecast → Reply
  | .ok f => forecast f
  | .error e => failed e

def response : Reply → Except ForecastError Http.Response
  | direct r => .ok r
  | forecast f => .ok (Http.Response.json 200 f.text).withLength
  | failed e => .error e

def days : Reply → List DayForecast
  | forecast f => f.days
  | _ => []

end Reply

structure Served (σ : Type) where
  reply : Reply
  events : List Event
  service : Service σ

namespace Service

/-- A service with its generator at the start of a keystream: that of the seed, or, without a seed,
that of a key of random words. -/
def create (seed : Option UInt64) (entropy : Key) (limit : Option UInt32) :
    Service Generator × List Event :=
  let generator := match seed with
    | some seed => Generator.ofSeed seed
    | none => ⟨entropy, 0⟩
  (⟨generator, limit⟩, [.seeded seed])

variable {σ : Type} [Source σ]

def serve (service : Service σ) (today : Date) (call : Http.Request) : Served σ :=
  match Admission.of service.limit call with
  | (.answered response, events) => ⟨.direct response, events, service⟩
  | (.granted request, events) =>
    let outcome := Forecast.generate request today service.source
    ⟨.ofResult outcome.result, events, { service with source := outcome.source }⟩

def serveAll (service : Service σ) : List (Date × Http.Request) →
    List Reply × List Event × Service σ
  | [] => ([], [], service)
  | (today, call) :: rest =>
    let served := service.serve today call
    let (replies, events, service) := served.service.serveAll rest
    (served.reply :: replies, served.events ++ events, service)

end Service

end Almanac
