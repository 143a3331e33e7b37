import Almanac.Proofs.Service.Limiting
import Almanac.Proofs.Text.Parts
import Mathlib

set_option autoImplicit false

namespace Almanac

namespace Event

/-- The units of the request that an event tells of. -/
def units : Event → String
  | requested request => request.units
  | _ => ""

theorem controls_message (e : Event) : controls e.message = controls e.units := by
  cases e with
  | seeded seed =>
    cases seed with
    | none =>
      change controls "seeding temperature generator from os entropy" = controls ""
      cbv
    | some seed =>
      have words : controls "seeding temperature generator with " = [] := by cbv
      change controls ("seeding temperature generator with " ++ toString seed.toNat) = []
      rw [controls_append, words, controls_nat, List.append_nil]
  | requested request =>
    have words : controls "Forecast requested for " = [] := by cbv
    have comma : controls ", " = [] := by cbv
    have days : controls " days in " = [] := by cbv
    change controls ("Forecast requested for " ++ quotedOption request.location ++ ", " ++
      toString request.days.toInt ++ " days in " ++ request.units) = controls request.units
    simp only [controls_append, controls_quotedOption, controls_int, words, comma, days,
      List.nil_append]
  | refused refusal =>
    have words : controls "Rejecting forecast request: " = [] := by cbv
    have requested : controls "requested " = [] := by cbv
    have limit : controls " days but at most " = [] := by cbv
    have served : controls " are served" = [] := by cbv
    change controls ("Rejecting forecast request: " ++ refusal.message) = []
    simp only [TooManyDays.message, controls_append, controls_int, controls_nat, words, requested,
      limit, served, List.nil_append]

theorem controls_record (e : Event) : controls e.record = controls e.units := by
  have level : controls e.level = [] := by cases e <;> cbv
  have topic : controls e.topic = [] := by cases e <;> cbv
  have blank : controls " " = [] := by cbv
  simp only [record, controls_append, level, topic, blank, controls_message, List.nil_append]

theorem record_append (location : Option String) (days : Int32) (units rest : String) :
    (requested ⟨location, days, units ++ rest⟩).record =
      (requested ⟨location, days, units⟩).record ++ rest := by
  change _ ++ (_ ++ (units ++ rest)) = _ ++ (_ ++ units) ++ rest
  simp only [String.append_assoc]
  rfl

end Event

theorem Admission.of_events (limit : Option UInt32) (call : Http.Request) :
    (of limit call).2 = (Request.posted? call).elim [] fun request =>
      .requested request :: ((TooManyDays.check? limit request).map .refused).toList := by
  by_cases place : call.path = "/weather" ∧ call.method = "POST"
  · have posted : Request.posted? call = (Request.bind call).toOption := if_pos place
    rw [of_weather limit place, posted, weather]
    cases Request.bind call with
    | error e => rfl
    | ok request =>
      cases check : TooManyDays.check? limit request <;> simp [check, Except.toOption]
  · have silent : Request.posted? call = none := if_neg place
    obtain ⟨response, answered⟩ := of_elsewhere place
    rw [answered, silent]
    rfl

namespace Service

variable {σ : Type} [Source σ]

def records (service : Service σ) (history : List (Date × Http.Request)) : List String :=
  (service.serveAll history).2.1.map (·.record)

def posted (history : List (Date × Http.Request)) : List Request :=
  history.filterMap fun call => Request.posted? call.2

theorem serve_events (service : Service σ) (today : Date) (call : Http.Request) :
    (service.serve today call).events = (Admission.of service.limit call).2 := by
  unfold serve
  cases Admission.of service.limit call with
  | mk admission events => cases admission <;> rfl

theorem records_cons (service : Service σ) (call : Date × Http.Request)
    (rest : List (Date × Http.Request)) :
    service.records (call :: rest) = (service.serve call.1 call.2).events.map (·.record) ++
      (service.serve call.1 call.2).service.records rest := by
  simp only [records, serveAll, List.map_append]

/-- One call brings the control characters of its units, once, into the log. -/
theorem serve_controls (service : Service σ) (today : Date) (call : Http.Request) :
    ((service.serve today call).events.map (·.record)).flatMap controls =
      (Request.posted? call).elim [] (controls ·.units) := by
  rw [serve_events, Admission.of_events, List.flatMap_map]
  simp only [Event.controls_record]
  cases Request.posted? call with
  | none => rfl
  | some request =>
    simp only [Option.elim_some]
    cases TooManyDays.check? service.limit request with
    | none => exact List.append_nil _
    | some refusal =>
      change controls request.units ++ (controls "" ++ []) = controls request.units
      rw [show controls "" = [] from rfl, List.append_nil, List.append_nil]

/-- The control characters of the records are those of the units of the requests, whatever their
locations are and whatever is asked beside them; so every record is one line for all its readers
exactly if no units hold any. -/
theorem records_controls (service : Service σ) (history : List (Date × Http.Request)) :
    (service.records history).flatMap controls = (posted history).flatMap (controls ·.units) ∧
      ((∀ record ∈ service.records history, controls record = []) ↔
        ∀ request ∈ posted history, controls request.units = []) := by
  have total : (service.records history).flatMap controls =
      (posted history).flatMap (controls ·.units) := by
    induction history generalizing service with
    | nil => rfl
    | cons call rest ih =>
      rw [records_cons, List.flatMap_append, serve_controls, ih]
      unfold posted
      rw [List.filterMap_cons]
      cases Request.posted? call.2 <;> rfl
  refine ⟨total, ?_⟩
  rw [← List.flatMap_eq_nil_iff, total, List.flatMap_eq_nil_iff]

/-- Units that end their line and go on as the record of a refusal that never was. -/
theorem units_forge_record :
    let today : Date := ⟨2024, 2, 28, by decide, by decide, by decide, by decide⟩
    let service := (create (some 1) (Vector.replicate 8 0) none).1
    let call := Http.Request.posting ("\x7b\"days\":0,\"units\":\"F\\nWARN error Rejecting " ++
      "forecast request: requested 99 days but at most 7 are served\"\x7d")
    service.records [(today, call)] = [(Event.requested ⟨none, 0, "F"⟩).record ++ "\n" ++
        (Event.refused ⟨99, 7⟩).record] ∧
      ¬ ∀ record ∈ service.records [(today, call)], controls record = [] := by
  intro today service call
  have forged : (Event.refused ⟨99, 7⟩).record = "WARN error Rejecting forecast request: " ++
      "requested 99 days but at most 7 are served" := by
    change "WARN" ++ " " ++ "error" ++ " " ++
      ("Rejecting forecast request: " ++ TooManyDays.message ⟨99, 7⟩) = _
    cbv
  have posted : Request.posted? call =
      some ⟨none, 0, "F" ++ ("\n" ++ (Event.refused ⟨99, 7⟩).record)⟩ := by
    rw [forged]
    cbv
  have records : service.records [(today, call)] =
      [(Event.requested ⟨none, 0, "F" ++ ("\n" ++ (Event.refused ⟨99, 7⟩).record)⟩).record] := by
    rw [records_cons, serve_events, Admission.of_events, posted]
    rfl
  rw [records, Event.record_append, String.append_assoc]
  refine ⟨rfl, fun clear => ?_⟩
  have last := clear _ List.mem_cons_self
  rw [controls_append, List.append_eq_nil_iff, controls_append, List.append_eq_nil_iff] at last
  exact absurd last.2.1 (by decide)

end Service

end Almanac
