import Almanac.Forecast.Wire
import Almanac.Proofs.Calendar.Text
import Almanac.Proofs.Forecast.Binding
import Almanac.Proofs.Json.Decimals
import Almanac.Proofs.Json.Written
import Mathlib.Data.List.Forall2

set_option autoImplicit false

namespace Almanac

open Json

def Binary64.IsInt32 (x : Binary64) : Prop := ∃ i : Int32, x.HasValue i.toInt

theorem Binary64.ofInt_isInt32 {i : Int} (lower : -2 ^ 31 ≤ i) (upper : i < 2 ^ 31) :
    (ofInt i).IsInt32 := by
  refine ⟨Int32.ofInt i, ?_⟩
  rw [Int32.toInt_ofInt_of_le lower upper]
  exact ofInt_hasValue (by omega)

theorem Binary64.IsInt32.reread {x : Binary64} (h : x.IsInt32) : x.reread? = some x := by
  obtain ⟨i, value⟩ := h
  have lower := Int32.le_toInt i
  have upper := Int32.toInt_lt i
  exact value.reread (by omega)

namespace DayForecast

/-- Whether a day becomes another one when its text is read: its temperatures may differ. -/
structure Reread (d d' : DayForecast) : Prop where
  date : d'.date = d.date
  min : d.min.reread? = some d'.min
  max : d.max.reread? = some d'.max
  units : d'.units = d.units

theorem Reread.refl {d : DayForecast} (min : d.min.IsInt32) (max : d.max.IsInt32) : Reread d d :=
  ⟨rfl, min.reread, max.reread, rfl⟩

theorem Reread.recovers {d d' : DayForecast} (h : Reread d d') :
    record.read.Recovers d.toJson d' := by
  obtain ⟨date, min, max, units⟩ := h
  have readDate : readDate.Recovers (.string d.date.text) d.date := by
    apply parsed_recovers
    rw [Date.read_text]
    rfl
  have readUnits : Reader.string.Recovers (.string d.units) d.units := parsed_recovers rfl _
  -- the draft after each member: every field is still missing when its key comes
  have fills : record.Fills record.empty [("date", .string d.date.text), ("min", .number d.min),
      ("max", .number d.max), ("units", .string d.units)]
      ⟨some d.date, some d'.min, some d'.max, some d.units⟩ :=
    .cons rfl rfl (Field.of_recovers readDate) <|
    .cons rfl rfl (Field.of_recovers (binary64_recovers min)) <|
    .cons rfl rfl (Field.of_recovers (binary64_recovers max)) <|
    .cons rfl rfl (Field.of_recovers readUnits) .nil
  apply Record.read_recovers fills
  rw [← date, ← units]
  rfl

end DayForecast

namespace Forecast

theorem parse_text {f : Forecast} {days : List DayForecast}
    (h : List.Forall₂ DayForecast.Reread f.days days) :
    parse (Utf8.encode f.text) = .ok ⟨f.location, f.units, days⟩ := by
  have readUnits : Reader.string.Recovers (.string f.units) f.units := parsed_recovers rfl _
  have items : List.Forall₂ (fun v d => Opens v ∧ DayForecast.record.read.Recovers v d)
      (f.days.map DayForecast.toJson) days := by
    rw [List.forall₂_map_left_iff]
    exact h.imp fun d d' reread => ⟨object_opens _, reread.recovers⟩
  have fills : record.Fills record.empty [("location", .ofOption f.location),
      ("units", .string f.units), ("forecast", .array (f.days.map DayForecast.toJson))]
      ⟨some f.location, some f.units, some days⟩ :=
    .cons rfl rfl (Field.of_recovers (optional_string_recovers f.location)) <|
    .cons rfl rfl (Field.of_recovers readUnits) <|
    .cons rfl rfl (Field.of_recovers (list_recovers items)) .nil
  exact (Record.read_recovers fills rfl).all

/-- A forecast of integers is read from its text. -/
theorem parse_text_of_integers (f : Forecast)
    (h : ∀ d ∈ f.days, d.min.IsInt32 ∧ d.max.IsInt32) :
    parse (Utf8.encode f.text) = .ok f := by
  apply parse_text
  rw [List.forall₂_same]
  exact fun d mem => .refl (h d mem).1 (h d mem).2

def extremes : Forecast where
  location := some "\"\\\t\u0000\u007f\u2028🌧"
  units := ""
  days := [
    ⟨⟨-262143, 1, 1, by decide, by decide, Nat.zero_lt_one, by decide⟩, .ofInt (-2 ^ 31),
      .finite true .zero, "\n"⟩,
    ⟨⟨10000, 2, 29, by decide, by decide, by decide, by decide⟩, .ofInt 0,
      .ofInt (2 ^ 31 - 1), "°"⟩]

theorem parse_text_of_extremes :
    (∀ d ∈ extremes.days, d.min.IsInt32 ∧ d.max.IsInt32) ∧
      parse (Utf8.encode extremes.text) = .ok extremes := by
  have integers : ∀ d ∈ extremes.days, d.min.IsInt32 ∧ d.max.IsInt32 := by
    have zero : (Binary64.finite true .zero).IsInt32 :=
      ⟨0, true, .zero, rfl, (Int.zero_mul _).symm⟩
    simp only [extremes, List.forall_mem_cons, List.not_mem_nil, false_implies, implies_true,
      and_true]
    exact ⟨⟨Binary64.ofInt_isInt32 (by omega) (by omega), zero⟩,
      Binary64.ofInt_isInt32 (by omega) (by omega), Binary64.ofInt_isInt32 (by omega) (by omega)⟩
  exact ⟨integers, parse_text_of_integers extremes integers⟩

end Forecast

namespace Request

def toJsonList (request : Request) : Json :=
  .array [.ofOption request.location, .integer request.days.toInt, .string request.units]

def locationTree : Option String → Tree
  | none => .null
  | some s => .string s

theorem locationTree_writes (location : Option String) :
    (Json.ofOption location).Writes (locationTree location) := by
  cases location with
  | none => exact null_writes
  | some s => exact string_writes s

theorem ofFields_eq_self (request : Request) {n : Literal}
    (days : n.integer? = some request.days.toInt) :
    ofFields (some (locationTree request.location)) (some (.number n))
      (some (.string request.units)) = some request := by
  have location : locationOf (some (locationTree request.location)) = some request.location := by
    cases request.location <;> rfl
  have fits : Tree.int32? (.number n) = some request.days := by
    rw [Tree.int32?, days, Option.bind_some, if_pos ⟨request.days.le_toInt, request.days.toInt_lt⟩,
      Int32.ofInt_toInt]
  rw [ofFields, location]
  change (Tree.int32? (.number n) >>= fun days => some (Request.mk _ days _)) = _
  rw [fits]
  rfl

theorem parse_writes {v : Json} {t : Tree} {request : Request} (h : v.Writes t)
    (value : ofTree t = some request) : parse (Utf8.encode v.text) = .ok request := by
  have same : (parse v.bytes).toOption = ofTree t := read_reads.all h.element
  rw [value] at same
  change parse v.bytes = _
  cases read : parse v.bytes with
  | ok result =>
    rw [read] at same
    rw [Option.some.inj same]
  | error fault =>
    rw [read] at same
    cases same

/-- A request is read back from its text, and from the list of its fields. -/
theorem parse_both_forms (request : Request) :
    parse (Utf8.encode request.text) = .ok request ∧
      parse (Utf8.encode request.toJsonList.text) = .ok request := by
  obtain ⟨n, days, integer⟩ := integer_writes request.days.toInt
  have location := locationTree_writes request.location
  have units := string_writes request.units
  have fields := ofFields_eq_self request days
  have object : request.toJson.Writes (.object [("location", locationTree request.location),
      ("days", .number n), ("units", .string request.units)]) :=
    object_writes (.cons ⟨rfl, location⟩ (.cons ⟨rfl, integer⟩ (.cons ⟨rfl, units⟩ .nil)))
  have list : request.toJsonList.Writes (.array [locationTree request.location, .number n,
      .string request.units]) :=
    array_writes (.cons location (.cons integer (.cons units .nil)))
  refine ⟨parse_writes object ?_, parse_writes list fields⟩
  rw [← fields]
  simp [ofTree, once, named]

end Request

end Almanac
