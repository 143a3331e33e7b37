import Almanac.Calendar.Date
import Almanac.Forecast.Generation
import Almanac.Json.Record

set_option autoImplicit false

namespace Almanac

open Json

namespace Request

/-- The fields of a request read so far; a field that was `null` counts as read. -/
structure Draft where
  location : Option (Option String)
  days : Option (Option Int32)
  units : Option (Option String)

def Draft.finish (draft : Draft) : Request where
  location := draft.location.join
  days := match draft.days with
    | none => defaultDays
    | some days => days.getD 0
  units := draft.units.join.getD defaultUnits

/-- A missing location or unit name and one that is `null` are the same; a missing number of days is
the default one, but `null` days are none. -/
def record : Record Draft Request where
  title := "ForecastRequest"
  fields := [
    .of "location" (·.location) (fun v draft => { draft with location := some v })
      (.optional .string),
    .of "days" (·.days) (fun v draft => { draft with days := some v }) (.optional .int32),
    .of "units" (·.units) (fun v draft => { draft with units := some v }) (.optional .string)]
  empty := ⟨none, none, none⟩
  ofMembers draft := .ok draft.finish
  ofElements draft _ := .ok draft.finish

def parse (bytes : List UInt8) : Except Fault Request := Reader.all record.read bytes

def toJson (request : Request) : Json :=
  .object [("location", .ofOption request.location), ("days", .integer request.days.toInt),
    ("units", .string request.units)]

def text (request : Request) : String := request.toJson.text

end Request

def required {α : Type} (name : String) (value : Option α) : Except Mismatch α :=
  match value with
  | some v => .ok v
  | none => .error (.missingField name)

/-- A draft that is complete, or the length of the list that is too short for `title`. -/
def completed {α : Type} (title : String) (size count : Nat) (value : Except Mismatch α) :
    Except Mismatch α :=
  if count < size then
    .error (.wrongLength count ("struct " ++ title ++ " with " ++ toString size ++ " elements"))
  else value

namespace DayForecast

structure Draft where
  date : Option Date
  min : Option Binary64
  max : Option Binary64
  units : Option String

def Draft.finish (draft : Draft) : Except Mismatch DayForecast := do
  let date ← required "date" draft.date
  let min ← required "min" draft.min
  let max ← required "max" draft.max
  let units ← required "units" draft.units
  pure ⟨date, min, max, units⟩

def readDate : Reader Date :=
  .parsed "a formatted date string" fun s => (Date.read s).mapError DateError.message

def record : Record Draft DayForecast where
  title := "DayForecast"
  fields := [
    .of "date" (·.date) (fun v draft => { draft with date := some v }) readDate,
    .of "min" (·.min) (fun v draft => { draft with min := some v }) .binary64,
    .of "max" (·.max) (fun v draft => { draft with max := some v }) .binary64,
    .of "units" (·.units) (fun v draft => { draft with units := some v }) .string]
  empty := ⟨none, none, none, none⟩
  ofMembers := Draft.finish
  ofElements draft count := completed "DayForecast" 4 count draft.finish

def toJson (d : DayForecast) : Json :=
  .object [("date", .string d.date.text), ("min", .number d.min), ("max", .number d.max),
    ("units", .string d.units)]

end DayForecast

namespace Forecast

structure Draft where
  location : Option (Option String)
  units : Option String
  days : Option (List DayForecast)

def Draft.finish (draft : Draft) : Except Mismatch Forecast := do
  let units ← required "units" draft.units
  let days ← required "forecast" draft.days
  pure ⟨draft.location.join, units, days⟩

def record : Record Draft Forecast where
  title := "ForecastResponse"
  fields := [
    .of "location" (·.location) (fun v draft => { draft with location := some v })
      (.optional .string),
    .of "units" (·.units) (fun v draft => { draft with units := some v }) .string,
    .of "forecast" (·.days) (fun v draft => { draft with days := some v })
      (.list DayForecast.record.read)]
  empty := ⟨none, none, none⟩
  ofMembers := Draft.finish
  ofElements draft count := completed "ForecastResponse" 3 count draft.finish

def parse (bytes : List UInt8) : Except Fault Forecast := Reader.all record.read bytes

def toJson (f : Forecast) : Json :=
  .object [("location", .ofOption f.location), ("units", .string f.units),
    ("forecast", .array (f.days.map DayForecast.toJson))]

def text (f : Forecast) : String := f.toJson.text

end Forecast

end Almanac
