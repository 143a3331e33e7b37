import Almanac.Basic
import Almanac.Binary64.Basic
import Almanac.Calendar.Date
import Almanac.Draw.Source
import Almanac.Text.Case

set_option autoImplicit false

namespace Almanac

structure Request where
  location : Option String
  days : Int32
  units : String
deriving DecidableEq

namespace Request

def defaultDays : Int32 := 7

def defaultUnits : String := "Farenheit"

def default : Request := ⟨none, defaultDays, defaultUnits⟩

end Request

structure DayForecast where
  date : Date
  min : Binary64
  max : Binary64
  units : String
deriving DecidableEq

structure Forecast where
  location : Option String
  units : String
  days : List DayForecast
deriving DecidableEq

def namesCelsius (units : String) : Bool :=
  CaseMap.unicode.equalIgnoringCase units "celsius" || CaseMap.unicode.equalIgnoringCase units "c"

/-- Degrees Celsius for degrees Fahrenheit, each of the three operations rounded on its own. -/
def toCelsius (fahrenheit : Binary64) : Binary64 := (fahrenheit - 32) * 5 / 9

inductive ForecastError where
  | draw (cause : DrawError)
  | overflow
deriving DecidableEq

def ForecastError.message : ForecastError → String
  | draw cause => cause.message
  | overflow => "attempt to add with overflow"

namespace Forecast

def minLow : Int32 := 50

def minHigh : Int32 := 89

def spreadLow : Int32 := 5

def spreadHigh : Int32 := 19

def sum? (a b : Int32) : Option Int32 :=
  let n := a.toInt + b.toInt
  if -2 ^ 31 ≤ n ∧ n < 2 ^ 31 then some (Int32.ofInt n) else none

def temperature (celsius : Bool) (fahrenheit : Int32) : Binary64 :=
  let x := Binary64.ofInt fahrenheit.toInt
  if celsius then toCelsius x else x

/-- A forecast in the making: the source, the draws made, the days finished, and the error that
stopped it, if any. -/
structure Progress (σ : Type) where
  source : σ
  draws : Array Draw
  days : Array DayForecast
  error : Option ForecastError

namespace Progress

variable {σ : Type} [Source σ]

def draw (p : Progress σ) (low high : Int32) : Except DrawError Int32 × Progress σ :=
  match Source.draw p.source low high with
  | .ok (v, source) => (.ok v, { p with source, draws := p.draws.push ⟨low, high, v⟩ })
  | .error e => (.error e, { p with error := some (.draw e) })

def day (units : String) (celsius : Bool) (date : Date) (p : Progress σ) : Progress σ :=
  match p.draw minLow minHigh with
  | (.error _, p) => p
  | (.ok min, p) =>
    match sum? min spreadLow, sum? min spreadHigh with
    | some low, some high =>
      match p.draw low high with
      | (.error _, p) => p
      | (.ok max, p) =>
        let entry : DayForecast :=
          ⟨date, temperature celsius min, temperature celsius max, units⟩
        { p with days := p.days.push entry }
    | _, _ => { p with error := some .overflow }

/-- Makes the days that come `offset` days after `today` and later, `count` of them. -/
def run (units : String) (celsius : Bool) (today : Date) :
    (count offset : Nat) → Progress σ → Progress σ
  | 0, _, p => p
  | count + 1, offset, p =>
    if p.error.isSome then p
    else match today.addDays? offset with
      | none => p
      | some date => run units celsius today count (offset + 1) (p.day units celsius date)

end Progress

structure Outcome (σ : Type) where
  result : Except ForecastError Forecast
  draws : List Draw
  source : σ

variable {σ : Type} [Source σ]

def generate (request : Request) (today : Date) (source : σ) : Outcome σ :=
  let p := Progress.run request.units (namesCelsius request.units) today request.days.toInt.toNat 0
    ⟨source, #[], #[], none⟩
  let result := match p.error with
    | some e => .error e
    | none => .ok ⟨request.location, request.units, p.days.toList⟩
  ⟨result, p.draws.toList, p.source⟩

end Forecast

end Almanac
