import Almanac.Binary64.Basic
import Almanac.Proofs.Forecast.Entries
import Almanac.Proofs.Forecast.Rereading

set_option autoImplicit false

/-!
# What generated forecasts come back as

A forecast in Fahrenheit is read from its text as it was generated (`parse_fahrenheit`). One in
Celsius has temperatures that are those of 50 to 108 degrees Fahrenheit. Each has its shortest
decimal, but reading that rounds twice: of the fifty-nine, the one of 54 degrees comes back as the
next lower number and the one of 55 degrees as the next higher one (`Binary64.comesBack`), all
others and whatever else there is in a forecast as they were (`parse_celsius`).
-/
namespace Almanac

/-- What a temperature between those of 50 and 108 degrees Fahrenheit comes back as. -/
def Binary64.comesBack (x : Binary64) : Binary64 :=
  if x = toCelsius (.ofInt 54) then .ofBits (x.toBits - 1)
  else if x = toCelsius (.ofInt 55) then .ofBits (x.toBits + 1)
  else x

theorem reread_celsius : ∀ n < 59,
    (toCelsius (.ofInt (50 + n : Nat))).reread? =
      some (toCelsius (.ofInt (50 + n : Nat))).comesBack := by
  decide +kernel

theorem reread_of_range {i : Int} (lower : 50 ≤ i) (upper : i ≤ 108) :
    (toCelsius (.ofInt i)).reread? = some (toCelsius (.ofInt i)).comesBack := by
  obtain ⟨n, rfl⟩ : ∃ n : Nat, i = (50 + n : Nat) := ⟨(i - 50).toNat, by omega⟩
  exact reread_celsius n (by omega)

namespace DayForecast

def comesBack (d : DayForecast) : DayForecast :=
  { d with min := d.min.comesBack, max := d.max.comesBack }

theorem Drawn.reread {d : DayForecast} (h : d.Drawn true) : d.Reread d.comesBack := by
  obtain ⟨a, b, lower, upper, least, most, min, max⟩ := h
  refine ⟨rfl, ?_, ?_, rfl⟩
  · change d.min.reread? = some d.min.comesBack
    rw [min]
    exact reread_of_range lower (by omega)
  · change d.max.reread? = some d.max.comesBack
    rw [max]
    exact reread_of_range (by omega) (by omega)

end DayForecast

namespace Forecast

variable {σ : Type} [Source σ]

/-- A forecast in Fahrenheit comes back as it is, whatever its source answered. -/
theorem parse_fahrenheit {request : Request} {today : Date} {s : σ} {f : Forecast}
    (fahrenheit : namesCelsius request.units = false)
    (made : (generate request today s).result = .ok f) : parse (Utf8.encode f.text) = .ok f := by
  have integer (v : Int32) : (temperature false v).IsInt32 := by
    have value := Binary64.ofInt_isInt32 (Int32.le_toInt v) (Int32.toInt_lt v)
    simpa [temperature] using value
  obtain ⟨_, _, entries⟩ := generate_entries made
  apply parse_text
  rw [List.forall₂_same]
  intro d mem
  obtain ⟨date, bounds, _, rfl⟩ := entries d mem
  rw [fahrenheit]
  exact .refl (integer bounds.1) (integer bounds.2)

/-- A forecast in Celsius whose draws lie in their ranges is made unless a draw fails, and comes
back with two temperatures changed. -/
theorem parse_celsius (request : Request) (today : Date) (s : σ)
    (celsius : namesCelsius request.units = true)
    (inRange : ∀ d ∈ (generate request today s).draws, d.InRange)
    (answered : ∀ e, (generate request today s).result ≠ .error (.draw e)) :
    ∃ f, (generate request today s).result = .ok f ∧
      parse (Utf8.encode f.text) = .ok { f with days := f.days.map DayForecast.comesBack } := by
  obtain ⟨fits, drawn⟩ := generate_drawn request today s inRange
  cases made : (generate request today s).result with
  | error e =>
    cases e with
    | draw cause => exact absurd made (answered cause)
    | overflow => exact absurd made fits
  | ok f =>
    refine ⟨f, rfl, parse_text ?_⟩
    rw [List.forall₂_map_right_iff, List.forall₂_same]
    intro d mem
    obtain ⟨_, _, entries⟩ := drawn f made
    have entry := entries d mem
    rw [celsius] at entry
    exact entry.reread

def changedRun : Outcome Script :=
  generate ⟨none, 2, "c"⟩ ⟨2025, 3, 1, by decide, by decide, by decide, by decide⟩
    ⟨[54, 59, 50, 55]⟩

def changedForecast : Forecast where
  location := none
  units := "c"
  days := [
    ⟨⟨2025, 3, 1, by decide, by decide, by decide, by decide⟩, toCelsius (.ofInt 54),
      toCelsius (.ofInt 59), "c"⟩,
    ⟨⟨2025, 3, 2, by decide, by decide, by decide, by decide⟩, toCelsius (.ofInt 50),
      toCelsius (.ofInt 55), "c"⟩]

theorem changedRun_result : changedRun.result = .ok changedForecast := by
  decide +kernel

theorem changedRun_inRange : ∀ d ∈ changedRun.draws, d.InRange := by
  have draws : changedRun.draws =
      [⟨50, 89, 54⟩, ⟨59, 73, 59⟩, ⟨50, 89, 50⟩, ⟨55, 69, 55⟩] := by decide +kernel
  rw [draws]
  unfold Draw.InRange
  decide

theorem parse_changedRun :
    namesCelsius "c" = true ∧ (∀ d ∈ changedRun.draws, d.InRange) ∧
      (∀ e, changedRun.result ≠ .error (.draw e)) ∧
      ∃ f, changedRun.result = .ok f ∧
        parse (Utf8.encode f.text) = .ok { f with days := f.days.map DayForecast.comesBack } := by
  have celsius : namesCelsius "c" = true := by decide
  have answered : ∀ e, changedRun.result ≠ .error (.draw e) := by
    rw [changedRun_result]
    nofun
  exact ⟨celsius, changedRun_inRange, answered,
    parse_celsius _ _ _ celsius changedRun_inRange answered⟩

/-- A minimum and a maximum in Celsius that are not what comes back of them. -/
theorem changed_temperatures :
    namesCelsius "c" = true ∧ (∀ d ∈ changedRun.draws, d.InRange) ∧
      ∃ f f', changedRun.result = .ok f ∧ parse (Utf8.encode f.text) = .ok f' ∧
        f.days.map (·.min) ≠ f'.days.map (·.min) ∧ f.days.map (·.max) ≠ f'.days.map (·.max) := by
  have first : DayForecast.Drawn true ⟨⟨2025, 3, 1, by decide, by decide, by decide, by decide⟩,
      toCelsius (.ofInt 54), toCelsius (.ofInt 59), "c"⟩ :=
    ⟨54, 59, by omega, by omega, by omega, by omega, rfl, rfl⟩
  have second : DayForecast.Drawn true ⟨⟨2025, 3, 2, by decide, by decide, by decide, by decide⟩,
      toCelsius (.ofInt 50), toCelsius (.ofInt 55), "c"⟩ :=
    ⟨50, 55, by omega, by omega, by omega, by omega, rfl, rfl⟩
  have text : parse (Utf8.encode changedForecast.text) =
      .ok { changedForecast with days := changedForecast.days.map DayForecast.comesBack } :=
    parse_text (.cons first.reread (.cons second.reread .nil))
  refine ⟨by decide, changedRun_inRange, _, _, changedRun_result, text, ?_, ?_⟩
  · decide +kernel
  · decide +kernel

end Forecast

end Almanac
