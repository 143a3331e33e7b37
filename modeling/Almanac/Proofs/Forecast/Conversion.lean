import Almanac.Proofs.Binary64.Operations
import Almanac.Proofs.Forecast.Draws
import Almanac.Proofs.Forecast.Entries

set_option autoImplicit false

namespace Almanac

section Steps

variable (f : Int32)

theorem toCelsius_steps :
    (Binary64.ofInt f.toInt).HasValue f.toInt ∧
      (Binary64.ofInt f.toInt - 32).HasValue (f.toInt - 32) ∧
      ((Binary64.ofInt f.toInt - 32) * 5).HasValue ((f.toInt - 32) * 5) := by
  have lower := f.le_toInt
  have upper := f.toInt_lt
  have given := Binary64.ofInt_hasValue (i := f.toInt) (by omega)
  have difference := given.sub (Binary64.ofNat_hasValue (n := 32) (by decide)) (by omega)
  have product := difference.mul (Binary64.ofNat_hasValue (n := 5) (by decide)) (by omega)
  exact ⟨given, difference, product⟩

theorem toCelsius_isRounded :
    (toCelsius (.ofInt f.toInt)).IsRounded (5 * (f.toInt - 32) / 9) 31 := by
  have lower := f.le_toInt
  have upper := f.toInt_lt
  have nine : (9 : Binary64).HasValue 9 := Binary64.ofNat_hasValue (n := 9) (by decide)
  have bound : ((f.toInt - 32) * 5).natAbs < 2 ^ 31 * Int.natAbs 9 := by omega
  have rounded := (toCelsius_steps f).2.2.div nine bound (by decide)
  have quotient : (((f.toInt - 32) * 5 : Int) / (9 : Int) : ℚ) = 5 * (f.toInt - 32) / 9 := by
    push_cast
    ring
  rw [quotient] at rounded
  exact rounded

end Steps

theorem toCelsius_less {a b : Int32} (h : a < b) :
    (toCelsius (.ofInt a.toInt)).Less (toCelsius (.ofInt b.toInt)) := by
  obtain ⟨_, _, v, _, value, _⟩ := (toCelsius_isRounded a).isNearest
  obtain ⟨_, _, w, _, value', _⟩ := (toCelsius_isRounded b).isNearest
  refine ⟨v, w, value, value', ?_⟩
  have error := (toCelsius_isRounded a).error value
  have error' := (toCelsius_isRounded b).error value'
  have apart : (a.toInt : ℚ) + 1 ≤ b.toInt := by
    exact_mod_cast Int32.lt_iff_toInt_lt.1 h
  rw [abs_le] at error error'
  linarith

/-- A temperature is converted to the number nearest to its exact value, only the quotient being
rounded. A lower temperature is converted to a lower number, and so are the two draws behind an
entry, if they are in this order. -/
theorem toCelsius_accurate :
    (∀ f : Int32,
      let x := Binary64.ofInt f.toInt
      x.value? = some (f.toInt : ℚ) ∧ (x - 32).value? = some (f.toInt - 32 : ℚ) ∧
        ((x - 32) * 5).value? = some (5 * (f.toInt - 32) : ℚ) ∧
        (toCelsius x).IsNearest (5 * (f.toInt - 32) / 9)) ∧
    (∀ a b : Int32, a < b →
      (toCelsius (.ofInt a.toInt)).Less (toCelsius (.ofInt b.toInt))) ∧
    ∀ {σ : Type} [Source σ] (request : Request) (today : Date) (s : σ) (f : Forecast),
      namesCelsius request.units = true →
      (Forecast.generate request today s).result = .ok f →
      ∀ d ∈ f.days, ∃ a b, Forecast.Behind (Forecast.generate request today s).draws a b ∧
        d.min = toCelsius (.ofInt a.toInt) ∧ d.max = toCelsius (.ofInt b.toInt) ∧
        (a < b → d.min.Less d.max) := by
  refine ⟨fun f => ?_, fun a b => toCelsius_less, ?_⟩
  · obtain ⟨given, difference, product⟩ := toCelsius_steps f
    have value := product.value?
    rw [Int.mul_comm] at value
    exact ⟨given.value?, by simpa using difference.value?, by simpa using value,
      (toCelsius_isRounded f).isNearest⟩
  · intro σ _ request today s f celsius made d mem
    obtain ⟨-, -, entries⟩ := Forecast.generate_entries made
    obtain ⟨date, bounds, behind, rfl⟩ := entries d mem
    obtain ⟨-, converted⟩ := Forecast.entry_carries request.units date bounds
    rw [if_pos celsius] at converted
    refine ⟨bounds.1, bounds.2, behind, converted.1, converted.2, fun less => ?_⟩
    rw [converted.1, converted.2]
    exact toCelsius_less less

theorem extremes_accurate :
    let low : Int32 := -2147483648
    let high : Int32 := 2147483647
    let today : Date := ⟨2024, 2, 29, by decide, by decide, by decide, by decide⟩
    let outcome := Forecast.generate ⟨none, 1, "c"⟩ today (⟨[low, high]⟩ : Script)
    let d : DayForecast := ⟨today, toCelsius (.ofInt low.toInt), toCelsius (.ofInt high.toInt), "c"⟩
    low < high ∧ d.min.Less d.max ∧
      namesCelsius "c" = true ∧ outcome.result = .ok ⟨none, "c", [d]⟩ ∧
      ∃ a b, Forecast.Behind outcome.draws a b ∧ a < b ∧ d.min = toCelsius (.ofInt a.toInt) ∧
        d.max = toCelsius (.ofInt b.toInt) ∧ d.min.Less d.max := by
  intro low high today outcome d
  have celsius : namesCelsius "c" = true := by decide +kernel
  have made : outcome.result = .ok ⟨none, "c", [d]⟩ := by decide +kernel
  have draws : outcome.draws = [⟨50, 89, low⟩, ⟨low + 5, low + 19, high⟩] := by decide +kernel
  obtain ⟨-, ordered, entries⟩ := toCelsius_accurate
  obtain ⟨a, b, behind, min, max, less⟩ :=
    entries _ today _ _ celsius made d (List.mem_singleton_self d)
  have same : a = low ∧ b = high := by
    obtain ⟨least, most, sum, -, first, second⟩ := behind
    rw [draws] at first second
    simp only [List.mem_cons, Draw.mk.injEq, List.not_mem_nil, or_false] at first second
    rcases first with ⟨-, -, rfl⟩ | ⟨unequal, -⟩
    · rcases second with ⟨rfl, -⟩ | ⟨-, -, rfl⟩
      · exact absurd sum (by decide)
      · exact ⟨rfl, rfl⟩
    · exact absurd unequal (by decide)
  have inOrder : a < b := by
    rw [same.1, same.2]
    decide
  exact ⟨by decide, ordered low high (by decide), celsius, made, a, b, behind, inOrder, min, max,
    less inOrder⟩

end Almanac
