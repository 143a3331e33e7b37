import Almanac.Proofs.Forecast.Course
import Mathlib.Data.List.Forall2

set_option autoImplicit false

namespace Almanac

/-- Whether an entry has the units of its request and the bounds that were drawn for it, both as
they are or both converted. -/
def DayForecast.Carries (units : String) (d : DayForecast) (bounds : Int32 × Int32) : Prop :=
  d.units = units ∧
    if namesCelsius units then
      d.min = toCelsius (.ofInt bounds.1.toInt) ∧ d.max = toCelsius (.ofInt bounds.2.toInt)
    else d.min = .ofInt bounds.1.toInt ∧ d.max = .ofInt bounds.2.toInt

namespace Forecast

theorem entry_carries (units : String) (date : Date) (bounds : Int32 × Int32) :
    (entry units (namesCelsius units) date bounds).Carries units bounds := by
  refine ⟨rfl, ?_⟩
  cases namesCelsius units <;> simp [entry, temperature]

theorem entries_carry (units : String) {dates : List Date} {bounds : List (Int32 × Int32)}
    (h : dates.length = bounds.length) :
    List.Forall₂ (DayForecast.Carries units)
      (List.zipWith (entry units (namesCelsius units)) dates bounds) bounds := by
  induction dates generalizing bounds with
  | nil =>
    cases bounds with
    | nil => exact .nil
    | cons => cases h
  | cons date dates ih =>
    cases bounds with
    | nil => cases h
    | cons first rest =>
      exact .cons (entry_carries units date first) (ih (Nat.succ.inj h))

theorem dayDraws_length (bounds : List (Int32 × Int32)) :
    (bounds.flatMap dayDraws).length = 2 * bounds.length := by
  induction bounds with
  | nil => rfl
  | cons first rest ih =>
    rw [List.flatMap_cons, List.length_append, ih, List.length_cons]
    change 2 + _ = _
    omega

variable {σ : Type} [Source σ] [Source.Ranged σ]

/-- On a ranged source a forecast makes two draws for each of its entries, in their order, the
second from a range above the answer to the first. The entry carries both answers, and the source is
left where those draws leave it. -/
theorem generate_draws (request : Request) (today : Date) (s : σ) :
    ∃ f bounds, (generate request today s).result = .ok f ∧
      f.location = request.location ∧ f.units = request.units ∧
      List.Forall₂ (DayForecast.Carries request.units) f.days bounds ∧
      (generate request today s).draws.length = 2 * f.days.length ∧
      (generate request today s).draws =
        bounds.flatMap (fun (a, b) => [⟨50, 89, a⟩, ⟨a + 5, a + 19, b⟩]) ∧
      (∀ a b, (a, b) ∈ bounds → 50 ≤ a.toInt ∧ a.toInt ≤ 89 ∧ a.toInt + 5 ≤ b.toInt ∧
        b.toInt ≤ a.toInt + 19) ∧
      Source.Replays s (generate request today s).draws (generate request today s).source := by
  have result := generate_result request today s
  rw [generate_eq] at result ⊢
  generalize dates today request.days.toInt.toNat 0 = days at result ⊢
  obtain ⟨finished, within⟩ := course_ranged days.length s
  obtain ⟨length, draws⟩ := course_finished finished
  refine ⟨_, (course days.length s).bounds, result, rfl, rfl, ?_, ?_, draws, ?_, ?_⟩
  · exact entries_carry request.units length.symm
  · rw [Course.outcome, draws, dayDraws_length, List.length_zipWith, length, Nat.min_self]
  · exact fun a b mem => within (a, b) mem
  · exact course_replays days.length s

theorem one_day_drawn :
    let today : Date := ⟨2024, 2, 29, by decide, by decide, by decide, by decide⟩
    let outcome := generate ⟨some "Oslo", 1, "c"⟩ today (Generator.ofSeed 7)
    ∃ d a b, outcome.result = .ok ⟨some "Oslo", "c", [d]⟩ ∧
      outcome.draws = [⟨50, 89, a⟩, ⟨a + 5, a + 19, b⟩] ∧
      d.min = toCelsius (.ofInt a.toInt) ∧ d.max = toCelsius (.ofInt b.toInt) ∧
      Source.Replays (Generator.ofSeed 7) outcome.draws outcome.source := by
  intro today outcome
  obtain ⟨⟨location, units, days⟩, bounds, made, rfl, rfl, carries, -, draws, -, replays⟩ :=
    generate_draws ⟨some "Oslo", 1, "c"⟩ today (Generator.ofSeed 7)
  obtain ⟨f, made', -, -, length, -⟩ :=
    generate_ranged ⟨some "Oslo", 1, "c"⟩ today (Generator.ofSeed 7)
  rw [made] at made'
  cases made'
  obtain ⟨d, rfl⟩ := List.length_eq_one_iff.1 (length.trans (by decide))
  cases carries with
  | cons carried rest =>
    rename_i b _
    cases rest
    obtain ⟨_, converted⟩ := carried
    rw [if_pos (by decide)] at converted
    exact ⟨d, b.1, b.2, made, draws, converted.1, converted.2, replays⟩

end Forecast

end Almanac
