import Almanac.Proofs.Draw.Ranged
import Almanac.Proofs.Forecast.Days

set_option autoImplicit false

namespace Almanac.Forecast

variable {σ : Type}

structure Course (σ : Type) where
  draws : List Draw
  source : σ
  bounds : List (Int32 × Int32)
  error : Option ForecastError

namespace Course

def ofDay (d : Drawn σ) : Course σ :=
  match d.bounds with
  | .ok bounds => ⟨d.draws, d.source, [bounds], none⟩
  | .error e => ⟨d.draws, d.source, [], some e⟩

/-- A course and, unless it failed, another one from where it left the source. -/
def andThen (c : Course σ) (more : σ → Course σ) : Course σ :=
  match c.error with
  | some _ => c
  | none =>
    let d := more c.source
    ⟨c.draws ++ d.draws, d.source, c.bounds ++ d.bounds, d.error⟩

theorem andThen_of_error {c : Course σ} (h : c.error ≠ none) (more : σ → Course σ) :
    c.andThen more = c := by
  unfold andThen
  split
  · rfl
  · contradiction

theorem andThen_of_finished {c : Course σ} (h : c.error = none) (more : σ → Course σ) :
    c.andThen more = ⟨c.draws ++ (more c.source).draws, (more c.source).source,
      c.bounds ++ (more c.source).bounds, (more c.source).error⟩ := by
  rw [andThen, h]

theorem andThen_assoc (c : Course σ) (f g : σ → Course σ) :
    (c.andThen f).andThen g = c.andThen fun s => (f s).andThen g := by
  cases stopped : c.error with
  | some e => simp [andThen, stopped]
  | none => cases later : (f c.source).error <;> simp [andThen, stopped, later]

def outcome (request : Request) (dates : List Date) (c : Course σ) : Outcome σ where
  result := match c.error with
    | some e => .error e
    | none => .ok ⟨request.location, request.units,
        List.zipWith (entry request.units (namesCelsius request.units)) dates c.bounds⟩
  draws := c.draws
  source := c.source

theorem outcome_ok_iff {request : Request} {dates : List Date} {c : Course σ} :
    (∃ f, (c.outcome request dates).result = .ok f) ↔ c.error = none := by
  unfold outcome
  cases c.error <;> simp

theorem outcome_error_iff {request : Request} {dates : List Date} {c : Course σ}
    {e : ForecastError} : (c.outcome request dates).result = .error e ↔ c.error = some e := by
  unfold outcome
  cases c.error <;> simp

end Course

/-- The progress from which a course was gone. -/
def Progress.follow (units : String) (celsius : Bool) (dates : List Date) (p : Progress σ)
    (c : Course σ) : Progress σ where
  source := c.source
  draws := p.draws ++ c.draws.toArray
  days := p.days ++ (List.zipWith (entry units celsius) dates c.bounds).toArray
  error := c.error

variable [Source σ]

def course : Nat → σ → Course σ
  | 0, s => ⟨[], s, [], none⟩
  | days + 1, s => (Course.ofDay (drawDay s)).andThen (course days)

theorem course_add (m n : Nat) (s : σ) : course (m + n) s = (course m s).andThen (course n) := by
  induction m generalizing s with
  | zero =>
    rw [Nat.zero_add]
    rfl
  | succ m ih =>
    rw [Nat.add_right_comm, course, funext ih, course, Course.andThen_assoc]

theorem foldl_make_eq (units : String) (celsius : Bool) (dates : List Date) {p : Progress σ}
    (h : p.error = none) : dates.foldl (Progress.make units celsius) p =
      p.follow units celsius dates (course dates.length p.source) := by
  induction dates generalizing p with
  | nil =>
    obtain ⟨source, draws, days, error⟩ := p
    subst h
    simp [Progress.follow, course]
  | cons date dates ih =>
    rw [List.foldl_cons, Progress.make_eq_record h, List.length_cons, course]
    cases made : (drawDay p.source).bounds with
    | error e =>
      rw [Progress.foldl_make_of_error _ _ _ _ (by simp [Progress.record, made])]
      simp [Progress.record, Progress.follow, made, Course.ofDay, Course.andThen]
    | ok bounds =>
      rw [ih (by simp [Progress.record, made, h])]
      simp [Progress.record, Progress.follow, made, Course.ofDay, Course.andThen]

theorem generate_eq (request : Request) (today : Date) (s : σ) :
    generate request today s =
      (course (dates today request.days.toInt.toNat 0).length s).outcome request
        (dates today request.days.toInt.toNat 0) := by
  have run := foldl_make_eq request.units (namesCelsius request.units)
    (dates today request.days.toInt.toNat 0) (show (⟨s, #[], #[], none⟩ : Progress σ).error = none
    from rfl)
  simp only [generate, run_eq_foldl, run, Progress.follow, Course.outcome]
  cases (course (dates today request.days.toInt.toNat 0).length s).error <;> simp

def dayDraws (bounds : Int32 × Int32) : List Draw :=
  [⟨minLow, minHigh, bounds.1⟩, ⟨bounds.1 + spreadLow, bounds.1 + spreadHigh, bounds.2⟩]

theorem drawDay_finished {s : σ} {bounds : Int32 × Int32} (h : (drawDay s).bounds = .ok bounds) :
    (drawDay s).draws = dayDraws bounds := by
  have run := drawDay_run s
  generalize drawDay s = d at run h ⊢
  cases run with
  | finished first hlow hhigh second =>
    cases h
    rw [dayDraws, eq_add_of_sum? hlow, eq_add_of_sum? hhigh]
  | _ => cases h

theorem drawDay_replays (s : σ) : Source.Replays s (drawDay s).draws (drawDay s).source := by
  have run := drawDay_run s
  generalize drawDay s = d at run ⊢
  cases run with
  | unanswered first => exact .nil s
  | overflow first sums => exact .cons first (.nil _)
  | half first hlow hhigh second => exact .cons first (.nil _)
  | finished first hlow hhigh second => exact .cons first (.cons second (.nil _))

theorem Course.andThen_replays {c : Course σ} {more : σ → Course σ} {s : σ}
    (h : Source.Replays s c.draws c.source)
    (h' : ∀ s, Source.Replays s (more s).draws (more s).source) :
    Source.Replays s (c.andThen more).draws (c.andThen more).source := by
  by_cases finished : c.error = none
  · rw [andThen_of_finished finished]
    exact h.append (h' c.source)
  · rw [andThen_of_error finished]
    exact h

theorem course_replays (days : Nat) (s : σ) :
    Source.Replays s (course days s).draws (course days s).source := by
  induction days generalizing s with
  | zero => exact .nil s
  | succ days ih =>
    have day : Source.Replays s (Course.ofDay (drawDay s)).draws
        (Course.ofDay (drawDay s)).source := by
      unfold Course.ofDay
      cases (drawDay s).bounds <;> exact drawDay_replays s
    exact Course.andThen_replays day ih

theorem course_finished {days : Nat} {s : σ} (h : (course days s).error = none) :
    (course days s).bounds.length = days ∧
      (course days s).draws = (course days s).bounds.flatMap dayDraws := by
  induction days generalizing s with
  | zero => exact ⟨rfl, rfl⟩
  | succ days ih =>
    cases made : (drawDay s).bounds with
    | error e => simp [course, Course.ofDay, made, Course.andThen] at h
    | ok bounds =>
      simp only [course, Course.ofDay, made, Course.andThen] at h ⊢
      obtain ⟨length, draws⟩ := ih h
      simp [length, draws, drawDay_finished made]

section Ranged

variable [Source.Ranged σ]

/-- On a ranged source every course is finished, with bounds in the fixed ranges. -/
theorem course_ranged (days : Nat) (s : σ) : (course days s).error = none ∧
    ∀ bounds ∈ (course days s).bounds, 50 ≤ bounds.1.toInt ∧ bounds.1.toInt ≤ 89 ∧
      bounds.1.toInt + 5 ≤ bounds.2.toInt ∧ bounds.2.toInt ≤ bounds.1.toInt + 19 := by
  induction days generalizing s with
  | zero => exact ⟨rfl, nofun⟩
  | succ days ih =>
    obtain ⟨min, max, made, within⟩ := drawDay_bounds s
    obtain ⟨finished, later⟩ := ih (drawDay s).source
    simp only [course, Course.ofDay, made, Course.andThen, List.singleton_append, List.mem_cons]
    refine ⟨finished, ?_⟩
    rintro bounds (rfl | mem)
    · exact within
    · exact later bounds mem

theorem generate_result (request : Request) (today : Date) (s : σ) :
    (generate request today s).result = .ok ⟨request.location, request.units,
      List.zipWith (entry request.units (namesCelsius request.units))
        (dates today request.days.toInt.toNat 0)
        (course (dates today request.days.toInt.toNat 0).length s).bounds⟩ := by
  rw [generate_eq, Course.outcome, (course_ranged _ s).1]

theorem course_afterDay (days : Nat) (s : σ) : (course days s).source = afterDay^[days] s := by
  induction days generalizing s with
  | zero => rfl
  | succ days ih =>
    obtain ⟨min, max, made, _⟩ := drawDay_bounds s
    simp only [course, Course.ofDay, made, Course.andThen, Function.iterate_succ_apply]
    exact ih (drawDay s).source

/-- A forecast on a ranged source never fails and moves the source by one and the same step for each
of its days. -/
theorem generate_ranged (request : Request) (today : Date) (s : σ) :
    ∃ f, (generate request today s).result = .ok f ∧
      f.location = request.location ∧ f.units = request.units ∧
      f.days.length = (dates today request.days.toInt.toNat 0).length ∧
      (generate request today s).source = afterDay^[f.days.length] s := by
  let days := dates today request.days.toInt.toNat 0
  have finished := course_finished (course_ranged days.length s).1
  have length : (List.zipWith (entry request.units (namesCelsius request.units)) days
      (course days.length s).bounds).length = days.length := by
    rw [List.length_zipWith, finished.1, Nat.min_self]
  refine ⟨_, generate_result request today s, rfl, rfl, length, ?_⟩
  rw [length, generate_eq]
  exact course_afterDay days.length s

end Ranged

end Almanac.Forecast
