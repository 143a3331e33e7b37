import Almanac.Proofs.Forecast.Days

set_option autoImplicit false

namespace Almanac.Forecast

variable {σ : Type} [Source σ]

/-- Where a making stands: before the days of some dates, between the two draws of a day, or at the
error that ended it. -/
inductive Stage where
  | days (rest : List Date)
  | half (min low high : Int32) (date : Date) (rest : List Date)
  | stopped (error : ForecastError)

structure Making where
  request : Request
  stage : Stage
  draws : Array Draw
  days : Array DayForecast

namespace Making

def start (request : Request) (today : Date) : Making :=
  ⟨request, .days (dates today request.days.toInt.toNat 0), #[], #[]⟩

def wants (m : Making) : Option (Int32 × Int32) :=
  match m.stage with
  | .days [] => none
  | .days (_ :: _) => some (minLow, minHigh)
  | .half _ low high _ _ => some (low, high)
  | .stopped _ => none

def take (m : Making) (v : Int32) : Making :=
  match m.stage with
  | .days (date :: rest) =>
    let stage := match sum? v spreadLow, sum? v spreadHigh with
      | some low, some high => .half v low high date rest
      | _, _ => .stopped .overflow
    { m with stage, draws := m.draws.push ⟨minLow, minHigh, v⟩ }
  | .half min low high date rest =>
    { m with
      stage := .days rest
      draws := m.draws.push ⟨low, high, v⟩
      days := m.days.push
        (entry m.request.units (namesCelsius m.request.units) date (min, v)) }
  | _ => m

def stop (m : Making) (e : DrawError) : Making := { m with stage := .stopped (.draw e) }

def outcome (m : Making) (s : σ) : Outcome σ where
  result := match m.stage with
    | .stopped e => .error e
    | _ => .ok ⟨m.request.location, m.request.units, m.days.toList⟩
  draws := m.draws.toList
  source := s

/-- What a making comes to if it goes on from a source to its end. -/
def resume (m : Making) (s : σ) : Progress σ :=
  let units := m.request.units
  let celsius := namesCelsius units
  match m.stage with
  | .days rest => rest.foldl (Progress.make units celsius) ⟨s, m.draws, m.days, none⟩
  | .half min low high date rest =>
    rest.foldl (Progress.make units celsius)
      (match Source.draw s low high with
        | .error e => ⟨s, m.draws, m.days, some (.draw e)⟩
        | .ok (max, s') =>
          ⟨s', m.draws.push ⟨low, high, max⟩,
            m.days.push (entry units celsius date (min, max)), none⟩)
  | .stopped e => ⟨s, m.draws, m.days, some e⟩

theorem resume_start (request : Request) (today : Date) (s : σ) :
    (start request today).resume s =
      Progress.run request.units (namesCelsius request.units) today request.days.toInt.toNat 0
        ⟨s, #[], #[], none⟩ :=
  (run_eq_foldl _ _ _ _ _ _).symm

theorem take_request (m : Making) (v : Int32) : (m.take v).request = m.request := by
  unfold take
  cases m.stage with
  | days rest => cases rest <;> rfl
  | half min low high date rest => rfl
  | stopped e => rfl

theorem wants_eq_some {m : Making} {low high : Int32} (h : m.wants = some (low, high)) :
    (∃ date rest, m.stage = .days (date :: rest) ∧ low = minLow ∧ high = minHigh) ∨
      ∃ min date rest, m.stage = .half min low high date rest := by
  unfold wants at h
  cases hs : m.stage with
  | days rest =>
    simp only [hs] at h
    cases rest with
    | nil => cases h
    | cons date rest =>
      cases h
      exact .inl ⟨date, rest, rfl, rfl, rfl⟩
  | half min low' high' date rest =>
    simp only [hs] at h
    cases h
    exact .inr ⟨min, date, rest, rfl⟩
  | stopped e =>
    simp only [hs] at h
    cases h

theorem wants_eq_none {m : Making} (h : m.wants = none) :
    m.stage = .days [] ∨ ∃ e, m.stage = .stopped e := by
  unfold wants at h
  cases hs : m.stage with
  | days rest =>
    simp only [hs] at h
    cases rest with
    | nil => exact .inl rfl
    | cons date rest => cases h
  | half min low high date rest =>
    simp only [hs] at h
    cases h
  | stopped e => exact .inr ⟨e, rfl⟩

theorem take_draws {m : Making} {low high : Int32} (h : m.wants = some (low, high)) (v : Int32) :
    (m.take v).draws = m.draws.push ⟨low, high, v⟩ := by
  unfold take
  obtain ⟨date, rest, stage, rfl, rfl⟩ | ⟨min, date, rest, stage⟩ := wants_eq_some h
  · simp only [stage]
  · simp only [stage]

theorem resume_day {m : Making} {date : Date} {rest : List Date}
    (stage : m.stage = .days (date :: rest)) {s s' : σ} {v : Int32}
    (h : Source.draw s minLow minHigh = .ok (v, s')) : (m.take v).resume s' = m.resume s := by
  have day := Progress.make_eq_record (p := (⟨s, m.draws, m.days, none⟩ : Progress σ)) rfl
    m.request.units (namesCelsius m.request.units) date
  simp only [resume, take, stage, List.foldl_cons, day, drawDay, h]
  -- after an overflow the other days are passed over, which is what a stopped making does
  cases sum? v spreadLow with
  | none => exact (Progress.foldl_make_of_error _ _ rest ⟨s', _, _, some .overflow⟩ rfl).symm
  | some low =>
    cases sum? v spreadHigh with
    | none => exact (Progress.foldl_make_of_error _ _ rest ⟨s', _, _, some .overflow⟩ rfl).symm
    | some high =>
      simp only
      cases Source.draw s' low high with
      | error e => simp [Progress.record]
      | ok drawn => simp [Progress.record, Progress.push_push]

/-- A draw that is answered does not change what the making comes to. -/
theorem resume_take {m : Making} {low high v : Int32} {s s' : σ} (h : m.wants = some (low, high))
    (drawn : Source.draw s low high = .ok (v, s')) : (m.take v).resume s' = m.resume s := by
  obtain ⟨date, rest, stage, rfl, rfl⟩ | ⟨min, date, rest, stage⟩ := wants_eq_some h
  · exact resume_day stage drawn
  · simp only [resume, take, stage, drawn]

theorem resume_stop {m : Making} {low high : Int32} {s : σ} {e : DrawError}
    (h : m.wants = some (low, high)) (failed : Source.draw s low high = .error e) :
    (m.stop e).resume s = m.resume s := by
  obtain ⟨date, rest, stage, rfl, rfl⟩ | ⟨min, date, rest, stage⟩ := wants_eq_some h
  · have day : Progress.make m.request.units (namesCelsius m.request.units)
        (⟨s, m.draws, m.days, none⟩ : Progress σ) date =
        ⟨s, m.draws, m.days, some (.draw e)⟩ := by
      rw [Progress.make_eq_record rfl]
      simp [drawDay, failed, Progress.record]
    simp only [resume, stop, stage, List.foldl_cons, day]
    exact (Progress.foldl_make_of_error _ _ rest _ rfl).symm
  · simp only [resume, stop, stage, failed]
    exact (Progress.foldl_make_of_error _ _ rest _ rfl).symm

/-- A making that has come from the start of a request to its end has come to what `generate`
gives. -/
theorem outcome_eq_generate {m : Making} {request : Request} {today : Date} {s s₀ : σ}
    (done : m.wants = none) (same : m.request = request)
    (h : m.resume s = (start request today).resume s₀) :
    m.outcome s = generate request today s₀ := by
  rw [resume_start] at h
  subst same
  obtain stage | ⟨e, stage⟩ := wants_eq_none done
  · simp only [resume, stage, List.foldl_nil] at h
    simp only [outcome, generate, stage, ← h]
  · simp only [resume, stage] at h
    simp only [outcome, generate, stage, ← h]

end Making

end Almanac.Forecast
