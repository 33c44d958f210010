import Watchface.Proofs.Face.Redraw

/-!
# Freshness of the weather

How old a report is follows from two times and a number of minutes, compared
as numbers without a bound: sums do not wrap, and a report from the future is
new.  So a report that is hidden or due stays so until a message comes.  With a
refresh interval not longer than the expiration, a hidden report is always due.
-/

namespace Watchface

namespace Weather

variable {weather : Weather} {report : Report} {now later : UInt32} {minutes : UInt16}

def Report.Reaches (report : Report) (now : UInt32) (minutes : UInt16) : Prop :=
  report.receivedAt.toNat + 60 * minutes.toNat ≤ now.toNat

theorem toNat_seconds (minutes : UInt16) :
    (minutes.toUInt32 * 60).toNat = 60 * minutes.toNat := by
  have hsize := minutes.toNat_lt
  rw [UInt32.toNat_mul, UInt16.toNat_toUInt32]
  simp only [UInt32.reduceToNat]
  omega

theorem Report.toNat_age (report : Report) (now : UInt32) :
    (report.age now).toNat = now.toNat - report.receivedAt.toNat := by
  unfold age
  split
  · next hle => exact UInt32.toNat_sub_of_le now report.receivedAt hle
  · next hlt =>
    rw [UInt32.not_le, UInt32.lt_iff_toNat_lt] at hlt
    rw [UInt32.toNat_zero]
    omega

theorem Report.reaches_iff (h : minutes ≠ 0) :
    report.Reaches now minutes ↔ minutes.toUInt32 * 60 ≤ report.age now := by
  have hpos : minutes.toNat ≠ 0 := fun hzero => h (UInt16.toNat_inj.mp hzero)
  rw [Reaches, UInt32.le_iff_toNat_le, toNat_seconds, toNat_age]
  omega

theorem Report.Reaches.mono (h : report.Reaches now minutes) (le : now ≤ later) :
    report.Reaches later minutes :=
  Nat.le_trans h (UInt32.le_iff_toNat_le.mp le)

theorem Report.Reaches.shorter {shorter : UInt16} (h : report.Reaches now minutes)
    (le : shorter ≤ minutes) : report.Reaches now shorter := by
  have hle : shorter.toNat ≤ minutes.toNat := UInt16.le_iff_toNat_le.mp le
  unfold Reaches at h ⊢
  omega

theorem shown?_eq_some_iff :
    weather.shown? now minutes = some report ↔
      weather.report = some report ∧ (minutes = 0 ∨ ¬ report.Reaches now minutes) := by
  rw [shown?, Option.filter_eq_some_iff]
  refine and_congr_right fun _ => ?_
  by_cases hminutes : minutes = 0
  · simp [hminutes]
  · rw [Report.reaches_iff hminutes, UInt32.not_le]
    simp [hminutes]

theorem shown?_eq_none_iff :
    weather.shown? now minutes = none ↔
      ∀ report, weather.report = some report → minutes ≠ 0 ∧ report.Reaches now minutes := by
  simp only [Option.eq_none_iff_forall_ne_some, Ne, shown?_eq_some_iff, not_and, not_or, not_not]

theorem isDue_iff :
    weather.isDue now minutes = true ↔
      ∀ report, weather.report = some report → minutes ≠ 0 ∧ report.Reaches now minutes := by
  unfold isDue
  cases weather.report with
  | none => simp
  | some report =>
      by_cases hminutes : minutes = 0
      · simp [hminutes]
      · simp [hminutes, Report.reaches_iff]

theorem shown?_eq_none_iff_isDue :
    weather.shown? now minutes = none ↔ weather.isDue now minutes = true :=
  shown?_eq_none_iff.trans isDue_iff.symm

theorem isDue_mono (le : now ≤ later) (h : weather.isDue now minutes = true) :
    weather.isDue later minutes = true := by
  rw [isDue_iff] at h ⊢
  intro report hreport
  obtain ⟨hminutes, hreaches⟩ := h report hreport
  exact ⟨hminutes, hreaches.mono le⟩

theorem isDue_shorter {shorter : UInt16} (pos : 0 < shorter) (le : shorter ≤ minutes)
    (h : weather.isDue now minutes = true) : weather.isDue now shorter = true := by
  rw [isDue_iff] at h ⊢
  intro report hreport
  exact ⟨(UInt16.ne_of_lt pos).symm, (h report hreport).2.shorter le⟩

end Weather

namespace Face

variable {platform : Platform} {face after : Face} {input : Input} {log opening : List Exchange}
  {before behind : List Turn} {turn : Turn}

def Input.IsMessage (input : Input) : Prop := ∃ payload, input = .event (.inbox payload)

theorem Reacts.keeps_report (h : face.Reacts input log after) (quiet : ¬ input.IsMessage) :
    after.weather = face.weather ∧ after.settings = face.settings := by
  have hconfined := h.confined
  rcases input with (_ | connected | payload | ⟨⟨⟩ | ⟨⟩, handle⟩) | force
  case event.inbox => exact absurd ⟨payload, rfl⟩ quiet
  all_goals
    rw [hconfined]
    exact ⟨rfl, rfl⟩

theorem Run.keeps_report (run : Run platform opening (before ++ turn :: behind) after)
    (quiet : ∀ other ∈ turn :: behind, ¬ other.input.IsMessage) :
    after.weather = turn.before.weather ∧ after.settings = turn.before.settings := by
  have hturn := (reacts_of_trace run.cut.2).keeps_report (quiet turn List.mem_cons_self)
  induction behind generalizing before turn with
  | nil => rwa [run.face_eq]
  | cons next behind ih =>
      rw [List.forall_mem_cons] at quiet
      have hnext := run.before_eq
      rw [List.append_cons] at run
      have hreacts := reacts_of_trace run.cut.2
      obtain ⟨hweather, hsettings⟩ :=
        ih run quiet.2 (hreacts.keeps_report (quiet.2 next List.mem_cons_self))
      rw [hnext] at hweather hsettings
      exact ⟨hweather.trans hturn.1, hsettings.trans hturn.2⟩

/--
Reports grow old as time passes, in numbers without a bound.  A report is
shown exactly until its minutes have passed since it arrived, and 0 minutes
show it forever; weather is due exactly if there is no report or its minutes
have passed, and for 0 minutes a report is never due.  Until the next message,
what is hidden stays hidden and what is due stays due, whatever else happens.
If the refresh interval is on and not longer than the expiration, a report
that is hidden is due.
-/
theorem reports_age_with_the_clock (weather : Weather) (refresh expiration : UInt16)
    (now : UInt32) :
    (∀ report, weather.shown? now expiration = some report ↔
      weather.report = some report ∧
        (expiration = 0 ∨ now.toNat < report.receivedAt.toNat + 60 * expiration.toNat)) ∧
    (weather.isDue now refresh = true ↔
      weather.report = none ∨ ∃ report, weather.report = some report ∧ refresh ≠ 0 ∧
        report.receivedAt.toNat + 60 * refresh.toNat ≤ now.toNat) ∧
    (∀ later, now ≤ later →
      (weather.shown? now expiration = none → weather.shown? later expiration = none) ∧
      (weather.isDue now refresh = true → weather.isDue later refresh = true)) ∧
    (0 < refresh → refresh ≤ expiration → weather.report.isSome = true →
      weather.shown? now expiration = none → weather.isDue now refresh = true) ∧
    (∀ {platform : Platform} {opening : List Exchange} {before behind : List Turn} {turn : Turn}
      {after : Face}, Run platform opening (before ++ turn :: behind) after →
      (∀ other ∈ turn :: behind, ¬ other.input.IsMessage) → ∀ later, now ≤ later →
      (turn.before.shownWeather? now = none → after.shownWeather? later = none) ∧
      (turn.before.weather.isDue now turn.before.settings.weatherRefresh = true →
        after.weather.isDue later after.settings.weatherRefresh = true)) ∧
    ∀ face : Face, 0 < face.settings.weatherRefresh →
      face.settings.weatherRefresh ≤ face.settings.weatherExpiration →
      face.weather.report.isSome = true → face.shownWeather? now = none →
      face.weather.isDue now face.settings.weatherRefresh = true := by
  have hdue : ∀ {weather : Weather} {refresh expiration : UInt16}, 0 < refresh →
      refresh ≤ expiration → weather.shown? now expiration = none →
      weather.isDue now refresh = true := by
    intro weather refresh expiration hpos hle hhidden
    exact Weather.isDue_shorter hpos hle (Weather.shown?_eq_none_iff_isDue.mp hhidden)
  have hhidden : ∀ {weather : Weather} {expiration : UInt16} {later : UInt32}, now ≤ later →
      weather.shown? now expiration = none → weather.shown? later expiration = none := by
    intro weather expiration later hle hhidden
    rw [Weather.shown?_eq_none_iff_isDue] at hhidden ⊢
    exact Weather.isDue_mono hle hhidden
  refine ⟨?_, ?_, ?_, ?_, ?_, ?_⟩
  · intro report
    rw [Weather.shown?_eq_some_iff, Weather.Report.Reaches, Nat.not_le]
  · rw [Weather.isDue_iff]
    cases weather.report with
    | none => simp
    | some report => simp [Weather.Report.Reaches]
  · exact fun later hle => ⟨hhidden hle, Weather.isDue_mono hle⟩
  · exact fun hpos hle _ => hdue hpos hle
  · intro platform opening before behind turn after run quiet later hle
    obtain ⟨hweather, hsettings⟩ := run.keeps_report quiet
    simp only [shownWeather?, hweather, hsettings]
    exact ⟨hhidden hle, Weather.isDue_mono hle⟩
  · exact fun face hpos hle _ => hdue hpos hle

-- one minute at a time of 100: a clock that went back makes the report new again
example :
    let weather : Weather := ⟨some { Weather.Report.blank with receivedAt := 100 }, false⟩
    (weather.shown? 159 1).isSome = true ∧ weather.isDue 159 1 = false ∧
      weather.shown? 160 1 = none ∧ weather.isDue 160 1 = true ∧
      (weather.shown? 0 1).isSome = true := by
  decide

end Face

end Watchface
