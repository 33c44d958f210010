import Watchface.Proofs.Dictionary.Keys
import Watchface.Proofs.Lasting
import Watchface.Weather

/-!
# The last reading of each field

The fields of a report are independent cells.  A message writes the last of
its readings to each of them, and the readings of a field are those of the
tuples under one key.  So what a message does to the weather depends only on
what it holds under the key of each field and under that of the failure.
-/

namespace Watchface

theorem Topic.ofKey_eq_message_iff {key : UInt32} {message : Message} :
    Topic.ofKey key = .message message ↔ message.key = key := by
  constructor
  · intro h
    unfold ofKey at h
    split at h
    · contradiction
    · next found hfound =>
      rw [Topic.message.injEq] at h
      exact Message.ofKey?_eq_some_iff.mp (h ▸ hfound)
    · contradiction
  · rintro rfl
    rcases message with field | _ | _ | _
    · cases field <;> rfl
    all_goals rfl

namespace Weather

def Reading.field : Reading → WeatherField
  | .tempLow _ => .tempLow
  | .tempHigh _ => .tempHigh
  | .tempCurrent _ => .tempCurrent
  | .icon _ => .icon
  | .precipitation _ => .precipitation
  | .precipitationLength _ => .precipitationLength
  | .precipitationStart _ => .precipitationStart

variable {message first second : Dictionary} {field : WeatherField} {tuple : Tuple}

theorem field_of_readField {reading : Reading} (h : readField field tuple = .ok reading) :
    reading.field = field := by
  cases field <;> simp only [readField, Except.map] at h <;> split at h <;> cases h <;> rfl

def readings (message : Dictionary) : List Reading :=
  (message.tuples.filterMap reading?).filterMap Except.toOption

def readingsOf (field : WeatherField) (message : Dictionary) : List Reading :=
  (message.under (Message.weather field).key).filterMap fun tuple =>
    (readField field tuple).toOption

theorem reading?_of_key (h : (Message.weather field).key = tuple.key) :
    reading? tuple = some (readField field tuple) := by
  rw [reading?, Topic.ofKey_eq_message_iff.mpr h]

theorem field_ne_of_key_ne (h : (Message.weather field).key ≠ tuple.key) {reading : Reading}
    (read : reading? tuple = some (.ok reading)) : reading.field ≠ field := by
  unfold reading? at read
  split at read
  · next found htopic =>
    rw [Option.some.injEq] at read
    rw [field_of_readField read]
    rintro rfl
    exact h (Topic.ofKey_eq_message_iff.mp htopic)
  · contradiction

theorem filter_readings (field : WeatherField) (message : Dictionary) :
    ((readings message).filter fun reading => reading.field = field) =
      readingsOf field message := by
  rw [readings, List.filterMap_filterMap, List.filter_filterMap, readingsOf, Dictionary.under,
    List.filterMap_filter]
  congr 1
  funext tuple
  by_cases hkey : (Message.weather field).key = tuple.key
  · rw [reading?_of_key hkey, if_pos (beq_iff_eq.mpr hkey.symm), Option.bind_some]
    cases hread : readField field tuple with
    | error cause => rfl
    | ok reading => simp [Except.toOption, Option.filter, field_of_readField hread]
  · rw [if_neg (by simpa using Ne.symm hkey)]
    cases hread : reading? tuple with
    | none => rfl
    | some result =>
        cases result with
        | error cause => rfl
        | ok reading => simp [Except.toOption, Option.filter, field_ne_of_key_ne hkey hread]

/-- What a draft holds in a field; only the length may be missing. -/
def Draft.get (draft : Draft) : WeatherField → Option Reading
  | .tempLow => some (.tempLow draft.report.tempLow)
  | .tempHigh => some (.tempHigh draft.report.tempHigh)
  | .tempCurrent => some (.tempCurrent draft.report.tempCurrent)
  | .icon => some (.icon draft.report.icon)
  | .precipitation => some (.precipitation draft.report.precipitation)
  | .precipitationLength => draft.length.map .precipitationLength
  | .precipitationStart => some (.precipitationStart draft.report.precipitationStart)

theorem Draft.get_put (draft : Draft) (reading : Reading) (field : WeatherField) :
    (draft.put reading).get field =
      if reading.field = field then some reading else draft.get field := by
  cases reading <;> cases field <;> rfl

theorem Draft.get_foldl_put (draft : Draft) (list : List Reading) (field : WeatherField) :
    (list.foldl Draft.put draft).get field =
      ((list.filter fun reading => reading.field = field).getLast?).or (draft.get field) := by
  have hone : ∀ (draft : Draft) (reading : Reading),
      (draft.put reading).get field =
        (Option.guard (fun reading => reading.field = field) reading).or (draft.get field) := by
    intro draft reading
    rw [get_put, Option.guard]
    by_cases hfield : reading.field = field <;> simp [hfield]
  rw [← List.filterMap_eq_filter]
  exact foldl_eq_getLast?_or (fun draft => draft.get field) hone list draft

theorem Draft.finish_congr {draft other : Draft} (h : ∀ field, draft.get field = other.get field)
    (now : UInt32) : draft.finish now = other.finish now := by
  have hlow := h .tempLow
  have hhigh := h .tempHigh
  have hcurrent := h .tempCurrent
  have hicon := h .icon
  have hsamples := h .precipitation
  have hlength := h .precipitationLength
  have hstart := h .precipitationStart
  simp only [get, Option.some.injEq, Reading.tempLow.injEq, Reading.tempHigh.injEq,
    Reading.tempCurrent.injEq, Reading.icon.injEq, Reading.precipitation.injEq,
    Reading.precipitationStart.injEq] at hlow hhigh hcurrent hicon hsamples hstart
  have hlength : draft.length = other.length :=
    Option.map_injective (fun _ _ heq => Reading.precipitationLength.inj heq) hlength
  simp only [finish, hlow, hhigh, hcurrent, hicon, hsamples, hlength, hstart]

theorem snd_merge (weather : Weather) (message : Dictionary) (now : UInt32) :
    (weather.merge message now).2 =
      if (readings message).isEmpty then
        { weather with failed := weather.failed || message.tuples.any isFailure }
      else
        ⟨some (((readings message).foldl Draft.put
          ⟨weather.report.getD .blank, none⟩).finish now), false⟩ := by
  unfold merge readings
  cases hempty : ((message.tuples.filterMap reading?).filterMap Except.toOption).isEmpty <;>
    simp [hempty]

theorem isFailure_eq (tuple : Tuple) :
    isFailure tuple = (tuple.key == Message.weatherFailed.key) := by
  rw [isFailure, Bool.eq_iff_iff, beq_iff_eq, beq_iff_eq, Topic.ofKey_eq_message_iff, eq_comm]

theorem any_isFailure (message : Dictionary) :
    message.tuples.any isFailure = (message.find? Message.weatherFailed.key).isSome := by
  rw [Dictionary.find?, Bool.eq_iff_iff, List.any_eq_true, List.find?_isSome]
  simp only [isFailure_eq]

theorem readings_eq_nil_iff :
    readings message = [] ↔ ∀ field, readingsOf field message = [] := by
  simp only [← filter_readings, List.filter_eq_nil_iff, decide_eq_true_eq]
  constructor
  · intro h field
    simp [h]
  · intro h
    exact List.eq_nil_iff_forall_not_mem.mpr fun reading hmem => h reading.field reading hmem rfl

theorem merge_congr
    (same : ∀ message : Message, first.under message.key = second.under message.key)
    (weather : Weather) (now : UInt32) :
    (weather.merge first now).2 = (weather.merge second now).2 := by
  have hreadings : ∀ field, readingsOf field first = readingsOf field second := fun field => by
    rw [readingsOf, readingsOf, same (.weather field)]
  have hempty : (readings first).isEmpty = (readings second).isEmpty := by
    rw [Bool.eq_iff_iff, List.isEmpty_iff, List.isEmpty_iff]
    simp only [readings_eq_nil_iff, hreadings]
  have hfailure : first.tuples.any isFailure = second.tuples.any isFailure := by
    rw [any_isFailure, any_isFailure, Dictionary.find?_eq_head?_under,
      Dictionary.find?_eq_head?_under, same .weatherFailed]
  have hfinish : ((readings first).foldl Draft.put ⟨weather.report.getD .blank, none⟩).finish now =
      ((readings second).foldl Draft.put ⟨weather.report.getD .blank, none⟩).finish now := by
    refine Draft.finish_congr (fun field => ?_) now
    rw [Draft.get_foldl_put, Draft.get_foldl_put, filter_readings, filter_readings,
      hreadings field]
  rw [snd_merge, snd_merge, hempty, hfailure, hfinish]

/-! ## Merging twice -/

namespace Draft

def cut (draft : Draft) : Draft :=
  { draft with report.precipitation := (draft.finish 0).precipitation }

theorem finish_cut (draft : Draft) (now : UInt32) : draft.cut.finish now = draft.finish now := by
  cases hlength : draft.length <;> simp [cut, finish, hlength, List.take_take]

theorem get_cut {field : WeatherField} (other : field ≠ .precipitation) (draft : Draft) :
    draft.cut.get field = draft.get field := by
  cases field with
  | precipitation => contradiction
  | _ => rfl

theorem finish_foldl_put_twice (list : List Reading) (report : Report) (now : UInt32) :
    (list.foldl put ⟨(list.foldl put ⟨report, none⟩).finish now, none⟩).finish now =
      (list.foldl put ⟨report, none⟩).finish now := by
  have honce := get_foldl_put ⟨report, none⟩ list
  generalize list.foldl put ⟨report, none⟩ = once at honce ⊢
  have htwice := get_foldl_put ⟨once.finish now, none⟩ list
  generalize list.foldl put ⟨once.finish now, none⟩ = twice at htwice ⊢
  have hother : ∀ field, field ≠ .precipitation → twice.get field = once.get field := by
    intro field hfield
    have hstart : get ⟨once.finish now, none⟩ field = once.get field ∨
        get ⟨once.finish now, none⟩ field = get ⟨report, none⟩ field := by
      cases field with
      | precipitation => contradiction
      | precipitationLength => exact .inr rfl
      | _ => exact .inl rfl
    rcases hstart with hstart | hstart
    · rw [htwice, hstart, honce]
      cases (list.filter fun reading => reading.field = field).getLast? <;> rfl
    · rw [htwice, hstart, honce]
  cases hsamples :
      (list.filter fun reading => reading.field = WeatherField.precipitation).getLast? with
  | some samples =>
      refine finish_congr (fun field => ?_) now
      by_cases hfield : field = .precipitation
      · rw [hfield, htwice, honce, hsamples]
        rfl
      · exact hother field hfield
  | none =>
      rw [← finish_cut once]
      refine finish_congr (fun field => ?_) now
      by_cases hfield : field = .precipitation
      · rw [hfield, htwice, hsamples]
        rfl
      · rw [hother field hfield, get_cut hfield]

end Draft

theorem merge_twice (weather : Weather) (message : Dictionary) (now : UInt32) :
    ((weather.merge message now).2.merge message now).2 = (weather.merge message now).2 := by
  rw [snd_merge, snd_merge]
  cases hempty : (readings message).isEmpty with
  | true => simp
  | false =>
      simp only [Bool.false_eq_true, if_false, Option.getD_some]
      rw [Draft.finish_foldl_put_twice]

end Weather

end Watchface
