import Watchface.Proofs.Lasting
import Watchface.Proofs.Weather.LastReading

/-!
# The history of the weather

After any number of messages the weather is what their history says.  There is
a report once some message had data, and its time is that of the last such
message.  Each field of integers holds the last one in range that any message
had for it.  A failure shows as long as no data came after it.
-/

namespace Watchface

namespace Weather

variable {message : Dictionary} {field : WeatherField} {tuple : Tuple} {weather : Weather}

def range? : WeatherField → Option (Int × Int)
  | .tempLow => some (-32768, 32767)
  | .tempHigh => some (-32768, 32767)
  | .tempCurrent => some (-32768, 32767)
  | .icon => some (0, 255)
  | .precipitation => none
  | .precipitationLength => some (0, 255)
  | .precipitationStart => some (0, 4294967295)

/-- The integer that a tuple gives to a field, if it lies in the range of the field. -/
def integer? (field : WeatherField) (tuple : Tuple) : Option Int :=
  match range? field, tuple.integer with
  | some (low, high), .ok value => if low ≤ value ∧ value ≤ high then some value else none
  | _, _ => none

def Reads (field : WeatherField) (tuple : Tuple) : Prop :=
  match range? field with
  | some _ => (integer? field tuple).isSome = true
  | none => tuple.type = .byteArray

/-- The integer of a reading; of samples it is their number. -/
def Reading.toInt : Reading → Int
  | .tempLow degrees => degrees.toInt
  | .tempHigh degrees => degrees.toInt
  | .tempCurrent degrees => degrees.toInt
  | .icon index => index.toNat
  | .precipitation samples => samples.length
  | .precipitationLength length => length.toNat
  | .precipitationStart time => time.toNat

theorem toOption_map {ε α β : Type} (f : α → β) (result : Except ε α) :
    (result.map f).toOption = result.toOption.map f := by
  cases result <;> rfl

theorem integer?_eq {low high : Int} (h : range? field = some (low, high)) (tuple : Tuple) :
    integer? field tuple = (tuple.readBetween low high).toOption := by
  rw [integer?, h, Tuple.readBetween]
  cases tuple.integer with
  | error cause => rfl
  | ok value =>
      by_cases hrange : low ≤ value ∧ value ≤ high
      · simp only [if_pos hrange, Except.toOption]
      · simp only [if_neg hrange, Except.toOption]

theorem map_readBetween {α : Type} {into : Int → α} (back : α → Int) {low high : Int}
    (inverse : ∀ value, low ≤ value → value ≤ high → back (into value) = value)
    (tuple : Tuple) :
    ((tuple.readBetween low high).map into).toOption.map back =
      (tuple.readBetween low high).toOption := by
  cases hread : tuple.readBetween low high with
  | error cause => rfl
  | ok value =>
      obtain ⟨-, hlow, hhigh⟩ := Tuple.readBetween_eq_ok_iff.mp hread
      exact congrArg some (inverse value hlow hhigh)

theorem map_toInt_readInt16 (tuple : Tuple) :
    tuple.readInt16.toOption.map Int16.toInt =
      (tuple.readBetween (-32768) 32767).toOption := by
  apply map_readBetween
  intro value hlow hhigh
  exact Int16.toInt_ofInt_of_le hlow (by omega)

theorem map_toNat_readUInt8 (tuple : Tuple) :
    (tuple.readUInt8.toOption.map fun value => (value.toNat : Int)) =
      (tuple.readBetween 0 255).toOption := by
  apply map_readBetween
  intro value hlow hhigh
  rw [UInt8.toNat_ofNat']
  omega

theorem map_toNat_readUInt32 (tuple : Tuple) :
    (tuple.readUInt32.toOption.map fun value => (value.toNat : Int)) =
      (tuple.readBetween 0 4294967295).toOption := by
  apply map_readBetween
  intro value hlow hhigh
  rw [UInt32.toNat_ofNat']
  omega

theorem map_toInt_readField (integral : field ≠ .precipitation) (tuple : Tuple) :
    (readField field tuple).toOption.map Reading.toInt = integer? field tuple := by
  cases field with
  | precipitation => contradiction
  | tempLow | tempHigh | tempCurrent =>
      rw [readField, toOption_map, Option.map_map, integer?_eq rfl]
      exact map_toInt_readInt16 tuple
  | icon | precipitationLength =>
      rw [readField, toOption_map, Option.map_map, integer?_eq rfl]
      exact map_toNat_readUInt8 tuple
  | precipitationStart =>
      rw [readField, toOption_map, Option.map_map, integer?_eq rfl]
      exact map_toNat_readUInt32 tuple

theorem reads_iff : Reads field tuple ↔ ∃ reading, readField field tuple = .ok reading := by
  cases field with
  | precipitation =>
      have hread : Reads .precipitation tuple ↔ tuple.type = .byteArray := Iff.rfl
      rw [hread, readField, Tuple.readBytes, Tuple.bytes?]
      cases tuple.type <;> simp [Except.map]
  | _ =>
      simp only [← Dictionary.toOption_eq_some_iff, ← Option.isSome_iff_exists]
      rw [← Option.isSome_map (f := Reading.toInt), map_toInt_readField (by decide)]
      exact Iff.rfl

def IsData (message : Dictionary) : Prop :=
  ∃ field tuple, .ok tuple ∈ message.items ∧ tuple.key = (Message.weather field).key ∧
    Reads field tuple

/-- A message that says that a fetch failed and has no data. -/
def IsFailure (message : Dictionary) : Prop :=
  ¬ IsData message ∧ ∃ tuple, .ok tuple ∈ message.items ∧ tuple.key = Message.weatherFailed.key

theorem mem_readingsOf {reading : Reading} :
    reading ∈ readingsOf field message ↔
      ∃ tuple, .ok tuple ∈ message.items ∧ tuple.key = (Message.weather field).key ∧
        readField field tuple = .ok reading := by
  simp only [readingsOf, List.mem_filterMap, Dictionary.mem_under,
    Dictionary.toOption_eq_some_iff, and_assoc]

theorem isData_iff : IsData message ↔ readings message ≠ [] := by
  rw [Ne, readings_eq_nil_iff, not_forall]
  refine exists_congr fun field => ?_
  constructor
  · rintro ⟨tuple, hitem, hkey, hreads⟩
    obtain ⟨reading, hread⟩ := reads_iff.mp hreads
    exact List.ne_nil_of_mem (mem_readingsOf.mpr ⟨tuple, hitem, hkey, hread⟩)
  · intro hnil
    obtain ⟨reading, hmem⟩ := List.exists_mem_of_ne_nil _ hnil
    obtain ⟨tuple, hitem, hkey, hread⟩ := mem_readingsOf.mp hmem
    exact ⟨tuple, hitem, hkey, reads_iff.mpr ⟨reading, hread⟩⟩

theorem merge_data (h : IsData message) (weather : Weather) (now : UInt32) :
    (weather.merge message now).2 =
      ⟨some (((readings message).foldl Draft.put
        ⟨weather.report.getD .blank, none⟩).finish now), false⟩ := by
  have hreadings : (readings message).isEmpty = false := by
    rw [Bool.eq_false_iff, Ne, List.isEmpty_iff]
    exact isData_iff.mp h
  rw [snd_merge, hreadings, if_neg Bool.false_ne_true]

theorem merge_without_data (h : ¬ IsData message) (weather : Weather) (now : UInt32) :
    (weather.merge message now).2 =
      { weather with failed := weather.failed || message.tuples.any isFailure } := by
  rw [isData_iff, not_not] at h
  rw [snd_merge, h, List.isEmpty_nil, if_pos rfl]

theorem isFailure_iff (h : ¬ IsData message) :
    IsFailure message ↔ message.tuples.any isFailure = true := by
  rw [any_isFailure, Dictionary.isSome_find?_iff, IsFailure, and_iff_right h]

/-- What the weather holds in a field, where a report is blank as long as there is none. -/
def cell (weather : Weather) (field : WeatherField) : Option Reading :=
  Draft.get ⟨weather.report.getD .blank, none⟩ field

def IsIntegral (field : WeatherField) : Prop :=
  field ≠ .precipitation ∧ field ≠ .precipitationLength

instance (field : WeatherField) : Decidable (IsIntegral field) :=
  inferInstanceAs (Decidable (_ ∧ _))

theorem cell_merge (integral : IsIntegral field) (weather : Weather) (message : Dictionary)
    (now : UInt32) :
    (weather.merge message now).2.cell field =
      (readingsOf field message).getLast?.or (weather.cell field) := by
  by_cases hdata : IsData message
  · -- to finish a draft is to cut its samples and to stamp it
    have hfinish : ∀ draft : Draft, Draft.get ⟨draft.finish now, none⟩ field = draft.get field := by
      intro draft
      obtain ⟨hsamples, hlength⟩ := integral
      cases field with
      | precipitation | precipitationLength => contradiction
      | _ => rfl
    rw [merge_data hdata, cell, Option.getD_some, hfinish, Draft.get_foldl_put, filter_readings]
    rfl
  · have hnone : readingsOf field message = [] := by
      rw [isData_iff, not_not] at hdata
      exact readings_eq_nil_iff.mp hdata field
    rw [merge_without_data hdata, hnone]
    rfl

theorem length_le_of_readField {samples : Bytes}
    (h : readField field tuple = .ok (.precipitation samples)) :
    samples.length ≤ maxSamples := by
  have hfield := field_of_readField h
  subst hfield
  simp only [Reading.field, readField] at h
  cases hbytes : tuple.readBytes with
  | error cause =>
      rw [hbytes] at h
      contradiction
  | ok bytes =>
      rw [hbytes] at h
      simp only [Except.map, Except.ok.injEq, Reading.precipitation.injEq] at h
      rw [← h, List.length_take]
      exact Nat.min_le_left maxSamples bytes.length

theorem length_samples_foldl (message : Dictionary) {report : Report}
    (h : report.precipitation.length ≤ maxSamples) :
    ((readings message).foldl Draft.put ⟨report, none⟩).report.precipitation.length ≤
      maxSamples := by
  have hcell := Draft.get_foldl_put ⟨report, none⟩ (readings message) .precipitation
  generalize (readings message).foldl Draft.put ⟨report, none⟩ = draft at hcell ⊢
  rw [filter_readings] at hcell
  cases hlast : (readingsOf .precipitation message).getLast? with
  | none =>
      rw [hlast, Option.none_or] at hcell
      simp only [Draft.get, Option.some.injEq, Reading.precipitation.injEq] at hcell
      rw [hcell]
      exact h
  | some reading =>
      obtain ⟨tuple, -, -, hread⟩ := mem_readingsOf.mp (List.mem_of_getLast? hlast)
      rw [hlast, Option.some_or] at hcell
      simp only [Draft.get, Option.some.injEq] at hcell
      rw [← hcell] at hread
      exact length_le_of_readField hread

theorem Draft.length_samples_finish (draft : Draft) (now : UInt32) :
    (draft.finish now).precipitation.length ≤ draft.report.precipitation.length := by
  unfold finish
  cases draft.length with
  | none => exact Nat.le_refl _
  | some length => exact List.length_take_le' length.toNat draft.report.precipitation

theorem length_samples_merge (h : (weather.report.getD .blank).precipitation.length ≤ maxSamples)
    (message : Dictionary) (now : UInt32) :
    ((weather.merge message now).2.report.getD .blank).precipitation.length ≤ maxSamples := by
  by_cases hdata : IsData message
  · rw [merge_data hdata, Option.getD_some]
    apply Nat.le_trans (Draft.length_samples_finish _ now)
    exact length_samples_foldl message h
  · rw [merge_without_data hdata]
    exact h

/-! ## Histories -/

def mergeAll (weather : Weather) : List (Dictionary × UInt32) → Weather
  | [] => weather
  | (message, now) :: behind => (weather.merge message now).2.mergeAll behind

theorem mergeAll_concat (weather : Weather) (history : List (Dictionary × UInt32))
    (message : Dictionary) (now : UInt32) :
    weather.mergeAll (history ++ [(message, now)]) =
      ((weather.mergeAll history).merge message now).2 := by
  induction history generalizing weather with
  | nil => rfl
  | cons entry history ih => exact ih _

def lastReading? (field : WeatherField) (history : List (Dictionary × UInt32)) : Option Reading :=
  (history.flatMap fun entry => readingsOf field entry.1).getLast?

theorem lastReading?_concat (field : WeatherField) (history : List (Dictionary × UInt32))
    (message : Dictionary) (now : UInt32) :
    lastReading? field (history ++ [(message, now)]) =
      (readingsOf field message).getLast?.or (lastReading? field history) := by
  rw [lastReading?, List.flatMap_append, List.getLast?_append, List.flatMap_singleton, lastReading?]

/-- The last integer in the range of the field that any message of the history has for it. -/
def lastInteger? (field : WeatherField) (history : List (Dictionary × UInt32)) : Option Int :=
  ((history.flatMap fun entry => entry.1.under (Message.weather field).key).filterMap
    (integer? field)).getLast?

theorem map_toInt_lastReading? (integral : field ≠ .precipitation)
    (history : List (Dictionary × UInt32)) :
    (lastReading? field history).map Reading.toInt = lastInteger? field history := by
  rw [lastReading?, lastInteger?, ← List.getLast?_map, List.map_flatMap, List.filterMap_flatMap]
  simp only [readingsOf, List.map_filterMap, map_toInt_readField integral]

/-- The weather after a history, said without merging. -/
structure Reflects (weather : Weather) (history : List (Dictionary × UInt32)) : Prop where
  received : weather.report.isSome = true ↔ ∃ entry ∈ history, IsData entry.1
  stamped : ∀ report, weather.report = some report →
    Lasts (fun entry => IsData entry.1 ∧ entry.2 = report.receivedAt)
      (fun entry => IsData entry.1) history
  failed : weather.failed = true ↔
    Lasts (fun entry => IsFailure entry.1) (fun entry => IsData entry.1) history
  cells : ∀ field, IsIntegral field →
    weather.cell field = (lastReading? field history).or (empty.cell field)
  samples : (weather.report.getD .blank).precipitation.length ≤ maxSamples

theorem reflects_empty : empty.Reflects [] where
  received := by simp [empty]
  stamped := by simp [empty]
  failed := by simp [empty, not_lasts_nil]
  cells field integral := by rw [lastReading?, List.flatMap_nil, List.getLast?_nil, Option.none_or]
  samples := by decide

theorem Reflects.merge {history : List (Dictionary × UInt32)} (h : weather.Reflects history)
    (message : Dictionary) (now : UInt32) :
    (weather.merge message now).2.Reflects (history ++ [(message, now)]) := by
  constructor
  case received =>
    by_cases hdata : IsData message
    · simp [merge_data hdata, hdata]
    · simp [merge_without_data hdata, hdata, h.received]
  case stamped =>
    intro report hreport
    rw [lasts_concat_iff]
    by_cases hdata : IsData message
    · rw [merge_data hdata, Option.some.injEq] at hreport
      rw [← hreport]
      exact .inl ⟨hdata, rfl⟩
    · rw [merge_without_data hdata] at hreport
      exact .inr ⟨hdata, h.stamped report hreport⟩
  case failed =>
    rw [lasts_concat_iff, ← h.failed]
    by_cases hdata : IsData message
    · simp [merge_data hdata, hdata, IsFailure]
    · rw [isFailure_iff hdata, merge_without_data hdata, Bool.or_eq_true, or_comm,
        and_iff_right hdata]
  case cells =>
    intro field integral
    rw [cell_merge integral, h.cells field integral, lastReading?_concat, Option.or_assoc]
  case samples => exact length_samples_merge h.samples message now

theorem reflects_mergeAll (history : List (Dictionary × UInt32)) :
    (empty.mergeAll history).Reflects history := by
  induction history using List.reverseRecOn with
  | nil => exact reflects_empty
  | append_singleton history entry ih =>
      rw [mergeAll_concat]
      exact ih.merge entry.1 entry.2

theorem Reflects.integer_eq {history : List (Dictionary × UInt32)} (h : weather.Reflects history)
    (integral : IsIntegral field) {reading : Reading} (held : weather.cell field = some reading)
    (blank : (empty.cell field).map Reading.toInt = some 0) :
    reading.toInt = (lastInteger? field history).getD 0 := by
  have hcell := congrArg (Option.map Reading.toInt) (h.cells field integral)
  rw [held, Option.map_some, Option.map_or, blank, map_toInt_lastReading? integral.1,
    Option.or_some, Option.some.injEq] at hcell
  exact hcell

/--
The weather after any messages, each merged at its time.  There is a report if
and only if some message had data.  Its time is that of the last such message,
each of its integers is the last one in range that any message had under the
key of the field, or else 0, and it has no more than 30 samples.  A failure
shows if and only if a message that had no data said so and no later one had.
-/
theorem weather_reflects_history (history : List (Dictionary × UInt32)) :
    let weather := empty.mergeAll history
    (weather.report.isSome = true ↔ ∃ entry ∈ history, IsData entry.1) ∧
    (∀ report, weather.report = some report →
      Lasts (fun entry => IsData entry.1 ∧ entry.2 = report.receivedAt)
        (fun entry => IsData entry.1) history ∧
      report.tempLow.toInt = (lastInteger? .tempLow history).getD 0 ∧
      report.tempHigh.toInt = (lastInteger? .tempHigh history).getD 0 ∧
      report.tempCurrent.toInt = (lastInteger? .tempCurrent history).getD 0 ∧
      report.icon.toNat = (lastInteger? .icon history).getD 0 ∧
      report.precipitationStart.toNat = (lastInteger? .precipitationStart history).getD 0 ∧
      report.precipitation.length ≤ 30) ∧
    (weather.failed = true ↔
      Lasts (fun entry => IsFailure entry.1) (fun entry => IsData entry.1) history) := by
  intro weather
  have hreflects : weather.Reflects history := reflects_mergeAll history
  refine ⟨hreflects.received, ?_, hreflects.failed⟩
  intro report hreport
  have hcell : ∀ field, weather.cell field = Draft.get ⟨report, none⟩ field := by
    intro field
    rw [cell, hreport, Option.getD_some]
  refine ⟨hreflects.stamped report hreport, ?_, ?_, ?_, ?_, ?_, ?_⟩
  · exact hreflects.integer_eq (by decide) (hcell .tempLow) rfl
  · exact hreflects.integer_eq (by decide) (hcell .tempHigh) rfl
  · exact hreflects.integer_eq (by decide) (hcell .tempCurrent) rfl
  · exact hreflects.integer_eq (by decide) (hcell .icon) rfl
  · exact hreflects.integer_eq (by decide) (hcell .precipitationStart) rfl
  · have hsamples := hreflects.samples
    rwa [hreport, Option.getD_some] at hsamples

end Weather

end Watchface
