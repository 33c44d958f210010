import Watchface.Proofs.Dictionary.Integer
import Watchface.Proofs.Dictionary.Room
import Watchface.Proofs.Weather.Merging

/-!
# Writing a report and merging it

The fields of a report may be written in any order, temperatures in two or four
bytes and samples with padding behind them, since their number is written too.
A message of all seven fields is received as the report that was written,
whatever the weather was before.
-/

namespace Watchface

namespace Weather

open Dictionary.Builder (Entry)
open Dictionary (space)

variable {report : Report} {wide : WeatherField → Bool} {padding : Bytes}

def degreesEntry (wide : Bool) (key : UInt32) (degrees : Int16) : Entry :=
  if wide then .int32 key degrees.toInt32 else .int16 key degrees

namespace Report

/-- Write a field of a report; the padding stands behind the samples. -/
def entry (report : Report) (wide : WeatherField → Bool) (padding : Bytes)
    (field : WeatherField) : Entry :=
  let key := (Message.weather field).key
  match field with
  | .tempLow => degreesEntry (wide .tempLow) key report.tempLow
  | .tempHigh => degreesEntry (wide .tempHigh) key report.tempHigh
  | .tempCurrent => degreesEntry (wide .tempCurrent) key report.tempCurrent
  | .icon => .uint8 key report.icon
  | .precipitation => .bytes key (report.precipitation ++ padding)
  | .precipitationLength => .uint8 key (UInt8.ofNat report.precipitation.length)
  | .precipitationStart => .uint32 key report.precipitationStart

def reading (report : Report) (padding : Bytes) : WeatherField → Reading
  | .tempLow => .tempLow report.tempLow
  | .tempHigh => .tempHigh report.tempHigh
  | .tempCurrent => .tempCurrent report.tempCurrent
  | .icon => .icon report.icon
  | .precipitation => .precipitation ((report.precipitation ++ padding).take maxSamples)
  | .precipitationLength => .precipitationLength (UInt8.ofNat report.precipitation.length)
  | .precipitationStart => .precipitationStart report.precipitationStart

end Report

@[simp] theorem field_reading (report : Report) (padding : Bytes) (field : WeatherField) :
    (report.reading padding field).field = field := by
  cases field <;> rfl

theorem key_degreesEntry (wide : Bool) (key : UInt32) (degrees : Int16) :
    (degreesEntry wide key degrees).toTuple.key = key := by
  cases wide <;> rfl

theorem readInt16_degreesEntry (wide : Bool) (key : UInt32) (degrees : Int16) :
    (degreesEntry wide key degrees).toTuple.readInt16 = .ok degrees := by
  apply Tuple.readInt16_of_integer
  cases wide with
  | false => exact Tuple.integer_ofInt16 key degrees
  | true =>
      rw [← Int16.toInt_toInt32]
      exact Tuple.integer_ofInt32 key degrees.toInt32

theorem key_entry (report : Report) (wide : WeatherField → Bool) (padding : Bytes)
    (field : WeatherField) :
    (report.entry wide padding field).toTuple.key = (Message.weather field).key := by
  cases field with
  | tempLow | tempHigh | tempCurrent => exact key_degreesEntry _ _ _
  | _ => rfl

theorem readField_entry (report : Report) (wide : WeatherField → Bool) (padding : Bytes)
    (field : WeatherField) :
    readField field (report.entry wide padding field).toTuple =
      .ok (report.reading padding field) := by
  cases field with
  | tempLow | tempHigh | tempCurrent =>
      rw [readField, Report.entry, readInt16_degreesEntry]
      rfl
  | icon | precipitationLength =>
      rw [readField, Report.entry, Entry.toTuple,
        Tuple.readUInt8_of_integer (Tuple.integer_ofUInt8 _ _)]
      rfl
  | precipitation => rfl
  | precipitationStart =>
      rw [readField, Report.entry, Entry.toTuple,
        Tuple.readUInt32_of_integer (Tuple.integer_ofUInt32 _ _)]
      rfl

theorem reading?_entry (report : Report) (wide : WeatherField → Bool) (padding : Bytes)
    (field : WeatherField) :
    reading? (report.entry wide padding field).toTuple =
      some (.ok (report.reading padding field)) := by
  rw [reading?_of_key (key_entry report wide padding field).symm, readField_entry]

def Report.draft (report : Report) (padding : Bytes) : Draft :=
  ⟨{ report with precipitation := (report.precipitation ++ padding).take maxSamples },
    some (UInt8.ofNat report.precipitation.length)⟩

theorem get_draft (report : Report) (padding : Bytes) (field : WeatherField) :
    (report.draft padding).get field = some (report.reading padding field) := by
  cases field <;> rfl

/-- The length cuts the padding off, and the limit of samples leaves all that count. -/
theorem finish_draft (short : report.precipitation.length ≤ maxSamples) (padding : Bytes)
    (now : UInt32) :
    (report.draft padding).finish now = { report with receivedAt := now } := by
  have hlength : (UInt8.ofNat report.precipitation.length).toNat = report.precipitation.length := by
    rw [maxSamples] at short
    rw [UInt8.toNat_ofNat']
    omega
  simp [Report.draft, Draft.finish, hlength, List.take_take, Nat.min_eq_left short]

/-! ## Merging the written fields -/

variable {message : Dictionary} {order : List WeatherField}

theorem get_foldl_put_reading (complete : order.Perm WeatherField.all) (draft : Draft)
    (field : WeatherField) :
    ((order.map (report.reading padding)).foldl Draft.put draft).get field =
      (report.draft padding).get field := by
  have hall : ∀ reading ∈ (order.map (report.reading padding)).filter
      (fun reading => reading.field = field), reading = report.reading padding field := by
    intro reading hreading
    obtain ⟨hmem, hfield⟩ := List.mem_filter.mp hreading
    obtain ⟨other, -, rfl⟩ := List.mem_map.mp hmem
    rw [decide_eq_true_iff, field_reading] at hfield
    rw [hfield]
  have hmem : report.reading padding field ∈ (order.map (report.reading padding)).filter
      (fun reading => reading.field = field) :=
    List.mem_filter.mpr
      ⟨List.mem_map_of_mem (complete.mem_iff.mpr field.mem_all), by simp⟩
  rw [Draft.get_foldl_put, getLast?_eq_some_of_forall hall hmem, Option.some_or, get_draft]

theorem merge_entries (short : report.precipitation.length ≤ maxSamples)
    (complete : order.Perm WeatherField.all)
    (written : message.tuples = order.map fun field => (report.entry wide padding field).toTuple)
    (weather : Weather) (now : UInt32) :
    weather.merge message now =
      (⟨true, false, 0⟩, ⟨some { report with receivedAt := now }, false⟩) := by
  have hresults : message.tuples.filterMap reading? =
      order.map fun field => .ok (report.reading padding field) := by
    rw [written, List.filterMap_map, ← List.filterMap_eq_map]
    congr 1
    funext field
    exact reading?_entry report wide padding field
  have hreadings : readings message = order.map (report.reading padding) := by
    rw [readings, hresults, List.filterMap_map, ← List.filterMap_eq_map]
    rfl
  have hempty : (readings message).isEmpty = false := by
    rw [hreadings, List.isEmpty_map, List.isEmpty_eq_false_iff, ← List.length_pos_iff,
      complete.length_eq]
    decide
  have hfailure : message.tuples.any isFailure = false := by
    rw [written, List.any_map, List.any_eq_false]
    intro field _
    rw [Function.comp_apply, isFailure_eq, key_entry]
    cases field <;> decide
  have hrejected : (order.map fun field => (.ok (report.reading padding field) :
      Except ReadError Reading)).countP (fun result => result.toOption.isNone) = 0 := by
    rw [List.countP_map, List.countP_eq_zero]
    exact fun field _ => Bool.false_ne_true
  apply Prod.ext
  · rw [fst_merge, hempty, hfailure, hresults, hrejected]
    rfl
  · rw [snd_merge, hempty, if_neg Bool.false_ne_true, hreadings,
      Draft.finish_congr (get_foldl_put_reading complete _), finish_draft short]

theorem length_degreesEntry_le (wide : Bool) (key : UInt32) (degrees : Int16) :
    (degreesEntry wide key degrees).toTuple.value.length ≤ 4 := by
  cases wide <;> simp [degreesEntry, Entry.toTuple, Tuple.ofInt16, Tuple.ofInt32]

def maxWidth (padding : Bytes) : WeatherField → Nat
  | .tempLow | .tempHigh | .tempCurrent | .precipitationStart => 4
  | .icon | .precipitationLength => 1
  | .precipitation => maxSamples + padding.length

theorem length_entry_le (short : report.precipitation.length ≤ maxSamples)
    (wide : WeatherField → Bool) (padding : Bytes) (field : WeatherField) :
    (report.entry wide padding field).toTuple.value.length ≤ maxWidth padding field := by
  cases field with
  | tempLow | tempHigh | tempCurrent => exact length_degreesEntry_le _ _ _
  | icon | precipitationLength | precipitationStart =>
      exact Nat.le_of_eq (LittleEndian.length_encode _ _)
  | precipitation =>
      have hlength : (report.entry wide padding .precipitation).toTuple.value.length =
          report.precipitation.length + padding.length := List.length_append
      rw [hlength, maxWidth]
      omega

theorem space_entries_le (short : report.precipitation.length ≤ maxSamples)
    (complete : order.Perm WeatherField.all) (wide : WeatherField → Bool) (padding : Bytes) :
    space (order.map fun field => (report.entry wide padding field).toTuple) ≤
      97 + padding.length := by
  have hspace := Dictionary.space_map_le (length_entry_le short wide padding) WeatherField.all
  simp only [WeatherField.all, List.foldr_cons, List.foldr_nil, Dictionary.Record.headerSize,
    maxWidth, maxSamples] at hspace
  rw [Dictionary.space_perm (complete.map _), WeatherField.all]
  omega

open Dictionary (parse Builder) in
/--
A report of at most 30 samples, written to a new builder of the size of the
inbox: its fields in any order, each temperature in two or in four bytes, and
any padding behind the samples.  Without padding the builder takes all seven
fields.  If it does, merging its payload into any weather gives the report that
was written, with the time of the merge, and ends a failure; no field is
rejected.
-/
theorem written_report_is_received (report : Report) (short : report.precipitation.length ≤ 30)
    (wide : WeatherField → Bool) (padding : Bytes) (order : List WeatherField)
    (complete : order.Perm WeatherField.all) (weather : Weather) (now : UInt32) :
    ∃ fresh : Builder Channel.inboxSize, Builder.empty Channel.inboxSize = .ok fresh ∧
      ∃ outcomes written,
        fresh.pushAll (order.map fun field => (report.entry wide padding field).toTuple) =
          (outcomes, written) ∧
        outcomes.length = 7 ∧
        (padding = [] → ∀ outcome ∈ outcomes, outcome = .ok ()) ∧
        ((∀ outcome ∈ outcomes, outcome = .ok ()) →
          ∃ message, parse written.payload = .ok message ∧
            weather.merge message now =
              (⟨true, false, 0⟩, ⟨some { report with receivedAt := now }, false⟩)) := by
  have hempty : Builder.empty Channel.inboxSize = .ok ⟨0, []⟩ :=
    Builder.empty_eq_ok.mpr ⟨by decide, rfl⟩
  have hfresh := Builder.holds_empty hempty
  have hlength : order.length = 7 := complete.length_eq
  refine ⟨⟨0, []⟩, hempty, _, _, rfl, ?_, ?_, ?_⟩
  · rw [Builder.length_outcomes, List.length_map, hlength]
  · rintro rfl
    have hspace := space_entries_le short complete wide []
    rw [List.length_nil] at hspace
    have hused : (⟨0, []⟩ : Builder Channel.inboxSize).used = 1 := rfl
    have hcounted : ([] : List Tuple).length +
        (order.map fun field => (report.entry wide [] field).toTuple).length ≤ 255 := by
      rw [List.length_map, hlength]
      decide
    refine (hfresh.takes_all_iff (Dictionary.fits_of_space (by omega)) hcounted).mpr ?_
    rw [hused, Channel.inboxSize]
    omega
  · intro hall
    have hholds := hfresh.pushAll_of_forall hall
    rw [List.nil_append] at hholds
    exact ⟨_, rfl, merge_entries short complete hholds.tuples_eq weather now⟩

open Dictionary (parse Builder) in
/-- Two bytes of padding and a wide temperature, after a failure and in place of more samples. -/
theorem padded_report_is_received :
    let report : Report := ⟨-5, 12, 300, 7, [10, 20, 30], 1700000000, 0⟩
    let wide : WeatherField → Bool := fun field => field = .tempCurrent
    let weather : Weather := ⟨some ⟨1, 2, 3, 4, [5, 6, 7, 8, 9], 10, 11⟩, true⟩
    report.precipitation.length ≤ 30 ∧ WeatherField.all.reverse.Perm WeatherField.all ∧
      ∃ (written : Builder Channel.inboxSize) (message : Dictionary),
        (⟨0, []⟩ : Builder Channel.inboxSize).pushAll
            (WeatherField.all.reverse.map fun field => (report.entry wide [99, 99] field).toTuple) =
          (List.replicate 7 (.ok ()), written) ∧
        parse written.payload = .ok message ∧
        weather.merge message 1700000060 =
          (⟨true, false, 0⟩,
            ⟨some ⟨-5, 12, 300, 7, [10, 20, 30], 1700000000, 1700000060⟩, false⟩) := by
  intro report wide weather
  have hcomplete : WeatherField.all.reverse.Perm WeatherField.all :=
    List.reverse_perm WeatherField.all
  obtain ⟨fresh, hfresh, outcomes, written, hpush, -, -, hmerged⟩ :=
    written_report_is_received report (by decide) wide [99, 99] WeatherField.all.reverse hcomplete
      weather 1700000060
  obtain ⟨-, rfl⟩ := Builder.empty_eq_ok.mp hfresh
  have houtcomes : outcomes = List.replicate 7 (.ok ()) := by
    have hfst : (Builder.pushAll _ _).1 = outcomes := congrArg Prod.fst hpush
    rw [← hfst]
    decide +kernel
  rw [houtcomes] at hpush hmerged
  obtain ⟨message, hparse, hmerge⟩ := hmerged (by decide)
  exact ⟨by decide, hcomplete, written, message, hpush, hparse, hmerge⟩

end Weather

end Watchface
