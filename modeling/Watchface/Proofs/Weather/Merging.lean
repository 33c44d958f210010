import Watchface.Proofs.Weather.History

/-!
# Merging one message

A message with data makes a new report: the last value in range that it has
for a field replaces that of the report before, and the last length it has
cuts the samples, whichever of the two comes first.  A message without data
leaves the report alone and can only say that a fetch failed.
-/

namespace Watchface

def WeatherField.all : List WeatherField :=
  [.tempLow, .tempHigh, .tempCurrent, .icon, .precipitation, .precipitationLength,
    .precipitationStart]

theorem WeatherField.mem_all (field : WeatherField) : field ∈ all := by
  cases field <;> decide

namespace Weather

variable {message : Dictionary} {field : WeatherField} {tuple : Tuple}

def lastIn? (field : WeatherField) (message : Dictionary) : Option Int :=
  ((message.under (Message.weather field).key).filterMap (integer? field)).getLast?

def lastSamples? (message : Dictionary) : Option Bytes :=
  ((message.under (Message.weather .precipitation).key).filterMap Tuple.bytes?).getLast?.map
    fun bytes => bytes.take 30

def cutTo (samples : Bytes) : Option Int → Bytes
  | none => samples
  | some length => samples.take length.toNat

def HasFailure (message : Dictionary) : Prop :=
  ∃ tuple, .ok tuple ∈ message.items ∧ tuple.key = Message.weatherFailed.key

theorem isSome_toOption_readField :
    (readField field tuple).toOption.isSome = true ↔ Reads field tuple := by
  simp only [reads_iff, Option.isSome_iff_exists, Dictionary.toOption_eq_some_iff]

instance (field : WeatherField) (tuple : Tuple) : Decidable (Reads field tuple) :=
  decidable_of_iff _ isSome_toOption_readField

def isUnreadable : Dictionary.Item → Bool
  | .error _ => false
  | .ok tuple => WeatherField.all.any fun field =>
      tuple.key == (Message.weather field).key && !decide (Reads field tuple)

/-- The report after a message with data, given the one before. -/
structure Renews (before : Report) (message : Dictionary) (now : UInt32) (after : Report) :
    Prop where
  tempLow : after.tempLow.toInt = (lastIn? .tempLow message).getD before.tempLow.toInt
  tempHigh : after.tempHigh.toInt = (lastIn? .tempHigh message).getD before.tempHigh.toInt
  tempCurrent :
    after.tempCurrent.toInt = (lastIn? .tempCurrent message).getD before.tempCurrent.toInt
  icon : after.icon.toNat = (lastIn? .icon message).getD before.icon.toNat
  precipitation : after.precipitation =
    cutTo ((lastSamples? message).getD before.precipitation)
      (lastIn? .precipitationLength message)
  precipitationStart : after.precipitationStart.toNat =
    (lastIn? .precipitationStart message).getD before.precipitationStart.toNat
  receivedAt : after.receivedAt = now

theorem map_toInt_getLast?_readingsOf (integral : field ≠ .precipitation) (message : Dictionary) :
    (readingsOf field message).getLast?.map Reading.toInt = lastIn? field message := by
  rw [lastIn?, ← List.getLast?_map, readingsOf, List.map_filterMap]
  simp only [map_toInt_readField integral]

theorem getLast?_readingsOf_precipitation (message : Dictionary) :
    (readingsOf .precipitation message).getLast? =
      (lastSamples? message).map .precipitation := by
  have hread : ∀ tuple : Tuple, (readField .precipitation tuple).toOption =
      tuple.bytes?.map fun bytes => .precipitation (bytes.take 30) := by
    intro tuple
    rw [readField, toOption_map, Tuple.readBytes]
    cases tuple.bytes? <;> rfl
  rw [lastSamples?, readingsOf, Option.map_map, ← List.getLast?_map, List.map_filterMap]
  simp only [hread]
  rfl

/-! ## The new report -/

/-- What a draft holds in a field is the last reading of the message, or as in the report before. -/
def Collects (draft : Draft) (before : Report) (message : Dictionary) : Prop :=
  ∀ field, draft.get field =
    (readingsOf field message).getLast?.or (Draft.get ⟨before, none⟩ field)

theorem collects_foldl (before : Report) (message : Dictionary) :
    Collects ((readings message).foldl Draft.put ⟨before, none⟩) before message := by
  intro field
  rw [Draft.get_foldl_put, filter_readings]

variable {draft : Draft} {before : Report}

theorem Collects.toInt_eq (h : Collects draft before message) (field : WeatherField)
    (integral : field ≠ .precipitation) {reading previous : Reading}
    (held : draft.get field = some reading)
    (was : Draft.get ⟨before, none⟩ field = some previous) :
    reading.toInt = (lastIn? field message).getD previous.toInt := by
  have hcell := congrArg (Option.map Reading.toInt) (h field)
  rw [held, was, Option.map_or, map_toInt_getLast?_readingsOf integral, Option.map_some,
    Option.map_some, Option.or_some, Option.some.injEq] at hcell
  exact hcell

theorem Collects.length_eq (h : Collects draft before message) :
    draft.length.map (fun length => (length.toNat : Int)) =
      lastIn? .precipitationLength message := by
  have hcell := congrArg (Option.map Reading.toInt) (h .precipitationLength)
  rw [Option.map_or, map_toInt_getLast?_readingsOf (by decide)] at hcell
  simpa [Draft.get, Function.comp_def, Reading.toInt] using hcell

theorem Collects.samples_eq (h : Collects draft before message) :
    draft.report.precipitation = (lastSamples? message).getD before.precipitation := by
  have hcell := h .precipitation
  rw [getLast?_readingsOf_precipitation] at hcell
  cases hlast : lastSamples? message with
  | none => simpa [Draft.get, hlast] using hcell
  | some samples => simpa [Draft.get, hlast] using hcell

theorem Collects.renews (h : Collects draft before message) (now : UInt32) :
    Renews before message now (draft.finish now) where
  tempLow := h.toInt_eq .tempLow (by decide) rfl rfl
  tempHigh := h.toInt_eq .tempHigh (by decide) rfl rfl
  tempCurrent := h.toInt_eq .tempCurrent (by decide) rfl rfl
  icon := h.toInt_eq .icon (by decide) rfl rfl
  precipitation := by
    rw [← h.samples_eq, ← h.length_eq, Draft.finish]
    cases draft.length <;> rfl
  precipitationStart := h.toInt_eq .precipitationStart (by decide) rfl rfl
  receivedAt := rfl

theorem reading?_of_foreign (h : ∀ field, tuple.key ≠ (Message.weather field).key) :
    reading? tuple = none := by
  unfold reading?
  split
  · next field htopic => exact absurd (Topic.ofKey_eq_message_iff.mp htopic).symm (h field)
  · rfl

theorem isUnreadable_iff {item : Dictionary.Item} :
    isUnreadable item = true ↔ ∃ field tuple, item = .ok tuple ∧
      tuple.key = (Message.weather field).key ∧ ¬ Reads field tuple := by
  cases item with
  | error cause => simp [isUnreadable]
  | ok tuple => simp [isUnreadable, WeatherField.mem_all]

theorem isUnreadable_of_key (key : (Message.weather field).key = tuple.key) :
    isUnreadable (.ok tuple) = (readField field tuple).toOption.isNone := by
  rw [Bool.eq_iff_iff, isUnreadable_iff, ← Option.not_isSome, Bool.not_eq_true',
    ← Bool.not_eq_true, isSome_toOption_readField]
  constructor
  · rintro ⟨other, found, hitem, hkey, hunread⟩
    obtain rfl := Except.ok.inj hitem
    obtain rfl : field = other := by
      have hsame := (Message.ofKey?_key (.weather field)).symm.trans
        ((key.trans hkey) ▸ Message.ofKey?_key (.weather other))
      simpa using hsame
    exact hunread
  · intro hunread
    exact ⟨field, tuple, rfl, key.symm, hunread⟩

theorem isUnreadable_eq (tuple : Tuple) :
    isUnreadable (.ok tuple) =
      ((reading? tuple).map fun result => result.toOption.isNone).getD false := by
  by_cases hkey : ∃ field, (Message.weather field).key = tuple.key
  · obtain ⟨field, hkey⟩ := hkey
    rw [isUnreadable_of_key hkey, reading?_of_key hkey, Option.map_some, Option.getD_some]
  · rw [not_exists] at hkey
    have hforeign : reading? tuple = none := reading?_of_foreign fun field => Ne.symm (hkey field)
    have hnone : isUnreadable (.ok tuple) ≠ true := by
      rw [Ne, isUnreadable_iff]
      rintro ⟨field, found, hitem, hfound, -⟩
      obtain rfl := Except.ok.inj hitem
      exact hkey field hfound.symm
    rw [Bool.eq_false_iff.mpr hnone, hforeign, Option.map_none, Option.getD_none]

theorem fst_merge (weather : Weather) (message : Dictionary) (now : UInt32) :
    (weather.merge message now).1 =
      { received := !(readings message).isEmpty
        failed := message.tuples.any isFailure
        rejected := (message.tuples.filterMap reading?).countP
          fun result => result.toOption.isNone } := by
  unfold merge readings
  cases hempty : ((message.tuples.filterMap reading?).filterMap Except.toOption).isEmpty <;>
    simp [hempty]

theorem rejected_eq (message : Dictionary) :
    ((message.tuples.filterMap reading?).countP fun result => result.toOption.isNone) =
      message.items.countP isUnreadable := by
  rw [Dictionary.tuples, List.countP_filterMap, List.countP_filterMap]
  refine List.countP_congr fun item _ => ?_
  cases item with
  | error cause => rfl
  | ok tuple => rw [isUnreadable_eq]; rfl

theorem hasFailure_iff : message.tuples.any isFailure = true ↔ HasFailure message := by
  rw [any_isFailure, Dictionary.isSome_find?_iff, HasFailure]

/--
Merging a message into any weather.  If it has data, the report is renewed by
the last values of its fields and the failure is over; if it has none, the
report stays, and a failure that the message reports shows from now on.  The
update says which of the two it was, whether a failure was reported at all, and
how many tuples for fields could not be read.
-/
theorem message_merges_as_specified (weather : Weather) (message : Dictionary) (now : UInt32) :
    let merged := weather.merge message now
    ((IsData message ∧ merged.2.failed = false ∧
        ∃ report, merged.2.report = some report ∧
          Renews (weather.report.getD .blank) message now report) ∨
      (¬ IsData message ∧ merged.2.report = weather.report ∧
        (merged.2.failed = true ↔ weather.failed = true ∨ HasFailure message))) ∧
    (merged.1.received = true ↔ IsData message) ∧
    (merged.1.failed = true ↔ HasFailure message) ∧
    merged.1.rejected = message.items.countP isUnreadable := by
  intro merged
  have hupdate : merged.1 = _ := fst_merge weather message now
  refine ⟨?_, ?_, ?_, ?_⟩
  · by_cases hdata : IsData message
    · have hmerged : merged.2 = _ := merge_data hdata weather now
      have hrenews := (collects_foldl (weather.report.getD .blank) message).renews now
      rw [hmerged]
      exact .inl ⟨hdata, rfl, _, rfl, hrenews⟩
    · have hmerged : merged.2 = _ := merge_without_data hdata weather now
      rw [hmerged, ← hasFailure_iff]
      exact .inr ⟨hdata, rfl, Bool.or_eq_true_iff⟩
  · rw [hupdate, isData_iff]
    simp
  · rw [hupdate]
    exact hasFailure_iff
  · rw [hupdate]
    exact rejected_eq message

-- the length comes first and counts all the same; the icon is no byte
example :
    let message : Dictionary :=
      ⟨3, [105, 0, 0, 0, 2, 1, 0, 2] ++ [104, 0, 0, 0, 0, 3, 0, 7, 8, 9] ++
        [103, 0, 0, 0, 3, 1, 0, 255]⟩
    let report := { Report.blank with precipitation := [7, 8], receivedAt := 60 }
    empty.merge message 60 = (⟨true, false, 1⟩, ⟨some report, false⟩) := by
  decide

end Weather

end Watchface
