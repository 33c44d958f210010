import Watchface.Proofs.Face.Freshness
import Watchface.Proofs.Safety.Scanning
import Watchface.Proofs.Settings.LastValue
import Watchface.Proofs.Weather.Merging

/-!
# Merging without overflow

What a message does to settings and weather, with every counter in a word of
16 bits and every buffer of its capacity.  A message has at most 255 items and
each of them is counted at most once, so no counter reaches the end of its
word.  Intervals in minutes are short enough to be told in milliseconds.
-/

namespace Watchface

open Checked (extend increment multiply slice)
open Dictionary (Item)

namespace Settings

namespace Update

def blank : Update := ⟨0, 0, 0, false, false⟩

def total (update : Update) : Nat := update.applied + update.ignored + update.rejected

def checkedCount (update : Update) : Verdict → Checked Update
  | .applied => do
      let applied ← increment UInt16.size update.applied
      return { update with applied := applied }
  | .ignored => do
      let ignored ← increment UInt16.size update.ignored
      return { update with ignored := ignored }
  | .rejected => do
      let rejected ← increment UInt16.size update.rejected
      return { update with rejected := rejected }

def countAll (update : Update) (verdicts : List Verdict) : Update :=
  { update with
    applied := update.applied + verdicts.count .applied
    ignored := update.ignored + verdicts.count .ignored
    rejected := update.rejected + verdicts.count .rejected }

variable {update : Update}

theorem total_countAll (update : Update) (verdicts : List Verdict) :
    (update.countAll verdicts).total = update.total + verdicts.length := by
  rw [← length_eq_count_add]
  simp only [total, countAll]
  omega

theorem countAll_cons (update : Update) (verdict : Verdict) (verdicts : List Verdict) :
    update.countAll (verdict :: verdicts) = (update.countAll [verdict]).countAll verdicts := by
  simp only [countAll, List.count_cons, List.count_nil]
  congr 1 <;> omega

theorem checkedCount_eq (room : update.total + 1 < UInt16.size) (verdict : Verdict) :
    update.checkedCount verdict = .ok (update.countAll [verdict]) := by
  unfold total at room
  cases verdict with
  | applied => rw [checkedCount, Checked.increment_of_lt (by omega)]; rfl
  | ignored => rw [checkedCount, Checked.increment_of_lt (by omega)]; rfl
  | rejected => rw [checkedCount, Checked.increment_of_lt (by omega)]; rfl

end Update

def checkedMergeItem (state : Update × Settings) (item : Item) : Checked (Update × Settings) := do
  let (verdict, settings) := state.2.mergeItem item
  let update ← state.1.checkedCount verdict
  return (update, settings)

def checkedMerge (settings : Settings) (message : Dictionary) : Checked (Update × Settings) := do
  let (update, merged) ← message.cursor.scan checkedMergeItem (.blank, settings)
  return ({ update with
    weatherRefreshChanged := merged.weatherRefresh != settings.weatherRefresh
    tickUnitChanged := merged.tickUnit != settings.tickUnit }, merged)

def countItems (state : Update × Settings) (items : List Item) : Update × Settings :=
  (state.1.countAll (state.2.mergeItems items).1, (state.2.mergeItems items).2)

theorem total_countItems (state : Update × Settings) (items : List Item) :
    (countItems state items).1.total = state.1.total + items.length := by
  rw [countItems, Update.total_countAll, length_verdicts]

theorem countItems_cons (state : Update × Settings) (item : Item) (items : List Item) :
    countItems state (item :: items) = countItems (countItems state [item]) items := by
  simp only [countItems, mergeItems, ← Update.countAll_cons]

theorem checkedMergeItem_eq (state : Update × Settings) (item : Item)
    (room : state.1.total + 1 < UInt16.size) :
    checkedMergeItem state item = .ok (countItems state [item]) := by
  simp only [checkedMergeItem, Update.checkedCount_eq room, Checked.ok_bind]
  rfl

theorem checkedMerge_eq (settings : Settings) (message : Dictionary) :
    settings.checkedMerge message = .ok (settings.merge message) := by
  have hroom : Update.blank.total + message.items.length < UInt16.size :=
    Nat.lt_of_le_of_lt (Nat.add_le_add_left message.length_items_le _) (by decide)
  have hitems : message.items.foldlM checkedMergeItem (.blank, settings) =
      .ok (countItems (.blank, settings) message.items) :=
    Checked.foldlM_of_room (fun state => state.1.total) (fun _ => rfl) countItems_cons
      (fun state item => Nat.le_of_eq (total_countItems state [item])) checkedMergeItem_eq
      _ _ hroom
  rw [checkedMerge, Dictionary.Cursor.scan_eq, Dictionary.items_cursor, hitems]
  simp [countItems, Update.countAll, Update.blank, merge, update]

theorem total_merge_le (settings : Settings) (message : Dictionary) :
    (settings.merge message).1.total ≤ 255 := by
  have htotal : (settings.merge message).1.total = message.items.length := by
    rw [← settings.length_verdicts message.items, ← length_eq_count_add]
    rfl
  rw [htotal]
  exact message.length_items_le

end Settings

/-! ## Weather -/

namespace Weather

def checkedReadSamples (tuple : Tuple) : Checked (Except ReadError Bytes) :=
  match tuple.bytes? with
  | none => return .error (.wire .notByteArray)
  | some bytes => do
      let kept ← slice bytes 0 (min bytes.length maxSamples)
      let samples ← extend maxSamples [] kept
      return .ok samples

def checkedReadField (field : WeatherField) (tuple : Tuple) :
    Checked (Except ReadError Reading) :=
  match field with
  | .precipitation => do
      let samples ← checkedReadSamples tuple
      return samples.map .precipitation
  | field => return readField field tuple

def checkedMergeItem (state : Update × Draft) : Item → Checked (Update × Draft)
  | .error _ => return state
  | .ok tuple => do
      let (update, draft) := state
      match Topic.ofKey tuple.key with
      | .message (.weather field) =>
          match ← checkedReadField field tuple with
          | .ok reading => return ({ update with received := true }, draft.put reading)
          | .error _ => do
              let rejected ← increment UInt16.size update.rejected
              return ({ update with rejected := rejected }, draft)
      | .message .weatherFailed => return ({ update with failed := true }, draft)
      | _ => return state

def checkedMerge (weather : Weather) (message : Dictionary) (now : UInt32) :
    Checked (Update × Weather) := do
  let (update, draft) ← message.cursor.scan checkedMergeItem
    (⟨false, false, 0⟩, ⟨weather.report.getD .blank, none⟩)
  if update.received then return (update, ⟨some (draft.finish now), false⟩)
  else return (update, { weather with failed := weather.failed || update.failed })

theorem checkedReadSamples_eq (tuple : Tuple) :
    checkedReadSamples tuple = .ok (tuple.readBytes.map fun bytes => bytes.take maxSamples) := by
  unfold checkedReadSamples Tuple.readBytes
  cases tuple.bytes? with
  | none => rfl
  | some bytes =>
      have hkept : slice bytes 0 (min bytes.length maxSamples) =
          .ok (bytes.take maxSamples) := by
        rw [Checked.slice_of_le (Nat.zero_le _) (Nat.min_le_left _ _), List.drop_zero,
          Nat.min_comm, ← List.take_take, List.take_length]
      have hroom : ([] : Bytes).length + (bytes.take maxSamples).length ≤ maxSamples := by
        rw [List.length_nil, Nat.zero_add]
        exact List.length_take_le _ _
      simp only [hkept, Checked.ok_bind, Checked.extend_of_room hroom]
      rfl

theorem checkedReadField_eq (field : WeatherField) (tuple : Tuple) :
    checkedReadField field tuple = .ok (readField field tuple) := by
  cases field with
  | precipitation =>
      rw [checkedReadField, checkedReadSamples_eq, readField]
      cases tuple.readBytes <;> rfl
  | _ => rfl

def absorb (state : Update × Draft) (items : List Item) : Update × Draft :=
  let tuples := items.filterMap Except.toOption
  let results := tuples.filterMap reading?
  ({ received := state.1.received || results.any fun result => result.toOption.isSome
     failed := state.1.failed || tuples.any isFailure
     rejected := state.1.rejected + results.countP fun result => result.toOption.isNone },
    (results.filterMap Except.toOption).foldl Draft.put state.2)

theorem absorb_nil (state : Update × Draft) : absorb state [] = state := by
  simp [absorb]

theorem absorb_append (state : Update × Draft) (first second : List Item) :
    absorb state (first ++ second) = absorb (absorb state first) second := by
  simp only [absorb, List.filterMap_append, List.any_append, List.countP_append,
    List.foldl_append, Bool.or_assoc, Nat.add_assoc]

theorem rejected_absorb_le (state : Update × Draft) (items : List Item) :
    (absorb state items).1.rejected ≤ state.1.rejected + items.length := by
  refine Nat.add_le_add_left (Nat.le_trans List.countP_le_length ?_) _
  exact Nat.le_trans (List.length_filterMap_le _ _) (List.length_filterMap_le _ _)

theorem absorb_cons (state : Update × Draft) (item : Item) (items : List Item) :
    absorb state (item :: items) = absorb (absorb state [item]) items :=
  absorb_append state [item] items

theorem absorb_damaged (state : Update × Draft) (cause : Dictionary.Error) :
    absorb state [.error cause] = state := by
  have htuples : [(.error cause : Item)].filterMap Except.toOption = [] := rfl
  simp [absorb, htuples]

theorem absorb_tuple (state : Update × Draft) (tuple : Tuple) :
    absorb state [.ok tuple] =
      let update := { state.1 with failed := state.1.failed || isFailure tuple }
      match reading? tuple with
      | none => (update, state.2)
      | some (.ok reading) => ({ update with received := true }, state.2.put reading)
      | some (.error _) => ({ update with rejected := update.rejected + 1 }, state.2) := by
  have htuples : [(.ok tuple : Item)].filterMap Except.toOption = [tuple] := rfl
  cases hread : reading? tuple with
  | none => simp [absorb, htuples, hread]
  | some result =>
      cases result <;> simp [absorb, htuples, hread, Except.toOption, List.filterMap_cons]

theorem checkedMergeItem_eq (state : Update × Draft) (item : Item)
    (room : state.1.rejected + 1 < UInt16.size) :
    checkedMergeItem state item = .ok (absorb state [item]) := by
  cases item with
  | error cause => rw [absorb_damaged]; rfl
  | ok tuple =>
      have hidle : ({ state.1 with failed := state.1.failed || false }, state.2) = state := by
        rw [Bool.or_false]
      rw [absorb_tuple, isFailure, reading?]
      simp only [checkedMergeItem, checkedReadField_eq, Checked.ok_bind]
      cases Topic.ofKey tuple.key with
      | message message =>
          cases message with
          | weather field =>
              have hquiet : (Topic.message (.weather field) == .message .weatherFailed) = false :=
                rfl
              cases hresult : readField field tuple with
              | ok reading => simp [hquiet, hresult]
              | error cause => simp [hquiet, hresult, Checked.increment_of_lt room]
          | weatherFailed => simp
          | fetchWeather | scriptReady => exact congrArg Except.ok hidle.symm
      | setting _ | unknown => exact congrArg Except.ok hidle.symm

theorem checkedMerge_eq (weather : Weather) (message : Dictionary) (now : UInt32) :
    weather.checkedMerge message now = .ok (weather.merge message now) := by
  have hroom : 0 + message.items.length < UInt16.size :=
    Nat.lt_of_le_of_lt (Nat.add_le_add_left message.length_items_le _) (by decide)
  let draft : Draft := ⟨weather.report.getD .blank, none⟩
  have hitems : message.items.foldlM checkedMergeItem (⟨false, false, 0⟩, draft) =
      .ok (absorb (⟨false, false, 0⟩, draft) message.items) :=
    Checked.foldlM_of_room (fun state => state.1.rejected) absorb_nil absorb_cons
      (fun state item => rejected_absorb_le state [item]) checkedMergeItem_eq _ _ hroom
  have hreceived : ∀ results : List (Except ReadError Reading),
      (results.any fun result => result.toOption.isSome) =
        !(results.filterMap Except.toOption).isEmpty := by
    intro results
    rw [Bool.eq_iff_iff]
    simp [Option.isSome_iff_ne_none]
  have habsorbed : absorb (⟨false, false, 0⟩, draft) message.items =
      ((weather.merge message now).1, (readings message).foldl Draft.put draft) := by
    rw [fst_merge]
    simp only [absorb, hreceived, Bool.false_or, Nat.zero_add]
    rfl
  have hmerge : weather.merge message now = (_, _) :=
    Prod.ext (weather.fst_merge message now) (weather.snd_merge message now)
  rw [checkedMerge, Dictionary.Cursor.scan_eq, Dictionary.items_cursor, hitems, habsorbed, hmerge]
  cases hempty : (readings message).isEmpty <;> rfl

theorem rejected_merge_le (weather : Weather) (message : Dictionary) (now : UInt32) :
    (weather.merge message now).1.rejected ≤ 255 := by
  rw [fst_merge, rejected_eq]
  exact Nat.le_trans List.countP_le_length message.length_items_le

theorem multiply_sixty (minutes : UInt16) :
    multiply minutes.toUInt32 60 = .ok (minutes.toUInt32 * 60) := by
  have hsize := minutes.toNat_lt
  apply Checked.multiply_of_lt
  rw [UInt16.toNat_toUInt32]
  simp only [UInt32.reduceToNat, UInt32.size]
  omega

def checkedIsDue (weather : Weather) (now : UInt32) (minutes : UInt16) : Checked Bool :=
  match weather.report with
  | none => return true
  | some report =>
      if minutes = 0 then return false
      else do
        let limit ← multiply minutes.toUInt32 60
        return decide (limit ≤ report.age now)

def checkedShown? (weather : Weather) (now : UInt32) (minutes : UInt16) :
    Checked (Option Report) :=
  match weather.report with
  | none => return none
  | some report =>
      if minutes = 0 then return some report
      else do
        let limit ← multiply minutes.toUInt32 60
        return if limit ≤ report.age now then none else some report

theorem checkedIsDue_eq (weather : Weather) (now : UInt32) (minutes : UInt16) :
    weather.checkedIsDue now minutes = .ok (weather.isDue now minutes) := by
  rw [checkedIsDue, isDue, multiply_sixty]
  cases weather.report with
  | none => rfl
  | some report => by_cases hminutes : minutes = 0 <;> simp [hminutes]

theorem checkedShown?_eq (weather : Weather) (now : UInt32) (minutes : UInt16) :
    weather.checkedShown? now minutes = .ok (weather.shown? now minutes) := by
  rw [checkedShown?, shown?, multiply_sixty]
  cases weather.report with
  | none => rfl
  | some report =>
      by_cases hminutes : minutes = 0
      · simp [hminutes, Option.filter]
      · by_cases hle : minutes.toUInt32 * 60 ≤ report.age now
        · simp [hminutes, hle, Option.filter]
        · simp [hminutes, hle, Option.filter, UInt32.not_le.mp hle]

end Weather

namespace Settings

def checkedRefreshDelay? (settings : Settings) : Checked (Option UInt32) :=
  if settings.weatherRefresh = 0 then return none
  else do
    let seconds ← multiply settings.weatherRefresh.toUInt32 60
    let milliseconds ← multiply seconds 1000
    return some milliseconds

theorem checkedRefreshDelay?_eq (settings : Settings) :
    settings.checkedRefreshDelay? = .ok settings.refreshDelay? := by
  have hsize := settings.weatherRefresh.toNat_lt
  have hmilliseconds : multiply (settings.weatherRefresh.toUInt32 * 60) 1000 =
      .ok (settings.weatherRefresh.toUInt32 * 60 * 1000) := by
    apply Checked.multiply_of_lt
    rw [Weather.toNat_seconds]
    simp only [UInt32.reduceToNat, UInt32.size]
    omega
  rw [checkedRefreshDelay?, refreshDelay?, Weather.multiply_sixty]
  simp only [Checked.ok_bind, hmilliseconds]
  split <;> rfl

end Settings

end Watchface
