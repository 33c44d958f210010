import Watchface.Proofs.Dictionary.Integer
import Watchface.Proofs.Dictionary.RoundTrip
import Watchface.Proofs.Settings.LastValue
import Watchface.Simulator

/-!
# Writing settings and merging them

A setting that is written to a dictionary reads back as the value that was
written.  So a message of settings, merged into any store, writes the same
values one after the other that a builder took, whatever else was offered to
it: values of the wrong kind and settings for which there was no more room
leave no trace.
-/

namespace Watchface

namespace Setting

theorem decode_toTuple (key : UInt32) (value : Value) :
    value.kind.decode (value.toTuple key) = .ok value := by
  cases value with
  | color color =>
      have hread := Tuple.readUInt8_of_integer (Tuple.integer_ofUInt8 key color.argb)
      simp [Value.kind, Kind.decode, Value.toTuple, hread, Except.map]
  | flag flag =>
      have hread := Tuple.readBool_of_integer (Tuple.integer_ofUInt8 key flag.toUInt8)
      simp [Value.kind, Kind.decode, Value.toTuple, hread, Except.map]
  | byte byte =>
      have hread := Tuple.readUInt8_of_integer (Tuple.integer_ofUInt8 key byte)
      simp [Value.kind, Kind.decode, Value.toTuple, hread, Except.map]
  | word word =>
      have hread := Tuple.readUInt16_of_integer (Tuple.integer_ofUInt16 key word)
      simp [Value.kind, Kind.decode, Value.toTuple, hread, Except.map]

@[simp] theorem key_toTuple (key : UInt32) (value : Value) : (value.toTuple key).key = key := by
  cases value <;> rfl

end Setting

namespace Settings

def setAll (settings : Settings) (pairs : List (Setting × Setting.Value)) : Settings :=
  pairs.foldl (fun settings pair => (settings.set? pair.1 pair.2).getD settings) settings

def tuplesOf (pairs : List (Setting × Setting.Value)) : List Tuple :=
  pairs.map fun pair => pair.2.toTuple pair.1.key

theorem mergeItem_toTuple (settings : Settings) {setting : Setting} {value : Setting.Value}
    (same : value.kind = setting.kind) :
    settings.mergeItem (.ok (value.toTuple setting.key)) =
      (.applied, (settings.set? setting value).getD settings) := by
  have hdecode : setting.decode (value.toTuple setting.key) = .ok value := by
    rw [Setting.decode, ← same]
    exact Setting.decode_toTuple setting.key value
  rcases Option.isSome_iff_exists.mp (isSome_set?_iff.mpr same) with ⟨changed, hset⟩
  rw [mergeItem_of_decode (by simp) hdecode hset, hset, Option.getD_some]

theorem mergeItems_tuplesOf (settings : Settings) {pairs : List (Setting × Setting.Value)}
    (same : ∀ pair ∈ pairs, pair.2.kind = pair.1.kind) :
    settings.mergeItems ((tuplesOf pairs).map .ok) =
      (List.replicate pairs.length .applied, settings.setAll pairs) := by
  induction pairs generalizing settings with
  | nil => rfl
  | cons pair pairs ih =>
      have hpair := same pair List.mem_cons_self
      have hpairs := ih ((settings.set? pair.1 pair.2).getD settings) fun other hother =>
        same other (List.mem_cons_of_mem _ hother)
      rw [tuplesOf] at hpairs
      simp only [tuplesOf, List.map_cons, mergeItems, mergeItem_toTuple settings hpair, hpairs]
      rfl

end Settings

/-! ## Writing settings -/

namespace Dictionary.Builder

variable {capacity : Nat}

/-- Offer a setting to a builder, which stays as it was if it cannot take it. -/
def putSetting (builder : Builder capacity) (setting : Setting) (value : Setting.Value) :
    Except Error Bool × Builder capacity :=
  match builder.pushSetting setting value with
  | .ok (written, next) => (.ok written, next)
  | .error error => (.error error, builder)

def putSettings (builder : Builder capacity) :
    List (Setting × Setting.Value) → List (Except Error Bool) × Builder capacity
  | [] => ([], builder)
  | (setting, value) :: pairs =>
      let first := builder.putSetting setting value
      let rest := first.2.putSettings pairs
      (first.1 :: rest.1, rest.2)

def isWritten : Except Error Bool → Bool
  | .ok written => written
  | .error _ => false

def writtenPairs (pairs : List (Setting × Setting.Value)) (outcomes : List (Except Error Bool)) :
    List (Setting × Setting.Value) :=
  ((pairs.zip outcomes).filter fun call => isWritten call.2).map Prod.fst

theorem putSetting_cases (builder : Builder capacity) (setting : Setting)
    (value : Setting.Value) :
    (value.kind ≠ setting.kind ∧ builder.putSetting setting value = (.ok false, builder)) ∨
    (value.kind = setting.kind ∧ ∃ next, builder.push (value.toTuple setting.key) = .ok next ∧
      builder.putSetting setting value = (.ok true, next)) ∨
    (value.kind = setting.kind ∧ ∃ error,
      builder.putSetting setting value = (.error error, builder)) := by
  by_cases hkind : value.kind = setting.kind
  · right
    cases hpush : builder.push (value.toTuple setting.key) with
    | ok next =>
        left
        refine ⟨hkind, next, rfl, ?_⟩
        simp [putSetting, pushSetting, Setting.encode?, hkind, hpush, Except.map]
    | error error =>
        right
        refine ⟨hkind, error, ?_⟩
        simp [putSetting, pushSetting, Setting.encode?, hkind, hpush, Except.map]
  · left
    refine ⟨hkind, ?_⟩
    simp [putSetting, pushSetting, Setting.encode?, hkind]

theorem putSetting_eq_false_iff (builder : Builder capacity) (setting : Setting)
    (value : Setting.Value) :
    (builder.putSetting setting value).1 = .ok false ↔ value.kind ≠ setting.kind := by
  rcases builder.putSetting_cases setting value with
    ⟨hkind, hput⟩ | ⟨hkind, next, -, hput⟩ | ⟨hkind, error, hput⟩ <;> simp [hput, hkind]

theorem putSetting_unchanged (builder : Builder capacity) (setting : Setting)
    (value : Setting.Value) (h : (builder.putSetting setting value).1 ≠ .ok true) :
    (builder.putSetting setting value).2 = builder := by
  rcases builder.putSetting_cases setting value with
    ⟨-, hput⟩ | ⟨-, next, -, hput⟩ | ⟨-, error, hput⟩
  · rw [hput]
  · simp [hput] at h
  · rw [hput]

theorem length_putSettings (builder : Builder capacity)
    (pairs : List (Setting × Setting.Value)) :
    (builder.putSettings pairs).1.length = pairs.length := by
  induction pairs generalizing builder with
  | nil => rfl
  | cons pair pairs ih => simp [putSettings, ih]

/-- Whatever was offered, a builder holds the pairs that were written, all of the right kind. -/
theorem Holds.putSettings {builder : Builder capacity} {tuples : List Tuple}
    (h : builder.Holds tuples) (pairs : List (Setting × Setting.Value)) :
    (builder.putSettings pairs).2.Holds
        (tuples ++ Settings.tuplesOf (writtenPairs pairs (builder.putSettings pairs).1)) ∧
      ∀ pair ∈ writtenPairs pairs (builder.putSettings pairs).1, pair.2.kind = pair.1.kind := by
  induction pairs generalizing builder tuples with
  | nil => simpa [Builder.putSettings, writtenPairs, Settings.tuplesOf] using h
  | cons pair pairs ih =>
      rcases builder.putSetting_cases pair.1 pair.2 with
        ⟨-, hput⟩ | ⟨hkind, next, hpush, hput⟩ | ⟨-, error, hput⟩
      · simpa [Builder.putSettings, hput, writtenPairs, isWritten] using ih h
      · have hnext := ih (h.push hpush)
        simp only [Settings.tuplesOf, writtenPairs] at hnext
        simpa [Builder.putSettings, hput, writtenPairs, isWritten, Settings.tuplesOf, hkind]
          using hnext
      · simpa [Builder.putSettings, hput, writtenPairs, isWritten] using ih h

/--
Settings survive being written, sent and merged.  A builder passes over a value
exactly if its kind is not that of the setting, and a setting that it does not
write leaves it as it was.  Whatever settings are offered to a new builder, to
merge its payload into a store is to write the values that it took, in their
order; all of them count as applied, and nothing is ignored or rejected.
-/
theorem written_settings_are_merged {σ : Type} (host : Host σ) (state : σ) (capacity : Nat)
    (h : 1 ≤ capacity) (pairs : List (Setting × Setting.Value)) (store : Store) :
    (∀ (builder : Builder capacity) (setting : Setting) (value : Setting.Value),
      ((builder.putSetting setting value).1 = .ok false ↔ value.kind ≠ setting.kind) ∧
      ((builder.putSetting setting value).1 ≠ .ok true →
        (builder.putSetting setting value).2 = builder)) ∧
    ∃ fresh : Builder capacity, empty capacity = .ok fresh ∧
      ∃ outcomes builder, fresh.putSettings pairs = (outcomes, builder) ∧
        outcomes.length = pairs.length ∧
        ∃ message, parse builder.payload = .ok message ∧
          let merged := ((store.merge message).run host state).value
          merged.2 =
            { store with settings := store.settings.setAll (writtenPairs pairs outcomes) } ∧
          merged.1.applied = (writtenPairs pairs outcomes).length ∧
          merged.1.ignored = 0 ∧ merged.1.rejected = 0 := by
  have hempty : empty capacity = .ok (⟨0, []⟩ : Builder capacity) := empty_eq_ok.mpr ⟨h, rfl⟩
  have hput := (holds_empty hempty).putSettings pairs
  rw [List.nil_append] at hput
  rcases hput with ⟨hholds, hkinds⟩
  refine ⟨fun builder setting value => ⟨builder.putSetting_eq_false_iff setting value,
      builder.putSetting_unchanged setting value⟩,
    ⟨0, []⟩, hempty, _, _, rfl, length_putSettings _ _, _, rfl, ?_⟩
  have hmerge := Settings.mergeItems_tuplesOf store.settings hkinds
  rw [← hholds.items_eq] at hmerge
  simp only [Store.run_merge, Settings.merge, hmerge]
  simp [Settings.update, List.count_replicate]

/-- Two of the four settings are written: one is of the wrong kind, and one finds no room. -/
theorem written_settings_are_merged_in_part :
    1 ≤ 20 ∧ ∃ (builder : Builder 20) (message : Dictionary),
      (⟨0, []⟩ : Builder 20).putSettings
          [(.ticksColor, .color .red), (.dateColor, .flag true),
            (.weatherRefresh, .word 45), (.seconds, .byte 1)] =
        ([.ok true, .ok false, .ok true, .error .bufferTooSmall], builder) ∧
      parse builder.payload = .ok message ∧
      let watch := Simulator.initial 0 fun _ => none
      let merged := (((Store.ofPlatform .colorRect).merge message).run Simulator.host watch).value
      merged.1.applied = 2 ∧ merged.2.settings.weatherRefresh = 45 := by
  obtain ⟨-, fresh, hfresh, outcomes, builder, hput, -, message, hparse, hmerged⟩ :=
    written_settings_are_merged Simulator.host (Simulator.initial 0 fun _ => none) 20 (by decide)
      [(.ticksColor, .color .red), (.dateColor, .flag true),
        (.weatherRefresh, .word 45), (.seconds, .byte 1)]
      (Store.ofPlatform .colorRect)
  obtain ⟨-, rfl⟩ := empty_eq_ok.mp hfresh
  have houtcomes : outcomes = [.ok true, .ok false, .ok true, .error .bufferTooSmall] :=
    (congrArg Prod.fst hput).symm
  subst houtcomes
  refine ⟨by decide, builder, message, hput, hparse, hmerged.2.1, ?_⟩
  rw [hmerged.1]
  rfl

end Dictionary.Builder

end Watchface
