import Watchface.Proofs.Dictionary.Room
import Watchface.Proofs.Settings.Cells

/-!
# Sending all settings at once

A message that holds every setting makes the settings of any store equal to
those that it was written from.  It has 275 bytes, whatever the values and
their order are, and so it is too large for the inbox of the watch.
-/

namespace Watchface

def Setting.Kind.width : Setting.Kind → Nat
  | .color | .flag | .byte => 1
  | .word => 2

theorem Setting.length_toTuple (key : UInt32) (value : Setting.Value) :
    (value.toTuple key).value.length = value.kind.width := by
  cases value <;> exact LittleEndian.length_encode _ _

namespace Settings

open Dictionary (space)

def snapshot (settings : Settings) (order : List Setting) : List (Setting × Setting.Value) :=
  order.map fun setting => (setting, settings.get setting)

theorem kind_snapshot (settings : Settings) (order : List Setting) :
    ∀ pair ∈ settings.snapshot order, pair.2.kind = pair.1.kind := by
  rw [snapshot, List.forall_mem_map]
  exact fun setting _ => kind_get settings setting

theorem get_setAll_snapshot (before settings : Settings) {order : List Setting}
    {setting : Setting} (listed : setting ∈ order) :
    (before.setAll (settings.snapshot order)).get setting = settings.get setting := by
  have hall : ∀ value ∈ (settings.snapshot order).filterMap (fitting? setting),
      value = settings.get setting := by
    intro value hvalue
    obtain ⟨pair, hpair, hfits⟩ := List.mem_filterMap.mp hvalue
    obtain ⟨other, -, rfl⟩ := List.mem_map.mp hpair
    rw [fitting?, written?, Option.ite_none_right_eq_some] at hfits
    rw [← hfits.1.1]
    exact (Option.some.inj hfits.2).symm
  have hmem : settings.get setting ∈ (settings.snapshot order).filterMap (fitting? setting) :=
    List.mem_filterMap.mpr ⟨_, List.mem_map_of_mem listed, by simp [fitting?, written?]⟩
  rw [get_setAll, getLast?_eq_some_of_forall hall hmem, Option.getD_some]

theorem setAll_snapshot (before settings : Settings) {order : List Setting}
    (complete : order.Perm Setting.all) : before.setAll (settings.snapshot order) = settings := by
  refine eq_of_get fun setting => get_setAll_snapshot before settings ?_
  exact complete.mem_iff.mpr (Setting.mem_all setting)

theorem space_snapshot (settings : Settings) {order : List Setting}
    (complete : order.Perm Setting.all) :
    space (tuplesOf (settings.snapshot order)) = 274 := by
  have hperm : (tuplesOf (settings.snapshot order)).Perm
      (tuplesOf (settings.snapshot Setting.all)) := (complete.map _).map _
  rw [Dictionary.space_perm hperm]
  simp only [snapshot, Setting.all, tuplesOf, List.map_cons, List.map_nil, Dictionary.space_cons,
    Dictionary.space_nil, Setting.length_toTuple, kind_get, Setting.kind, Setting.Kind.width,
    Dictionary.Record.headerSize]

end Settings

namespace Dictionary.Builder

variable {capacity : Nat} {builder : Builder capacity} {pairs : List (Setting × Setting.Value)}

theorem putSetting_of_kind {setting : Setting} {value : Setting.Value}
    (same : value.kind = setting.kind) (builder : Builder capacity) :
    builder.putSetting setting value =
      match builder.push (value.toTuple setting.key) with
      | .ok next => (.ok true, next)
      | .error error => (.error error, builder) := by
  rw [putSetting, pushSetting, Setting.encode?, if_pos same]
  dsimp only
  cases builder.push (value.toTuple setting.key) <;> rfl

theorem putSettings_eq (same : ∀ pair ∈ pairs, pair.2.kind = pair.1.kind)
    (builder : Builder capacity) :
    builder.putSettings pairs =
      ((builder.pushAll (Settings.tuplesOf pairs)).1.map fun outcome => outcome.map fun _ => true,
        (builder.pushAll (Settings.tuplesOf pairs)).2) := by
  induction pairs generalizing builder with
  | nil => rfl
  | cons pair pairs ih =>
      obtain ⟨hpair, hpairs⟩ := List.forall_mem_cons.mp same
      have htuples : Settings.tuplesOf (pair :: pairs) =
          pair.2.toTuple pair.1.key :: Settings.tuplesOf pairs := rfl
      rw [putSettings, putSetting_of_kind hpair, htuples, pushAll]
      cases builder.push (pair.2.toTuple pair.1.key) with
      | ok next => simp [ih hpairs, Except.map]
      | error error => simp [ih hpairs, Except.map]

theorem forall_written_iff (same : ∀ pair ∈ pairs, pair.2.kind = pair.1.kind)
    (builder : Builder capacity) :
    (∀ outcome ∈ (builder.putSettings pairs).1, outcome = .ok true) ↔
      ∀ outcome ∈ (builder.pushAll (Settings.tuplesOf pairs)).1, outcome = .ok () := by
  rw [putSettings_eq same, List.forall_mem_map]
  refine forall₂_congr fun outcome _ => ?_
  cases outcome <;> simp [Except.map]

theorem Holds.merge_eq (h : builder.Holds (Settings.tuplesOf pairs))
    (same : ∀ pair ∈ pairs, pair.2.kind = pair.1.kind) (settings : Settings) :
    settings.merge ⟨builder.count, builder.records⟩ =
      (Settings.update (List.replicate pairs.length .applied) settings (settings.setAll pairs),
        settings.setAll pairs) := by
  rw [Settings.merge, h.items_eq, Settings.mergeItems_tuplesOf settings same]

/--
All settings, written in any order to a new builder.  It takes every one of
them exactly if it has room for 275 bytes, which is more than the inbox has.
If it does, merging its payload into any store makes the settings of the store
equal to those that were written; 34 values are applied, and nothing is ignored
or rejected.
-/
theorem snapshot_restores_settings {σ : Type} (host : Host σ) (state : σ) (settings : Settings)
    (store : Store) (order : List Setting) (complete : order.Perm Setting.all) (capacity : Nat)
    (h : 1 ≤ capacity) :
    ∃ fresh : Builder capacity, empty capacity = .ok fresh ∧
      ∃ outcomes builder, fresh.putSettings (settings.snapshot order) = (outcomes, builder) ∧
        outcomes.length = 34 ∧
        ((∀ outcome ∈ outcomes, outcome = .ok true) ↔ 275 ≤ capacity) ∧
        (capacity ≤ Channel.inboxSize → ∃ outcome ∈ outcomes, outcome ≠ .ok true) ∧
        ((∀ outcome ∈ outcomes, outcome = .ok true) →
          ∃ message, parse builder.payload = .ok message ∧
            let merged := ((store.merge message).run host state).value
            merged.2.settings = settings ∧
            merged.1.applied = 34 ∧ merged.1.ignored = 0 ∧ merged.1.rejected = 0) := by
  have hempty : empty capacity = .ok (⟨0, []⟩ : Builder capacity) := empty_eq_ok.mpr ⟨h, rfl⟩
  have hfresh := holds_empty hempty
  have hsame := settings.kind_snapshot order
  have hlength : (settings.snapshot order).length = 34 := by
    rw [Settings.snapshot, List.length_map, complete.length_eq]
    rfl
  have hcounted : ([] : List Tuple).length +
      (Settings.tuplesOf (settings.snapshot order)).length ≤ 255 := by
    rw [Settings.tuplesOf, List.length_map, hlength]
    decide
  have hspace := settings.space_snapshot complete
  have hfits := fits_of_space (hspace ▸ (by decide : 274 < 65536))
  have hroom : (∀ outcome ∈ ((⟨0, []⟩ : Builder capacity).putSettings
      (settings.snapshot order)).1, outcome = .ok true) ↔ 275 ≤ capacity := by
    rw [forall_written_iff hsame, hfresh.takes_all_iff hfits hcounted, hspace]
    exact Iff.rfl
  refine ⟨⟨0, []⟩, hempty, _, _, rfl, ?_, hroom, ?_, ?_⟩
  · rw [length_putSettings, hlength]
  · intro hsmall
    by_contra! hall
    have hlarge := hroom.mp hall
    rw [Channel.inboxSize] at hsmall
    omega
  · intro hall
    have hholds := hfresh.pushAll_of_forall ((forall_written_iff hsame _).mp hall)
    rw [putSettings_eq hsame]
    refine ⟨_, rfl, ?_⟩
    have hmerge := hholds.merge_eq hsame store.settings
    rw [Settings.setAll_snapshot store.settings settings complete, hlength] at hmerge
    simp only [Store.run_merge, hmerge, true_and]
    exact ⟨rfl, rfl, rfl⟩

theorem snapshot_fits_exactly :
    let settings := Settings.defaults .colorRound
    let watch := Simulator.initial 0 fun _ => none
    Setting.all.reverse.Perm Setting.all ∧ 1 ≤ 275 ∧
      ∃ (outcomes : List (Except Error Bool)) (builder : Builder 275) (message : Dictionary),
        (⟨0, []⟩ : Builder 275).putSettings (settings.snapshot Setting.all.reverse) =
          (outcomes, builder) ∧
        (∀ outcome ∈ outcomes, outcome = .ok true) ∧ parse builder.payload = .ok message ∧
        let merged := (((Store.ofPlatform .blackWhite).merge message).run Simulator.host watch).value
        merged.2.settings = settings ∧ merged.1.applied = 34 := by
  intro settings watch
  have hcomplete : Setting.all.reverse.Perm Setting.all := List.reverse_perm Setting.all
  obtain ⟨fresh, hfresh, outcomes, builder, hput, -, hroom, -, hmerged⟩ :=
    snapshot_restores_settings Simulator.host watch settings (Store.ofPlatform .blackWhite)
      Setting.all.reverse hcomplete 275 (by decide)
  obtain ⟨-, rfl⟩ := empty_eq_ok.mp hfresh
  have hall := hroom.mpr (Nat.le_refl 275)
  obtain ⟨message, hparse, hsettings, happlied, -, -⟩ := hmerged hall
  exact ⟨hcomplete, by decide, outcomes, builder, message, hput, hall, hparse, hsettings, happlied⟩

end Dictionary.Builder

end Watchface
