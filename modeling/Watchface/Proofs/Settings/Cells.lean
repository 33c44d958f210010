import Watchface.Proofs.Lasting
import Watchface.Proofs.Settings.RoundTrip

/-!
# Settings as cells

Each setting is a cell of its own.  However many values are written, a setting
holds the last one that was written to it, and a value of another kind is
refused and leaves no trace anywhere.  The cells are all that there is to
settings: two that agree in each of them are equal.
-/

namespace Watchface.Settings

/-- Write a value, and say whether it was written: one of another kind changes nothing. -/
def write (settings : Settings) (setting : Setting) (value : Setting.Value) : Bool × Settings :=
  match settings.set? setting value with
  | some changed => (true, changed)
  | none => (false, settings)

def writeAll (settings : Settings) : List (Setting × Setting.Value) → List Bool × Settings
  | [] => ([], settings)
  | (setting, value) :: calls =>
      let first := settings.write setting value
      let rest := first.2.writeAll calls
      (first.1 :: rest.1, rest.2)

/-- The value that a call has written to a setting, going by what it returned. -/
def written? (setting : Setting) : (Setting × Setting.Value) × Bool → Option Setting.Value
  | ((key, value), accepted) => if key = setting ∧ accepted = true then some value else none

def fitting? (setting : Setting) (call : Setting × Setting.Value) : Option Setting.Value :=
  written? setting (call, decide (call.2.kind = call.1.kind))

theorem write_eq (settings : Settings) (setting : Setting) (value : Setting.Value) :
    settings.write setting value =
      (decide (value.kind = setting.kind), (settings.set? setting value).getD settings) := by
  rw [write, ← isSome_set? settings]
  cases settings.set? setting value with
  | none => rfl
  | some changed => rfl

theorem write_unchanged (settings : Settings) (setting : Setting) (value : Setting.Value)
    (refused : (settings.write setting value).1 = false) :
    (settings.write setting value).2 = settings := by
  unfold write at refused ⊢
  split at refused
  · contradiction
  · rfl

theorem get_set? (settings : Settings) (call : Setting × Setting.Value) (setting : Setting) :
    ((settings.set? call.1 call.2).getD settings).get setting =
      (fitting? setting call).getD (settings.get setting) := by
  obtain ⟨key, value⟩ := call
  rw [fitting?, ← isSome_set? settings]
  cases hset : settings.set? key value with
  | none => simp [written?]
  | some changed =>
      rw [Option.getD_some, get_of_set? hset]
      by_cases hkey : setting = key
      · simp [written?, hkey]
      · simp [written?, hkey, Ne.symm hkey]

theorem get_setAll (settings : Settings) (calls : List (Setting × Setting.Value))
    (setting : Setting) :
    (settings.setAll calls).get setting =
      (calls.filterMap (fitting? setting)).getLast?.getD (settings.get setting) := by
  have hone : ∀ (before : Settings) (call : Setting × Setting.Value),
      some (((before.set? call.1 call.2).getD before).get setting) =
        (fitting? setting call).or (some (before.get setting)) := by
    intro before call
    rw [get_set?, Option.or_some]
  have hall := foldl_eq_getLast?_or (fun settings => some (settings.get setting)) hone calls
    settings
  rwa [Option.or_some, Option.some.injEq] at hall

theorem writeAll_eq (settings : Settings) (calls : List (Setting × Setting.Value)) :
    settings.writeAll calls =
      (calls.map fun call => decide (call.2.kind = call.1.kind), settings.setAll calls) := by
  induction calls generalizing settings with
  | nil => rfl
  | cons call calls ih =>
      simp only [writeAll, ih, write_eq]
      rfl

theorem zip_writeAll (settings : Settings) (calls : List (Setting × Setting.Value)) :
    calls.zip (settings.writeAll calls).1 =
      calls.map fun call => (call, decide (call.2.kind = call.1.kind)) := by
  rw [writeAll_eq, List.map_prod_left_eq_zip]

/--
Settings are cells that do not touch each other.  Whatever is written to them,
a call returns true exactly if its value is of the kind of the setting, and a
call that returns false changes nothing.  After any calls, every setting has
the value of the last one that returned true for it, or the value that it had
before them.  Settings that agree under all of the 34 keys are equal.
-/
theorem settings_are_independent_cells (settings : Settings)
    (calls : List (Setting × Setting.Value)) :
    let after := settings.writeAll calls
    after.1.length = calls.length ∧
    (∀ call ∈ calls.zip after.1, call.2 = true ↔ call.1.2.kind = call.1.1.kind) ∧
    (∀ setting, after.2.get setting =
      ((calls.zip after.1).filterMap (written? setting)).getLast?.getD (settings.get setting)) ∧
    (∀ (before : Settings) (setting : Setting) (value : Setting.Value),
      (before.write setting value).1 = false → (before.write setting value).2 = before) ∧
    Setting.all.length = 34 ∧ Setting.all.Nodup ∧
    ∀ first second : Settings,
      (∀ setting ∈ Setting.all, first.get setting = second.get setting) → first = second := by
  intro after
  have hzip : calls.zip after.1 = _ := zip_writeAll settings calls
  have hafter : after = _ := writeAll_eq settings calls
  refine ⟨?_, ?_, ?_, write_unchanged, rfl, Setting.all_nodup, ?_⟩
  · rw [hafter, List.length_map]
  · rw [hzip, List.forall_mem_map]
    exact fun call _ => decide_eq_true_iff
  · intro setting
    rw [hzip, hafter, List.filterMap_map]
    exact get_setAll settings calls setting
  · intro first second hagree
    exact eq_of_get fun setting => hagree setting (Setting.mem_all setting)

-- the flag is not a byte, and the second of the bytes counts
example :
    let settings := Settings.defaults .colorRect
    let calls : List (Setting × Setting.Value) :=
      [(.seconds, .byte 3), (.seconds, .byte 7), (.seconds, .flag true)]
    (settings.writeAll calls).1 = [true, true, false] ∧
      (settings.writeAll calls).2.get .seconds = .byte 7 := by
  decide

end Watchface.Settings
