import Watchface.Face
import Watchface.Proofs.Host.Trace
import Watchface.Proofs.Settings.LastValue
import Watchface.Proofs.Weather.LastReading

/-!
# What a message says

The face goes over a message three times: for its settings, for the weather
and for the signal that the script is ready.  Each time it looks only at the
tuples under keys that it knows, and at each key on its own.  Two messages that
agree under these keys are the same to the face, and so it makes no difference
how a message mixes tuples of different keys.
-/

namespace Watchface

theorem Setting.lastValueIn?_items (setting : Setting) (message : Dictionary) :
    setting.lastValueIn? message.items =
      ((message.under setting.key).filterMap fun tuple =>
        (setting.decode tuple).toOption).getLast? := by
  rw [lastValueIn?, Dictionary.under, Dictionary.tuples, List.filterMap_filter,
    List.filterMap_filterMap]
  congr 2
  funext item
  cases item with
  | error cause => rfl
  | ok tuple => simp [valueIn?, Except.toOption]

theorem Settings.merge_congr {first second : Dictionary}
    (same : ∀ setting : Setting, first.under setting.key = second.under setting.key)
    (settings : Settings) : (settings.merge first).2 = (settings.merge second).2 := by
  refine eq_of_get fun setting => ?_
  rw [merge, merge, get_mergeItems, get_mergeItems, Setting.lastValueIn?_items,
    Setting.lastValueIn?_items, same setting]

namespace Face

section Content

variable {first second : Dictionary}

/-- Two messages hold the same tuples, in the same order, under each key that means something. -/
def SameContent (first second : Dictionary) : Prop :=
  ∀ key, Topic.ofKey key ≠ .unknown → first.under key = second.under key

theorem SameContent.setting (h : SameContent first second) (setting : Setting) :
    first.under setting.key = second.under setting.key :=
  h setting.key (by simp [Topic.ofKey])

theorem SameContent.message (h : SameContent first second) (message : Message) :
    first.under message.key = second.under message.key :=
  h message.key (by simp [Topic.ofKey_eq_message_iff.mpr rfl])

theorem SameContent.takeWeather (h : SameContent first second) (face : Face) (now : UInt32) :
    face.takeWeather first now = face.takeWeather second now := by
  rw [Face.takeWeather, Face.takeWeather, Weather.merge_congr h.message,
    Dictionary.find?_eq_head?_under, Dictionary.find?_eq_head?_under, h.message .scriptReady]

theorem SameContent.received (h : SameContent first second) (face : Face) :
    face.received first = face.received second := by
  have hsettings := Settings.merge_congr h.setting face.store.settings
  have htick : (face.store.settings.merge first).1.tickUnitChanged =
      (face.store.settings.merge second).1.tickUnitChanged :=
    congrArg (fun settings : Settings => settings.tickUnit != face.store.settings.tickUnit)
      hsettings
  have hrefresh : (face.store.settings.merge first).1.weatherRefreshChanged =
      (face.store.settings.merge second).1.weatherRefreshChanged :=
    congrArg (fun settings : Settings =>
      settings.weatherRefresh != face.store.settings.weatherRefresh) hsettings
  have hready : first.find? Message.scriptReady.key = second.find? Message.scriptReady.key := by
    rw [Dictionary.find?_eq_head?_under, Dictionary.find?_eq_head?_under,
      h.message .scriptReady]
  simp only [Face.received, takeSettings, Store.merge, bind_assoc, pure_bind, hsettings, htick,
    hrefresh, hready, h.takeWeather]

end Content

open Dictionary (Record Reordered payloadOf)

/--
On any host, the records of a message may be reordered as long as those of one
key stay in their order: the face ends up in the same state, and has made the
same calls in the same order.
-/
theorem order_of_keys_makes_no_difference {σ : Type} (face : Face) (host : Host σ) (state : σ)
    {first second : List Record} (fits : ∀ record ∈ first, record.Fits)
    (counted : first.length ≤ 255) (reordered : Reordered first second) :
    (face.dispatch (.inbox (payloadOf first))).run host state =
      (face.dispatch (.inbox (payloadOf second))).run host state := by
  have hsame : SameContent ⟨UInt8.ofNat first.length, Dictionary.layout first⟩
      ⟨UInt8.ofNat second.length, Dictionary.layout second⟩ :=
    fun key _ => reordered.under_eq fits counted key
  have hreceived := hsame.received face
  simp only [dispatch, inbox, payloadOf, Dictionary.parse, hreceived]

/-- Samples and their length, a setting, two temperatures, readiness, failure and a damaged type. -/
theorem mixed_message_may_be_reordered :
    let length : Record := ⟨105, 2, [2]⟩
    let samples : Record := ⟨104, 0, [7, 8, 9]⟩
    let cold : Record := ⟨102, 3, [5]⟩
    let warm : Record := ⟨102, 3, [20]⟩
    let interval : Record := ⟨29, 2, [15]⟩
    let ready : Record := ⟨109, 2, [1]⟩
    let failed : Record := ⟨108, 2, [1]⟩
    let damaged : Record := ⟨102, 9, []⟩
    let first := [length, cold, failed, samples, interval, warm, damaged, ready]
    let second := [ready, samples, cold, warm, interval, damaged, length, failed]
    let host : Host Unit := ⟨fun call _ => (call.anyAnswer, ())⟩
    Reordered first second ∧
      ((ofPlatform .colorRect).dispatch (.inbox (payloadOf first))).run host () =
        ((ofPlatform .colorRect).dispatch (.inbox (payloadOf second))).run host () := by
  intro length samples cold warm interval ready failed damaged first second host
  have hreordered : Reordered first second := by decide
  exact ⟨hreordered, order_of_keys_makes_no_difference (ofPlatform .colorRect) host ()
    (by decide) (by decide) hreordered⟩

end Face

end Watchface
