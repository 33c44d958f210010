import Watchface.Message
import Watchface.Settings

/-!
How a message changes the settings.

A message may carry any of the settings.  Each of its items is applied or
refused on its own, in order, so that the last readable value of a setting
wins.
-/

namespace Watchface

namespace Settings

inductive Verdict where
  | applied
  /-- The key is no setting. -/
  | ignored
  /-- There is no tuple, or none that the setting can take. -/
  | rejected
  deriving DecidableEq, Repr

def mergeItem (settings : Settings) : Dictionary.Item → Verdict × Settings
  | .error _ => (.rejected, settings)
  | .ok tuple =>
      match Topic.ofKey tuple.key with
      | .setting setting =>
          match setting.decode tuple with
          | .error _ => (.rejected, settings)
          | .ok value =>
              match settings.set? setting value with
              | none => (.rejected, settings)
              | some changed => (.applied, changed)
      | _ => (.ignored, settings)

def mergeItems (settings : Settings) : List Dictionary.Item → List Verdict × Settings
  | [] => ([], settings)
  | item :: items =>
      let (verdict, settings) := settings.mergeItem item
      let (verdicts, settings) := settings.mergeItems items
      (verdict :: verdicts, settings)

structure Update where
  applied : Nat
  ignored : Nat
  rejected : Nat
  weatherRefreshChanged : Bool
  tickUnitChanged : Bool
  deriving DecidableEq, Repr

def update (verdicts : List Verdict) (before after : Settings) : Update where
  applied := verdicts.count .applied
  ignored := verdicts.count .ignored
  rejected := verdicts.count .rejected
  weatherRefreshChanged := after.weatherRefresh != before.weatherRefresh
  tickUnitChanged := after.tickUnit != before.tickUnit

def merge (settings : Settings) (message : Dictionary) : Update × Settings :=
  let (verdicts, merged) := settings.mergeItems message.items
  (update verdicts settings merged, merged)

end Settings

end Watchface
