import Watchface.Host.Dialogue
import Watchface.Settings.Merge

/-!
The settings of one watch, with the platform whose defaults they fall back to.
-/

namespace Watchface

structure Store where
  platform : Platform
  settings : Settings
  deriving DecidableEq

namespace Store

def ofPlatform (platform : Platform) : Store := ⟨platform, Settings.defaults platform⟩

def reset (store : Store) : Store := ofPlatform store.platform

def merge (store : Store) (message : Dictionary) : Dialogue (Settings.Update × Store) := do
  let (update, settings) := store.settings.merge message
  Dialogue.attempt .markDirty
  return (update, { store with settings := settings })

end Store

end Watchface
