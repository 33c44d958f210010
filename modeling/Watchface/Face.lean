import Watchface.Alarm
import Watchface.Event
import Watchface.Settings.Store
import Watchface.Weather

/-!
The face itself: its state, and what it does at each event.

A connection change vibrates and shows a popup, as the settings say, and an
alarm hides the popup again.  A message from the phone changes settings and
weather.  A second alarm asks for weather at the interval of the settings,
once the script on the phone is ready.  When a host service fails, the face
goes on without its effect.
-/

namespace Watchface

structure Face where
  store : Store
  popup : Alarm
  refresh : Alarm
  weather : Weather
  popupShown : Bool
  scriptReady : Bool
  /-- The tick of the last subscription that succeeded, or else that of the defaults. -/
  tickUnit : TickUnit
  deriving DecidableEq

namespace Face

open Dialogue (attempt attemptIf)

def popupDelay : UInt32 := 5000

def settings (face : Face) : Settings := face.store.settings

def ofPlatform (platform : Platform) : Face where
  store := Store.ofPlatform platform
  popup := Alarm.idle .bluetoothPopup
  refresh := Alarm.idle .weatherRefresh
  weather := Weather.empty
  popupShown := false
  scriptReady := false
  tickUnit := (Settings.defaults platform).tickUnit

def start (platform : Platform) : Dialogue Face := do
  let face := ofPlatform platform
  attempt (.subscribeTick face.tickUnit)
  attempt .subscribeConnection
  attempt (.openChannel Channel.inboxSize Channel.outboxSize)
  return face

/-- Pending timers are left alone. -/
def stop : Dialogue Unit := do
  attempt .unsubscribeTick
  attempt .unsubscribeConnection
  attempt .closeChannel

def requestWeather : Dialogue Unit :=
  match Channel.fetchRequest with
  | .ok payload => attempt (.send payload)
  | .error _ => return ()

def requestIfDue (face : Face) (force : Bool) : Dialogue Unit :=
  if force then requestWeather
  else do
    let now ← Dialogue.call .readClock
    if face.weather.isDue now face.settings.weatherRefresh then requestWeather else return ()

def armRefresh (face : Face) : Dialogue Face :=
  match face.settings.refreshDelay? with
  | none => return face
  | some delay => do
      let (_, refresh) ← face.refresh.arm delay
      return { face with refresh := refresh }

/--
Request weather if it is due, or in any case if forced, and keep the refresh
alarm armed.  Nothing happens before the script on the phone is ready.
-/
def refreshWeather (face : Face) (force : Bool) : Dialogue Face :=
  if face.scriptReady then do
    face.requestIfDue force
    face.armRefresh
  else return face

def shownWeather? (face : Face) (now : UInt32) : Option Weather.Report :=
  face.weather.shown? now face.settings.weatherExpiration

/-- Show the popup, but only if an alarm is going to hide it. -/
def showPopup (face : Face) : Dialogue Face := do
  attempt .enableInteraction
  let (result, popup) ← face.popup.arm popupDelay
  let shown := match result with
    | .ok () => true
    | .error _ => popup.isPending
  return { face with popup := popup, popupShown := shown }

def connectionChanged (face : Face) (connected : Bool) : Dialogue Face := do
  attempt .markDirty
  attemptIf (face.settings.vibrates connected) .doublePulse
  if face.settings.announces connected then face.showPopup else return face

def hidePopup (face : Face) (popup : Alarm) : Dialogue Face := do
  attempt .markDirty
  return { face with popup := popup, popupShown := false }

/-- A refresh that was armed before refreshing was turned off is let go. -/
def refreshed (face : Face) (refresh : Alarm) : Dialogue Face :=
  let face := { face with refresh := refresh }
  if face.settings.weatherRefresh = 0 then return face else face.refreshWeather true

def timerFired (face : Face) (purpose : Purpose) (handle : Handle) : Dialogue Face :=
  match purpose with
  | .bluetoothPopup =>
      match face.popup.fire? handle with
      | some popup => face.hidePopup popup
      | none => return face
  | .weatherRefresh =>
      match face.refresh.fire? handle with
      | some refresh => face.refreshed refresh
      | none => return face

def resubscribe (face : Face) : Dialogue Face := do
  let unit := face.settings.tickUnit
  attempt .unsubscribeTick
  match ← Dialogue.call (.subscribeTick unit) with
  | .ok () => return { face with tickUnit := unit }
  | .error _ => return face

def takeSettings (face : Face) (message : Dictionary) : Dialogue (Settings.Update × Face) := do
  let (update, store) ← face.store.merge message
  return (update, { face with store := store })

def takeWeather (face : Face) (message : Dictionary) (now : UInt32) : Face :=
  { face with
    weather := (face.weather.merge message now).2
    scriptReady := face.scriptReady || (message.find? Message.scriptReady.key).isSome }

def received (face : Face) (message : Dictionary) : Dialogue Face := do
  let (update, face) ← face.takeSettings message
  let face ← if update.tickUnitChanged then face.resubscribe else pure face
  let now ← Dialogue.call .readClock
  let face := face.takeWeather message now
  if (message.find? Message.scriptReady.key).isSome || update.weatherRefreshChanged then
    face.refreshWeather false
  else return face

def inbox (face : Face) (payload : Bytes) : Dialogue Face :=
  match Dictionary.parse payload with
  | .error _ => return face
  | .ok message => face.received message

def dispatch (face : Face) : Event → Dialogue Face
  | .tick => do
      attempt .markDirty
      return face
  | .connection connected => face.connectionChanged connected
  | .inbox payload => face.inbox payload
  | .timer purpose handle => face.timerFired purpose handle

def dispatchAll (face : Face) : List Event → Dialogue Face
  | [] => return face
  | event :: events => do
      let face ← face.dispatch event
      face.dispatchAll events

inductive Input where
  | event (event : Event)
  | refresh (force : Bool)
  deriving DecidableEq, Repr

def react (face : Face) : Input → Dialogue Face
  | .event event => face.dispatch event
  | .refresh force => face.refreshWeather force

end Face

end Watchface
