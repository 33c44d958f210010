import Watchface.Proofs.Dictionary.Writing
import Watchface.Proofs.Face.Run
import Watchface.Proofs.Safety.Merging

/-!
# Running without a fault

The face with a check at every step that can go wrong.  A check that fails
ends the dialogue with its fault, whatever is left to do.  Since each part that
is checked comes to the same as the part itself, so does every run: the checked
face makes the same calls as the face, and no fault ends it.
-/

namespace Watchface

/-- A dialogue that ends when a check fails. -/
abbrev Guarded := ExceptT Fault Dialogue

@[simp] theorem Guarded.liftM_ok {α : Type} (value : α) :
    (liftM (Except.ok value : Checked α) : Guarded α) = pure value := rfl

theorem Guarded.run_liftM {σ α : Type} (host : Host σ) (dialogue : Dialogue α) (state : σ) :
    (liftM dialogue : Guarded α).run.run host state =
      let outcome := dialogue.run host state
      ⟨.ok outcome.value, outcome.state, outcome.log⟩ := by
  have hrun : (liftM dialogue : Guarded α).run = dialogue >>= fun value => .done (.ok value) := rfl
  rw [hrun, Dialogue.run_bind]
  simp

namespace Channel

open Dictionary (Builder Writer)

def checkedFetchRequest : Checked (Except Dictionary.Error Bytes) :=
  match Writer.new outboxSize with
  | .error cause => return .error cause
  | .ok writer => do
      let (outcome, written) ← writer.push (.ofUInt8 Message.fetchWeather.key 1)
      match outcome with
      | .error cause => return .error cause
      | .ok () => do
          let payload ← written.finish
          return .ok payload

theorem checkedFetchRequest_eq : checkedFetchRequest = .ok fetchRequest := by
  rw [checkedFetchRequest, Writer.new_eq, fetchRequest]
  cases Builder.empty outboxSize with
  | error cause => rfl
  | ok builder =>
      simp only [Except.map, Writer.push_ofBuilder, Checked.ok_bind]
      cases hpush : builder.push (.ofUInt8 Message.fetchWeather.key 1) with
      | error cause => simp [bind, Except.bind, hpush]
      | ok written => simp [bind, Except.bind, hpush, pure, Except.pure, Writer.finish_ofBuilder]

end Channel

namespace Face

open Dialogue (attempt)

def checkedRequestWeather : Guarded Unit := do
  match ← Channel.checkedFetchRequest with
  | .ok payload => attempt (.send payload)
  | .error _ => return ()

def checkedRequestIfDue (face : Face) (force : Bool) : Guarded Unit :=
  if force then checkedRequestWeather
  else do
    let now ← Dialogue.call .readClock
    if ← face.weather.checkedIsDue now face.settings.weatherRefresh then checkedRequestWeather
    else return ()

def checkedArmRefresh (face : Face) : Guarded Face := do
  match ← face.settings.checkedRefreshDelay? with
  | none => return face
  | some delay => do
      let (_, refresh) ← face.refresh.arm delay
      return { face with refresh := refresh }

def checkedRefreshWeather (face : Face) (force : Bool) : Guarded Face :=
  if face.scriptReady then do
    face.checkedRequestIfDue force
    face.checkedArmRefresh
  else return face

def checkedRefreshed (face : Face) (refresh : Alarm) : Guarded Face :=
  let face := { face with refresh := refresh }
  if face.settings.weatherRefresh = 0 then return face else face.checkedRefreshWeather true

def checkedTimerFired (face : Face) (purpose : Purpose) (handle : Handle) : Guarded Face :=
  match purpose with
  | .bluetoothPopup => face.timerFired .bluetoothPopup handle
  | .weatherRefresh =>
      match face.refresh.fire? handle with
      | some refresh => face.checkedRefreshed refresh
      | none => return face

def checkedTakeSettings (face : Face) (message : Dictionary) :
    Guarded (Settings.Update × Face) := do
  let (update, settings) ← face.settings.checkedMerge message
  attempt .markDirty
  return (update, { face with store := { face.store with settings := settings } })

def checkedTakeWeather (face : Face) (message : Dictionary) (now : UInt32) :
    Checked (Bool × Face) := do
  let (_, weather) ← face.weather.checkedMerge message now
  let signal ← message.cursor.seek Message.scriptReady.key
  return (signal.isSome,
    { face with weather := weather, scriptReady := face.scriptReady || signal.isSome })

def checkedReceived (face : Face) (message : Dictionary) : Guarded Face := do
  let (update, face) ← face.checkedTakeSettings message
  let face ← if update.tickUnitChanged then face.resubscribe else pure face
  let now ← Dialogue.call .readClock
  let (ready, face) ← face.checkedTakeWeather message now
  if ready || update.weatherRefreshChanged then face.checkedRefreshWeather false
  else return face

def checkedInbox (face : Face) (payload : Bytes) : Guarded Face :=
  match Dictionary.parse payload with
  | .error _ => return face
  | .ok message => face.checkedReceived message

def checkedReact (face : Face) : Input → Guarded Face
  | .event (.inbox payload) => face.checkedInbox payload
  | .event (.timer purpose handle) => face.checkedTimerFired purpose handle
  | .event event => face.dispatch event
  | .refresh force => face.checkedRefreshWeather force

def reactAll (face : Face) : List Input → Dialogue Face
  | [] => return face
  | input :: inputs => do
      let face ← face.react input
      face.reactAll inputs

def checkedReactAll (face : Face) : List Input → Guarded Face
  | [] => return face
  | input :: inputs => do
      let face ← face.checkedReact input
      face.checkedReactAll inputs

/-! ## No fault -/

theorem checkedRequestWeather_eq : checkedRequestWeather = liftM requestWeather := by
  rw [checkedRequestWeather, Channel.checkedFetchRequest_eq, requestWeather]
  simp only [Guarded.liftM_ok, pure_bind]
  cases Channel.fetchRequest <;> rfl

theorem checkedRequestIfDue_eq (face : Face) (force : Bool) :
    face.checkedRequestIfDue force = liftM (face.requestIfDue force) := by
  rw [checkedRequestIfDue, requestIfDue]
  simp only [Weather.checkedIsDue_eq, checkedRequestWeather_eq, Guarded.liftM_ok, pure_bind]
  split
  · rfl
  · rw [liftM_bind]
    refine bind_congr fun now => ?_
    split <;> rfl

theorem checkedArmRefresh_eq (face : Face) : face.checkedArmRefresh = liftM face.armRefresh := by
  rw [checkedArmRefresh, armRefresh, Settings.checkedRefreshDelay?_eq, Guarded.liftM_ok, pure_bind]
  cases face.settings.refreshDelay? with
  | none => rfl
  | some delay =>
      dsimp only
      rw [liftM_bind]
      rfl

theorem checkedRefreshWeather_eq (face : Face) (force : Bool) :
    face.checkedRefreshWeather force = liftM (face.refreshWeather force) := by
  rw [checkedRefreshWeather, refreshWeather]
  split
  · rw [checkedRequestIfDue_eq, checkedArmRefresh_eq, liftM_bind]
  · rfl

theorem checkedTimerFired_eq (face : Face) (purpose : Purpose) (handle : Handle) :
    face.checkedTimerFired purpose handle = liftM (face.timerFired purpose handle) := by
  cases purpose with
  | bluetoothPopup => rfl
  | weatherRefresh =>
      rw [checkedTimerFired, timerFired]
      cases face.refresh.fire? handle with
      | none => rfl
      | some refresh =>
          simp only [checkedRefreshed, refreshed, checkedRefreshWeather_eq]
          split <;> rfl

theorem checkedTakeSettings_eq (face : Face) (message : Dictionary) :
    face.checkedTakeSettings message = liftM (face.takeSettings message) := by
  rw [checkedTakeSettings, Settings.checkedMerge_eq, Guarded.liftM_ok, pure_bind]
  rfl

theorem checkedTakeWeather_eq (face : Face) (message : Dictionary) (now : UInt32) :
    face.checkedTakeWeather message now =
      .ok ((message.find? Message.scriptReady.key).isSome, face.takeWeather message now) := by
  rw [checkedTakeWeather, Weather.checkedMerge_eq, Dictionary.Cursor.seek_eq]
  rfl

theorem checkedReceived_eq (face : Face) (message : Dictionary) :
    face.checkedReceived message = liftM (face.received message) := by
  rw [checkedReceived, received, checkedTakeSettings_eq, liftM_bind]
  refine bind_congr fun ⟨update, settled⟩ => ?_
  simp only [checkedTakeWeather_eq, checkedRefreshWeather_eq, Guarded.liftM_ok, pure_bind]
  have hweather : ∀ tuned : Face,
      (do
        let now ← liftM (Dialogue.call .readClock)
        if (message.find? Message.scriptReady.key).isSome || update.weatherRefreshChanged then
          liftM ((tuned.takeWeather message now).refreshWeather false)
        else pure (tuned.takeWeather message now) : Guarded Face) =
      liftM (do
        let now ← Dialogue.call .readClock
        if (message.find? Message.scriptReady.key).isSome || update.weatherRefreshChanged then
          (tuned.takeWeather message now).refreshWeather false
        else pure (tuned.takeWeather message now) : Dialogue Face) := by
    intro tuned
    rw [liftM_bind]
    refine bind_congr fun now => ?_
    split <;> rfl
  cases update.tickUnitChanged with
  | false => exact hweather settled
  | true => exact (bind_congr hweather).trans (liftM_bind _ _).symm

theorem checkedReact_eq (face : Face) (input : Input) :
    face.checkedReact input = liftM (face.react input) := by
  rcases input with (_ | connected | payload | ⟨purpose, handle⟩) | force
  · rfl
  · rfl
  · simp only [checkedReact, checkedInbox, react, dispatch, inbox]
    cases Dictionary.parse payload with
    | error cause => rfl
    | ok message => exact checkedReceived_eq face message
  · exact checkedTimerFired_eq face purpose handle
  · exact checkedRefreshWeather_eq face force

theorem checkedReactAll_eq (face : Face) (inputs : List Input) :
    face.checkedReactAll inputs = liftM (face.reactAll inputs) := by
  induction inputs generalizing face with
  | nil => rfl
  | cons input inputs ih =>
      rw [checkedReactAll, reactAll, checkedReact_eq, liftM_bind]
      exact bind_congr ih

/--
No check fails.  Reading stays inside the bytes of every payload, and its count
of records never goes below zero.  A message is counted in at most 255 items,
so no counter of an update wraps, and the samples of a report always find room.
A writer counts its tuples in one byte and has a byte in front to put the count
in.  No product of minutes leaves its word, and the request for weather can
always be written.  So the checked face does what the face does, from any state
and with any host: no inputs lead to a fault.
-/
theorem no_check_fails :
    (∀ cursor : Dictionary.Cursor, cursor.advance = .ok cursor.next?) ∧
    (∀ (settings : Settings) (message : Dictionary),
      let update := (settings.merge message).1
      settings.checkedMerge message = .ok (settings.merge message) ∧
        update.applied + update.ignored + update.rejected ≤ 255) ∧
    (∀ (weather : Weather) (message : Dictionary) (now : UInt32),
      weather.checkedMerge message now = .ok (weather.merge message now) ∧
        (weather.merge message now).1.rejected ≤ 255) ∧
    (∀ (capacity : Nat) (tuples : List Tuple),
      Dictionary.Writer.writeAll capacity tuples =
        .ok ((Dictionary.Builder.empty capacity).map fun builder =>
          ((builder.pushAll tuples).1, (builder.pushAll tuples).2.payload))) ∧
    (∀ (capacity : Nat) (builder : Dictionary.Builder capacity) (tuples : List Tuple),
      (builder.pushAll tuples).2.count.toNat = builder.count.toNat +
        (Dictionary.Builder.accepted tuples (builder.pushAll tuples).1).length) ∧
    (∀ (weather : Weather) (now : UInt32) (minutes : UInt16),
      weather.checkedIsDue now minutes = .ok (weather.isDue now minutes) ∧
        weather.checkedShown? now minutes = .ok (weather.shown? now minutes)) ∧
    (∀ settings : Settings, settings.checkedRefreshDelay? = .ok settings.refreshDelay?) ∧
    (∃ request, Channel.checkedFetchRequest = .ok (.ok request) ∧
      Channel.fetchRequest = .ok request) ∧
    ∀ (σ : Type) (host : Host σ) (state : σ) (face : Face) (inputs : List Input),
      let outcome := (face.reactAll inputs).run host state
      (face.checkedReactAll inputs).run.run host state =
        ⟨.ok outcome.value, outcome.state, outcome.log⟩ := by
  refine ⟨Dictionary.Cursor.advance_eq, fun settings message =>
    ⟨settings.checkedMerge_eq message, settings.total_merge_le message⟩,
    fun weather message now =>
      ⟨weather.checkedMerge_eq message now, weather.rejected_merge_le message now⟩,
    Dictionary.Writer.writeAll_eq, fun _ => Dictionary.Builder.count_pushAll,
    fun weather now minutes =>
      ⟨weather.checkedIsDue_eq now minutes, weather.checkedShown?_eq now minutes⟩,
    Settings.checkedRefreshDelay?_eq, ⟨_, Channel.checkedFetchRequest_eq, rfl⟩, ?_⟩
  intro σ host state face inputs
  rw [checkedReactAll_eq]
  exact Guarded.run_liftM host _ state

end Face

end Watchface
