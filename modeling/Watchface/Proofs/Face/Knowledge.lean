import Watchface.Proofs.Face.MessageContent
import Watchface.Proofs.Face.Subscription
import Watchface.Simulator

/-!
# What the face has learned

Settings, weather and the readiness of the script are what the face has
learned from the phone.  A reaction changes them only by the message that its
input holds, and of the answers of the host only the time counts.  Each part
looks at its own tuples: the settings at those of settings, the weather and the
readiness at those of the other messages.  What is neither is not seen at all.
-/

namespace Watchface

namespace Dictionary

def blank : Dictionary := ⟨0, []⟩

def ofPayload (payload : Bytes) : Dictionary :=
  match parse payload with
  | .ok message => message
  | .error _ => blank

theorem ofPayload_of_parse {payload : Bytes} {message : Dictionary}
    (h : parse payload = .ok message) : ofPayload payload = message := by
  rw [ofPayload, h]

theorem parse_eq_ofPayload {payload : Bytes} (h : payload ≠ []) :
    parse payload = .ok (ofPayload payload) := by
  cases payload with
  | nil => contradiction
  | cons count body => rfl

theorem under_filter {message : Dictionary} {group : Tuple → Bool} {key : UInt32}
    (covers : ∀ tuple : Tuple, tuple.key = key → group tuple = true) :
    (message.tuples.filter group).filter (fun tuple => tuple.key == key) =
      message.under key := by
  rw [List.filter_filter, under]
  refine List.filter_congr fun tuple _ => ?_
  by_cases hkey : tuple.key = key
  · simp [hkey, covers tuple hkey]
  · simp [hkey]

theorem under_congr {first second : Dictionary} {group : Tuple → Bool} {key : UInt32}
    (same : first.tuples.filter group = second.tuples.filter group)
    (covers : ∀ tuple : Tuple, tuple.key = key → group tuple = true) :
    first.under key = second.under key := by
  rw [← under_filter covers, same, under_filter covers]

end Dictionary

namespace Tuple

def isSetting (tuple : Tuple) : Bool := (Setting.ofKey? tuple.key).isSome

def isMessage (tuple : Tuple) : Bool := (Message.ofKey? tuple.key).isSome

def isKnown (tuple : Tuple) : Bool := tuple.isSetting || tuple.isMessage

variable {tuple : Tuple}

theorem isSetting_of_key {setting : Setting} (h : tuple.key = setting.key) :
    tuple.isSetting = true := by
  simp [isSetting, h]

theorem isMessage_of_key {message : Message} (h : tuple.key = message.key) :
    tuple.isMessage = true := by
  simp [isMessage, h]

theorem isKnown_of_topic {key : UInt32} (known : Topic.ofKey key ≠ .unknown)
    (h : tuple.key = key) : tuple.isKnown = true := by
  unfold Topic.ofKey at known
  rw [isKnown, isSetting, isMessage, h]
  cases hsetting : Setting.ofKey? key <;> cases hmessage : Message.ofKey? key <;>
    simp_all

end Tuple

namespace Face

open Dictionary (ofPayload)

variable {face after other later : Face} {log behind : List Exchange} {input : Input}
  {now : UInt32} {first second : Dictionary}

/-! ## Learning from a message -/

def Input.message : Input → Dictionary
  | .event (.inbox payload) => ofPayload payload
  | _ => .blank

theorem Retunes.clockReadings_eq {message : Dictionary} (h : face.Retunes message log after) :
    clockReadings log = [] := by
  cases h with
  | same => rfl
  | changed _ resubscribes => cases resubscribes <;> rfl

/-- What the face makes of a message that arrives at the time `now`. -/
structure Learns (face : Face) (message : Dictionary) (now : UInt32) (after : Face) : Prop where
  settings : after.settings = (face.settings.merge message).2
  weather : after.weather = (face.weather.merge message now).2
  scriptReady : after.scriptReady =
    (face.scriptReady || (message.find? Message.scriptReady.key).isSome)

theorem Receives.learns {message : Dictionary} (h : face.Receives message log after)
    (opens : ClockOpens now log) : face.Learns message now after := by
  cases h with
  | @quiet tuning tuned time _ retunes =>
      have htime : time = now := by
        simpa [ClockOpens, Exchange.clockReading?, retunes.clockReadings_eq] using opens
      obtain ⟨unit, rfl⟩ := retunes.frame
      rw [htime]
      exact ⟨rfl, rfl, rfl⟩
  | @roused tuning weather tuned _ time _ retunes refreshes =>
      have htime : time = now := by
        simpa [ClockOpens, Exchange.clockReading?, retunes.clockReadings_eq] using opens
      obtain ⟨unit, rfl⟩ := retunes.frame
      obtain ⟨refresh, rfl⟩ := refreshes.frame
      rw [htime]
      exact ⟨rfl, rfl, rfl⟩

theorem Learns.nothing (settings : after.settings = face.settings)
    (weather : after.weather = face.weather) (ready : after.scriptReady = face.scriptReady) :
    face.Learns .blank now after := by
  have hsettings : (face.settings.merge .blank).2 = face.settings := rfl
  have htuples : Dictionary.blank.tuples = [] := rfl
  have hweather : (face.weather.merge .blank now).2 = face.weather := by
    simp [Weather.snd_merge, Weather.readings, htuples]
  constructor
  case settings => rw [settings, hsettings]
  case weather => rw [weather, hweather]
  case scriptReady => simp [ready, Dictionary.find?, htuples]

theorem Reacts.learns (h : face.Reacts input log after) (opens : ClockOpens now log) :
    face.Learns input.message now after := by
  cases h with
  | tick | stale | dismissed | abandoned => exact .nothing rfl rfl rfl
  | connection connects =>
      obtain ⟨popup, shown, rfl⟩ := connects.frame
      exact .nothing rfl rfl rfl
  | unreadable unreadable =>
      rw [Input.message, ofPayload, unreadable]
      exact .nothing rfl rfl rfl
  | message readable receives =>
      rw [Input.message, Dictionary.ofPayload_of_parse readable]
      exact receives.learns opens
  | elapsed _ _ refreshes | refresh refreshes =>
      obtain ⟨refresh, rfl⟩ := refreshes.frame
      exact .nothing rfl rfl rfl

theorem sameContent_of_known
    (same : first.tuples.filter Tuple.isKnown = second.tuples.filter Tuple.isKnown) :
    SameContent first second :=
  fun _ known => Dictionary.under_congr same fun _ => Tuple.isKnown_of_topic known

theorem Reacts.settings_congr {rival : Input} (one : face.Reacts input log after)
    (two : other.Reacts rival behind later) (settings : face.settings = other.settings)
    (same : input.message.tuples.filter Tuple.isSetting =
      rival.message.tuples.filter Tuple.isSetting) :
    after.settings = later.settings ∧
      (tickCalls log).map Exchange.call = (tickCalls behind).map Exchange.call := by
  obtain ⟨_, hone⟩ := exists_clockOpens log
  obtain ⟨_, htwo⟩ := exists_clockOpens behind
  have hafter : after.settings = later.settings := by
    rw [(one.learns hone).settings, (two.learns htwo).settings, settings]
    exact Settings.merge_congr
      (fun _ => Dictionary.under_congr same fun _ => Tuple.isSetting_of_key) other.settings
  refine ⟨hafter, ?_⟩
  rw [one.subscribes.calls_eq, two.subscribes.calls_eq, hafter, settings]

theorem Reacts.weather_congr {rival : Input} (one : face.Reacts input log after)
    (two : other.Reacts rival behind later) (weather : face.weather = other.weather)
    (ready : face.scriptReady = other.scriptReady) (clock : SameClock log behind)
    (same : input.message.tuples.filter Tuple.isMessage =
      rival.message.tuples.filter Tuple.isMessage) :
    after.weather = later.weather ∧ after.scriptReady = later.scriptReady := by
  obtain ⟨now, hone, htwo⟩ := clock.opens
  have hunder : ∀ message : Message,
      input.message.under message.key = rival.message.under message.key := fun _ =>
    Dictionary.under_congr same fun _ => Tuple.isMessage_of_key
  constructor
  · rw [(one.learns hone).weather, (two.learns htwo).weather, weather]
    exact Weather.merge_congr hunder other.weather now
  · rw [(one.learns hone).scriptReady, (two.learns htwo).scriptReady, ready,
      Dictionary.find?_eq_head?_under, Dictionary.find?_eq_head?_under, hunder .scriptReady]

theorem reacts_run {σ : Type} (face : Face) (input : Input) (host : Host σ) (state : σ) :
    face.Reacts input ((face.react input).run host state).log
      ((face.react input).run host state).value :=
  reacts_of_trace (Dialogue.trace_run host _ state)

/--
Two payloads with the same tuples under known keys have the same effect on any
host, whatever else they hold.  What becomes of the settings, and of the tick
subscription, depends on no other tuples than those of settings, and not on
the host.  What becomes of weather and readiness depends on no other tuples
than those of the other messages, and on the time.
-/
theorem parts_of_a_message_do_not_interfere :
    (∀ {σ : Type} (face : Face) (host : Host σ) (state : σ) (first second : Bytes),
      first ≠ [] → second ≠ [] →
      (ofPayload first).tuples.filter Tuple.isKnown =
        (ofPayload second).tuples.filter Tuple.isKnown →
      (face.dispatch (.inbox first)).run host state =
        (face.dispatch (.inbox second)).run host state) ∧
    (∀ {σ τ : Type} (face other : Face) (host : Host σ) (rival : Host τ) (state : σ) (start : τ)
      (first second : Bytes),
      let one := (face.dispatch (.inbox first)).run host state
      let two := (other.dispatch (.inbox second)).run rival start
      face.settings = other.settings →
      (ofPayload first).tuples.filter Tuple.isSetting =
        (ofPayload second).tuples.filter Tuple.isSetting →
      one.value.settings = two.value.settings ∧
        (tickCalls one.log).map Exchange.call = (tickCalls two.log).map Exchange.call) ∧
    ∀ {σ τ : Type} (face other : Face) (host : Host σ) (rival : Host τ) (state : σ) (start : τ)
      (first second : Bytes),
      let one := (face.dispatch (.inbox first)).run host state
      let two := (other.dispatch (.inbox second)).run rival start
      face.weather = other.weather → face.scriptReady = other.scriptReady →
      SameClock one.log two.log →
      (ofPayload first).tuples.filter Tuple.isMessage =
        (ofPayload second).tuples.filter Tuple.isMessage →
      one.value.weather = two.value.weather ∧ one.value.scriptReady = two.value.scriptReady := by
  refine ⟨?_, ?_, ?_⟩
  · intro σ face host state first second hfirst hsecond hsame
    have hreceived := (sameContent_of_known hsame).received face
    simp only [dispatch, inbox, Dictionary.parse_eq_ofPayload hfirst,
      Dictionary.parse_eq_ofPayload hsecond, hreceived]
  · intro σ τ face other host rival state start first second one two hsettings hsame
    have hone := face.reacts_run (.event (.inbox first)) host state
    exact hone.settings_congr (other.reacts_run (.event (.inbox second)) rival start) hsettings
      hsame
  · intro σ τ face other host rival state start first second one two hweather hready hclock hsame
    have hone := face.reacts_run (.event (.inbox first)) host state
    exact hone.weather_congr (other.reacts_run (.event (.inbox second)) rival start) hweather
      hready hclock hsame

/--
The noise is a tuple of an unknown key, a record of an unknown type and a
truncated tail; the settings are the same beside other weather, and the weather
beside other settings.
-/
theorem noise_and_other_parts_change_nothing :
    let face := ofPlatform .colorRect
    let ready : Face := { face with scriptReady := true }
    let works : Host Unit := ⟨fun call _ => (call.anyAnswer, ())⟩
    let watch := Simulator.initial 1000 fun _ => none
    let seconds : Bytes := [32, 0, 0, 0, 2, 1, 0, 1]
    let warm : Bytes := [102, 0, 0, 0, 3, 1, 0, 20]
    let noise : Bytes := [200, 0, 0, 0, 2, 1, 0, 5, 102, 0, 0, 0, 9, 0, 0]
    (face.dispatch (.inbox (5 :: noise ++ seconds ++ warm ++ [7, 7]))).run works () =
        (face.dispatch (.inbox (2 :: seconds ++ warm))).run works () ∧
      (let one := (face.dispatch (.inbox (2 :: seconds ++ warm))).run works ()
       let two := (ready.dispatch (.inbox (1 :: seconds))).run Simulator.host watch
       one.value.settings = two.value.settings ∧
        (tickCalls one.log).map Exchange.call = (tickCalls two.log).map Exchange.call) ∧
      (let one := (face.dispatch (.inbox (2 :: seconds ++ warm))).run Simulator.host watch
       let two := (face.dispatch (.inbox (1 :: warm))).run Simulator.host watch
       one.value.weather = two.value.weather ∧ one.value.scriptReady = two.value.scriptReady) := by
  intro face ready works watch seconds warm noise
  obtain ⟨hnoise, hsettings, hweather⟩ := parts_of_a_message_do_not_interfere
  refine ⟨?_, ?_, ?_⟩
  · exact hnoise face works () _ _ (by simp) (by simp) (by decide +kernel)
  · exact hsettings face ready works Simulator.host () watch _ _ rfl (by decide +kernel)
  · exact hweather face face Simulator.host Simulator.host watch watch _ _ rfl rfl
      (by decide +kernel) (by decide +kernel)

end Face

end Watchface
