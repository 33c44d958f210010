import Watchface.Dictionary.Builder
import Watchface.Setting

/-!
The messages between watch and phone, by what their keys are about.

The phone sends settings, weather fields and two signals: that a fetch failed
and that its script is ready.  The only message of the watch asks the phone to
fetch weather.
-/

namespace Watchface

inductive WeatherField where
  | tempLow
  | tempHigh
  | tempCurrent
  | icon
  | precipitation
  | precipitationLength
  | precipitationStart
  deriving DecidableEq, Repr

inductive Message where
  | weather (field : WeatherField)
  | fetchWeather
  | weatherFailed
  | scriptReady
  deriving DecidableEq, Repr

namespace Message

def all : List Message :=
  [.weather .tempLow, .weather .tempHigh, .weather .tempCurrent, .weather .icon,
    .weather .precipitation, .weather .precipitationLength, .weather .precipitationStart,
    .fetchWeather, .weatherFailed, .scriptReady]

def key : Message → UInt32
  | .weather .tempLow => 100
  | .weather .tempHigh => 101
  | .weather .tempCurrent => 102
  | .weather .icon => 103
  | .weather .precipitation => 104
  | .weather .precipitationLength => 105
  | .weather .precipitationStart => 106
  | .fetchWeather => 107
  | .weatherFailed => 108
  | .scriptReady => 109

def isWeather : Message → Bool
  | .weather _ => true
  | _ => false

def ofKey? (key : UInt32) : Option Message := all.find? fun message => message.key == key

@[simp] theorem ofKey?_key (message : Message) : ofKey? message.key = some message := by
  rcases message with field | _ | _ | _
  · cases field <;> rfl
  all_goals rfl

theorem ofKey?_eq_some_iff {key : UInt32} {message : Message} :
    ofKey? key = some message ↔ message.key = key := by
  constructor
  · intro h
    simpa using List.find?_some h
  · rintro rfl
    exact ofKey?_key message

end Message

inductive Topic where
  | setting (setting : Setting)
  | message (message : Message)
  | unknown
  deriving DecidableEq, Repr

def Topic.ofKey (key : UInt32) : Topic :=
  match Setting.ofKey? key, Message.ofKey? key with
  | some found, _ => .setting found
  | none, some found => .message found
  | none, none => .unknown

/-! ## The channel to the phone -/

namespace Channel

def inboxSize : Nat := 256

def outboxSize : Nat := 64

def fetchRequest : Except Dictionary.Error Bytes := do
  let builder ← Dictionary.Builder.empty outboxSize
  let builder ← builder.push (.ofUInt8 Message.fetchWeather.key 1)
  return builder.payload

end Channel

end Watchface
