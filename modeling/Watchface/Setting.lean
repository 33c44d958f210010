import Watchface.LittleEndian

/-!
The settings that a wearer can change, and the keys they travel under.

Each setting has a key in the dictionaries from the phone, a name on the
configuration page and the kind of value that it holds.
-/

namespace Watchface

inductive Setting where
  | outerBackgroundColor
  | innerBackgroundColor
  | minuteHandColor
  | innerMinuteHandColor
  | hourHandColor
  | innerHourHandColor
  | circleColor
  | ticksColor
  | dayOfWeekColor
  | dateColor
  | batteryLogo
  | batteryLogoColor
  | battery30Color
  | battery20Color
  | battery10Color
  | batteryBackground30Color
  | batteryBackground20Color
  | batteryBackground10Color
  | bluetoothLogoColor
  | bluetoothSecondLogoColor
  | bluetoothLogo
  | vibrateDisconnect
  | vibrateReconnect
  | announceDisconnect
  | announceReconnect
  | minuteTicks
  | hourTicks
  | weatherColor
  | weatherRefresh
  | weatherExpiration
  | square
  | seconds
  | secondsColor
  | dateFormat
  deriving DecidableEq, Repr

namespace Setting

inductive Kind where
  | color
  | flag
  | byte
  | word
  deriving DecidableEq, Repr

def kind : Setting → Kind
  | .outerBackgroundColor => .color
  | .innerBackgroundColor => .color
  | .minuteHandColor => .color
  | .innerMinuteHandColor => .color
  | .hourHandColor => .color
  | .innerHourHandColor => .color
  | .circleColor => .color
  | .ticksColor => .color
  | .dayOfWeekColor => .color
  | .dateColor => .color
  | .batteryLogo => .byte
  | .batteryLogoColor => .color
  | .battery30Color => .color
  | .battery20Color => .color
  | .battery10Color => .color
  | .batteryBackground30Color => .color
  | .batteryBackground20Color => .color
  | .batteryBackground10Color => .color
  | .bluetoothLogoColor => .color
  | .bluetoothSecondLogoColor => .color
  | .bluetoothLogo => .flag
  | .vibrateDisconnect => .flag
  | .vibrateReconnect => .flag
  | .announceDisconnect => .flag
  | .announceReconnect => .flag
  | .minuteTicks => .byte
  | .hourTicks => .byte
  | .weatherColor => .color
  | .weatherRefresh => .word
  | .weatherExpiration => .word
  | .square => .flag
  | .seconds => .byte
  | .secondsColor => .color
  | .dateFormat => .byte

def all : List Setting :=
  [.outerBackgroundColor, .innerBackgroundColor, .minuteHandColor, .innerMinuteHandColor,
    .hourHandColor, .innerHourHandColor, .circleColor, .ticksColor, .dayOfWeekColor,
    .dateColor, .batteryLogo, .batteryLogoColor, .battery30Color, .battery20Color,
    .battery10Color, .batteryBackground30Color, .batteryBackground20Color,
    .batteryBackground10Color, .bluetoothLogoColor, .bluetoothSecondLogoColor,
    .bluetoothLogo, .vibrateDisconnect, .vibrateReconnect, .announceDisconnect,
    .announceReconnect, .minuteTicks, .hourTicks, .weatherColor, .weatherRefresh,
    .weatherExpiration, .square, .seconds, .secondsColor, .dateFormat]

def key : Setting → UInt32
  | .outerBackgroundColor => 1
  | .innerBackgroundColor => 2
  | .minuteHandColor => 3
  | .innerMinuteHandColor => 4
  | .hourHandColor => 5
  | .innerHourHandColor => 6
  | .circleColor => 7
  | .ticksColor => 8
  | .dayOfWeekColor => 9
  | .dateColor => 10
  | .batteryLogo => 11
  | .batteryLogoColor => 12
  | .battery30Color => 13
  | .battery20Color => 14
  | .battery10Color => 15
  | .batteryBackground30Color => 16
  | .batteryBackground20Color => 17
  | .batteryBackground10Color => 18
  | .bluetoothLogoColor => 19
  | .bluetoothSecondLogoColor => 20
  | .bluetoothLogo => 21
  | .vibrateDisconnect => 22
  | .vibrateReconnect => 23
  | .announceDisconnect => 24
  | .announceReconnect => 25
  | .minuteTicks => 26
  | .hourTicks => 27
  | .weatherColor => 28
  | .weatherRefresh => 29
  | .weatherExpiration => 30
  | .square => 31
  | .seconds => 32
  | .secondsColor => 33
  | .dateFormat => 34

def name : Setting → String
  | .outerBackgroundColor => "color_outer_background"
  | .innerBackgroundColor => "color_inner_background"
  | .minuteHandColor => "color_minute_hand"
  | .innerMinuteHandColor => "color_inner_minute_hand"
  | .hourHandColor => "color_hour_hand"
  | .innerHourHandColor => "color_inner_hour_hand"
  | .circleColor => "color_circle"
  | .ticksColor => "color_ticks"
  | .dayOfWeekColor => "color_day_of_week"
  | .dateColor => "color_date"
  | .batteryLogo => "battery_logo"
  | .batteryLogoColor => "color_battery_logo"
  | .battery30Color => "color_battery_30"
  | .battery20Color => "color_battery_20"
  | .battery10Color => "color_battery_10"
  | .batteryBackground30Color => "color_battery_bg_30"
  | .batteryBackground20Color => "color_battery_bg_20"
  | .batteryBackground10Color => "color_battery_bg_10"
  | .bluetoothLogoColor => "color_bluetooth_logo"
  | .bluetoothSecondLogoColor => "color_bluetooth_logo_2"
  | .bluetoothLogo => "bluetooth_logo"
  | .vibrateDisconnect => "vibrate_disconnect"
  | .vibrateReconnect => "vibrate_reconnect"
  | .announceDisconnect => "message_disconnect"
  | .announceReconnect => "message_reconnect"
  | .minuteTicks => "minute_ticks"
  | .hourTicks => "hour_ticks"
  | .weatherColor => "color_weather"
  | .weatherRefresh => "weather_refresh"
  | .weatherExpiration => "weather_expiration"
  | .square => "square"
  | .seconds => "seconds"
  | .secondsColor => "color_seconds"
  | .dateFormat => "date_format"

def ofKey? (key : UInt32) : Option Setting := all.find? fun setting => setting.key == key

theorem mem_all (setting : Setting) : setting ∈ all := by
  cases setting <;> decide

theorem all_nodup : all.Nodup := by decide

@[simp] theorem ofKey?_key (setting : Setting) : ofKey? setting.key = some setting := by
  cases setting <;> rfl

theorem ofKey?_eq_some_iff {key : UInt32} {setting : Setting} :
    ofKey? key = some setting ↔ setting.key = key := by
  constructor
  · intro h
    simpa using List.find?_some h
  · rintro rfl
    exact ofKey?_key setting

end Setting

end Watchface
