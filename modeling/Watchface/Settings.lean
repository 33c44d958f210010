import Watchface.Host.Service
import Watchface.Setting.Value

/-!
The current values of all settings.

Every setting has a value at all times: the settings start from the defaults
of the platform, and `set?` overwrites one value by another of its kind.
-/

namespace Watchface

@[ext] structure Settings where
  outerBackgroundColor : Color
  innerBackgroundColor : Color
  minuteHandColor : Color
  innerMinuteHandColor : Color
  hourHandColor : Color
  innerHourHandColor : Color
  circleColor : Color
  ticksColor : Color
  dayOfWeekColor : Color
  dateColor : Color
  minuteTicks : UInt8
  hourTicks : UInt8
  square : Bool
  seconds : UInt8
  secondsColor : Color
  dateFormat : UInt8
  batteryLogo : UInt8
  batteryLogoColor : Color
  battery30Color : Color
  battery20Color : Color
  battery10Color : Color
  batteryBackground30Color : Color
  batteryBackground20Color : Color
  batteryBackground10Color : Color
  bluetoothLogoColor : Color
  bluetoothSecondLogoColor : Color
  bluetoothLogo : Bool
  vibrateDisconnect : Bool
  vibrateReconnect : Bool
  announceDisconnect : Bool
  announceReconnect : Bool
  weatherColor : Color
  /-- Minutes between two requests for weather; 0 turns periodic refresh off. -/
  weatherRefresh : UInt16
  /-- Minutes after which a report is hidden; 0 keeps it forever. -/
  weatherExpiration : UInt16
  deriving DecidableEq, Repr

namespace Settings

open Setting (Value)

def get (settings : Settings) : Setting → Value
  | .outerBackgroundColor => .color settings.outerBackgroundColor
  | .innerBackgroundColor => .color settings.innerBackgroundColor
  | .minuteHandColor => .color settings.minuteHandColor
  | .innerMinuteHandColor => .color settings.innerMinuteHandColor
  | .hourHandColor => .color settings.hourHandColor
  | .innerHourHandColor => .color settings.innerHourHandColor
  | .circleColor => .color settings.circleColor
  | .ticksColor => .color settings.ticksColor
  | .dayOfWeekColor => .color settings.dayOfWeekColor
  | .dateColor => .color settings.dateColor
  | .batteryLogo => .byte settings.batteryLogo
  | .batteryLogoColor => .color settings.batteryLogoColor
  | .battery30Color => .color settings.battery30Color
  | .battery20Color => .color settings.battery20Color
  | .battery10Color => .color settings.battery10Color
  | .batteryBackground30Color => .color settings.batteryBackground30Color
  | .batteryBackground20Color => .color settings.batteryBackground20Color
  | .batteryBackground10Color => .color settings.batteryBackground10Color
  | .bluetoothLogoColor => .color settings.bluetoothLogoColor
  | .bluetoothSecondLogoColor => .color settings.bluetoothSecondLogoColor
  | .bluetoothLogo => .flag settings.bluetoothLogo
  | .vibrateDisconnect => .flag settings.vibrateDisconnect
  | .vibrateReconnect => .flag settings.vibrateReconnect
  | .announceDisconnect => .flag settings.announceDisconnect
  | .announceReconnect => .flag settings.announceReconnect
  | .minuteTicks => .byte settings.minuteTicks
  | .hourTicks => .byte settings.hourTicks
  | .weatherColor => .color settings.weatherColor
  | .weatherRefresh => .word settings.weatherRefresh
  | .weatherExpiration => .word settings.weatherExpiration
  | .square => .flag settings.square
  | .seconds => .byte settings.seconds
  | .secondsColor => .color settings.secondsColor
  | .dateFormat => .byte settings.dateFormat

/-- The settings with one value overwritten, unless the new value is of another kind. -/
def set? (settings : Settings) : Setting → Value → Option Settings
  | .outerBackgroundColor, .color value => some { settings with outerBackgroundColor := value }
  | .innerBackgroundColor, .color value => some { settings with innerBackgroundColor := value }
  | .minuteHandColor, .color value => some { settings with minuteHandColor := value }
  | .innerMinuteHandColor, .color value => some { settings with innerMinuteHandColor := value }
  | .hourHandColor, .color value => some { settings with hourHandColor := value }
  | .innerHourHandColor, .color value => some { settings with innerHourHandColor := value }
  | .circleColor, .color value => some { settings with circleColor := value }
  | .ticksColor, .color value => some { settings with ticksColor := value }
  | .dayOfWeekColor, .color value => some { settings with dayOfWeekColor := value }
  | .dateColor, .color value => some { settings with dateColor := value }
  | .batteryLogo, .byte value => some { settings with batteryLogo := value }
  | .batteryLogoColor, .color value => some { settings with batteryLogoColor := value }
  | .battery30Color, .color value => some { settings with battery30Color := value }
  | .battery20Color, .color value => some { settings with battery20Color := value }
  | .battery10Color, .color value => some { settings with battery10Color := value }
  | .batteryBackground30Color, .color value =>
      some { settings with batteryBackground30Color := value }
  | .batteryBackground20Color, .color value =>
      some { settings with batteryBackground20Color := value }
  | .batteryBackground10Color, .color value =>
      some { settings with batteryBackground10Color := value }
  | .bluetoothLogoColor, .color value => some { settings with bluetoothLogoColor := value }
  | .bluetoothSecondLogoColor, .color value =>
      some { settings with bluetoothSecondLogoColor := value }
  | .bluetoothLogo, .flag value => some { settings with bluetoothLogo := value }
  | .vibrateDisconnect, .flag value => some { settings with vibrateDisconnect := value }
  | .vibrateReconnect, .flag value => some { settings with vibrateReconnect := value }
  | .announceDisconnect, .flag value => some { settings with announceDisconnect := value }
  | .announceReconnect, .flag value => some { settings with announceReconnect := value }
  | .minuteTicks, .byte value => some { settings with minuteTicks := value }
  | .hourTicks, .byte value => some { settings with hourTicks := value }
  | .weatherColor, .color value => some { settings with weatherColor := value }
  | .weatherRefresh, .word value => some { settings with weatherRefresh := value }
  | .weatherExpiration, .word value => some { settings with weatherExpiration := value }
  | .square, .flag value => some { settings with square := value }
  | .seconds, .byte value => some { settings with seconds := value }
  | .secondsColor, .color value => some { settings with secondsColor := value }
  | .dateFormat, .byte value => some { settings with dateFormat := value }
  | _, _ => none

@[simp] theorem kind_get (settings : Settings) (setting : Setting) :
    (settings.get setting).kind = setting.kind := by
  cases setting <;> rfl

theorem isSome_set? (settings : Settings) (setting : Setting) (value : Value) :
    (settings.set? setting value).isSome = decide (value.kind = setting.kind) := by
  cases setting <;> cases value <;> rfl

theorem isSome_set?_iff {settings : Settings} {setting : Setting} {value : Value} :
    (settings.set? setting value).isSome ↔ value.kind = setting.kind := by
  rw [isSome_set?, decide_eq_true_iff]

/-- Every arm of `set?` against every arm of `get`: a write shows under its own key only. -/
theorem get_of_set? {settings changed : Settings} {setting : Setting} {value : Value}
    (h : settings.set? setting value = some changed) (other : Setting) :
    changed.get other = if other = setting then value else settings.get other := by
  cases setting <;> cases value <;> cases h <;> cases other <;> rfl

theorem eq_of_get {first second : Settings}
    (h : ∀ setting, first.get setting = second.get setting) : first = second :=
  Settings.ext
    (Value.color.inj (h .outerBackgroundColor)) (Value.color.inj (h .innerBackgroundColor))
    (Value.color.inj (h .minuteHandColor)) (Value.color.inj (h .innerMinuteHandColor))
    (Value.color.inj (h .hourHandColor)) (Value.color.inj (h .innerHourHandColor))
    (Value.color.inj (h .circleColor)) (Value.color.inj (h .ticksColor))
    (Value.color.inj (h .dayOfWeekColor)) (Value.color.inj (h .dateColor))
    (Value.byte.inj (h .minuteTicks)) (Value.byte.inj (h .hourTicks)) (Value.flag.inj (h .square))
    (Value.byte.inj (h .seconds)) (Value.color.inj (h .secondsColor))
    (Value.byte.inj (h .dateFormat)) (Value.byte.inj (h .batteryLogo))
    (Value.color.inj (h .batteryLogoColor)) (Value.color.inj (h .battery30Color))
    (Value.color.inj (h .battery20Color)) (Value.color.inj (h .battery10Color))
    (Value.color.inj (h .batteryBackground30Color))
    (Value.color.inj (h .batteryBackground20Color))
    (Value.color.inj (h .batteryBackground10Color)) (Value.color.inj (h .bluetoothLogoColor))
    (Value.color.inj (h .bluetoothSecondLogoColor)) (Value.flag.inj (h .bluetoothLogo))
    (Value.flag.inj (h .vibrateDisconnect)) (Value.flag.inj (h .vibrateReconnect))
    (Value.flag.inj (h .announceDisconnect)) (Value.flag.inj (h .announceReconnect))
    (Value.color.inj (h .weatherColor)) (Value.word.inj (h .weatherRefresh))
    (Value.word.inj (h .weatherExpiration))

def defaults (platform : Platform) : Settings where
  outerBackgroundColor := platform.colorOr .darkGray .black
  innerBackgroundColor := platform.colorOr .white .white
  minuteHandColor := platform.colorOr .black .black
  innerMinuteHandColor := platform.colorOr .lightGray .black
  hourHandColor := platform.colorOr .jaegerGreen .black
  innerHourHandColor := platform.colorOr .lightGray .black
  circleColor := platform.colorOr .black .black
  ticksColor := platform.colorOr .black .black
  dayOfWeekColor := platform.colorOr .jaegerGreen .black
  dateColor := platform.colorOr .black .black
  minuteTicks := 1
  hourTicks := 1
  square := false
  seconds := 0
  secondsColor := platform.colorOr .jaegerGreen .black
  dateFormat := 0
  batteryLogo := 1
  batteryLogoColor := platform.colorOr (platform.roundOr .darkGray .black) .white
  battery30Color := platform.colorOr (platform.roundOr .yellow .black) .white
  battery20Color := platform.colorOr (platform.roundOr .orange .black) .white
  battery10Color := platform.colorOr (platform.roundOr .red .black) .white
  batteryBackground30Color := platform.colorOr (platform.roundOr .white .yellow) .black
  batteryBackground20Color := platform.colorOr (platform.roundOr .white .orange) .black
  batteryBackground10Color := platform.colorOr (platform.roundOr .white .red) .black
  bluetoothLogoColor := platform.colorOr .white .black
  bluetoothSecondLogoColor := platform.colorOr .black .white
  bluetoothLogo := true
  vibrateDisconnect := true
  vibrateReconnect := true
  announceDisconnect := true
  announceReconnect := true
  weatherColor := platform.colorOr .black .black
  weatherRefresh := 30
  weatherExpiration := 3 * 60

/-! ## What the face derives from its settings -/

def announces (settings : Settings) (connected : Bool) : Bool :=
  if connected then settings.announceReconnect else settings.announceDisconnect

def vibrates (settings : Settings) (connected : Bool) : Bool :=
  if connected then settings.vibrateReconnect else settings.vibrateDisconnect

def tickUnit (settings : Settings) : TickUnit :=
  if settings.seconds = 0 then .minute else .second

def refreshDelay? (settings : Settings) : Option UInt32 :=
  if settings.weatherRefresh = 0 then none
  else some (settings.weatherRefresh.toUInt32 * 60 * 1000)

end Settings

end Watchface
