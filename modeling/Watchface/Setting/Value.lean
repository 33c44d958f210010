import Watchface.Color
import Watchface.Dictionary.Builder
import Watchface.Dictionary.Reading
import Watchface.Setting

/-!
The values of settings and their form in a dictionary.

A value is sent as an unsigned integer, in two bytes for a word and in one
byte for all else.  It is read back from any integer that lies in the range of
its kind.
-/

namespace Watchface.Setting

inductive Value where
  | color (value : Color)
  | flag (value : Bool)
  | byte (value : UInt8)
  | word (value : UInt16)
  deriving DecidableEq, Repr

def Value.kind : Value → Kind
  | .color _ => .color
  | .flag _ => .flag
  | .byte _ => .byte
  | .word _ => .word

def Value.toTuple (key : UInt32) : Value → Tuple
  | .color value => .ofUInt8 key value.argb
  | .flag value => .ofUInt8 key value.toUInt8
  | .byte value => .ofUInt8 key value
  | .word value => .ofUInt16 key value

def Kind.decode (kind : Kind) (tuple : Tuple) : Except ReadError Value :=
  match kind with
  | .color => tuple.readUInt8.map fun argb => .color ⟨argb⟩
  | .flag => tuple.readBool.map .flag
  | .byte => tuple.readUInt8.map .byte
  | .word => tuple.readUInt16.map .word

theorem Kind.kind_of_decode {kind : Kind} {tuple : Tuple} {value : Value}
    (h : kind.decode tuple = .ok value) : value.kind = kind := by
  cases kind <;> simp only [Kind.decode] at h
  · cases hread : tuple.readUInt8 <;> simp [hread, Except.map] at h
    subst h
    rfl
  · cases hread : tuple.readBool <;> simp [hread, Except.map] at h
    subst h
    rfl
  · cases hread : tuple.readUInt8 <;> simp [hread, Except.map] at h
    subst h
    rfl
  · cases hread : tuple.readUInt16 <;> simp [hread, Except.map] at h
    subst h
    rfl

def decode (setting : Setting) (tuple : Tuple) : Except ReadError Value :=
  setting.kind.decode tuple

/-- The tuple that carries a setting, unless the value is of another kind. -/
def encode? (setting : Setting) (value : Value) : Option Tuple :=
  if value.kind = setting.kind then some (value.toTuple setting.key) else none

end Watchface.Setting

namespace Watchface.Dictionary.Builder

variable {capacity : Nat}

/--
Append a setting, and say whether it was written: a value of another kind is
passed over without an error.
-/
def pushSetting (builder : Builder capacity) (setting : Setting) (value : Setting.Value) :
    Except Error (Bool × Builder capacity) :=
  match setting.encode? value with
  | none => .ok (false, builder)
  | some tuple => (builder.push tuple).map fun written => (true, written)

end Watchface.Dictionary.Builder
