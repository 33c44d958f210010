import Watchface.Dictionary.Error

/-!
Tuples, the keyed values that a dictionary carries.

A tuple has one of four wire types.  Both integer types hold little-endian
integers of one, two or four bytes; the signed one is two's complement.
-/

namespace Watchface

inductive WireType where
  | byteArray
  | cString
  | uint
  | int
  deriving DecidableEq, Repr

namespace WireType

def toByte : WireType → UInt8
  | .byteArray => 0
  | .cString => 1
  | .uint => 2
  | .int => 3

def ofByte? (byte : UInt8) : Option WireType :=
  match byte with
  | 0 => some .byteArray
  | 1 => some .cString
  | 2 => some .uint
  | 3 => some .int
  | _ => none

@[simp] theorem ofByte?_toByte (type : WireType) : ofByte? type.toByte = some type := by
  cases type <;> rfl

theorem ofByte?_eq_some_iff {byte : UInt8} {type : WireType} :
    ofByte? byte = some type ↔ byte = type.toByte := by
  constructor
  · intro h
    unfold ofByte? at h
    split at h <;> simp_all [toByte] <;> subst h <;> rfl
  · rintro rfl
    exact ofByte?_toByte type

theorem ofByte?_eq_none_iff {byte : UInt8} : ofByte? byte = none ↔ 3 < byte := by
  unfold ofByte?
  split
  case h_5 h₀ h₁ h₂ h₃ =>
    simp only [true_iff]
    grind
  all_goals decide

end WireType

structure Tuple where
  key : UInt32
  type : WireType
  value : Bytes
  deriving DecidableEq, Repr

namespace Tuple

def integerWidths : List Nat := [1, 2, 4]

/--
The integer that the tuple carries.  A tuple of another type is refused for
its type, whatever its width; a refused width is reported modulo 65536.
-/
def integer (tuple : Tuple) : Except Dictionary.Error Int :=
  let width := tuple.value.length
  match tuple.type with
  | .byteArray | .cString => .error .notAnInteger
  | .uint =>
      if width ∈ integerWidths then .ok (LittleEndian.decode tuple.value)
      else .error (.invalidWidth (UInt16.ofNat width))
  | .int =>
      if width ∈ integerWidths then .ok (LittleEndian.decodeSigned tuple.value)
      else .error (.invalidWidth (UInt16.ofNat width))

def bytes? (tuple : Tuple) : Option Bytes :=
  match tuple.type with
  | .byteArray => some tuple.value
  | _ => none

def ofUInt8 (key : UInt32) (value : UInt8) : Tuple :=
  ⟨key, .uint, LittleEndian.encode 1 value.toNat⟩

def ofUInt16 (key : UInt32) (value : UInt16) : Tuple :=
  ⟨key, .uint, LittleEndian.encode 2 value.toNat⟩

def ofUInt32 (key value : UInt32) : Tuple :=
  ⟨key, .uint, LittleEndian.encode 4 value.toNat⟩

def ofInt8 (key : UInt32) (value : Int8) : Tuple :=
  ⟨key, .int, LittleEndian.encode 1 value.toUInt8.toNat⟩

def ofInt16 (key : UInt32) (value : Int16) : Tuple :=
  ⟨key, .int, LittleEndian.encode 2 value.toUInt16.toNat⟩

def ofInt32 (key : UInt32) (value : Int32) : Tuple :=
  ⟨key, .int, LittleEndian.encode 4 value.toUInt32.toNat⟩

def ofBytes (key : UInt32) (value : Bytes) : Tuple :=
  ⟨key, .byteArray, value⟩

end Tuple

end Watchface
