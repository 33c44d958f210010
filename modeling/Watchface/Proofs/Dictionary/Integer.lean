import Watchface.Dictionary.Reading

/-!
# Integers of tuples

A tuple that is made from an integer carries this integer, in every type and
width that can hold it.  A reading depends on the integer alone: a value is
read from any tuple that carries it.
-/

namespace Watchface.Tuple

variable {tuple : Tuple}

theorem integer_encode_uint (key : UInt32) {width n : Nat} (known : width ∈ integerWidths)
    (h : n < Nat.pow 256 width) :
    integer ⟨key, .uint, LittleEndian.encode width n⟩ = .ok n := by
  simp only [integer, LittleEndian.length_encode, if_pos known,
    LittleEndian.decode_encode_of_lt h]

theorem integer_encode_int (key : UInt32) {width n : Nat} (known : width ∈ integerWidths)
    (h : n < Nat.pow 256 width) :
    integer ⟨key, .int, LittleEndian.encode width n⟩ = .ok (Int.bmod n (Nat.pow 256 width)) := by
  simp only [integer, LittleEndian.decodeSigned, LittleEndian.length_encode, if_pos known,
    LittleEndian.decode_encode_of_lt h]

theorem integer_ofUInt8 (key : UInt32) (value : UInt8) :
    (ofUInt8 key value).integer = .ok value.toNat :=
  integer_encode_uint key (by decide) value.toNat_lt

theorem integer_ofUInt16 (key : UInt32) (value : UInt16) :
    (ofUInt16 key value).integer = .ok value.toNat :=
  integer_encode_uint key (by decide) value.toNat_lt

theorem integer_ofUInt32 (key value : UInt32) :
    (ofUInt32 key value).integer = .ok value.toNat :=
  integer_encode_uint key (by decide) value.toNat_lt

theorem integer_ofInt16 (key : UInt32) (value : Int16) :
    (ofInt16 key value).integer = .ok value.toInt := by
  have hvalue : value.toInt = Int.bmod value.toUInt16.toNat (Nat.pow 256 2) :=
    BitVec.toInt_eq_toNat_bmod value.toBitVec
  rw [hvalue]
  exact integer_encode_int key (by decide) value.toUInt16.toNat_lt

theorem integer_ofInt32 (key : UInt32) (value : Int32) :
    (ofInt32 key value).integer = .ok value.toInt := by
  have hvalue : value.toInt = Int.bmod value.toUInt32.toNat (Nat.pow 256 4) :=
    BitVec.toInt_eq_toNat_bmod value.toBitVec
  rw [hvalue]
  exact integer_encode_int key (by decide) value.toUInt32.toNat_lt

theorem readBool_of_integer {value : Bool} (h : tuple.integer = .ok value.toUInt8.toNat) :
    tuple.readBool = .ok value := by
  have hread : tuple.readBetween 0 1 = .ok value.toUInt8.toNat := by
    apply readBetween_eq_ok_iff.mpr
    cases value <;> exact ⟨h, by decide, by decide⟩
  have htest : ((value.toUInt8.toNat : Int) == 1) = value := by
    cases value <;> rfl
  simp only [readBool, hread, Except.map, htest]

theorem readUInt8_of_integer {value : UInt8} (h : tuple.integer = .ok value.toNat) :
    tuple.readUInt8 = .ok value := by
  have hlt : value.toNat < 256 := value.toNat_lt
  have hread : tuple.readBetween 0 255 = .ok value.toNat :=
    readBetween_eq_ok_iff.mpr ⟨h, by omega, by omega⟩
  simp [readUInt8, hread, Except.map]

theorem readUInt16_of_integer {value : UInt16} (h : tuple.integer = .ok value.toNat) :
    tuple.readUInt16 = .ok value := by
  have hlt : value.toNat < 65536 := value.toNat_lt
  have hread : tuple.readBetween 0 65535 = .ok value.toNat :=
    readBetween_eq_ok_iff.mpr ⟨h, by omega, by omega⟩
  simp [readUInt16, hread, Except.map]

theorem readUInt32_of_integer {value : UInt32} (h : tuple.integer = .ok value.toNat) :
    tuple.readUInt32 = .ok value := by
  have hlt : value.toNat < 4294967296 := value.toNat_lt
  have hread : tuple.readBetween 0 4294967295 = .ok value.toNat :=
    readBetween_eq_ok_iff.mpr ⟨h, by omega, by omega⟩
  simp [readUInt32, hread, Except.map]

theorem readInt16_of_integer {value : Int16} (h : tuple.integer = .ok value.toInt) :
    tuple.readInt16 = .ok value := by
  have hlow : -32768 ≤ value.toInt := value.le_toInt
  have hhigh : value.toInt < 32768 := value.toInt_lt
  have hread : tuple.readBetween (-32768) 32767 = .ok value.toInt :=
    readBetween_eq_ok_iff.mpr ⟨h, hlow, by omega⟩
  simp [readInt16, hread, Except.map]

end Watchface.Tuple
