import Watchface.Dictionary.Tuple

/-!
Records, the tuples of a dictionary as they are laid out in bytes.

A record is a four-byte key, a type byte, a two-byte length and as many value
bytes as the length says.  Its type byte need not name a wire type.  Reading
takes one record off the front of a byte list, and by `read?_eq_some_iff` it
accepts exactly what `encode` writes.
-/

namespace Watchface.Dictionary

structure Record where
  key : UInt32
  typeByte : UInt8
  value : Bytes
  deriving DecidableEq, Repr

namespace Record

def headerSize : Nat := 7

def Fits (record : Record) : Prop := record.value.length < 65536

instance (record : Record) : Decidable record.Fits :=
  inferInstanceAs (Decidable (_ < _))

def encode (record : Record) : Bytes :=
  LittleEndian.encode 4 record.key.toNat ++ record.typeByte ::
    LittleEndian.encode 2 record.value.length ++ record.value

/-- The record at the front of the bytes, and the bytes after it. -/
def read? : Bytes → Option (Record × Bytes)
  | key₀ :: key₁ :: key₂ :: key₃ :: typeByte :: length₀ :: length₁ :: rest =>
      let key := LittleEndian.decode [key₀, key₁, key₂, key₃]
      let length := LittleEndian.decode [length₀, length₁]
      let value := rest.take length
      if value.length = length then
        some (⟨UInt32.ofNat key, typeByte, value⟩, rest.drop length)
      else none
  | _ => none

def ofTuple (tuple : Tuple) : Record :=
  ⟨tuple.key, tuple.type.toByte, tuple.value⟩

def toTuple (record : Record) : Except Error Tuple :=
  match WireType.ofByte? record.typeByte with
  | some type => .ok ⟨record.key, type, record.value⟩
  | none => .error (.unknownType record.typeByte)

@[simp] theorem toTuple_ofTuple (tuple : Tuple) : (ofTuple tuple).toTuple = .ok tuple := by
  simp [ofTuple, toTuple]

@[simp] theorem length_encode (record : Record) :
    record.encode.length = headerSize + record.value.length := by
  simp [encode, headerSize]
  omega

theorem read?_encode_append {record : Record} (h : record.Fits) (rest : Bytes) :
    read? (record.encode ++ rest) = some (record, rest) := by
  have hkey : LittleEndian.decode (LittleEndian.encode 4 record.key.toNat) =
      record.key.toNat :=
    LittleEndian.decode_encode_of_lt record.key.toNat_lt
  have hlength : LittleEndian.decode (LittleEndian.encode 2 record.value.length) =
      record.value.length :=
    LittleEndian.decode_encode_of_lt h
  simp only [LittleEndian.encode_succ, LittleEndian.encode_zero] at hkey hlength
  simp only [encode, LittleEndian.encode_succ, LittleEndian.encode_zero, List.cons_append,
    List.nil_append, read?, hkey, hlength]
  simp

theorem encode_of_read? {bytes rest : Bytes} {record : Record}
    (h : read? bytes = some (record, rest)) :
    bytes = record.encode ++ rest ∧ record.Fits := by
  unfold read? at h
  split at h
  · next key₀ key₁ key₂ key₃ typeByte length₀ length₁ tail =>
    simp only at h
    split at h
    · next htake =>
      simp only [Option.some.injEq, Prod.mk.injEq] at h
      obtain ⟨rfl, rfl⟩ := h
      have hkey : LittleEndian.decode [key₀, key₁, key₂, key₃] < 2 ^ 32 := by
        simpa using LittleEndian.decode_lt [key₀, key₁, key₂, key₃]
      have hlength : LittleEndian.decode [length₀, length₁] < 65536 := by
        simpa using LittleEndian.decode_lt [length₀, length₁]
      refine ⟨?_, by simpa only [Fits, htake] using hlength⟩
      have hkeyNat : (UInt32.ofNat (LittleEndian.decode [key₀, key₁, key₂, key₃])).toNat =
          LittleEndian.decode [key₀, key₁, key₂, key₃] := by
        rw [UInt32.toNat_ofNat', Nat.mod_eq_of_lt hkey]
      simp only [encode, htake, hkeyNat]
      rw [show (4 : Nat) = [key₀, key₁, key₂, key₃].length from rfl,
        show (2 : Nat) = [length₀, length₁].length from rfl,
        LittleEndian.encode_decode, LittleEndian.encode_decode]
      simp
    · contradiction
  · contradiction

theorem read?_eq_some_iff {bytes rest : Bytes} {record : Record} :
    read? bytes = some (record, rest) ↔ bytes = record.encode ++ rest ∧ record.Fits :=
  ⟨encode_of_read?, fun ⟨hbytes, hfits⟩ => hbytes ▸ read?_encode_append hfits rest⟩

end Record

end Watchface.Dictionary
