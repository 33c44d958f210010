/-!
Little-endian integers over lists of bytes.

`encode width n` writes the low `width` bytes of `n`, least significant first,
and `decode` reads any number of bytes back.  The two are inverse on numbers
that fit: `decode_encode` and `encode_decode`.  `decodeSigned` reads the same
bytes as two's complement.
-/

namespace Watchface

abbrev Bytes := List UInt8

namespace LittleEndian

def encode : Nat → Nat → Bytes
  | 0, _ => []
  | width + 1, n => UInt8.ofNat n :: encode width (n / 256)

def decode : Bytes → Nat
  | [] => 0
  | byte :: rest => byte.toNat + 256 * decode rest

-- `Nat.pow` and not `^`: this way the power does not depend on the instances in scope.
def decodeSigned (bytes : Bytes) : Int := Int.bmod (decode bytes) (Nat.pow 256 bytes.length)

@[simp] theorem encode_zero (n : Nat) : encode 0 n = [] := rfl

@[simp] theorem encode_succ (width n : Nat) :
    encode (width + 1) n = UInt8.ofNat n :: encode width (n / 256) := rfl

@[simp] theorem decode_nil : decode [] = 0 := rfl

@[simp] theorem decode_cons (byte : UInt8) (rest : Bytes) :
    decode (byte :: rest) = byte.toNat + 256 * decode rest := rfl

@[simp] theorem length_encode (width n : Nat) : (encode width n).length = width := by
  induction width generalizing n with
  | zero => rfl
  | succ width ih => simp [ih]

theorem pow256_succ (width : Nat) : Nat.pow 256 (width + 1) = 256 * Nat.pow 256 width :=
  Nat.mul_comm _ _

theorem decode_lt (bytes : Bytes) : decode bytes < Nat.pow 256 bytes.length := by
  induction bytes with
  | nil => decide
  | cons byte rest ih =>
      have hbyte : byte.toNat < 256 := byte.toNat_lt
      simp only [decode_cons, List.length_cons, pow256_succ]
      omega

theorem decode_encode (width n : Nat) : decode (encode width n) = n % Nat.pow 256 width := by
  induction width generalizing n with
  | zero => simp [Nat.mod_one]
  | succ width ih =>
      have hbyte : (UInt8.ofNat n).toNat = n % 256 := by simp
      rw [encode_succ, decode_cons, ih, hbyte, pow256_succ, Nat.mod_mul]

theorem decode_encode_of_lt {width n : Nat} (h : n < Nat.pow 256 width) :
    decode (encode width n) = n := by
  rw [decode_encode, Nat.mod_eq_of_lt h]

theorem encode_decode (bytes : Bytes) : encode bytes.length (decode bytes) = bytes := by
  induction bytes with
  | nil => rfl
  | cons byte rest ih =>
      have hbyte : byte.toNat < 256 := byte.toNat_lt
      have hhead : UInt8.ofNat (byte.toNat + 256 * decode rest) = byte := by
        apply UInt8.toNat.inj
        simp
      have htail : (byte.toNat + 256 * decode rest) / 256 = decode rest := by omega
      simp only [List.length_cons, decode_cons, encode_succ, hhead, htail, ih]

end LittleEndian

end Watchface
