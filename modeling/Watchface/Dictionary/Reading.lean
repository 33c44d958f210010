import Watchface.Dictionary.Tuple

/-!
Reading a tuple as an integer of a bounded range.

Any integer type and width will do, as long as the integer lies in the range.
-/

namespace Watchface

inductive ReadError where
  | wire (cause : Dictionary.Error)
  | outOfRange (value : Int)
  deriving DecidableEq, Repr

namespace ReadError

def name : ReadError → String
  | .wire _ => "Wire"
  | .outOfRange _ => "OutOfRange"

def decimal : Int → String
  | .ofNat magnitude => Nat.repr magnitude
  | .negSucc predecessor => "-" ++ Nat.repr (predecessor + 1)

def message (error : ReadError) : String :=
  match error with
  | .wire cause => error.name ++ "(" ++ cause.message ++ ")"
  | .outOfRange value => error.name ++ "(" ++ decimal value ++ ")"

end ReadError

namespace Tuple

def readBetween (low high : Int) (tuple : Tuple) : Except ReadError Int :=
  match tuple.integer with
  | .error cause => .error (.wire cause)
  | .ok value => if low ≤ value ∧ value ≤ high then .ok value else .error (.outOfRange value)

theorem readBetween_eq_ok_iff {low high value : Int} {tuple : Tuple} :
    tuple.readBetween low high = .ok value ↔
      tuple.integer = .ok value ∧ low ≤ value ∧ value ≤ high := by
  unfold readBetween
  cases tuple.integer with
  | error cause => simp
  | ok found =>
      by_cases hrange : low ≤ found ∧ found ≤ high
      · simp only [if_pos hrange, Except.ok.injEq]
        constructor
        · rintro rfl
          exact ⟨rfl, hrange⟩
        · exact fun h => h.1
      · simp only [if_neg hrange, reduceCtorEq, Except.ok.injEq, false_iff, not_and]
        rintro rfl hlow hhigh
        exact hrange ⟨hlow, hhigh⟩

def readBool (tuple : Tuple) : Except ReadError Bool :=
  (tuple.readBetween 0 1).map fun value => value == 1

def readUInt8 (tuple : Tuple) : Except ReadError UInt8 :=
  (tuple.readBetween 0 255).map fun value => UInt8.ofNat value.toNat

def readUInt16 (tuple : Tuple) : Except ReadError UInt16 :=
  (tuple.readBetween 0 65535).map fun value => UInt16.ofNat value.toNat

def readUInt32 (tuple : Tuple) : Except ReadError UInt32 :=
  (tuple.readBetween 0 4294967295).map fun value => UInt32.ofNat value.toNat

def readInt16 (tuple : Tuple) : Except ReadError Int16 :=
  (tuple.readBetween (-32768) 32767).map Int16.ofInt

def readBytes (tuple : Tuple) : Except ReadError Bytes :=
  match tuple.bytes? with
  | some bytes => .ok bytes
  | none => .error (.wire .notByteArray)

end Tuple

end Watchface
