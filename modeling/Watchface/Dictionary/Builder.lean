import Watchface.Dictionary

/-!
Writing a dictionary into a buffer of bounded capacity.

A tuple is appended whole or not at all.  The count byte is kept beside the
records and put in front of them by `payload`.
-/

namespace Watchface.Dictionary

structure Builder (capacity : Nat) where
  count : UInt8
  records : Bytes
  deriving DecidableEq, Repr

namespace Builder

variable {capacity : Nat}

def empty (capacity : Nat) : Except Error (Builder capacity) :=
  if headerSize ≤ capacity then .ok ⟨0, []⟩ else .error .bufferTooSmall

def size (builder : Builder capacity) : Nat := builder.count.toNat

def isEmpty (builder : Builder capacity) : Bool := builder.count == 0

def used (builder : Builder capacity) : Nat := headerSize + builder.records.length

/-- Append a tuple.  A full count is reported before a full buffer. -/
def push (builder : Builder capacity) (tuple : Tuple) : Except Error (Builder capacity) :=
  let record := Record.ofTuple tuple
  if builder.count = 255 then .error .tooManyTuples
  else if ¬ record.Fits then .error .bufferTooSmall
  else if builder.used + record.encode.length ≤ capacity then
    .ok ⟨builder.count + 1, builder.records ++ record.encode⟩
  else .error .bufferTooSmall

def payload (builder : Builder capacity) : Bytes := builder.count :: builder.records

theorem push_eq_ok_iff {builder written : Builder capacity} {tuple : Tuple} :
    builder.push tuple = .ok written ↔
      builder.count ≠ 255 ∧ (Record.ofTuple tuple).Fits ∧
        builder.used + (Record.ofTuple tuple).encode.length ≤ capacity ∧
        written = ⟨builder.count + 1, builder.records ++ (Record.ofTuple tuple).encode⟩ := by
  unfold push
  dsimp only
  split
  · next h => simp [h]
  · next h =>
    split
    · next hfits => simp [h, hfits]
    · next hfits =>
      have hfits := Classical.not_not.mp hfits
      split
      · next hroom =>
        simp only [Except.ok.injEq, ne_eq, h, not_false_eq_true, hfits, hroom, true_and]
        exact eq_comm
      · next hroom => simp only [reduceCtorEq, hroom, false_and, and_false]

end Builder

end Watchface.Dictionary
