import Watchface.Proofs.Dictionary.Iteration
import Watchface.Proofs.Safety.Checks

/-!
# Reading within bounds

A cursor advances in the steps in which a record is taken apart: single bytes
of the header, the end of the value, and the slices on both sides of it.  The
lengths are tested first, so that no step goes outside the bytes and the count
of remaining records never goes below zero, whatever the bytes are.
-/

namespace Watchface.Dictionary

open Checked (byteAt decrement fit slice)

def readHeader (bytes : Bytes) : Checked (UInt32 × UInt8 × Nat) := do
  let key₀ ← byteAt bytes 0
  let key₁ ← byteAt bytes 1
  let key₂ ← byteAt bytes 2
  let key₃ ← byteAt bytes 3
  let typeByte ← byteAt bytes 4
  let length₀ ← byteAt bytes 5
  let length₁ ← byteAt bytes 6
  return (UInt32.ofNat (LittleEndian.decode [key₀, key₁, key₂, key₃]), typeByte,
    LittleEndian.decode [length₀, length₁])

theorem read?_of_short {bytes : Bytes} (h : bytes.length < Record.headerSize) :
    Record.read? bytes = none := by
  unfold Record.read?
  split
  · simp [Record.headerSize] at h
    omega
  · rfl

theorem readHeader_of_long {bytes : Bytes} (h : Record.headerSize ≤ bytes.length) :
    ∃ key typeByte length, readHeader bytes = .ok (key, typeByte, length) ∧ length < 65536 ∧
      Record.read? bytes =
        if Record.headerSize + length ≤ bytes.length then
          some (⟨key, typeByte, (bytes.drop Record.headerSize).take length⟩,
            bytes.drop (Record.headerSize + length))
        else none := by
  rcases bytes with _ | ⟨key₀, _ | ⟨key₁, _ | ⟨key₂, _ | ⟨key₃, _ | ⟨typeByte, _ |
    ⟨length₀, _ | ⟨length₁, tail⟩⟩⟩⟩⟩⟩⟩
  case cons.cons.cons.cons.cons.cons.cons =>
    have hlength : LittleEndian.decode [length₀, length₁] < 65536 := by
      simpa using LittleEndian.decode_lt [length₀, length₁]
    refine ⟨_, _, _, rfl, hlength, ?_⟩
    rw [Record.read?]
    generalize LittleEndian.decode [length₀, length₁] = length
    have hcomplete : (tail.take length).length = length ↔
        Record.headerSize + length ≤ (key₀ :: key₁ :: key₂ :: key₃ :: typeByte :: length₀ ::
          length₁ :: tail).length := by
      simp only [List.length_take, List.length_cons, Record.headerSize]
      omega
    have hbehind : (key₀ :: key₁ :: key₂ :: key₃ :: typeByte :: length₀ :: length₁ ::
        tail).drop (Record.headerSize + length) = tail.drop length := by
      rw [← List.drop_drop]
      rfl
    simp only [hcomplete, hbehind]
    rfl
  all_goals simp [Record.headerSize] at h

namespace Cursor

def advance (cursor : Cursor) : Checked (Option (Item × Cursor)) :=
  if cursor.remaining = 0 then return none
  else if cursor.rest.length < Record.headerSize then
    return some (.error .truncated, ⟨0, cursor.rest⟩)
  else do
    let (key, typeByte, length) ← readHeader cursor.rest
    let stop ← fit UInt32.size (Record.headerSize + length)
    if cursor.rest.length < stop then
      return some (.error .truncated, ⟨0, cursor.rest⟩)
    else
      let value ← slice cursor.rest Record.headerSize stop
      let behind ← slice cursor.rest stop cursor.rest.length
      let remaining ← decrement cursor.remaining
      return some (Record.toTuple ⟨key, typeByte, value⟩, ⟨remaining, behind⟩)

theorem advance_eq (cursor : Cursor) : cursor.advance = .ok cursor.next? := by
  obtain ⟨remaining, rest⟩ := cursor
  cases remaining with
  | zero => rfl
  | succ remaining =>
      by_cases hshort : rest.length < Record.headerSize
      · simp [advance, next?, hshort, read?_of_short hshort]
      · obtain ⟨key, typeByte, length, hheader, hlength, hread⟩ :=
          readHeader_of_long (Nat.not_lt.mp hshort)
        have hstop : fit UInt32.size (Record.headerSize + length) =
            .ok (Record.headerSize + length) :=
          if_pos (by simp only [Record.headerSize, UInt32.size]; omega)
        rw [advance, if_neg (Nat.succ_ne_zero remaining), if_neg hshort]
        simp only [hheader, hstop, Checked.ok_bind, next?, hread]
        by_cases hvalue : Record.headerSize + length ≤ rest.length
        · rw [if_neg (Nat.not_lt.mpr hvalue), if_pos hvalue,
            Checked.slice_of_le (Nat.le_add_right _ _) hvalue,
            Checked.slice_of_le hvalue (Nat.le_refl _), List.take_length, ← List.take_drop]
          rfl
        · rw [if_pos (Nat.not_le.mp hvalue), if_neg hvalue]
          rfl

variable {cursor behind : Cursor} {item : Item}

theorem items_of_advance_none (h : cursor.advance = .ok none) : cursor.items = [] := by
  rw [advance_eq, Except.ok.injEq] at h
  rw [items_eq, h]

theorem items_of_advance_some (h : cursor.advance = .ok (some (item, behind))) :
    cursor.items = item :: behind.items := by
  rw [advance_eq, Except.ok.injEq] at h
  rw [items_eq, h]

theorem remaining_lt_of_advance (h : cursor.advance = .ok (some (item, behind))) :
    behind.remaining < cursor.remaining := by
  rw [advance_eq, Except.ok.injEq] at h
  exact remaining_lt_of_next? h

def scan {α : Type} (step : α → Item → Checked α) (state : α) (cursor : Cursor) : Checked α :=
  match _h : cursor.advance with
  | .error fault => .error fault
  | .ok none => .ok state
  | .ok (some (item, behind)) => do
      let state ← step state item
      scan step state behind
termination_by cursor.remaining
decreasing_by exact remaining_lt_of_advance (by assumption)

def seek (key : UInt32) (cursor : Cursor) : Checked (Option Tuple) :=
  match _h : cursor.advance with
  | .error fault => .error fault
  | .ok none => .ok none
  | .ok (some (.error _, behind)) => seek key behind
  | .ok (some (.ok tuple, behind)) =>
      if tuple.key == key then .ok (some tuple) else seek key behind
termination_by cursor.remaining
decreasing_by all_goals exact remaining_lt_of_advance (by assumption)

theorem scan_eq {α : Type} (step : α → Item → Checked α) (state : α) (cursor : Cursor) :
    cursor.scan step state = cursor.items.foldlM step state := by
  fun_induction scan step state cursor with
  | case1 state cursor fault h => rw [advance_eq] at h; contradiction
  | case2 state cursor h => rw [items_of_advance_none h]; rfl
  | case3 state cursor item behind h ih =>
      rw [items_of_advance_some h, List.foldlM_cons]
      exact bind_congr ih

theorem seek_eq (key : UInt32) (cursor : Cursor) :
    cursor.seek key =
      .ok ((cursor.items.filterMap Except.toOption).find? fun tuple => tuple.key == key) := by
  fun_induction seek key cursor with
  | case1 cursor fault h => rw [advance_eq] at h; contradiction
  | case2 cursor h => rw [items_of_advance_none h]; rfl
  | case3 cursor cause behind h ih => rw [items_of_advance_some h, ih]; rfl
  | case4 cursor tuple behind h hkey =>
      rw [items_of_advance_some h]
      simp [Except.toOption, hkey]
  | case5 cursor tuple behind h hkey ih =>
      rw [items_of_advance_some h, ih]
      simp [Except.toOption, hkey]

end Cursor

theorem length_items_le (message : Dictionary) : message.items.length ≤ 255 := by
  have hyields := Cursor.yields_readItems message.count.toNat message.body
  exact Nat.le_trans hyields.length_le (Nat.le_of_lt_succ message.count.toNat_lt)

end Watchface.Dictionary
