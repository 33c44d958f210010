import Watchface.LittleEndian

/-!
# Checked steps

The steps of a program that can go wrong, each with its check: a number may
outgrow its word, an index may lie outside its bytes, and a buffer may be too
small for what is appended.  A check that fails ends the program with a fault.
For every step there is the condition under which its check passes.
-/

namespace Watchface

inductive Fault where
  | overflow
  | outOfBounds
  /-- A buffer of fixed capacity cannot take more bytes. -/
  | bufferFull
  deriving DecidableEq, Repr

abbrev Checked := Except Fault

namespace Checked

@[simp] theorem ok_bind {α β : Type} (value : α) (next : α → Checked β) :
    (Except.ok value : Checked α) >>= next = next value := rfl

@[simp] theorem pure_eq {α : Type} (value : α) : (pure value : Checked α) = .ok value := rfl

def fit (values n : Nat) : Checked Nat :=
  if n < values then .ok n else .error .overflow

def increment (values n : Nat) : Checked Nat := fit values (n + 1)

def decrement (n : Nat) : Checked Nat :=
  if n = 0 then .error .overflow else .ok (n - 1)

def multiply (first second : UInt32) : Checked UInt32 := do
  let product ← fit UInt32.size (first.toNat * second.toNat)
  return UInt32.ofNat product

theorem increment_of_lt {values n : Nat} (h : n + 1 < values) :
    increment values n = .ok (n + 1) :=
  if_pos h

theorem multiply_of_lt {first second : UInt32} (h : first.toNat * second.toNat < UInt32.size) :
    multiply first second = .ok (first * second) := by
  have hproduct : UInt32.ofNat (first.toNat * second.toNat) = first * second := by
    rw [UInt32.ofNat_mul, UInt32.ofNat_toNat, UInt32.ofNat_toNat]
  rw [multiply, fit, if_pos h, ← hproduct]
  rfl

-- a little more than 49 days, in milliseconds
example : multiply 4294967 1000 = .ok 4294967000 ∧ multiply 4294968 1000 = .error .overflow :=
  ⟨rfl, rfl⟩

def byteAt (bytes : Bytes) (index : Nat) : Checked UInt8 :=
  match bytes[index]? with
  | some byte => .ok byte
  | none => .error .outOfBounds

def slice (bytes : Bytes) (start stop : Nat) : Checked Bytes :=
  if start ≤ stop ∧ stop ≤ bytes.length then .ok ((bytes.take stop).drop start)
  else .error .outOfBounds

def extend? (capacity : Nat) (held more : Bytes) : Option Bytes :=
  if held.length + more.length ≤ capacity then some (held ++ more) else none

def extend (capacity : Nat) (held more : Bytes) : Checked Bytes :=
  match extend? capacity held more with
  | some bytes => .ok bytes
  | none => .error .bufferFull

theorem slice_of_le {bytes : Bytes} {start stop : Nat} (order : start ≤ stop)
    (inside : stop ≤ bytes.length) :
    slice bytes start stop = .ok ((bytes.take stop).drop start) :=
  if_pos ⟨order, inside⟩

theorem extend?_of_room {capacity : Nat} {held more : Bytes}
    (room : held.length + more.length ≤ capacity) :
    extend? capacity held more = some (held ++ more) :=
  if_pos room

theorem extend_of_room {capacity : Nat} {held more : Bytes}
    (room : held.length + more.length ≤ capacity) :
    extend capacity held more = .ok (held ++ more) := by
  rw [extend, extend?_of_room room]

/--
A loop with a counter that each item raises by at most one.  If its steps pass
while there is room for one more, it passes with room for all items.
-/
theorem foldlM_of_room {α ι : Type} {step : α → ι → Checked α} {effect : α → List ι → α}
    {limit : Nat} (counter : α → Nat) (nil : ∀ state, effect state [] = state)
    (cons : ∀ state item items,
      effect state (item :: items) = effect (effect state [item]) items)
    (raises : ∀ state item, counter (effect state [item]) ≤ counter state + 1)
    (passes : ∀ state item, counter state + 1 < limit →
      step state item = .ok (effect state [item]))
    (state : α) (items : List ι) (room : counter state + items.length < limit) :
    items.foldlM step state = .ok (effect state items) := by
  induction items generalizing state with
  | nil => rw [nil, List.foldlM_nil, pure_eq]
  | cons item items ih =>
      rw [List.length_cons] at room
      have hone : counter state + 1 < limit := by omega
      have hraises := raises state item
      have hrest : counter (effect state [item]) + items.length < limit := by omega
      rw [List.foldlM_cons, passes state item hone, ok_bind, ih _ hrest, ← cons]

end Checked

end Watchface
