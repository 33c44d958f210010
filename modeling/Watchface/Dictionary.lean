import Watchface.Dictionary.Record

/-!
Dictionaries, the messages that watch and phone exchange.

A payload is a count byte followed by that many records.  Parsing only splits
off the count: the records are read one after the other, so that a payload
with a damaged tail still gives every tuple in front of the damage.  Bytes
after the last counted record mean nothing.

`items` lists what reading gives; `Cursor` reads the same list step by step
(`Cursor.items_eq`).
-/

namespace Watchface

structure Dictionary where
  count : UInt8
  body : Bytes
  deriving DecidableEq, Repr

namespace Dictionary

def headerSize : Nat := 1

def parse : Bytes → Except Error Dictionary
  | [] => .error .empty
  | count :: body => .ok ⟨count, body⟩

def size (dictionary : Dictionary) : Nat := dictionary.count.toNat

def isEmpty (dictionary : Dictionary) : Bool := dictionary.count == 0

abbrev Item := Except Error Tuple

/--
Read at most `remaining` records.  A record of unknown type is reported and
skipped; a truncated one is reported and ends the list.
-/
def readItems : Nat → Bytes → List Item
  | 0, _ => []
  | remaining + 1, bytes =>
      match Record.read? bytes with
      | none => [.error .truncated]
      | some (record, rest) => record.toTuple :: readItems remaining rest

def items (dictionary : Dictionary) : List Item :=
  readItems dictionary.size dictionary.body

def tuples (dictionary : Dictionary) : List Tuple :=
  dictionary.items.filterMap Except.toOption

def find? (dictionary : Dictionary) (key : UInt32) : Option Tuple :=
  dictionary.tuples.find? fun tuple => tuple.key == key

/-! ## Reading step by step -/

structure Cursor where
  remaining : Nat
  rest : Bytes
  deriving DecidableEq, Repr

def cursor (dictionary : Dictionary) : Cursor := ⟨dictionary.size, dictionary.body⟩

namespace Cursor

def next? (cursor : Cursor) : Option (Item × Cursor) :=
  match cursor.remaining with
  | 0 => none
  | remaining + 1 =>
      match Record.read? cursor.rest with
      | none => some (.error .truncated, ⟨0, cursor.rest⟩)
      | some (record, rest) => some (record.toTuple, ⟨remaining, rest⟩)

/-- The least and the most items that may still come; damage can end them at once. -/
def bounds (cursor : Cursor) : Nat × Nat := (0, cursor.remaining)

def items (cursor : Cursor) : List Item := readItems cursor.remaining cursor.rest

theorem items_eq (cursor : Cursor) :
    cursor.items =
      match cursor.next? with
      | none => []
      | some (item, behind) => item :: behind.items := by
  obtain ⟨remaining, rest⟩ := cursor
  cases remaining with
  | zero => rfl
  | succ remaining =>
      cases h : Record.read? rest with
      | none => simp [items, next?, readItems, h]
      | some read => simp [items, next?, readItems, h]

end Cursor

@[simp] theorem items_cursor (dictionary : Dictionary) :
    dictionary.cursor.items = dictionary.items := rfl

end Dictionary

end Watchface
