import Mathlib.Data.List.Forall2
import Watchface.Dictionary

/-!
# Dictionaries as sequences of records

The records of a dictionary lie end to end behind its count byte.  This file
says what that means without a reader: `LaidOut` holds of the records that
start a body, and `Longest` of as many of them as the count announces or the
bytes complete.  Reading a dictionary with its cursor then gives one item for
each of these records, and a truncation if they are too few.
-/

namespace Watchface.Dictionary

def layout (records : List Record) : Bytes := records.flatMap Record.encode

@[simp] theorem layout_nil : layout [] = [] := rfl

@[simp] theorem layout_cons (record : Record) (records : List Record) :
    layout (record :: records) = record.encode ++ layout records := rfl

@[simp] theorem layout_append (first second : List Record) :
    layout (first ++ second) = layout first ++ layout second := by
  simp [layout]

/-- Complete records at the start of a body, not more than the count announces. -/
structure LaidOut (count : Nat) (body : Bytes) (records : List Record) : Prop where
  fits : ∀ record ∈ records, record.Fits
  announced : records.length ≤ count
  leading : ∃ trailing, body = layout records ++ trailing

def Longest (count : Nat) (body : Bytes) (records : List Record) : Prop :=
  LaidOut count body records ∧
    ∀ others, LaidOut count body others → others.length ≤ records.length

def readRecords : Nat → Bytes → List Record × Bytes
  | 0, bytes => ([], bytes)
  | remaining + 1, bytes =>
      match Record.read? bytes with
      | none => ([], bytes)
      | some (record, rest) =>
          let tail := readRecords remaining rest
          (record :: tail.1, tail.2)

@[simp] theorem readRecords_zero (bytes : Bytes) : readRecords 0 bytes = ([], bytes) := rfl

theorem readRecords_succ_none {bytes : Bytes} (h : Record.read? bytes = none)
    (remaining : Nat) : readRecords (remaining + 1) bytes = ([], bytes) := by
  simp [readRecords, h]

theorem readRecords_succ_some {bytes rest : Bytes} {record : Record}
    (h : Record.read? bytes = some (record, rest)) (remaining : Nat) :
    readRecords (remaining + 1) bytes =
      (record :: (readRecords remaining rest).1, (readRecords remaining rest).2) := by
  simp [readRecords, h]

theorem laidOut_readRecords (count : Nat) (body : Bytes) :
    LaidOut count body (readRecords count body).1 := by
  induction count generalizing body with
  | zero => exact ⟨by simp, by simp, body, rfl⟩
  | succ count ih =>
      cases h : Record.read? body with
      | none =>
          rw [readRecords_succ_none h]
          exact ⟨by simp, by simp, body, rfl⟩
      | some read =>
          obtain ⟨record, rest⟩ := read
          obtain ⟨hbody, hfits⟩ := Record.read?_eq_some_iff.mp h
          obtain ⟨ihfits, ihannounced, trailing, ihbody⟩ := ih rest
          rw [readRecords_succ_some h]
          refine ⟨?_, by simpa using ihannounced, trailing, ?_⟩
          · intro other hother
            rcases List.mem_cons.mp hother with rfl | hother
            · exact hfits
            · exact ihfits other hother
          · rw [layout_cons, List.append_assoc, ← ihbody, hbody]

theorem layout_readRecords (count : Nat) (body : Bytes) :
    layout (readRecords count body).1 ++ (readRecords count body).2 = body := by
  induction count generalizing body with
  | zero => simp
  | succ count ih =>
      cases h : Record.read? body with
      | none => simp [readRecords_succ_none h]
      | some read =>
          obtain ⟨record, rest⟩ := read
          obtain ⟨hbody, -⟩ := Record.read?_eq_some_iff.mp h
          rw [readRecords_succ_some h, layout_cons, List.append_assoc, ih, hbody]

theorem readRecords_layout_append {records : List Record}
    (h : ∀ record ∈ records, record.Fits) (remaining : Nat) (rest : Bytes) :
    readRecords (records.length + remaining) (layout records ++ rest) =
      (records ++ (readRecords remaining rest).1, (readRecords remaining rest).2) := by
  induction records with
  | nil => simp
  | cons record records ih =>
      have hread : Record.read? (record.encode ++ (layout records ++ rest)) =
          some (record, layout records ++ rest) :=
        Record.read?_encode_append (h record (by simp)) _
      have htail := ih fun other hother => h other (by simp [hother])
      rw [layout_cons, List.append_assoc, List.length_cons,
        show records.length + 1 + remaining = (records.length + remaining) + 1 by omega,
        readRecords_succ_some hread, htail]
      rfl

theorem LaidOut.eq_take {count : Nat} {body : Bytes} {records : List Record}
    (h : LaidOut count body records) :
    records = (readRecords count body).1.take records.length := by
  obtain ⟨hfits, hannounced, trailing, rfl⟩ := h
  obtain ⟨remaining, rfl⟩ := Nat.exists_eq_add_of_le hannounced
  rw [readRecords_layout_append hfits]
  simp

theorem longest_readRecords (count : Nat) (body : Bytes) :
    Longest count body (readRecords count body).1 := by
  refine ⟨laidOut_readRecords count body, fun others hothers => ?_⟩
  have hlength := congrArg List.length hothers.eq_take
  rw [List.length_take] at hlength
  omega

theorem Longest.eq_readRecords {count : Nat} {body : Bytes} {records : List Record}
    (h : Longest count body records) : records = (readRecords count body).1 := by
  have htake := h.1.eq_take
  have hlength := h.2 _ (laidOut_readRecords count body)
  rwa [List.take_of_length_le hlength] at htake

inductive Describes : Record → Item → Prop
  | known {record : Record} (type : WireType) (h : record.typeByte = type.toByte) :
      Describes record (.ok ⟨record.key, type, record.value⟩)
  | unknown {record : Record} (h : 3 < record.typeByte) :
      Describes record (.error (.unknownType record.typeByte))

/-- What reading has to give: an item a record, and a truncation if records are missing. -/
def Transcript (count : Nat) (records : List Record) (items : List Item) : Prop :=
  ∃ described, List.Forall₂ Describes records described ∧
    items = described ++ if records.length < count then [.error .truncated] else []

theorem describes_toTuple (record : Record) : Describes record record.toTuple := by
  cases h : WireType.ofByte? record.typeByte with
  | some type =>
      simp only [Record.toTuple, h]
      exact .known type (WireType.ofByte?_eq_some_iff.mp h)
  | none =>
      simp only [Record.toTuple, h]
      exact .unknown (WireType.ofByte?_eq_none_iff.mp h)

theorem toTuple_ne_truncated (record : Record) : record.toTuple ≠ .error .truncated := by
  unfold Record.toTuple
  split
  · simp
  · simp

theorem forall₂_describes_map (records : List Record) :
    List.Forall₂ Describes records (records.map Record.toTuple) := by
  induction records with
  | nil => exact .nil
  | cons record records ih => exact .cons (describes_toTuple record) ih

theorem readItems_eq (count : Nat) (body : Bytes) :
    readItems count body =
      (readRecords count body).1.map Record.toTuple ++
        if (readRecords count body).1.length < count then [.error .truncated] else [] := by
  induction count generalizing body with
  | zero => rfl
  | succ count ih =>
      cases h : Record.read? body with
      | none => simp [readItems, h, readRecords_succ_none h]
      | some read =>
          obtain ⟨record, rest⟩ := read
          rw [readRecords_succ_some h]
          simp [readItems, h, ih rest]

theorem readItems_layout_append {records : List Record}
    (fits : ∀ record ∈ records, record.Fits) (remaining : Nat) (rest : Bytes) :
    readItems (records.length + remaining) (layout records ++ rest) =
      records.map Record.toTuple ++ readItems remaining rest := by
  rw [readItems_eq, readItems_eq remaining, readRecords_layout_append fits]
  simp

theorem readItems_layout {records : List Record} (fits : ∀ record ∈ records, record.Fits) :
    readItems records.length (layout records) = records.map Record.toTuple := by
  have hread := readItems_layout_append fits 0 []
  rw [Nat.add_zero, List.append_nil] at hread
  rw [hread]
  exact List.append_nil _

theorem transcript_readItems (count : Nat) (body : Bytes) :
    Transcript count (readRecords count body).1 (readItems count body) :=
  ⟨_, forall₂_describes_map _, readItems_eq count body⟩

/-! ## Reading with a cursor -/

namespace Cursor

/-- Reading on from a cursor gives the items, and then nothing more at the cursor `last`. -/
inductive Yields : Cursor → List Item → Cursor → Prop
  | stop {cursor : Cursor} (h : cursor.next? = none) : Yields cursor [] cursor
  | more {cursor behind last : Cursor} {item : Item} {items : List Item}
      (h : cursor.next? = some (item, behind)) (tail : Yields behind items last) :
      Yields cursor (item :: items) last

theorem yields_readItems (remaining : Nat) (rest : Bytes) :
    Yields ⟨remaining, rest⟩ (readItems remaining rest) ⟨0, (readRecords remaining rest).2⟩ := by
  induction remaining generalizing rest with
  | zero => exact .stop rfl
  | succ remaining ih =>
      cases h : Record.read? rest with
      | none =>
          rw [readRecords_succ_none h]
          simp only [readItems, h]
          exact .more (by simp [next?, h]) (.stop rfl)
      | some read =>
          obtain ⟨record, behind⟩ := read
          rw [readRecords_succ_some h]
          simp only [readItems, h]
          exact .more (by simp [next?, h]) (ih behind)

theorem Yields.unique {cursor last other : Cursor} {items found : List Item}
    (h : Yields cursor items last) (hfound : Yields cursor found other) :
    found = items ∧ other = last := by
  induction h generalizing found with
  | stop hstop =>
      cases hfound with
      | stop _ => exact ⟨rfl, rfl⟩
      | more hmore _ => simp [hstop] at hmore
  | more hmore _ ih =>
      cases hfound with
      | stop hstop => simp [hstop] at hmore
      | more hother tail =>
          simp only [hmore, Option.some.injEq, Prod.mk.injEq] at hother
          obtain ⟨rfl, rfl⟩ := hother
          obtain ⟨rfl, rfl⟩ := ih tail
          exact ⟨rfl, rfl⟩

end Cursor

theorem parse_eq_error_iff {bytes : Bytes} {error : Error} :
    parse bytes = .error error ↔ bytes = [] ∧ error = .empty := by
  cases bytes with
  | nil => simpa [parse] using eq_comm
  | cons count body => simp [parse]

/--
Reading a payload gives one item for each of the records that lie at the start
of its body, and a truncation at the end if the count announces more of them.
Nothing else is ever read, and bytes behind the last counted record do not
matter.
-/
theorem reading_follows_layout (count : UInt8) (body : Bytes) :
    (∀ bytes error, parse bytes = .error error ↔ bytes = [] ∧ error = .empty) ∧
    parse (count :: body) = .ok ⟨count, body⟩ ∧
    ∃ records trailing items,
      body = layout records ++ trailing ∧
      Longest count.toNat body records ∧
      (∀ others, Longest count.toNat body others → others = records) ∧
      Transcript count.toNat records items ∧
      (∀ found last, (cursor ⟨count, body⟩).Yields found last ↔
        found = items ∧ last = ⟨0, trailing⟩) ∧
      (records.length = count.toNat → ∀ other,
        (cursor ⟨count, layout records ++ other⟩).Yields items ⟨0, other⟩) := by
  refine ⟨fun _ _ => parse_eq_error_iff, rfl, (readRecords count.toNat body).1,
    (readRecords count.toNat body).2, readItems count.toNat body,
    (layout_readRecords count.toNat body).symm, longest_readRecords count.toNat body,
    fun _ hothers => hothers.eq_readRecords, transcript_readItems count.toNat body, ?_, ?_⟩
  · have hyields := Cursor.yields_readItems count.toNat body
    intro found last
    constructor
    · exact fun hfound => hyields.unique hfound
    · rintro ⟨rfl, rfl⟩
      exact hyields
  · intro hall other
    have hfits := (laidOut_readRecords count.toNat body).fits
    have hread := readRecords_layout_append hfits 0 other
    rw [Nat.add_zero, hall] at hread
    have hyields := Cursor.yields_readItems count.toNat
      (layout (readRecords count.toNat body).1 ++ other)
    have hitems : readItems count.toNat (layout (readRecords count.toNat body).1 ++ other) =
        readItems count.toNat body := by
      rw [readItems_eq, readItems_eq count.toNat body, hread]
      simp
    rw [hitems, hread] at hyields
    simpa [cursor, size] using hyields

end Watchface.Dictionary
