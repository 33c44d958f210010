import Watchface.Proofs.Dictionary.Room
import Watchface.Proofs.Safety.Checks

/-!
# Writing step by step

A `Writer` does what a builder does, in the steps in which bytes are written:
its buffer has the count byte in front from the start, a push writes a header
and then a value, and either of the two may find the buffer full.  They never
do, because the room for both is tested before anything is written.  So a
tuple is written whole or not at all, and the writer goes along with the
builder through any pushes.
-/

namespace Watchface.Dictionary

open Checked (extend? increment)

def Record.header (record : Record) : Bytes :=
  LittleEndian.encode 4 record.key.toNat ++
    record.typeByte :: LittleEndian.encode 2 record.value.length

theorem Record.encode_eq (record : Record) : record.encode = record.header ++ record.value := rfl

@[simp] theorem Record.length_header (record : Record) : record.header.length = headerSize := by
  simp [header, headerSize]

structure Writer (capacity : Nat) where
  /-- The count byte, which is set at the end, and the records behind it. -/
  buffer : Bytes
  count : UInt8
  deriving DecidableEq, Repr

namespace Writer

variable {capacity : Nat}

def new (capacity : Nat) : Except Error (Writer capacity) :=
  match extend? capacity [] [0] with
  | some buffer => .ok ⟨buffer, 0⟩
  | none => .error .bufferTooSmall

/-- The header and then the value; a value that finds no room leaves the header behind. -/
def write (writer : Writer capacity) (record : Record) :
    Checked (Except Error Unit × Writer capacity) :=
  match extend? capacity writer.buffer record.header with
  | none => .ok (.error .bufferTooSmall, writer)
  | some headed =>
      match extend? capacity headed record.value with
      | none => .ok (.error .bufferTooSmall, { writer with buffer := headed })
      | some buffer => do
          let count ← increment UInt8.size writer.count.toNat
          return (.ok (), ⟨buffer, UInt8.ofNat count⟩)

def push (writer : Writer capacity) (tuple : Tuple) :
    Checked (Except Error Unit × Writer capacity) :=
  if writer.count = 255 then .ok (.error .tooManyTuples, writer)
  else if 65535 < tuple.value.length then .ok (.error .bufferTooSmall, writer)
  else if capacity < writer.buffer.length + Record.headerSize + tuple.value.length then
    .ok (.error .bufferTooSmall, writer)
  else writer.write (.ofTuple tuple)

def pushAll (writer : Writer capacity) :
    List Tuple → Checked (List (Except Error Unit) × Writer capacity)
  | [] => .ok ([], writer)
  | tuple :: tuples => do
      let (outcome, writer) ← writer.push tuple
      let (outcomes, writer) ← writer.pushAll tuples
      return (outcome :: outcomes, writer)

def finish (writer : Writer capacity) : Checked Bytes :=
  match writer.buffer with
  | [] => .error .outOfBounds
  | _ :: records => .ok (writer.count :: records)

def writeAll (capacity : Nat) (tuples : List Tuple) :
    Checked (Except Error (List (Except Error Unit) × Bytes)) :=
  match (new capacity : Except Error (Writer capacity)) with
  | .error cause => .ok (.error cause)
  | .ok writer => do
      let (outcomes, writer) ← writer.pushAll tuples
      let payload ← writer.finish
      return .ok (outcomes, payload)

/-! ## Along with a builder -/

def ofBuilder (builder : Builder capacity) : Writer capacity :=
  ⟨0 :: builder.records, builder.count⟩

variable {builder written : Builder capacity} {tuple : Tuple}

@[simp] theorem length_ofBuilder (builder : Builder capacity) :
    (ofBuilder builder).buffer.length = builder.used := by
  simp [ofBuilder, Builder.used, headerSize]
  omega

theorem new_eq (capacity : Nat) :
    new capacity = (Builder.empty capacity).map ofBuilder := by
  by_cases h : headerSize ≤ capacity
  · have hroom : ([] : Bytes).length + [(0 : UInt8)].length ≤ capacity := h
    rw [new, Checked.extend?_of_room hroom, Builder.empty, if_pos h]
    rfl
  · have hfull : extend? capacity [] [0] = none := if_neg h
    rw [new, hfull, Builder.empty, if_neg h]
    rfl

theorem parts_of_room {record : Record} {buffer : Bytes}
    (room : buffer.length + record.encode.length ≤ capacity) :
    extend? capacity buffer record.header = some (buffer ++ record.header) ∧
      extend? capacity (buffer ++ record.header) record.value =
        some (buffer ++ record.header ++ record.value) := by
  rw [Record.length_encode] at room
  constructor
  · apply Checked.extend?_of_room
    rw [Record.length_header]
    omega
  · apply Checked.extend?_of_room
    rw [List.length_append, Record.length_header]
    omega

theorem write_of_room {record : Record} (count : builder.count ≠ 255)
    (room : builder.used + record.encode.length ≤ capacity) :
    (ofBuilder builder).write record =
      .ok (.ok (), ofBuilder ⟨builder.count + 1, builder.records ++ record.encode⟩) := by
  rw [← length_ofBuilder] at room
  obtain ⟨hheader, hvalue⟩ := parts_of_room room
  have hsucc := Builder.toNat_count_succ count
  have hlt : builder.count.toNat + 1 < UInt8.size := hsucc ▸ (builder.count + 1).toNat_lt
  have hcount : increment UInt8.size (ofBuilder builder).count.toNat =
      .ok (builder.count.toNat + 1) := Checked.increment_of_lt hlt
  have hword : UInt8.ofNat (builder.count.toNat + 1) = builder.count + 1 := by
    rw [← hsucc, UInt8.ofNat_toNat]
  rw [write, hheader]
  dsimp only
  rw [hvalue]
  dsimp only
  rw [hcount, List.append_assoc, ← Record.encode_eq]
  exact congrArg (fun count => Except.ok (Except.ok (), Writer.mk _ count)) hword

theorem push_ofBuilder (builder : Builder capacity) (tuple : Tuple) :
    (ofBuilder builder).push tuple =
      .ok (match builder.push tuple with
        | .ok written => (.ok (), ofBuilder written)
        | .error error => (.error error, ofBuilder builder)) := by
  have hcount : (ofBuilder builder).count = builder.count := rfl
  have hfits : ¬ (Record.ofTuple tuple).Fits ↔ 65535 < tuple.value.length := Nat.not_lt
  have hlength : (Record.ofTuple tuple).encode.length =
      Record.headerSize + tuple.value.length := Record.length_encode _
  rw [push, hcount, length_ofBuilder]
  by_cases hfull : builder.count = 255
  · rw [if_pos hfull, Builder.push, if_pos hfull]
  · rw [if_neg hfull]
    by_cases hlong : 65535 < tuple.value.length
    · rw [if_pos hlong, Builder.push, if_neg hfull, if_pos (hfits.mpr hlong)]
    · rw [if_neg hlong]
      have hshort := mt hfits.mp hlong
      by_cases hroom : builder.used + (Record.ofTuple tuple).encode.length ≤ capacity
      · rw [if_neg (by omega), write_of_room hfull hroom, Builder.push, if_neg hfull,
          if_neg hshort, if_pos hroom]
      · rw [if_pos (by omega), Builder.push, if_neg hfull, if_neg hshort, if_neg hroom]

theorem pushAll_ofBuilder (builder : Builder capacity) (tuples : List Tuple) :
    (ofBuilder builder).pushAll tuples =
      .ok ((builder.pushAll tuples).1, ofBuilder (builder.pushAll tuples).2) := by
  induction tuples generalizing builder with
  | nil => rfl
  | cons tuple tuples ih =>
      rw [pushAll, push_ofBuilder, Builder.pushAll]
      cases builder.push tuple with
      | ok written =>
          have htail := ih written
          simp only [bind, Except.bind, htail]
          rfl
      | error error =>
          have htail := ih builder
          simp only [bind, Except.bind, htail]
          rfl

theorem finish_ofBuilder (builder : Builder capacity) :
    (ofBuilder builder).finish = .ok builder.payload := rfl

theorem writeAll_eq (capacity : Nat) (tuples : List Tuple) :
    writeAll capacity tuples =
      .ok ((Builder.empty capacity).map fun builder =>
        ((builder.pushAll tuples).1, (builder.pushAll tuples).2.payload)) := by
  rw [writeAll, new_eq]
  cases Builder.empty capacity with
  | error cause => rfl
  | ok builder =>
      simp only [Except.map, pushAll_ofBuilder, finish_ofBuilder, Checked.ok_bind,
        Checked.pure_eq]

end Writer

namespace Builder

variable {capacity : Nat} {builder : Builder capacity} {held : List Tuple} {tuple : Tuple}

theorem space_eq_foldr (tuples : List Tuple) :
    space tuples = tuples.foldr (fun tuple total => 7 + tuple.value.length + total) 0 := by
  induction tuples with
  | nil => rfl
  | cons tuple tuples ih =>
      rw [space_cons, ih, List.foldr_cons]
      rfl

theorem count_pushAll (builder : Builder capacity) (tuples : List Tuple) :
    (builder.pushAll tuples).2.count.toNat =
      builder.count.toNat + (accepted tuples (builder.pushAll tuples).1).length := by
  induction tuples generalizing builder with
  | nil => rfl
  | cons tuple tuples ih =>
      rw [Builder.pushAll]
      cases hpush : builder.push tuple with
      | error cause => exact ih builder
      | ok written =>
          obtain ⟨hcount, -, -, hwritten⟩ := push_eq_ok_iff.mp hpush
          have hsucc : written.count.toNat = builder.count.toNat + 1 := by
            rw [hwritten, toNat_count_succ hcount]
          rw [ih written, hsucc, accepted_cons_ok, List.length_cons]
          omega

theorem Holds.push_cases (h : builder.Holds held) (tuple : Tuple) :
    (held.length = 255 ∧ builder.push tuple = .error .tooManyTuples) ∨
    (held.length ≠ 255 ∧
      ¬ (tuple.value.length ≤ 65535 ∧ builder.used + 7 + tuple.value.length ≤ capacity) ∧
      builder.push tuple = .error .bufferTooSmall) ∨
    (held.length ≠ 255 ∧
      (tuple.value.length ≤ 65535 ∧ builder.used + 7 + tuple.value.length ≤ capacity) ∧
      ∃ written, builder.push tuple = .ok written) := by
  have hfull : builder.count = 255 ↔ held.length = 255 := by
    rw [← h.count_eq]
    exact ⟨fun heq => heq ▸ rfl, fun heq => UInt8.toNat.inj heq⟩
  have hfits : (Record.ofTuple tuple).Fits ↔ tuple.value.length ≤ 65535 := Nat.lt_succ_iff
  have hlength : (Record.ofTuple tuple).encode.length = 7 + tuple.value.length :=
    Record.length_encode _
  rw [Builder.push, hlength, ← Nat.add_assoc]
  split
  · next hcount => exact .inl ⟨hfull.mp hcount, rfl⟩
  · next hcount =>
    refine .inr ?_
    have hheld := mt hfull.mpr hcount
    split
    · next hlong => exact .inl ⟨hheld, fun hfit => hlong (hfits.mpr hfit.1), rfl⟩
    · next hshort =>
      have hshort := hfits.mp (Classical.not_not.mp hshort)
      split
      · next hroom => exact .inr ⟨hheld, ⟨hshort, hroom⟩, _, rfl⟩
      · next hroom => exact .inl ⟨hheld, fun hfit => hroom hfit.2, rfl⟩

theorem Holds.push_iff (h : builder.Holds held) (tuple : Tuple) :
    let fits := tuple.value.length ≤ 65535 ∧ builder.used + 7 + tuple.value.length ≤ capacity
    (builder.push tuple = .error .tooManyTuples ↔ held.length = 255) ∧
    (builder.push tuple = .error .bufferTooSmall ↔ held.length ≠ 255 ∧ ¬ fits) ∧
    ((∃ written, builder.push tuple = .ok written) ↔ held.length ≠ 255 ∧ fits) := by
  intro fits
  rcases h.push_cases tuple with ⟨hfull, hto⟩ | ⟨hfree, hnot, hto⟩ | ⟨hfree, hfit, written, hto⟩
  · simp [hto, hfull]
  · simp [hto, fits, hfree, hnot]
  · simp [hto, fits, hfree, hfit]

theorem empty_eq_error_iff :
    (∃ error, (empty capacity : Except Error (Builder capacity)) = .error error) ↔
      capacity = 0 := by
  unfold empty headerSize
  split
  · next hroom =>
    have hne : capacity ≠ 0 := by omega
    simp [hne]
  · next hroom =>
    have hzero : capacity = 0 := by omega
    simp [hzero]

/--
A tuple is taken exactly if it can be counted, its length can be announced and
its record fits behind those that were taken before, whatever was refused in
between; a full count is reported first.  Written step by step, the push goes
the same way: where there is room for the record, neither of its parts fails,
and a push that is refused leaves buffer and count as they were.  Only a
capacity of 0 is too small to begin with.
-/
theorem push_takes_what_fits (capacity : Nat) :
    ((∃ error, (empty capacity : Except Error (Builder capacity)) = .error error) ↔
      capacity = 0) ∧
    ∀ (fresh : Builder capacity) (tuples : List Tuple), empty capacity = .ok fresh →
      ∃ outcomes builder, fresh.pushAll tuples = (outcomes, builder) ∧
      ∃ start writer, Writer.new capacity = .ok start ∧
        start.pushAll tuples = .ok (outcomes, writer) ∧
      ∀ tuple : Tuple,
        let taken := accepted tuples outcomes
        let used := taken.foldr (fun other total => 7 + other.value.length + total) 0 + 1
        let fits := tuple.value.length ≤ 65535 ∧ used + 7 + tuple.value.length ≤ capacity
        (builder.push tuple = .error .tooManyTuples ↔ taken.length = 255) ∧
        (builder.push tuple = .error .bufferTooSmall ↔ taken.length ≠ 255 ∧ ¬ fits) ∧
        ((∃ written, builder.push tuple = .ok written) ↔ taken.length ≠ 255 ∧ fits) ∧
        writer.buffer.length = used ∧ writer.count.toNat = taken.length ∧
        (fits → ∃ headed full,
          extend? capacity writer.buffer (Record.ofTuple tuple).header = some headed ∧
          extend? capacity headed tuple.value = some full) ∧
        ∃ outcome next, writer.push tuple = .ok (outcome, next) ∧
          outcome = (builder.push tuple).map (fun _ => ()) ∧
          (outcome ≠ .ok () → next = writer) := by
  refine ⟨empty_eq_error_iff, fun fresh tuples hempty => ?_⟩
  have hholds := (holds_empty hempty).pushAll tuples
  rw [List.nil_append] at hholds
  have hstart : Writer.new capacity = .ok (Writer.ofBuilder fresh) := by
    rw [Writer.new_eq, hempty]
    rfl
  refine ⟨_, _, rfl, _, _, hstart, Writer.pushAll_ofBuilder fresh tuples, ?_⟩
  generalize fresh.pushAll tuples = run at hholds
  obtain ⟨outcomes, builder⟩ := run
  intro tuple taken used fits
  have hused : builder.used = used := by
    rw [hholds.used_eq, space_eq_foldr, Nat.add_comm]
    rfl
  have hdecided := hholds.push_iff tuple
  rw [hused] at hdecided
  obtain ⟨hfull, hsmall, htaken⟩ := hdecided
  refine ⟨hfull, hsmall, htaken, ?_, hholds.count_eq, ?_, _, _,
    Writer.push_ofBuilder builder tuple, ?_, ?_⟩
  · rw [Writer.length_ofBuilder, hused]
  · rintro ⟨-, hfit⟩
    have hroom : (Writer.ofBuilder builder).buffer.length +
        (Record.ofTuple tuple).encode.length ≤ capacity := by
      rw [Writer.length_ofBuilder, hused, Record.length_encode, ← Nat.add_assoc]
      exact hfit
    exact ⟨_, _, Writer.parts_of_room hroom⟩
  · cases builder.push tuple <;> rfl
  · cases builder.push tuple with
    | ok written => exact fun hne => absurd rfl hne
    | error error => exact fun _ => rfl

theorem push_taken_after_refusal :
    ∃ builder written : Builder 20,
      (⟨0, []⟩ : Builder 20).pushAll [.ofUInt32 1 7, .ofUInt32 2 8] =
        ([.ok (), .error .bufferTooSmall], builder) ∧
      builder.push (.ofUInt8 3 9) = .ok written := by
  obtain ⟨outcomes, builder, hpushed, _, _, -, -, hpush⟩ :=
    (push_takes_what_fits 20).2 ⟨0, []⟩ [.ofUInt32 1 7, .ofUInt32 2 8] (by decide)
  have houtcomes : outcomes = [.ok (), .error .bufferTooSmall] :=
    (congrArg Prod.fst hpushed).symm.trans (by decide)
  subst houtcomes
  obtain ⟨-, -, htaken, -⟩ := hpush (.ofUInt8 3 9)
  obtain ⟨written, hwritten⟩ := htaken.mpr (by decide)
  exact ⟨builder, written, hpushed, hwritten⟩

end Builder

end Watchface.Dictionary
