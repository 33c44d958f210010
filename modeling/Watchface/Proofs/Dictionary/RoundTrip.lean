import Watchface.Dictionary.Builder
import Watchface.Proofs.Dictionary.Records

/-!
# Writing a dictionary and reading it back

A builder accepts some of the tuples that are pushed and refuses others, for
want of room or of numbers to count them.  `Holds` is its invariant: the bytes
of a builder are the accepted tuples laid end to end, whatever was refused in
between.  Reading the payload gives these tuples back and nothing else.
-/

namespace Watchface.Dictionary.Builder

variable {capacity : Nat}

structure Holds (builder : Builder capacity) (tuples : List Tuple) : Prop where
  count_eq : builder.count.toNat = tuples.length
  records_eq : builder.records = layout (tuples.map Record.ofTuple)
  fits : ∀ tuple ∈ tuples, (Record.ofTuple tuple).Fits
  used_le : builder.used ≤ capacity

theorem empty_eq_ok {builder : Builder capacity} :
    empty capacity = .ok builder ↔ 1 ≤ capacity ∧ builder = ⟨0, []⟩ := by
  unfold empty headerSize
  split
  · next hroom => simpa [hroom] using eq_comm
  · next hroom => simp [hroom]

theorem holds_empty {builder : Builder capacity} (h : empty capacity = .ok builder) :
    builder.Holds [] := by
  obtain ⟨hroom, rfl⟩ := empty_eq_ok.mp h
  exact ⟨rfl, rfl, by simp, hroom⟩

theorem toNat_count_succ {count : UInt8} (h : count ≠ 255) :
    (count + 1).toNat = count.toNat + 1 := by
  have hlt : count.toNat < 256 := count.toNat_lt
  have hne : count.toNat ≠ 255 := fun heq => h (UInt8.toNat.inj heq)
  rw [UInt8.toNat_add, UInt8.toNat_one]
  omega

theorem Holds.push {builder written : Builder capacity} {tuples : List Tuple} {tuple : Tuple}
    (h : builder.Holds tuples) (hpush : builder.push tuple = .ok written) :
    written.Holds (tuples ++ [tuple]) := by
  obtain ⟨hcount, hfits, hroom, rfl⟩ := push_eq_ok_iff.mp hpush
  refine ⟨?_, ?_, ?_, ?_⟩
  · rw [toNat_count_succ hcount, h.count_eq]
    simp
  · simp [h.records_eq]
  · intro other hother
    rcases List.mem_append.mp hother with hother | hother
    · exact h.fits other hother
    · rw [List.mem_singleton.mp hother]
      exact hfits
  · simp only [used, List.length_append] at hroom ⊢
    omega

/-- Push the tuples in order.  A refused tuple leaves the builder as it was. -/
def pushAll (builder : Builder capacity) :
    List Tuple → List (Except Error Unit) × Builder capacity
  | [] => ([], builder)
  | tuple :: tuples =>
      match builder.push tuple with
      | .ok written =>
          let rest := written.pushAll tuples
          (.ok () :: rest.1, rest.2)
      | .error error =>
          let rest := builder.pushAll tuples
          (.error error :: rest.1, rest.2)

def accepted {α : Type} (calls : List α) (outcomes : List (Except Error Unit)) : List α :=
  ((calls.zip outcomes).filter fun call => call.2.isOk).map Prod.fst

@[simp] theorem accepted_nil {α : Type} (outcomes : List (Except Error Unit)) :
    accepted ([] : List α) outcomes = [] := rfl

@[simp] theorem accepted_cons_ok {α : Type} (call : α) (calls : List α) (done : Unit)
    (outcomes : List (Except Error Unit)) :
    accepted (call :: calls) (.ok done :: outcomes) = call :: accepted calls outcomes := rfl

@[simp] theorem accepted_cons_error {α : Type} (call : α) (calls : List α) (error : Error)
    (outcomes : List (Except Error Unit)) :
    accepted (call :: calls) (.error error :: outcomes) = accepted calls outcomes := rfl

theorem accepted_of_forall {α : Type} {calls : List α} {outcomes : List (Except Error Unit)}
    (all : ∀ outcome ∈ outcomes, outcome = .ok ()) (length : outcomes.length = calls.length) :
    accepted calls outcomes = calls := by
  have hfilter : (calls.zip outcomes).filter (fun call => call.2.isOk) = calls.zip outcomes := by
    refine List.filter_eq_self.mpr fun call hmem => ?_
    rw [all call.2 (List.of_mem_zip hmem).2]
    rfl
  rw [accepted, hfilter, List.map_fst_zip (Nat.le_of_eq length.symm)]

@[simp] theorem length_outcomes (builder : Builder capacity) (tuples : List Tuple) :
    (builder.pushAll tuples).1.length = tuples.length := by
  induction tuples generalizing builder with
  | nil => rfl
  | cons tuple tuples ih =>
      cases h : builder.push tuple with
      | ok written => simp [pushAll, h, ih]
      | error error => simp [pushAll, h, ih]

theorem Holds.pushAll {builder : Builder capacity} {tuples : List Tuple}
    (h : builder.Holds tuples) (more : List Tuple) :
    (builder.pushAll more).2.Holds (tuples ++ accepted more (builder.pushAll more).1) := by
  induction more generalizing builder tuples with
  | nil => simpa [Builder.pushAll] using h
  | cons tuple more ih =>
      cases hpush : builder.push tuple with
      | ok written => simpa [Builder.pushAll, hpush] using ih (h.push hpush)
      | error error => simpa [Builder.pushAll, hpush] using ih h

/-! ## Reading the payload -/

theorem Holds.yields {builder : Builder capacity} {tuples : List Tuple}
    (h : builder.Holds tuples) :
    (cursor ⟨builder.count, builder.records⟩).Yields (tuples.map .ok) ⟨0, []⟩ := by
  have hfits : ∀ record ∈ tuples.map Record.ofTuple, record.Fits := by
    intro record hrecord
    obtain ⟨tuple, htuple, rfl⟩ := List.mem_map.mp hrecord
    exact h.fits tuple htuple
  have hread := readRecords_layout_append hfits 0 []
  have hyields := Cursor.yields_readItems (tuples.map Record.ofTuple).length
    (layout (tuples.map Record.ofTuple))
  rw [readItems_eq] at hyields
  simp only [Nat.add_zero, List.append_nil, readRecords_zero] at hread
  simp only [hread, Nat.lt_irrefl, if_false, List.append_nil, List.map_map] at hyields
  have hitems : Record.toTuple ∘ Record.ofTuple = Except.ok := by
    funext tuple
    exact Record.toTuple_ofTuple tuple
  rw [hitems, List.length_map, ← h.count_eq, ← h.records_eq] at hyields
  exact hyields

theorem Holds.items_eq {builder : Builder capacity} {tuples : List Tuple}
    (h : builder.Holds tuples) :
    Dictionary.items ⟨builder.count, builder.records⟩ = tuples.map .ok :=
  ((Cursor.yields_readItems _ _).unique h.yields).1.symm

theorem Holds.tuples_eq {builder : Builder capacity} {tuples : List Tuple}
    (h : builder.Holds tuples) :
    Dictionary.tuples ⟨builder.count, builder.records⟩ = tuples := by
  rw [Dictionary.tuples, h.items_eq, List.filterMap_map]
  exact List.filterMap_some

inductive Entry where
  | raw (key : UInt32) (type : WireType) (value : Bytes)
  | uint8 (key : UInt32) (value : UInt8)
  | uint16 (key : UInt32) (value : UInt16)
  | uint32 (key : UInt32) (value : UInt32)
  | int8 (key : UInt32) (value : Int8)
  | int16 (key : UInt32) (value : Int16)
  | int32 (key : UInt32) (value : Int32)
  | bytes (key : UInt32) (value : Bytes)

def Entry.toTuple : Entry → Tuple
  | .raw key type value => ⟨key, type, value⟩
  | .uint8 key value => .ofUInt8 key value
  | .uint16 key value => .ofUInt16 key value
  | .uint32 key value => .ofUInt32 key value
  | .int8 key value => .ofInt8 key value
  | .int16 key value => .ofInt16 key value
  | .int32 key value => .ofInt32 key value
  | .bytes key value => .ofBytes key value

end Watchface.Dictionary.Builder
