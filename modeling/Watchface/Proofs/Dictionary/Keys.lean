import Watchface.Proofs.Dictionary.Records

/-!
# Tuples by key

What a message says under one key are the tuples with that key, in their
order.  Records of different keys may change places without any effect on
this: a reordering is known by the records that it leaves under each key.
-/

namespace Watchface.Dictionary

theorem toOption_eq_some_iff {ε α : Type} {result : Except ε α} {value : α} :
    result.toOption = some value ↔ result = .ok value := by
  cases result <;> simp [Except.toOption]

def under (message : Dictionary) (key : UInt32) : List Tuple :=
  message.tuples.filter fun tuple => tuple.key == key

theorem mem_tuples {message : Dictionary} {tuple : Tuple} :
    tuple ∈ message.tuples ↔ .ok tuple ∈ message.items := by
  rw [tuples, List.mem_filterMap]
  constructor
  · rintro ⟨item, hitem, htuple⟩
    rwa [toOption_eq_some_iff.mp htuple] at hitem
  · intro hitem
    exact ⟨.ok tuple, hitem, rfl⟩

theorem mem_under {message : Dictionary} {key : UInt32} {tuple : Tuple} :
    tuple ∈ message.under key ↔ .ok tuple ∈ message.items ∧ tuple.key = key := by
  rw [under, List.mem_filter, mem_tuples, beq_iff_eq]

theorem isSome_find?_iff {message : Dictionary} {key : UInt32} :
    (message.find? key).isSome ↔ ∃ tuple, .ok tuple ∈ message.items ∧ tuple.key = key := by
  simp [find?, List.find?_isSome, mem_tuples]

theorem find?_eq_head?_under (message : Dictionary) (key : UInt32) :
    message.find? key = (message.under key).head? :=
  List.head?_filter.symm

def payloadOf (records : List Record) : Bytes :=
  UInt8.ofNat records.length :: layout records

theorem items_layout {records : List Record} (fits : ∀ record ∈ records, record.Fits)
    (counted : records.length ≤ 255) :
    items ⟨UInt8.ofNat records.length, layout records⟩ = records.map Record.toTuple := by
  have hcount : (UInt8.ofNat records.length).toNat = records.length := by
    rw [UInt8.toNat_ofNat']
    omega
  rw [items, size, hcount, readItems_layout fits]

theorem under_layout {records : List Record} (fits : ∀ record ∈ records, record.Fits)
    (counted : records.length ≤ 255) (key : UInt32) :
    under ⟨UInt8.ofNat records.length, layout records⟩ key =
      (records.filter fun record => record.key == key).filterMap fun record =>
        record.toTuple.toOption := by
  rw [under, tuples, items_layout fits counted, List.filterMap_map, List.filter_filterMap,
    List.filterMap_filter]
  congr 1
  funext record
  cases htype : WireType.ofByte? record.typeByte with
  | none => simp [Record.toTuple, htype, Except.toOption]
  | some type => simp [Record.toTuple, htype, Except.toOption, Option.filter]

/-- The same records, and those of one key in the same order. -/
def Reordered (first second : List Record) : Prop :=
  ∀ key : UInt32, (first.filter fun record => record.key == key) =
    second.filter fun record => record.key == key

variable {first second : List Record}

theorem Reordered.perm (h : Reordered first second) : first.Perm second := by
  refine List.perm_iff_count.mpr fun record => ?_
  have hkept : ∀ records : List Record,
      (records.filter fun other => other.key == record.key).count record =
        records.count record :=
    fun _ => List.count_filter (by exact beq_self_eq_true record.key)
  rw [← hkept first, ← hkept second, h record.key]

theorem reordered_iff_forall_mem :
    Reordered first second ↔
      ∀ other ∈ first ++ second, (first.filter fun record => record.key == other.key) =
        second.filter fun record => record.key == other.key := by
  constructor
  · intro h other _
    exact h other.key
  · intro h key
    by_cases hkey : ∃ other ∈ first ++ second, other.key = key
    · obtain ⟨other, hmem, rfl⟩ := hkey
      exact h other hmem
    · have hnone : ∀ record ∈ first ++ second, ¬ (record.key == key) = true := by
        intro record hmem hrecord
        exact hkey ⟨record, hmem, beq_iff_eq.mp hrecord⟩
      rw [List.forall_mem_append] at hnone
      rw [List.filter_eq_nil_iff.mpr hnone.1, List.filter_eq_nil_iff.mpr hnone.2]

instance (first second : List Record) : Decidable (Reordered first second) :=
  decidable_of_iff _ reordered_iff_forall_mem.symm

theorem Reordered.under_eq (h : Reordered first second)
    (fits : ∀ record ∈ first, record.Fits) (counted : first.length ≤ 255) (key : UInt32) :
    under ⟨UInt8.ofNat first.length, layout first⟩ key =
      under ⟨UInt8.ofNat second.length, layout second⟩ key := by
  have hfits : ∀ record ∈ second, record.Fits := fun record hmem =>
    fits record (h.perm.mem_iff.mpr hmem)
  have hcounted : second.length ≤ 255 := h.perm.length_eq ▸ counted
  rw [under_layout fits counted, under_layout hfits hcounted, h key]

end Watchface.Dictionary
