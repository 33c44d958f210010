import Watchface.Proofs.Dictionary.Canonical

/-!
# Room for tuples

Tuples need as many bytes as their headers and their values have, in whatever
order they come.  A builder takes all of a list of tuples exactly if that many
bytes are left.
-/

namespace Watchface.Dictionary

def space (tuples : List Tuple) : Nat := (layout (tuples.map .ofTuple)).length

@[simp] theorem space_nil : space [] = 0 := rfl

@[simp] theorem space_cons (tuple : Tuple) (tuples : List Tuple) :
    space (tuple :: tuples) = Record.headerSize + tuple.value.length + space tuples := by
  rw [space, List.map_cons, layout_cons, List.length_append, Record.length_encode]
  rfl

theorem space_append (first second : List Tuple) :
    space (first ++ second) = space first + space second := by
  rw [space, List.map_append, layout_append, List.length_append, space, space]

theorem space_perm {first second : List Tuple} (h : first.Perm second) :
    space first = space second :=
  ((h.map Record.ofTuple).flatMap_right Record.encode).length_eq

theorem space_map_le {ι : Type} {tuple : ι → Tuple} {bound : ι → Nat}
    (h : ∀ index, (tuple index).value.length ≤ bound index) (list : List ι) :
    space (list.map tuple) ≤
      list.foldr (fun index total => Record.headerSize + bound index + total) 0 := by
  induction list with
  | nil => exact Nat.le_refl 0
  | cons index list ih =>
      have hindex := h index
      rw [List.map_cons, space_cons, List.foldr_cons]
      omega

theorem fits_of_space {tuples : List Tuple} (h : space tuples < 65536) :
    ∀ tuple ∈ tuples, (Record.ofTuple tuple).Fits := by
  intro tuple hmem
  obtain ⟨before, behind, rfl⟩ := List.append_of_mem hmem
  rw [space_append, space_cons] at h
  have hlength : (Record.ofTuple tuple).value.length = tuple.value.length := rfl
  rw [Record.Fits, hlength]
  omega

namespace Builder

variable {capacity : Nat} {builder : Builder capacity} {held more : List Tuple}

theorem Holds.used_eq (h : builder.Holds held) : builder.used = headerSize + space held := by
  rw [used, h.records_eq, space]

theorem Holds.pushAll_of_forall (h : builder.Holds held)
    (all : ∀ outcome ∈ (builder.pushAll more).1, outcome = .ok ()) :
    (builder.pushAll more).2.Holds (held ++ more) := by
  have hholds := h.pushAll more
  rwa [accepted_of_forall all (length_outcomes builder more)] at hholds

theorem Holds.takes_all_iff (h : builder.Holds held)
    (fits : ∀ tuple ∈ more, (Record.ofTuple tuple).Fits)
    (counted : held.length + more.length ≤ 255) :
    (∀ outcome ∈ (builder.pushAll more).1, outcome = .ok ()) ↔
      builder.used + space more ≤ capacity := by
  constructor
  · intro hall
    have hholds := h.pushAll_of_forall hall
    have hused := hholds.used_le
    rwa [hholds.used_eq, space_append, ← Nat.add_assoc, ← h.used_eq] at hused
  · intro hroom
    rw [h.pushAll_of_room fits counted hroom]
    simp

end Builder

end Watchface.Dictionary
