import Watchface.Proofs.Dictionary.Records

/-!
# Iterating over a dictionary

A caller may stop at any point of an iteration, look at the announced bounds
and go on, or call again when nothing is left.  `call` is one call together
with the cursor that it leaves behind, and `after` the cursor that a number of
calls leads to.  Two quantities decide how long an iteration can be: the count
of remaining records, which every item lowers, and the bytes, of which every
record that is complete takes away at least a header.  `Contract` collects what
this gives at a cursor, and every cursor that an iteration goes through has it.
-/

namespace Watchface.Dictionary

theorem Record.length_add_headerSize_le_of_read? {bytes rest : Bytes} {record : Record}
    (h : read? bytes = some (record, rest)) : rest.length + headerSize ≤ bytes.length := by
  obtain ⟨rfl, -⟩ := read?_eq_some_iff.mp h
  rw [List.length_append, length_encode]
  omega

namespace Cursor

variable {cursor behind last : Cursor} {item : Item} {items : List Item}

/-- One call.  A cursor that has nothing to give stays where it is. -/
def call (cursor : Cursor) : Option Item × Cursor :=
  match cursor.next? with
  | none => (none, cursor)
  | some (item, behind) => (some item, behind)

def after (cursor : Cursor) : Nat → Cursor
  | 0 => cursor
  | calls + 1 => (cursor.after calls).call.2

@[simp] theorem after_zero (cursor : Cursor) : cursor.after 0 = cursor := rfl

@[simp] theorem after_succ (cursor : Cursor) (calls : Nat) :
    cursor.after (calls + 1) = (cursor.after calls).call.2 := rfl

theorem call_of_none (h : cursor.next? = none) : cursor.call = (none, cursor) := by
  rw [call, h]

theorem call_of_some (h : cursor.next? = some (item, behind)) :
    cursor.call = (some item, behind) := by
  rw [call, h]

theorem call_fst_eq_none_iff : cursor.call.1 = none ↔ cursor.next? = none := by
  cases hnext : cursor.next? with
  | none => simp [call_of_none hnext]
  | some found => simp [call_of_some hnext]

theorem after_of_none (h : cursor.next? = none) (calls : Nat) : cursor.after calls = cursor := by
  induction calls with
  | zero => exact after_zero cursor
  | succ calls ih => rw [after_succ, ih, call_of_none h]

theorem next?_eq_none_iff : cursor.next? = none ↔ cursor.remaining = 0 := by
  unfold next?
  split
  · next hremaining => simp [hremaining]
  · next hremaining => split <;> simp [hremaining]

/-- An item is a complete record, or else the truncation that ends the iteration. -/
theorem next?_cases (h : cursor.next? = some (item, behind)) :
    (∃ record, Record.read? cursor.rest = some (record, behind.rest) ∧
      cursor.remaining = behind.remaining + 1 ∧ item = record.toTuple) ∨
    (0 < cursor.remaining ∧ item = .error .truncated ∧ behind = ⟨0, cursor.rest⟩) := by
  unfold next? at h
  split at h
  · contradiction
  · next remaining hremaining =>
    split at h
    · cases h
      exact .inr ⟨by omega, rfl, rfl⟩
    · next record rest hread =>
      cases h
      exact .inl ⟨record, hread, hremaining, rfl⟩

theorem remaining_lt_of_next? (h : cursor.next? = some (item, behind)) :
    behind.remaining < cursor.remaining := by
  rcases next?_cases h with ⟨-, -, hremaining, -⟩ | ⟨hremaining, -, rfl⟩
  · omega
  · exact hremaining

theorem remaining_eq_zero_of_truncated (h : cursor.next? = some (.error .truncated, behind)) :
    behind.remaining = 0 := by
  rcases next?_cases h with ⟨record, -, -, hitem⟩ | ⟨-, -, rfl⟩
  · exact absurd hitem.symm (toTuple_ne_truncated record)
  · rfl

theorem shrinks_of_next? (h : cursor.next? = some (item, behind))
    (complete : item ≠ .error .truncated) :
    cursor.remaining = behind.remaining + 1 ∧
      behind.rest.length + Record.headerSize ≤ cursor.rest.length := by
  rcases next?_cases h with ⟨record, hread, hremaining, -⟩ | ⟨-, hitem, -⟩
  · exact ⟨hremaining, Record.length_add_headerSize_le_of_read? hread⟩
  · exact absurd hitem complete

theorem Yields.length_le (h : cursor.Yields items last) : items.length ≤ cursor.remaining := by
  induction h with
  | stop _ => exact Nat.zero_le _
  | more hmore _ ih =>
      rw [List.length_cons]
      exact Nat.lt_of_le_of_lt ih (remaining_lt_of_next? hmore)

theorem Yields.eq_nil_of_truncated (h : cursor.Yields (.error .truncated :: items) last) :
    items = [] := by
  cases h with
  | more hmore tail =>
      have hlength := tail.length_le
      rw [remaining_eq_zero_of_truncated hmore] at hlength
      exact List.eq_nil_of_length_eq_zero (Nat.le_zero.mp hlength)

theorem Yields.length_eq (h : cursor.Yields items last)
    (whole : items.getLast? ≠ some (.error .truncated)) : items.length = cursor.remaining := by
  induction h with
  | stop hstop => exact (next?_eq_none_iff.mp hstop).symm
  | @more _ _ _ item items hmore tail ih =>
      have hcomplete : item ≠ .error .truncated := by
        rintro rfl
        obtain rfl := (Yields.more hmore tail).eq_nil_of_truncated
        exact whole rfl
      have hwhole : items.getLast? ≠ some (.error .truncated) := by
        intro hlast
        rw [List.getLast?_cons, hlast] at whole
        exact whole rfl
      rw [List.length_cons, ih hwhole, (shrinks_of_next? hmore hcomplete).1]

theorem Yields.countP_complete_le (h : cursor.Yields items last) :
    items.countP (· ≠ .error .truncated) * Record.headerSize ≤ cursor.rest.length := by
  induction h with
  | stop _ => simp
  | @more _ _ _ item items hmore tail ih =>
      by_cases hcomplete : item = .error .truncated
      · subst hcomplete
        obtain rfl := (Yields.more hmore tail).eq_nil_of_truncated
        simp
      · have hshrinks := (shrinks_of_next? hmore hcomplete).2
        rw [List.countP_cons_of_pos (by simpa using hcomplete), Nat.succ_mul]
        omega

theorem Yields.call (h : cursor.Yields items last) :
    cursor.call.1 = items.head? ∧ cursor.call.2.Yields items.tail last := by
  cases h with
  | stop hstop =>
      rw [call_of_none hstop]
      exact ⟨rfl, .stop hstop⟩
  | more hmore tail =>
      rw [call_of_some hmore]
      exact ⟨rfl, tail⟩

theorem Yields.after (h : cursor.Yields items last) (calls : Nat) :
    (cursor.after calls).Yields (items.drop calls) last := by
  induction calls with
  | zero =>
      rw [after_zero, List.drop_zero]
      exact h
  | succ calls ih =>
      rw [after_succ, ← List.tail_drop]
      exact ih.call.2

/-! ## The contract -/

/-- What a caller may rely on at a cursor that has the items `left` to give. -/
structure Contract (here : Cursor) (left : List Item) : Prop where
  yields : ∃ last, here.Yields left last
  bounded : here.bounds.1 ≤ left.length ∧ left.length ≤ here.bounds.2
  exact_unless_truncated : left.getLast? ≠ some (.error .truncated) → left.length = here.bounds.2
  lowered : here.call.1 ≠ none → here.call.2.bounds.2 < here.bounds.2
  truncated_last : here.call.1 = some (.error .truncated) → left = [.error .truncated]
  ended : here.call.1 = none → ∀ calls, (here.after calls).call.1 = none

theorem Yields.contract (h : cursor.Yields items last) : cursor.Contract items where
  yields := ⟨last, h⟩
  bounded := ⟨Nat.zero_le _, h.length_le⟩
  exact_unless_truncated := h.length_eq
  lowered := by
    intro hitem
    obtain ⟨found, hnext⟩ := Option.ne_none_iff_exists'.mp (mt call_fst_eq_none_iff.mpr hitem)
    rw [call_of_some hnext]
    exact remaining_lt_of_next? hnext
  truncated_last := by
    intro htruncated
    rw [h.call.1] at htruncated
    obtain ⟨rest, rfl⟩ := List.head?_eq_some_iff.mp htruncated
    rw [h.eq_nil_of_truncated]
  ended := by
    intro hended calls
    rwa [after_of_none (call_fst_eq_none_iff.mp hended)]

end Cursor

/--
An iteration keeps its contract in every state, whatever the payload.  There is
one list of items such that each call gives the next of them, and none once the
list is used up.  It has at most as many items as the count announces, and
without the truncation at most as many as headers fit into the body.  After any
number of calls the items still to come lie within the bounds, and are as many
as the upper one unless they end with a truncation; a call that gives an item
lowers the upper bound; and nothing comes behind a truncation or an end.
-/
theorem iteration_keeps_contract (count : UInt8) (body : Bytes) :
    parse (count :: body) = .ok ⟨count, body⟩ ∧
    ∃ items : List Item,
      items.length ≤ count.toNat ∧
      items.countP (· ≠ .error .truncated) ≤ body.length / 7 ∧
      ∀ calls, ((cursor ⟨count, body⟩).after calls).call.1 = items[calls]? ∧
        ((cursor ⟨count, body⟩).after calls).Contract (items.drop calls) := by
  have hyields := Cursor.yields_readItems count.toNat body
  refine ⟨rfl, _, hyields.length_le, ?_, fun calls => ?_⟩
  · exact (Nat.le_div_iff_mul_le (by decide)).mpr hyields.countP_complete_le
  · have hafter := hyields.after calls
    rw [← List.head?_drop]
    exact ⟨hafter.call.1, hafter.contract⟩

/-- Behind the first record two more are announced, and a truncation comes in their place. -/
example :
    let start := cursor ⟨3, [1, 0, 0, 0, 9, 0, 0, 255, 255]⟩
    (start.after 1).bounds = (0, 2) ∧ (start.after 1).call.1 = some (.error .truncated) ∧
      (start.after 2).bounds = (0, 0) ∧ (start.after 2).call.1 = none := by
  decide

end Watchface.Dictionary
