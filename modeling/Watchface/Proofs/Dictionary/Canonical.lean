import Watchface.Proofs.Dictionary.RoundTrip

/-!
# The one written form

A payload that reads as sound tuples has no freedom left: its count and its
records are what a builder writes for these tuples.  `Spells` says so of the
parsed dictionary.  Pushing the tuples again gives the payload back, up to the
bytes behind its last record, and two payloads without such bytes that read
alike are equal.
-/

namespace Watchface.Dictionary

theorem Record.eq_ofTuple_of_toTuple {record : Record} {tuple : Tuple}
    (h : record.toTuple = .ok tuple) : record = .ofTuple tuple := by
  unfold toTuple at h
  split at h
  · next type htype =>
    obtain rfl := Except.ok.inj h
    rw [WireType.ofByte?_eq_some_iff] at htype
    simp only [ofTuple, ← htype]
  · contradiction

theorem eq_map_ofTuple {records : List Record} {tuples : List Tuple}
    (h : records.map Record.toTuple = tuples.map .ok) : records = tuples.map .ofTuple := by
  induction records generalizing tuples with
  | nil =>
      rw [List.map_nil, eq_comm, List.map_eq_nil_iff] at h
      rw [h, List.map_nil]
  | cons record records ih =>
      cases tuples with
      | nil => contradiction
      | cons tuple tuples =>
          simp only [List.map_cons, List.cons.injEq] at h
          rw [List.map_cons, ← ih h.2, ← Record.eq_ofTuple_of_toTuple h.1]

theorem le_length_of_readItems {count : Nat} {body : Bytes} {tuples : List Tuple}
    (h : readItems count body = tuples.map .ok) : count ≤ (readRecords count body).1.length := by
  by_contra hshort
  rw [readItems_eq, if_pos (Nat.not_le.mp hshort)] at h
  have hmem : (.error .truncated : Item) ∈ tuples.map .ok :=
    h ▸ List.mem_append_right _ List.mem_cons_self
  simp at hmem

theorem readRecords_eq_of_readItems {count : Nat} {body : Bytes} {tuples : List Tuple}
    (h : readItems count body = tuples.map .ok) :
    (readRecords count body).1 = tuples.map .ofTuple := by
  have hcount := Nat.not_lt.mpr (le_length_of_readItems h)
  rw [readItems_eq, if_neg hcount, List.append_nil] at h
  exact eq_map_ofTuple h

/-- The count and the body of a dictionary that holds the tuples, and bytes behind them. -/
structure Spells (dictionary : Dictionary) (tuples : List Tuple) (trailing : Bytes) : Prop where
  size_eq : dictionary.size = tuples.length
  fits : ∀ tuple ∈ tuples, (Record.ofTuple tuple).Fits
  body_eq : dictionary.body = layout (tuples.map .ofTuple) ++ trailing

variable {dictionary : Dictionary} {tuples : List Tuple} {last : Cursor}

theorem spells_of_yields (reads : dictionary.cursor.Yields (tuples.map .ok) last) :
    last.remaining = 0 ∧ dictionary.Spells tuples last.rest := by
  obtain ⟨hitems, rfl⟩ := (Cursor.yields_readItems dictionary.size dictionary.body).unique reads
  have hrecords := readRecords_eq_of_readItems hitems.symm
  have hlaid := laidOut_readRecords dictionary.size dictionary.body
  have hcount := Nat.le_antisymm (le_length_of_readItems hitems.symm) hlaid.announced
  refine ⟨rfl, ?_, ?_, ?_⟩
  · rw [hcount, hrecords, List.length_map]
  · intro tuple hmem
    exact hlaid.fits _ (hrecords ▸ List.mem_map_of_mem hmem)
  · rw [← hrecords]
    exact (layout_readRecords dictionary.size dictionary.body).symm

theorem Spells.payload_eq {payload trailing : Bytes} (h : dictionary.Spells tuples trailing)
    (parses : parse payload = .ok dictionary) :
    payload = UInt8.ofNat tuples.length :: layout (tuples.map .ofTuple) ++ trailing := by
  cases payload with
  | nil => contradiction
  | cons count body =>
      obtain rfl := Except.ok.inj parses
      have hcount : UInt8.ofNat tuples.length = count := by
        rw [← h.size_eq, size, UInt8.ofNat_toNat]
      have hbody : body = _ := h.body_eq
      rw [hcount, List.cons_append, ← hbody]

/-! ## Writing the tuples again -/

namespace Builder

variable {capacity : Nat} {builder written : Builder capacity} {held more : List Tuple}

theorem accepted_all {α : Type} (calls : List α) :
    accepted calls (calls.map fun _ => .ok ()) = calls :=
  accepted_of_forall (by simp) (by simp)

theorem Holds.payload_eq (h : builder.Holds held) :
    builder.payload = UInt8.ofNat held.length :: layout (held.map .ofTuple) := by
  rw [payload, ← h.records_eq, ← h.count_eq, UInt8.ofNat_toNat]

theorem Holds.push_of_room {tuple : Tuple} (h : builder.Holds held)
    (fits : (Record.ofTuple tuple).Fits) (counted : held.length < 255)
    (room : builder.used + (Record.ofTuple tuple).encode.length ≤ capacity) :
    ∃ written, builder.push tuple = .ok written ∧
      written.used = builder.used + (Record.ofTuple tuple).encode.length := by
  have hcount : builder.count ≠ 255 := by
    intro hfull
    have hlength := h.count_eq
    rw [hfull] at hlength
    have hnum : (255 : UInt8).toNat = 255 := rfl
    omega
  refine ⟨_, push_eq_ok_iff.mpr ⟨hcount, fits, room, rfl⟩, ?_⟩
  simp only [used, List.length_append]
  omega

theorem Holds.pushAll_of_room (h : builder.Holds held)
    (fits : ∀ tuple ∈ more, (Record.ofTuple tuple).Fits)
    (counted : held.length + more.length ≤ 255)
    (room : builder.used + (layout (more.map .ofTuple)).length ≤ capacity) :
    (builder.pushAll more).1 = more.map fun _ => .ok () := by
  induction more generalizing builder held with
  | nil => rfl
  | cons tuple more ih =>
      rw [List.forall_mem_cons] at fits
      simp only [List.map_cons, layout_cons, List.length_append, List.length_cons] at counted room
      obtain ⟨written, hpush, hused⟩ :=
        h.push_of_room fits.1 (by omega) (by omega)
      have htail := ih (h.push hpush) fits.2 (by simp; omega) (by omega)
      simp only [Builder.pushAll, hpush, htail, List.map_cons]

end Builder

/--
A payload that reads as sound tuples to its end is written back byte for byte,
as far as it was read: a new builder with room for that many bytes takes all of
the tuples, and its payload is the part that was read.  There is no other
payload that ends with its last record and reads as the same tuples.
-/
theorem rewriting_restores_payload {payload : Bytes} (parses : parse payload = .ok dictionary)
    (reads : dictionary.cursor.Yields (tuples.map .ok) last) :
    ∃ consumed, payload = consumed ++ last.rest ∧ last.remaining = 0 ∧
      tuples.length = dictionary.size ∧
      (∀ capacity, consumed.length ≤ capacity →
        ∃ fresh : Builder capacity, Builder.empty capacity = .ok fresh ∧
          ∃ written, fresh.pushAll tuples = (tuples.map fun _ => .ok (), written) ∧
            written.payload = consumed) ∧
      ∀ other message, parse other = .ok message →
        message.cursor.Yields (tuples.map .ok) ⟨0, []⟩ → other = consumed := by
  obtain ⟨hremaining, hspells⟩ := spells_of_yields reads
  refine ⟨_, hspells.payload_eq parses, hremaining, hspells.size_eq.symm, ?_, ?_⟩
  · intro capacity hroom
    rw [List.length_cons] at hroom
    have hempty : Builder.empty capacity = .ok (⟨0, []⟩ : Builder capacity) :=
      Builder.empty_eq_ok.mpr ⟨by omega, rfl⟩
    have hcounted : tuples.length ≤ 255 := by
      have hlt : dictionary.count.toNat < 256 := dictionary.count.toNat_lt
      have hsize : dictionary.count.toNat = tuples.length := hspells.size_eq
      omega
    have hfresh := Builder.holds_empty hempty
    have hall := hfresh.pushAll_of_room hspells.fits (by simpa using hcounted)
      (by simp [Builder.used, headerSize]; omega)
    have hholds := hfresh.pushAll tuples
    rw [hall, Builder.accepted_all, List.nil_append] at hholds
    exact ⟨⟨0, []⟩, hempty, _, Prod.ext hall rfl, hholds.payload_eq⟩
  · intro other message hparses hreads
    have hother := (spells_of_yields hreads).2.payload_eq hparses
    rwa [List.append_nil] at hother

/-- Two tuples, one of them without a value, and two bytes behind them that are not written. -/
theorem tail_is_not_rewritten :
    let tuples : List Tuple := [.ofInt16 5 (-300), .ofBytes 6 []]
    let consumed : Bytes := [2, 5, 0, 0, 0, 3, 2, 0, 212, 254, 6, 0, 0, 0, 0, 0, 0]
    let dictionary : Dictionary := ⟨2, consumed.tail ++ [9, 9]⟩
    parse (consumed ++ [9, 9]) = .ok dictionary ∧
      dictionary.cursor.Yields (tuples.map .ok) ⟨0, [9, 9]⟩ ∧
      ∃ written : Builder 17, (⟨0, []⟩ : Builder 17).pushAll tuples = ([.ok (), .ok ()], written) ∧
        written.payload = consumed := by
  intro tuples consumed dictionary
  have hparses : parse (consumed ++ [9, 9]) = .ok dictionary := rfl
  have hreads : dictionary.cursor.Yields (tuples.map .ok) ⟨0, [9, 9]⟩ :=
    .more rfl (.more rfl (.stop rfl))
  obtain ⟨found, hfound, -, -, hwritten, -⟩ := rewriting_restores_payload hparses hreads
  obtain rfl : consumed = found := List.append_cancel_right hfound
  obtain ⟨fresh, hempty, written, hpush, hpayload⟩ := hwritten 17 (by decide)
  obtain ⟨-, rfl⟩ := Builder.empty_eq_ok.mp hempty
  exact ⟨hparses, hreads, written, hpush, hpayload⟩

end Watchface.Dictionary
