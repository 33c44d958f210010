import Watchface.Proofs.Dictionary.Keys
import Watchface.Proofs.Settings.LastValue
import Watchface.Weather

/-!
# Payloads that are cut short

A payload that loses its tail is read as far as its records are complete, and
the loss is reported once, at the end.  Since no tuple comes from a record that
is damaged, the settings and the weather take from such a payload what its
complete records say.  A payload that was not cut itself may be followed by any
bytes.
-/

namespace Watchface

namespace Dictionary

variable {count : Nat} {body kept : Bytes} {records : List Record}

theorem LaidOut.mono (h : LaidOut count kept records) (short : kept <+: body) :
    LaidOut count body records := by
  obtain ⟨trailing, hkept⟩ := h.leading
  obtain ⟨rest, hbody⟩ := short
  refine ⟨h.fits, h.announced, trailing ++ rest, ?_⟩
  rw [← List.append_assoc, ← hkept, hbody]

theorem LaidOut.layout_isPrefix (h : LaidOut count body records) : layout records <+: body := by
  obtain ⟨trailing, hbody⟩ := h.leading
  exact ⟨trailing, hbody.symm⟩

theorem LaidOut.take (h : LaidOut count body records) (k : Nat) :
    LaidOut count body (records.take k) := by
  have hsplit : layout records = layout (records.take k) ++ layout (records.drop k) := by
    rw [← layout_append, List.take_append_drop]
  obtain ⟨trailing, hbody⟩ := h.leading
  constructor
  case fits =>
    intro record hmem
    exact h.fits record (List.mem_of_mem_take hmem)
  case announced =>
    have hannounced := h.announced
    rw [List.length_take]
    omega
  case leading =>
    refine ⟨layout (records.drop k) ++ trailing, ?_⟩
    rw [hbody, hsplit, List.append_assoc]

theorem LaidOut.of_length_le (h : LaidOut count body records) (short : kept <+: body)
    (room : (layout records).length ≤ kept.length) : LaidOut count kept records := by
  obtain ⟨trailing, hkept⟩ := List.prefix_of_prefix_length_le h.layout_isPrefix short room
  exact ⟨h.fits, h.announced, trailing, hkept.symm⟩

/-- The first records, as many as lie wholly in the given number of bytes. -/
structure Within (room : Nat) (records : List Record) (k : Nat) : Prop where
  counted : k ≤ records.length
  inside : (layout (records.take k)).length ≤ room
  next : k < records.length → room < (layout (records.take (k + 1))).length

theorem Longest.exists_within (h : Longest count body records) (short : kept <+: body) :
    ∃ k, Within kept.length records k ∧ Longest count kept (records.take k) := by
  have hlongest := longest_readRecords count kept
  generalize (readRecords count kept).1 = found at hlongest
  have hfound : found = records.take found.length := by
    have htake := (hlongest.1.mono short).eq_take
    rwa [← h.eq_readRecords] at htake
  have hcounted : found.length ≤ records.length := h.2 found (hlongest.1.mono short)
  refine ⟨found.length, ⟨hcounted, ?_, fun hmore => ?_⟩, ?_⟩
  · rw [← hfound]
    exact hlongest.1.layout_isPrefix.length_le
  · -- one more record that had room in the prefix would be laid out there
    by_contra hroom
    rw [Nat.not_lt] at hroom
    have hnext := hlongest.2 _ ((h.1.take (found.length + 1)).of_length_le short hroom)
    rw [List.length_take] at hnext
    omega
  · rwa [← hfound]

theorem truncated_not_mem_map (records : List Record) :
    .error .truncated ∉ records.map Record.toTuple := by
  intro hmem
  obtain ⟨record, -, hrecord⟩ := List.mem_map.mp hmem
  exact toTuple_ne_truncated record hrecord

theorem Longest.readItems_eq (h : Longest count body records) :
    readItems count body = records.map Record.toTuple ++
      if records.length < count then [.error .truncated] else [] := by
  rw [Dictionary.readItems_eq, ← h.eq_readRecords]

theorem Longest.take_readItems (h : Longest count body records) {k : Nat}
    (counted : k ≤ records.length) :
    (readItems count body).take k = (records.take k).map Record.toTuple := by
  rw [h.readItems_eq, List.take_append_of_le_length (by simpa using counted), List.map_take]

theorem Longest.truncated_mem_iff (h : Longest count body records) :
    .error .truncated ∈ readItems count body ↔ records.length < count := by
  have hcomplete := truncated_not_mem_map records
  rw [h.readItems_eq, List.mem_append]
  by_cases hmissing : records.length < count
  · simp [hmissing]
  · simpa [hmissing] using hcomplete

theorem Longest.readItems_cut (h : Longest count body records) {k : Nat}
    (short : Longest count kept (records.take k)) (counted : k ≤ records.length) :
    readItems count kept = readItems count body ∨
      readItems count kept = (readItems count body).take k ++ [.error .truncated] := by
  have hlength : (records.take k).length = k := List.length_take_of_le counted
  rw [short.readItems_eq, hlength, h.take_readItems counted]
  by_cases hmissing : k < count
  · right
    rw [if_pos hmissing]
  · left
    have hannounced := h.1.announced
    have hall : records.take k = records := List.take_of_length_le (by omega)
    rw [h.readItems_eq, hall, if_neg hmissing, if_neg (by omega)]

theorem readItems_append (whole : .error .truncated ∉ readItems count body) (more : Bytes) :
    readItems count (body ++ more) = readItems count body := by
  have hbody := longest_readRecords count body
  have hlonger := longest_readRecords count (body ++ more)
  generalize (readRecords count (body ++ more)).1 = records at hlonger
  obtain ⟨k, hwithin, hkept⟩ := hlonger.exists_within (List.prefix_append body more)
  rw [hkept.truncated_mem_iff, List.length_take] at whole
  have hannounced := hlonger.1.announced
  have hall : records.take k = records := List.take_of_length_le (by omega)
  rw [hall] at hkept
  rw [hlonger.readItems_eq, hkept.readItems_eq]

end Dictionary

/-! ## Effects -/

theorem Settings.mergeItems_concat_error (settings : Settings) (items : List Dictionary.Item)
    (cause : Dictionary.Error) :
    (settings.mergeItems (items ++ [.error cause])).2 = (settings.mergeItems items).2 := by
  refine eq_of_get fun setting => ?_
  have hnone : setting.lastValueIn? [.error cause] = none := rfl
  rw [get_mergeItems, get_mergeItems, Setting.lastValueIn?_append, hnone, Option.none_or]

namespace Dictionary

variable {message front : Dictionary} {records : List Record}

structure SameEffect (front message : Dictionary) : Prop where
  settings : ∀ settings : Settings, (settings.merge front).2 = (settings.merge message).2
  weather : ∀ (weather : Weather) (now : UInt32),
    weather.merge front now = weather.merge message now

theorem sameEffect_of_items (h : front.items = message.items ∨
    front.items = message.items ++ [.error .truncated]) : SameEffect front message := by
  have htuples : front.tuples = message.tuples := by
    rcases h with h | h <;> simp [tuples, h, Except.toOption]
  constructor
  case settings =>
    intro settings
    rcases h with h | h
    · simp only [Settings.merge, h]
    · simp only [Settings.merge, h, Settings.mergeItems_concat_error]
  case weather =>
    intro weather now
    simp only [Weather.merge, htuples]

theorem Longest.sameEffect (h : Longest front.size front.body records) :
    SameEffect front ⟨UInt8.ofNat records.length, layout records⟩ := by
  have hannounced : records.length ≤ front.count.toNat := h.1.announced
  have hcount : front.count.toNat < 256 := front.count.toNat_lt
  have hwhole := items_layout h.1.fits (by omega)
  apply sameEffect_of_items
  rw [hwhole, items, h.readItems_eq]
  by_cases hmissing : records.length < front.size
  · simp [hmissing]
  · simp [hmissing]

theorem SameEffect.run_merge (h : SameEffect front message) {σ : Type} (host : Host σ) (state : σ)
    (store : Store) : ((store.merge front).run host state).value.2 =
      ((store.merge message).run host state).value.2 := by
  simp only [Store.run_merge, h.settings]

theorem merge_congr_items (h : front.items = message.items) (store : Store) :
    store.merge front = store.merge message := by
  simp only [Store.merge, Settings.merge, h]

/--
A payload that is cut short anywhere behind its count byte is still read.  Let
`k` be the number of its complete records that lie wholly in what is left.  The
items are the same as before, or else the first `k` of them, none of which is a
truncation, and one truncation behind them.  Settings and weather become what
they become by the payload that holds these `k` records and nothing else.  If
the payload had no truncation, any bytes may follow it without any effect.
-/
theorem cutting_short_invents_nothing {payload cut : Bytes}
    (parses : parse payload = .ok message) (short : cut <+: payload) (nonempty : cut ≠ []) :
    (∃ front records k whole,
      parse cut = .ok front ∧ Longest message.size message.body records ∧
      Within front.body.length records k ∧
      (front.items = message.items ∨
        front.items = message.items.take k ++ [.error .truncated]) ∧
      .error .truncated ∉ message.items.take k ∧
      parse (payloadOf (records.take k)) = .ok whole ∧
      (∀ {σ : Type} (host : Host σ) (state : σ) (store : Store),
        ((store.merge front).run host state).value.2 =
          ((store.merge whole).run host state).value.2) ∧
      ∀ (weather : Weather) (now : UInt32), weather.merge front now = weather.merge whole now) ∧
    (.error .truncated ∉ message.items → ∀ more, ∃ longer,
      parse (payload ++ more) = .ok longer ∧ longer.items = message.items ∧
      (∀ store : Store, store.merge longer = store.merge message) ∧
      ∀ (weather : Weather) (now : UInt32),
        weather.merge longer now = weather.merge message now) := by
  cases payload with
  | nil => contradiction
  | cons count body =>
      rw [parse, Except.ok.injEq] at parses
      subst parses
      constructor
      · obtain ⟨kept, hcut, hkept⟩ := (List.prefix_cons_iff.mp short).resolve_left nonempty
        subst hcut
        have hbody := longest_readRecords count.toNat body
        obtain ⟨k, hwithin, hfront⟩ := hbody.exists_within hkept
        have hitems := hbody.take_readItems hwithin.counted
        have heffect : SameEffect ⟨count, kept⟩ _ := Longest.sameEffect hfront
        refine ⟨⟨count, kept⟩, _, k, _, rfl, hbody, hwithin, ?_, ?_, rfl, ?_, heffect.weather⟩
        · exact hbody.readItems_cut hfront hwithin.counted
        · rw [items, size, hitems]
          exact truncated_not_mem_map _
        · intro σ host state store
          exact heffect.run_merge host state store
      · intro hwhole more
        have hitems : items ⟨count, body ++ more⟩ = items ⟨count, body⟩ :=
          readItems_append hwhole more
        exact ⟨⟨count, body ++ more⟩, rfl, hitems, merge_congr_items hitems,
          (sameEffect_of_items (.inl hitems)).weather⟩

/-- The second of two records loses its last byte; before that, bytes may follow it. -/
theorem second_record_is_lost :
    let payload : Bytes := [2, 32, 0, 0, 0, 2, 1, 0, 1, 102, 0, 0, 0, 3, 1, 0, 20]
    let message : Dictionary := ⟨2, payload.tail⟩
    let front : Dictionary := ⟨2, (payload.take 16).tail⟩
    let whole : Dictionary := ⟨1, [32, 0, 0, 0, 2, 1, 0, 1]⟩
    parse payload = .ok message ∧ payload.take 16 <+: payload ∧ payload.take 16 ≠ [] ∧
      parse (payload.take 16) = .ok front ∧
      front.items = message.items.take 1 ++ [.error .truncated] ∧
      (∀ (weather : Weather) (now : UInt32),
        weather.merge front now = weather.merge whole now) ∧
      items ⟨2, payload.tail ++ [7, 7]⟩ = message.items := by
  intro payload message front whole
  have hshort : payload.take 16 <+: payload := List.take_prefix 16 payload
  have hparse : parse payload = .ok message := rfl
  obtain ⟨⟨found, records, k, one, hfound, hlongest, hwithin, hitems, -, hone, -, hweather⟩,
    hlonger⟩ := cutting_short_invents_nothing hparse hshort (by decide)
  obtain ⟨longer, hparsed, hsame, -⟩ := hlonger (by decide) [7, 7]
  have hrecords : records = [⟨32, 2, [1]⟩, ⟨102, 3, [20]⟩] := hlongest.eq_readRecords
  have hfront : front = found := Except.ok.inj hfound
  have hafter : ⟨2, payload.tail ++ [7, 7]⟩ = longer := Except.ok.inj hparsed
  subst hfront hafter hrecords
  have hk : k = 1 := by
    obtain ⟨hcounted, hinside, hnext⟩ := hwithin
    simp only [List.length_cons, List.length_nil] at hcounted
    rcases (by omega : k = 0 ∨ k = 1 ∨ k = 2) with rfl | rfl | rfl
    · exact absurd (hnext (by decide)) (by decide)
    · rfl
    · exact absurd hinside (by decide)
  subst hk
  have hwhole : whole = one := Except.ok.inj hone
  subst hwhole
  exact ⟨hparse, hshort, by decide, rfl, hitems.resolve_left (by decide), hweather, hsame⟩

end Dictionary

end Watchface
