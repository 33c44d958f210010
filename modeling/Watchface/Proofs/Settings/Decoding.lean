import Mathlib.Data.Nat.Digits.Defs
import Watchface.Proofs.Dictionary.Canonical
import Watchface.Proofs.Settings.RoundTrip

/-!
# Decoding settings

A setting is decoded from the integer that a tuple denotes, in whatever type
and width it comes: every integer in the range of the setting is taken, and
nothing else is.  `Denotes` says which integer that is, by the digits of the
value and two's complement; `Refuses` says why any other tuple is refused.
-/

namespace Watchface

def digits (value : Bytes) : Nat := Nat.ofDigits 256 (value.map UInt8.toNat)

def span (width : Nat) : Nat := Nat.pow 256 width

def IsWidth (width : Nat) : Prop := width = 1 ∨ width = 2 ∨ width = 4

/-- Two's complement: an integer with these digits, as near to zero as there is one. -/
structure TwosComplement (value : Bytes) (n : Int) : Prop where
  digits_eq : n % span value.length = digits value
  low : -span value.length ≤ n * 2
  high : n * 2 < span value.length

inductive Tuple.Denotes : Tuple → Int → Prop
  | unsigned {key : UInt32} {value : Bytes} (width : IsWidth value.length) :
      Denotes ⟨key, .uint, value⟩ (digits value)
  | signed {key : UInt32} {value : Bytes} {n : Int} (width : IsWidth value.length)
      (complement : TwosComplement value n) : Denotes ⟨key, .int, value⟩ n

theorem digits_eq_decode (value : Bytes) : digits value = LittleEndian.decode value := by
  induction value with
  | nil => rfl
  | cons byte value ih =>
      rw [digits] at ih
      rw [digits, List.map_cons, Nat.ofDigits_cons, ih, LittleEndian.decode_cons]

theorem isWidth_iff {width : Nat} : IsWidth width ↔ width ∈ Tuple.integerWidths := by
  simp [IsWidth, Tuple.integerWidths]

theorem twosComplement_iff {value : Bytes} {n : Int} :
    TwosComplement value n ↔ n = LittleEndian.decodeSigned value := by
  have hspan : LittleEndian.decodeSigned value =
      Int.bmod (digits value) (span value.length) := by
    rw [digits_eq_decode]
    rfl
  have hpos : 0 < span value.length := Nat.pow_pos (by decide)
  have hlt : digits value < span value.length := by
    rw [digits_eq_decode]
    exact LittleEndian.decode_lt value
  rw [hspan]
  constructor
  · rintro ⟨hdigits, hlow, hhigh⟩
    rw [← hdigits, Int.emod_bmod, Int.bmod_eq_of_le_mul_two hlow hhigh]
  · rintro rfl
    have hlow := Int.le_bmod (x := digits value) hpos
    have hhigh := Int.bmod_lt (x := digits value) hpos
    refine ⟨?_, by omega, by omega⟩
    rw [Int.bmod_emod]
    exact Int.emod_eq_of_lt (by omega) (by omega)

namespace Tuple

variable {tuple : Tuple} {n : Int}

def IsNumeric (tuple : Tuple) : Prop := tuple.type = .uint ∨ tuple.type = .int

def IsRaw (tuple : Tuple) : Prop := tuple.type = .byteArray ∨ tuple.type = .cString

theorem integer_of_numeric (numeric : tuple.IsNumeric) :
    (IsWidth tuple.value.length ∧ ∃ n, tuple.Denotes n ∧ tuple.integer = .ok n) ∨
      (¬ IsWidth tuple.value.length ∧
        tuple.integer = .error (.invalidWidth (UInt16.ofNat tuple.value.length))) := by
  obtain ⟨key, type, value⟩ := tuple
  by_cases hwidth : IsWidth value.length
  · left
    have hknown : value.length ∈ integerWidths := isWidth_iff.mp hwidth
    rcases numeric with rfl | rfl
    · refine ⟨hwidth, _, .unsigned hwidth, ?_⟩
      simp only [integer, if_pos hknown, digits_eq_decode]
    · refine ⟨hwidth, _, .signed hwidth (twosComplement_iff.mpr rfl), ?_⟩
      simp only [integer, if_pos hknown]
  · right
    have hunknown : value.length ∉ integerWidths := mt isWidth_iff.mpr hwidth
    rcases numeric with rfl | rfl <;>
      exact ⟨hwidth, by simp only [integer, if_neg hunknown]⟩

theorem integer_of_raw (raw : tuple.IsRaw) : tuple.integer = .error .notAnInteger := by
  rcases raw with htype | htype <;> simp only [integer, htype]

theorem numeric_or_raw (tuple : Tuple) : tuple.IsNumeric ∨ tuple.IsRaw := by
  cases htype : tuple.type <;> simp [IsNumeric, IsRaw, htype]

theorem Denotes.isNumeric (h : tuple.Denotes n) : tuple.IsNumeric := by
  cases h with
  | unsigned => exact .inl rfl
  | signed => exact .inr rfl

theorem Denotes.isWidth (h : tuple.Denotes n) : IsWidth tuple.value.length := by
  cases h with
  | unsigned width => exact width
  | signed width => exact width

theorem Denotes.unique {m : Int} (h : tuple.Denotes n) (hm : tuple.Denotes m) : m = n := by
  cases h with
  | unsigned => cases hm; rfl
  | signed _ complement =>
      cases hm with
      | signed _ other => rw [twosComplement_iff.mp complement, twosComplement_iff.mp other]

theorem denotes_iff : tuple.Denotes n ↔ tuple.integer = .ok n := by
  constructor
  · intro h
    rcases integer_of_numeric h.isNumeric with ⟨-, m, hm, hinteger⟩ | ⟨hwidth, -⟩
    · rw [hinteger, h.unique hm]
    · exact absurd h.isWidth hwidth
  · intro h
    rcases tuple.numeric_or_raw with hnumeric | hraw
    · rcases integer_of_numeric hnumeric with ⟨-, m, hm, hinteger⟩ | ⟨-, hinteger⟩
      · obtain rfl := Except.ok.inj (h.symm.trans hinteger)
        exact hm
      · rw [hinteger] at h
        contradiction
    · rw [integer_of_raw hraw] at h
      contradiction

end Tuple

/-! ## The range of a kind -/

namespace Setting

def Kind.greatest : Kind → Nat
  | .color | .byte => 255
  | .flag => 1
  | .word => 65535

def Value.toNat : Value → Nat
  | .color value => value.argb.toNat
  | .flag value => value.toNat
  | .byte value => value.toNat
  | .word value => value.toNat

def Kind.Admits (kind : Kind) (n : Int) : Prop := 0 ≤ n ∧ n ≤ kind.greatest

/-- Why a kind of settings refuses a tuple. -/
inductive Kind.Refuses (kind : Kind) (tuple : Tuple) : ReadError → Prop
  | raw (raw : tuple.IsRaw) : Refuses kind tuple (.wire .notAnInteger)
  | width {width : UInt16} (numeric : tuple.IsNumeric) (unknown : ¬ IsWidth tuple.value.length)
      (modulo : width.toNat = tuple.value.length % 65536) :
      Refuses kind tuple (.wire (.invalidWidth width))
  | outOfRange {n : Int} (denotes : tuple.Denotes n) (outside : ¬ kind.Admits n) :
      Refuses kind tuple (.outOfRange n)

variable {kind : Kind} {tuple : Tuple} {value : Value}

def Kind.valueOf (kind : Kind) (n : Int) : Value :=
  match kind with
  | .color => .color ⟨UInt8.ofNat n.toNat⟩
  | .flag => .flag (n == 1)
  | .byte => .byte (UInt8.ofNat n.toNat)
  | .word => .word (UInt16.ofNat n.toNat)

theorem Kind.decode_eq (kind : Kind) (tuple : Tuple) :
    kind.decode tuple = (tuple.readBetween 0 kind.greatest).map kind.valueOf := by
  have hmap : ∀ {α : Type} (first : Int → α) (second : α → Value) (read : Except ReadError Int),
      (read.map first).map second = read.map fun n => second (first n) := by
    intro α first second read
    cases read <;> rfl
  cases kind <;> exact hmap _ _ _

theorem Kind.valueOf_of_admits {n : Int} (h : kind.Admits n) :
    (kind.valueOf n).kind = kind ∧ (kind.valueOf n).toNat = n := by
  obtain ⟨hlow, hhigh⟩ := h
  cases kind with
  | color | byte =>
      simp only [greatest] at hhigh
      refine ⟨rfl, ?_⟩
      simp only [valueOf, Value.toNat, UInt8.toNat_ofNat']
      omega
  | flag =>
      simp only [greatest] at hhigh
      refine ⟨rfl, ?_⟩
      obtain rfl | rfl : n = 0 ∨ n = 1 := by omega
      · rfl
      · rfl
  | word =>
      simp only [greatest] at hhigh
      refine ⟨rfl, ?_⟩
      simp only [valueOf, Value.toNat, UInt16.toNat_ofNat']
      omega

theorem Value.admits_toNat (value : Value) : value.kind.Admits value.toNat := by
  refine ⟨Int.natCast_nonneg _, Int.ofNat_le.mpr ?_⟩
  cases value with
  | color value => exact Nat.le_of_lt_succ value.argb.toNat_lt
  | flag value => exact Bool.toNat_le value
  | byte value => exact Nat.le_of_lt_succ value.toNat_lt
  | word value => exact Nat.le_of_lt_succ value.toNat_lt

theorem Value.valueOf_toNat (value : Value) : value.kind.valueOf value.toNat = value := by
  cases value with
  | flag value => cases value <;> rfl
  | _ => simp [kind, Kind.valueOf, toNat]

theorem Kind.decode_eq_ok_iff :
    kind.decode tuple = .ok value ↔ value.kind = kind ∧ tuple.Denotes value.toNat := by
  rw [decode_eq, Tuple.denotes_iff]
  constructor
  · intro h
    cases hread : tuple.readBetween 0 kind.greatest with
    | error cause => simp [hread, Except.map] at h
    | ok n =>
        rw [hread] at h
        obtain rfl := Except.ok.inj h
        obtain ⟨hinteger, hrange⟩ := Tuple.readBetween_eq_ok_iff.mp hread
        have hadmits : kind.Admits n := hrange
        obtain ⟨hkind, hvalue⟩ := valueOf_of_admits hadmits
        rw [hvalue]
        exact ⟨hkind, hinteger⟩
  · rintro ⟨rfl, hinteger⟩
    have hread := Tuple.readBetween_eq_ok_iff.mpr ⟨hinteger, value.admits_toNat⟩
    rw [hread]
    exact congrArg Except.ok value.valueOf_toNat

theorem Kind.decode_of_error {cause : Dictionary.Error} (h : tuple.integer = .error cause) :
    kind.decode tuple = .error (.wire cause) := by
  rw [decode_eq, Tuple.readBetween, h]
  rfl

theorem Kind.decode_of_outside {n : Int} (denotes : tuple.Denotes n)
    (outside : ¬ kind.Admits n) : kind.decode tuple = .error (.outOfRange n) := by
  rw [Admits] at outside
  simp only [decode_eq, Tuple.readBetween, Tuple.denotes_iff.mp denotes, if_neg outside]
  rfl

theorem Kind.Refuses.decode_eq {error : ReadError} (h : kind.Refuses tuple error) :
    kind.decode tuple = .error error := by
  cases h with
  | raw raw => exact decode_of_error (Tuple.integer_of_raw raw)
  | @width width numeric unknown modulo =>
      rcases Tuple.integer_of_numeric numeric with ⟨hwidth, -⟩ | ⟨-, hinteger⟩
      · exact absurd hwidth unknown
      · have hreported : UInt16.ofNat tuple.value.length = width := by
          apply UInt16.toNat.inj
          rw [UInt16.toNat_ofNat', modulo]
        rw [decode_of_error hinteger, hreported]
  | outOfRange denotes outside => exact decode_of_outside denotes outside

theorem Kind.decodes_or_refuses (kind : Kind) (tuple : Tuple) :
    (∃ n, tuple.Denotes n ∧ kind.Admits n) ∨ ∃ error, kind.Refuses tuple error := by
  rcases tuple.numeric_or_raw with hnumeric | hraw
  · rcases Tuple.integer_of_numeric hnumeric with ⟨-, n, hdenotes, -⟩ | ⟨hwidth, -⟩
    · by_cases hadmits : kind.Admits n
      · exact .inl ⟨n, hdenotes, hadmits⟩
      · exact .inr ⟨_, .outOfRange hdenotes hadmits⟩
    · exact .inr ⟨_, .width hnumeric hwidth (UInt16.toNat_ofNat' ..)⟩
  · exact .inr ⟨_, .raw hraw⟩

theorem Kind.decode_of_admits {n : Int} (denotes : tuple.Denotes n) (admits : kind.Admits n) :
    kind.decode tuple = .ok (kind.valueOf n) := by
  obtain ⟨hkind, hvalue⟩ := valueOf_of_admits admits
  rw [← hvalue] at denotes
  exact decode_eq_ok_iff.mpr ⟨hkind, denotes⟩

theorem Kind.decode_eq_error_iff {error : ReadError} :
    kind.decode tuple = .error error ↔ kind.Refuses tuple error := by
  constructor
  · intro h
    rcases kind.decodes_or_refuses tuple with ⟨n, hdenotes, hadmits⟩ | ⟨other, hrefuses⟩
    · rw [decode_of_admits hdenotes hadmits] at h
      contradiction
    · obtain rfl := Except.error.inj (h.symm.trans hrefuses.decode_eq)
      exact hrefuses
  · exact Refuses.decode_eq

theorem Kind.exists_decode_iff :
    (∃ value, kind.decode tuple = .ok value) ↔ ∃ n, tuple.Denotes n ∧ kind.Admits n := by
  constructor
  · rintro ⟨value, h⟩
    obtain ⟨rfl, hdenotes⟩ := decode_eq_ok_iff.mp h
    exact ⟨value.toNat, hdenotes, value.admits_toNat⟩
  · rintro ⟨n, hdenotes, hadmits⟩
    exact ⟨kind.valueOf n, decode_of_admits hdenotes hadmits⟩

theorem Kind.decode_congr {other : Tuple} {n : Int} (denotes : tuple.Denotes n)
    (same : other.Denotes n) : kind.decode other = kind.decode tuple := by
  rw [decode_eq, decode_eq, Tuple.readBetween, Tuple.readBetween, Tuple.denotes_iff.mp denotes,
    Tuple.denotes_iff.mp same]

/-! ## Values in any type and width -/

def Holds (type : WireType) (width n : Nat) : Prop :=
  type = .uint ∧ n < span width ∨ type = .int ∧ n * 2 < span width

theorem denotes_encode {type : WireType} {width n : Nat} (known : IsWidth width)
    (holds : Holds type width n) (key : UInt32) :
    Tuple.Denotes ⟨key, type, LittleEndian.encode width n⟩ n := by
  rw [Tuple.denotes_iff]
  rcases holds with ⟨rfl, hlt⟩ | ⟨rfl, hlt⟩
  · exact Tuple.integer_encode_uint key (isWidth_iff.mp known) hlt
  · have hbmod : Int.bmod n (span width) = n :=
      Int.bmod_eq_of_le_mul_two (by omega) (by omega)
    have hinteger := Tuple.integer_encode_int key (isWidth_iff.mp known) (n := n) (by
      rw [span] at hlt
      omega)
    rw [hinteger]
    exact congrArg Except.ok hbmod

theorem length_of_read {message : Dictionary} (h : .ok tuple ∈ message.items) :
    tuple.value.length < 65536 := by
  rw [Dictionary.items, Dictionary.readItems_eq, List.mem_append] at h
  rcases h with h | h
  · obtain ⟨record, hrecord, htuple⟩ := List.mem_map.mp h
    have hfits := (Dictionary.laidOut_readRecords _ _).fits record hrecord
    rw [Dictionary.Record.eq_ofTuple_of_toTuple htuple] at hfits
    exact hfits
  · split at h <;> simp at h

/--
Every kind decodes exactly the integers in its range, whatever their type and
width, and the value stands for the integer.  A tuple without an integer is
refused for its type or else for its width, which is the true one in every
message, and an integer out of range is reported.  Tuples that denote the same
integer decode alike, so a value is read back from every type and width that
can hold it.  A decoded value can be written to its setting.
-/
theorem integers_in_range_are_decoded (kind : Kind) (tuple : Tuple) :
    ((∃ value, kind.decode tuple = .ok value) ↔ ∃ n, tuple.Denotes n ∧ kind.Admits n) ∧
    (∀ value, kind.decode tuple = .ok value ↔ value.kind = kind ∧ tuple.Denotes value.toNat) ∧
    (∀ error, kind.decode tuple = .error error ↔ kind.Refuses tuple error) ∧
    (∀ (message : Dictionary) (width : UInt16), .ok tuple ∈ message.items →
      kind.decode tuple = .error (.wire (.invalidWidth width)) →
      width.toNat = tuple.value.length) ∧
    (∀ (other : Tuple) (n : Int), tuple.Denotes n → other.Denotes n →
      kind.decode other = kind.decode tuple) ∧
    (∀ (value : Value) (type : WireType) (width : Nat) (key : UInt32), IsWidth width →
      Holds type width value.toNat →
      value.kind.decode ⟨key, type, LittleEndian.encode width value.toNat⟩ = .ok value) ∧
    ∀ (setting : Setting) (value : Value) (settings : Settings),
      setting.decode tuple = .ok value → (settings.set? setting value).isSome = true := by
  refine ⟨Kind.exists_decode_iff, fun _ => Kind.decode_eq_ok_iff, fun _ => Kind.decode_eq_error_iff,
    ?_, fun _ _ => Kind.decode_congr, ?_, fun _ _ => Settings.isSome_set?_of_decode⟩
  · intro message width hmem hdecode
    cases Kind.decode_eq_error_iff.mp hdecode with
    | width _ _ modulo => rw [modulo, Nat.mod_eq_of_lt (length_of_read hmem)]
  · intro value type width key hwidth hholds
    exact Kind.decode_eq_ok_iff.mpr ⟨rfl, denotes_encode hwidth hholds key⟩

-- the same byte is in range without a sign, and with a sign only in a greater width
example :
    Kind.byte.decode ⟨0, .uint, [255]⟩ = .ok (.byte 255) ∧
      Kind.byte.decode ⟨0, .int, [255]⟩ = .error (.outOfRange (-1)) ∧
      Kind.byte.decode ⟨0, .int, [255, 0]⟩ = .ok (.byte 255) := by
  decide +kernel

end Setting

end Watchface
