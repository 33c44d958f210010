import Watchface.Proofs.Dictionary.Records
import Watchface.Proofs.Settings.LastValue
import Watchface.Simulator

/-!
# Messages that are joined

Two messages can be sent as one, with the records of the second behind those of
the first, as long as the first is whole and the count byte has room for both.
The settings take from the joined message what they take from the two, and its
report counts what theirs count.  A change is reported of the joined message
if it is there in the end: the second part may have taken it back.
-/

namespace Watchface

namespace Dictionary

variable {first second : Dictionary}

/-- The body is made of as many records as are announced, and of nothing else. -/
def Whole (message : Dictionary) : Prop :=
  ∃ records : List Record, (∀ record ∈ records, record.Fits) ∧
    records.length = message.size ∧ layout records = message.body

def joined (first second : Dictionary) : Bytes :=
  UInt8.ofNat (first.size + second.size) :: (first.body ++ second.body)

theorem Whole.items_joined (whole : first.Whole) (counted : first.size + second.size ≤ 255) :
    ∃ message, parse (first.joined second) = .ok message ∧
      message.items = first.items ++ second.items := by
  refine ⟨_, rfl, ?_⟩
  obtain ⟨records, hfits, hsize, hbody⟩ := whole
  have hcount : (UInt8.ofNat (first.size + second.size)).toNat = records.length + second.size := by
    rw [UInt8.toNat_ofNat', hsize]
    omega
  have hfirst : first.items = records.map Record.toTuple := by
    rw [items, ← hsize, ← hbody, readItems_layout hfits]
  rw [hfirst, items, size, hcount, ← hbody]
  exact readItems_layout_append hfits second.size second.body

end Dictionary

namespace Settings

theorem mergeItems_append (settings : Settings) (first second : List Dictionary.Item) :
    settings.mergeItems (first ++ second) =
      ((settings.mergeItems first).1 ++ ((settings.mergeItems first).2.mergeItems second).1,
        ((settings.mergeItems first).2.mergeItems second).2) := by
  induction first generalizing settings with
  | nil => rfl
  | cons item first ih => simp only [List.cons_append, mergeItems, ih]

/-- Of two steps the whole shows a change only if one of them does, and if only one does. -/
def ShowsEither (one two whole : Bool) : Prop :=
  (whole = true → one = true ∨ two = true) ∧
    (¬ (one = true ∧ two = true) → whole = (one || two))

theorem showsEither_bne {α : Type} [DecidableEq α] (before between after : α) :
    ShowsEither (between != before) (after != between) (after != before) := by
  by_cases hone : between = before
  · subst hone
    simp [ShowsEither]
  · by_cases htwo : after = between
    · subst htwo
      simp [ShowsEither]
    · simp [ShowsEither, hone, htwo]

/-- The report on one message in the place of two. -/
structure Update.Composes (one two whole : Update) : Prop where
  applied : whole.applied = one.applied + two.applied
  ignored : whole.ignored = one.ignored + two.ignored
  rejected : whole.rejected = one.rejected + two.rejected
  weatherRefreshChanged :
    ShowsEither one.weatherRefreshChanged two.weatherRefreshChanged whole.weatherRefreshChanged
  tickUnitChanged : ShowsEither one.tickUnitChanged two.tickUnitChanged whole.tickUnitChanged

theorem composes_update (first second : List Verdict) (before between after : Settings) :
    Update.Composes (update first before between) (update second between after)
      (update (first ++ second) before after) where
  applied := List.count_append
  ignored := List.count_append
  rejected := List.count_append
  weatherRefreshChanged := showsEither_bne _ _ _
  tickUnitChanged := showsEither_bne _ _ _

theorem merge_of_items_append {first second message : Dictionary}
    (joins : message.items = first.items ++ second.items) (settings : Settings) :
    (settings.merge message).2 = ((settings.merge first).2.merge second).2 ∧
      Update.Composes (settings.merge first).1 ((settings.merge first).2.merge second).1
        (settings.merge message).1 := by
  simp only [merge, joins, mergeItems_append, true_and]
  exact composes_update _ _ _ _ _

end Settings

namespace Store

open Dictionary (parse)

variable {first second : Dictionary}

/--
A whole message and any other one can be merged as one.  The joined message
makes the same settings of a store as the two do, one after the other, and its
report is composed of theirs: the counts add up, and of a change it shows
whether it has lasted.
-/
theorem joined_messages_compose {σ : Type} (host : Host σ) (state : σ) (store : Store)
    (whole : first.Whole) (counted : first.size + second.size ≤ 255) :
    ∃ message, parse (first.joined second) = .ok message ∧
      let one := (store.merge first).run host state
      let two := (one.value.2.merge second).run host one.state
      let both := (store.merge message).run host state
      both.value.2 = two.value.2 ∧ one.value.1.Composes two.value.1 both.value.1 := by
  obtain ⟨message, hparse, hitems⟩ := whole.items_joined counted
  obtain ⟨hsettings, hreport⟩ := Settings.merge_of_items_append hitems store.settings
  refine ⟨message, hparse, ?_⟩
  simp only [run_merge, hsettings, true_and]
  exact hreport

/-- The second message is cut short, but first it takes back what the first one has changed. -/
theorem change_taken_back_is_not_reported :
    let first : Dictionary := ⟨1, [29, 0, 0, 0, 2, 1, 0, 60]⟩
    let second : Dictionary := ⟨2, [29, 0, 0, 0, 2, 1, 0, 30, 32, 0]⟩
    let store := ofPlatform .colorRect
    let watch := Simulator.initial 0 fun _ => none
    first.Whole ∧ first.size + second.size ≤ 255 ∧
      ∃ message, parse (first.joined second) = .ok message ∧
        let one := (store.merge first).run Simulator.host watch
        let two := (one.value.2.merge second).run Simulator.host one.state
        let both := (store.merge message).run Simulator.host watch
        one.value.1 = ⟨1, 0, 0, true, false⟩ ∧ two.value.1 = ⟨1, 0, 1, true, false⟩ ∧
          both.value.2 = two.value.2 ∧ both.value.2.settings.weatherRefresh = 30 ∧
          both.value.1 = ⟨2, 0, 1, false, false⟩ := by
  intro first second store watch
  have hwhole : first.Whole := ⟨[⟨29, 2, [60]⟩], by decide, rfl, rfl⟩
  have hcounted : first.size + second.size ≤ 255 := by decide
  obtain ⟨message, hparse, hsettings, hreport⟩ :=
    joined_messages_compose Simulator.host watch store hwhole hcounted
  obtain rfl := Except.ok.inj hparse
  exact ⟨hwhole, hcounted, _, hparse, by decide, by decide, hsettings, by decide, by decide⟩

end Store

end Watchface
