import Watchface.Settings.Store

/-!
# The last readable value wins

What a message does to the settings can be said without going through it item
by item: each setting takes the value of the last tuple of its key that it can
read, and keeps its own where there is none.  `Judges` lists the four ways in
which a single item can be judged.  The report of a message counts them.
-/

namespace Watchface

open Dictionary (Item)

namespace Setting

theorem key_inj {first second : Setting} (h : first.key = second.key) : first = second := by
  have hfirst := ofKey?_key first
  rw [h, ofKey?_key, Option.some.injEq] at hfirst
  exact hfirst.symm

/-- The value that an item gives to a setting, if it is a tuple of its key that can be read. -/
def valueIn? (setting : Setting) : Item → Option Value
  | .error _ => none
  | .ok tuple =>
      if tuple.key = setting.key then (setting.decode tuple).toOption else none

def lastValueIn? (setting : Setting) (items : List Item) : Option Value :=
  (items.filterMap setting.valueIn?).getLast?

@[simp] theorem lastValueIn?_nil (setting : Setting) : setting.lastValueIn? [] = none := rfl

theorem lastValueIn?_append (setting : Setting) (first second : List Item) :
    setting.lastValueIn? (first ++ second) =
      (setting.lastValueIn? second).or (setting.lastValueIn? first) := by
  simp [lastValueIn?, List.getLast?_append]

theorem lastValueIn?_cons (setting : Setting) (item : Item) (items : List Item) :
    setting.lastValueIn? (item :: items) =
      (setting.lastValueIn? items).or (setting.valueIn? item) := by
  have hitem : setting.lastValueIn? [item] = setting.valueIn? item := by
    cases h : setting.valueIn? item <;> simp [lastValueIn?, h]
  rw [← hitem, ← lastValueIn?_append, List.singleton_append]

/-- A tuple gives a value to the setting of its key and to no other. -/
theorem valueIn?_ok {setting : Setting} {tuple : Tuple} (key : setting.key = tuple.key)
    (other : Setting) :
    other.valueIn? (.ok tuple) =
      if other = setting then (setting.decode tuple).toOption else none := by
  by_cases heq : other = setting
  · simp [valueIn?, heq, key]
  · have hkey : tuple.key ≠ other.key := fun hsame =>
      heq (key_inj (hsame.symm.trans key.symm))
    simp [valueIn?, heq, hkey]

def isKeyOf (tuple : Tuple) : Bool := all.any fun setting => setting.key == tuple.key

theorem isKeyOf_iff {tuple : Tuple} :
    isKeyOf tuple = true ↔ ∃ setting : Setting, setting.key = tuple.key := by
  simp [isKeyOf, mem_all]

end Setting

namespace Settings

open Setting (isKeyOf)

def isReadable (item : Item) : Bool :=
  Setting.all.any fun setting => (setting.valueIn? item).isSome

def isForeign : Item → Bool
  | .error _ => false
  | .ok tuple => !isKeyOf tuple

def isDamaged : Item → Bool
  | .error _ => true
  | .ok _ => false

def isRefused : Item → Bool
  | .error _ => false
  | .ok tuple => isKeyOf tuple && !isReadable (.ok tuple)

theorem isReadable_iff {item : Item} :
    isReadable item = true ↔
      ∃ (setting : Setting) (value : Setting.Value), setting.valueIn? item = some value := by
  simp [isReadable, Setting.mem_all, Option.isSome_iff_exists]

theorem isSome_set?_of_decode {setting : Setting} {tuple : Tuple} {value : Setting.Value}
    (settings : Settings) (h : setting.decode tuple = .ok value) :
    (settings.set? setting value).isSome = true :=
  isSome_set?_iff.mpr (Setting.Kind.kind_of_decode h)

inductive Judges (settings : Settings) : Item → Verdict → Settings → Prop
  | applied {tuple : Tuple} {setting : Setting} {value : Setting.Value} {changed : Settings}
      (key : setting.key = tuple.key) (decodes : setting.decode tuple = .ok value)
      (sets : settings.set? setting value = some changed) :
      Judges settings (.ok tuple) .applied changed
  | ignored {tuple : Tuple} (foreign : ∀ setting : Setting, setting.key ≠ tuple.key) :
      Judges settings (.ok tuple) .ignored settings
  | refused {tuple : Tuple} {setting : Setting} {cause : ReadError}
      (key : setting.key = tuple.key) (refuses : setting.decode tuple = .error cause) :
      Judges settings (.ok tuple) .rejected settings
  | damaged {cause : Dictionary.Error} : Judges settings (.error cause) .rejected settings

theorem topic_ne_setting {key : UInt32} (foreign : ∀ setting : Setting, setting.key ≠ key)
    (setting : Setting) : Topic.ofKey key ≠ .setting setting := by
  have hnone : Setting.ofKey? key = none := by
    rw [Option.eq_none_iff_forall_not_mem]
    intro found hfound
    exact foreign found (Setting.ofKey?_eq_some_iff.mp hfound)
  unfold Topic.ofKey
  rw [hnone]
  cases Message.ofKey? key <;> simp

theorem mergeItem_of_decode {settings changed : Settings} {setting : Setting} {tuple : Tuple}
    {value : Setting.Value} (key : setting.key = tuple.key)
    (decodes : setting.decode tuple = .ok value)
    (sets : settings.set? setting value = some changed) :
    settings.mergeItem (.ok tuple) = (.applied, changed) := by
  have htopic : Topic.ofKey tuple.key = .setting setting := by
    simp [Topic.ofKey, ← key]
  simp only [mergeItem, htopic, decodes, sets]

theorem judges_mergeItem (settings : Settings) (item : Item) :
    settings.Judges item (settings.mergeItem item).1 (settings.mergeItem item).2 := by
  rcases item with cause | tuple
  · exact .damaged
  · by_cases hkey : ∃ setting : Setting, setting.key = tuple.key
    · rcases hkey with ⟨setting, hkey⟩
      cases hdecode : setting.decode tuple with
      | error cause =>
          have htopic : Topic.ofKey tuple.key = .setting setting := by
            simp [Topic.ofKey, ← hkey]
          simp only [mergeItem, htopic, hdecode]
          exact .refused hkey hdecode
      | ok value =>
          rcases Option.isSome_iff_exists.mp (isSome_set?_of_decode settings hdecode)
            with ⟨changed, hset⟩
          rw [mergeItem_of_decode hkey hdecode hset]
          exact .applied hkey hdecode hset
    · have hforeign : ∀ setting : Setting, setting.key ≠ tuple.key := fun setting heq =>
        hkey ⟨setting, heq⟩
      have hignored : settings.mergeItem (.ok tuple) = (.ignored, settings) := by
        unfold mergeItem
        split
        · contradiction
        · next heq =>
          rw [Except.ok.injEq] at heq
          subst heq
          split
          · next setting htopic => exact absurd htopic (topic_ne_setting hforeign setting)
          · rfl
      rw [hignored]
      exact .ignored hforeign

variable {settings after : Settings} {item : Item} {verdict : Verdict}

theorem Judges.get_eq (h : settings.Judges item verdict after) (setting : Setting) :
    after.get setting = (setting.valueIn? item).getD (settings.get setting) := by
  cases h with
  | applied key decodes sets =>
      rw [get_of_set? sets, Setting.valueIn?_ok key, decodes]
      split <;> rfl
  | ignored foreign => simp [Setting.valueIn?, (foreign setting).symm]
  | refused key refuses =>
      rw [Setting.valueIn?_ok key, refuses]
      split <;> rfl
  | damaged => rfl

theorem Judges.kinds (h : settings.Judges item verdict after) :
    isReadable item = (verdict == .applied) ∧ isForeign item = (verdict == .ignored) ∧
      (isDamaged item || isRefused item) = (verdict == .rejected) := by
  cases h with
  | @applied tuple setting value _ key decodes _ =>
      have hkey : isKeyOf tuple = true := Setting.isKeyOf_iff.mpr ⟨setting, key⟩
      have hvalue : setting.valueIn? (.ok tuple) = some value := by
        rw [Setting.valueIn?_ok key, if_pos rfl, decodes]
        rfl
      have hreadable := isReadable_iff.mpr ⟨setting, value, hvalue⟩
      simp [isForeign, isDamaged, isRefused, hkey, hreadable]
  | @ignored tuple foreign =>
      have hkey : isKeyOf tuple = false := by
        rw [Bool.eq_false_iff, Ne, Setting.isKeyOf_iff]
        rintro ⟨setting, heq⟩
        exact foreign setting heq
      have hreadable : isReadable (.ok tuple) = false := by
        rw [Bool.eq_false_iff, Ne, isReadable_iff]
        rintro ⟨setting, value, hvalue⟩
        simp [Setting.valueIn?, (foreign setting).symm] at hvalue
      simp [isForeign, isDamaged, isRefused, hkey, hreadable]
  | @refused tuple setting cause key refuses =>
      have hkey : isKeyOf tuple = true := Setting.isKeyOf_iff.mpr ⟨setting, key⟩
      have hreadable : isReadable (.ok tuple) = false := by
        rw [Bool.eq_false_iff, Ne, isReadable_iff]
        rintro ⟨other, value, hvalue⟩
        rw [Setting.valueIn?_ok key, refuses] at hvalue
        split at hvalue <;> contradiction
      simp [isForeign, isDamaged, isRefused, hkey, hreadable]
  | @damaged cause =>
      have hreadable : isReadable (.error cause) = false := by
        rw [Bool.eq_false_iff, Ne, isReadable_iff]
        rintro ⟨setting, value, hvalue⟩
        contradiction
      simp [isForeign, isDamaged, hreadable]

theorem get_mergeItems (settings : Settings) (items : List Item) (setting : Setting) :
    (settings.mergeItems items).2.get setting =
      (setting.lastValueIn? items).getD (settings.get setting) := by
  induction items generalizing settings with
  | nil => rfl
  | cons item items ih =>
      have hitem := (judges_mergeItem settings item).get_eq setting
      rw [mergeItems, ih, hitem, Setting.lastValueIn?_cons]
      cases setting.lastValueIn? items <;> rfl

theorem merge_twice (settings : Settings) (message : Dictionary) :
    ((settings.merge message).2.merge message).2 = (settings.merge message).2 := by
  refine eq_of_get fun setting => ?_
  simp only [merge, get_mergeItems]
  cases setting.lastValueIn? message.items <;> rfl

theorem length_verdicts (settings : Settings) (items : List Item) :
    (settings.mergeItems items).1.length = items.length := by
  induction items generalizing settings with
  | nil => rfl
  | cons item items ih => simp [mergeItems, ih]

theorem count_verdicts {kind : Item → Bool} {verdict : Verdict}
    (known : ∀ (settings : Settings) (item : Item),
      kind item = ((settings.mergeItem item).1 == verdict))
    (settings : Settings) (items : List Item) :
    (settings.mergeItems items).1.count verdict = items.countP kind := by
  induction items generalizing settings with
  | nil => rfl
  | cons item items ih =>
      rw [mergeItems, List.count_cons, ih, List.countP_cons, known settings item]

theorem length_eq_count_add (verdicts : List Verdict) :
    verdicts.count .applied + verdicts.count .ignored + verdicts.count .rejected =
      verdicts.length := by
  induction verdicts with
  | nil => rfl
  | cons verdict verdicts ih =>
      cases verdict <;> simp <;> omega

theorem countP_damaged_or_refused (items : List Item) :
    (items.countP fun item => isDamaged item || isRefused item) =
      items.countP isDamaged + items.countP isRefused := by
  induction items with
  | nil => rfl
  | cons item items ih =>
      rcases item with cause | tuple <;>
        simp [List.countP_cons, isDamaged, isRefused] at ih ⊢ <;> omega

end Settings

/-! ## Runs of messages -/

namespace Store

variable {σ : Type}

def mergeAll (store : Store) : List Dictionary → Dialogue Store
  | [] => return store
  | message :: messages => do
      let (_, merged) ← store.merge message
      merged.mergeAll messages

theorem run_merge (host : Host σ) (state : σ) (store : Store) (message : Dictionary) :
    (store.merge message).run host state =
      ⟨((store.settings.merge message).1,
          { store with settings := (store.settings.merge message).2 }),
        (host.answer .markDirty state).2, [⟨.markDirty, ()⟩]⟩ := rfl

theorem get_mergeAll (host : Host σ) (state : σ) (store : Store) (messages : List Dictionary)
    (setting : Setting) :
    ((store.mergeAll messages).run host state).value.settings.get setting =
      (setting.lastValueIn? (messages.flatMap Dictionary.items)).getD
        (store.settings.get setting) := by
  induction messages generalizing store state with
  | nil => rfl
  | cons message messages ih =>
      rw [mergeAll, Dialogue.run_bind, run_merge, List.flatMap_cons,
        Setting.lastValueIn?_append]
      simp only [ih, Settings.merge, Settings.get_mergeItems]
      cases setting.lastValueIn? (messages.flatMap Dictionary.items) <;> rfl

/--
After any messages, merging one more gives each setting the last value in it
that the setting can read, or leaves it as it was.  So the settings are at all
times the last readable values of the messages so far, or else the defaults.
The report of a message counts its items by their kinds, and says whether the
refresh interval and the tick are other than before.
-/
theorem last_readable_value_wins (host : Host σ) (state : σ) (platform : Platform)
    (messages : List Dictionary) (message : Dictionary) :
    let before := ((ofPlatform platform).mergeAll messages).run host state
    let merged := (before.value.merge message).run host before.state
    let report := merged.value.1
    let settings := merged.value.2.settings
    (∀ setting : Setting, settings.get setting =
      (setting.lastValueIn? message.items).getD (before.value.settings.get setting)) ∧
    (∀ setting : Setting, settings.get setting =
      (setting.lastValueIn? ((messages ++ [message]).flatMap Dictionary.items)).getD
        ((Settings.defaults platform).get setting)) ∧
    report.applied = message.items.countP Settings.isReadable ∧
    report.ignored = message.items.countP Settings.isForeign ∧
    report.rejected =
      message.items.countP Settings.isDamaged + message.items.countP Settings.isRefused ∧
    report.applied + report.ignored + report.rejected = message.items.length ∧
    (report.weatherRefreshChanged = true ↔
      settings.weatherRefresh ≠ before.value.settings.weatherRefresh) ∧
    (report.tickUnitChanged = true ↔ settings.tickUnit ≠ before.value.settings.tickUnit) ∧
    ∀ (setting : Setting) (tuple : Tuple) (value : Setting.Value) (settings : Settings),
      setting.decode tuple = .ok value → (settings.set? setting value).isSome = true := by
  intro before merged report settings
  have hget : ∀ setting : Setting, settings.get setting =
      (setting.lastValueIn? message.items).getD (before.value.settings.get setting) :=
    Settings.get_mergeItems before.value.settings message.items
  have hverdicts : report = Settings.update
      (before.value.settings.mergeItems message.items).1 before.value.settings settings := rfl
  refine ⟨hget, ?_, ?_, ?_, ?_, ?_, ?_, ?_, ?_⟩
  · intro setting
    rw [hget, get_mergeAll, List.flatMap_append, Setting.lastValueIn?_append]
    simp only [List.flatMap_singleton]
    cases setting.lastValueIn? message.items <;> rfl
  · exact Settings.count_verdicts
      (fun settings item => (settings.judges_mergeItem item).kinds.1) _ _
  · exact Settings.count_verdicts
      (fun settings item => (settings.judges_mergeItem item).kinds.2.1) _ _
  · rw [← Settings.countP_damaged_or_refused]
    exact Settings.count_verdicts
      (fun settings item => (settings.judges_mergeItem item).kinds.2.2) _ _
  · rw [hverdicts, ← Settings.length_verdicts before.value.settings]
    exact Settings.length_eq_count_add _
  · simp [hverdicts, Settings.update]
  · simp [hverdicts, Settings.update]
  · intro setting tuple value settings hdecode
    exact Settings.isSome_set?_of_decode settings hdecode

-- a tuple of a type that cannot be read does not hide the value before it
example : Setting.seconds.lastValueIn?
    (Dictionary.items ⟨2, [32, 0, 0, 0, 2, 1, 0, 7, 32, 0, 0, 0, 1, 1, 0, 9]⟩) =
      some (.byte 7) := by
  decide

end Store

end Watchface
