import Watchface.Proofs.Face.Alarms
import Watchface.Proofs.Host.Simulator

/-!
# Expiries that take effect

Events of timers may come twice, late or out of nowhere.  As long as the host
issues no handle twice, the face accepts an expiry only while its alarm holds
the handle that was issued last for the purpose, and no more than once.
`Ledger` is the invariant: what is pending was issued last, and what has been
accepted is never pending again.
-/

namespace Watchface

def Exchange.handleFor? (purpose : Purpose) : Exchange → Option Handle
  | ⟨.schedule _ found, .ok handle⟩ => if found = purpose then some handle else none
  | _ => none

def lastIssued? (purpose : Purpose) (log : List Exchange) : Option Handle :=
  (log.filterMap (Exchange.handleFor? purpose)).getLast?

variable {log : List Exchange} {purpose other : Purpose} {handle : Handle}
  {delay another : UInt32}

theorem lastIssued?_append (first second : List Exchange) :
    lastIssued? purpose (first ++ second) =
      (lastIssued? purpose second).or (lastIssued? purpose first) := by
  simp [lastIssued?, List.getLast?_append]

theorem Exchange.handleFor?_eq_some_iff {exchange : Exchange} :
    exchange.handleFor? purpose = some handle ↔
      ∃ delay, exchange = ⟨.schedule delay purpose, .ok handle⟩ := by
  constructor
  · intro h
    unfold handleFor? at h
    split at h
    · next delay found issued =>
      split at h
      · next hfound =>
        rw [Option.some.injEq] at h
        exact ⟨delay, by rw [hfound, h]⟩
      · contradiction
    · contradiction
  · rintro ⟨delay, rfl⟩
    simp [handleFor?]

theorem mem_of_lastIssued? (h : lastIssued? purpose log = some handle) :
    ∃ delay, (⟨.schedule delay purpose, .ok handle⟩ : Exchange) ∈ log := by
  have hmem := List.mem_of_getLast? h
  rw [List.mem_filterMap] at hmem
  obtain ⟨exchange, hexchange, hissued⟩ := hmem
  obtain ⟨delay, rfl⟩ := Exchange.handleFor?_eq_some_iff.mp hissued
  exact ⟨delay, hexchange⟩

theorem lastIssued?_of_quiet (h : Quiet log) : lastIssued? purpose log = none := by
  rw [Option.eq_none_iff_forall_ne_some]
  intro handle hlast
  obtain ⟨delay, hmem⟩ := mem_of_lastIssued? hlast
  exact absurd (h _ hmem) (by simp)

theorem mem_handlesIssued (h : (⟨.schedule delay purpose, .ok handle⟩ : Exchange) ∈ log) :
    handle ∈ handlesIssued log :=
  List.mem_filterMap.mpr ⟨_, h, rfl⟩

theorem mem_handlesIssued_of_last (h : lastIssued? purpose log = some handle) :
    handle ∈ handlesIssued log := by
  obtain ⟨delay, hmem⟩ := mem_of_lastIssued? h
  exact mem_handlesIssued hmem

theorem purpose_eq_of_issued (fresh : (handlesIssued log).Nodup)
    (first : (⟨.schedule delay purpose, .ok handle⟩ : Exchange) ∈ log)
    (second : (⟨.schedule another other, .ok handle⟩ : Exchange) ∈ log) : other = purpose := by
  induction log with
  | nil => contradiction
  | cons exchange log ih =>
      rw [handlesIssued_cons] at fresh
      rcases List.mem_cons.mp first with rfl | hfirst <;>
        rcases List.mem_cons.mp second with hsecond | hsecond
      · cases hsecond
        rfl
      · exact absurd (mem_handlesIssued hsecond) (List.nodup_cons.mp fresh).1
      · subst hsecond
        exact absurd (mem_handlesIssued hfirst) (List.nodup_cons.mp fresh).1
      · exact ih (List.nodup_append.mp fresh).2.1 hfirst hsecond

theorem Alarm.Arms.held {alarm armed : Alarm} {result : Except ServiceError Unit}
    (h : alarm.Arms delay log result armed) (held : armed.pending = some handle) :
    lastIssued? alarm.purpose log = some handle ∨
      lastIssued? alarm.purpose log = none ∧ alarm.pending = some handle := by
  cases h with
  | scheduled | replaced =>
      rw [← held]
      left
      simp [lastIssued?, Exchange.handleFor?]
  | unscheduled | lost => contradiction
  | moved | kept => exact .inr ⟨rfl, held⟩

theorem Alarm.Arms.lastIssued?_other {alarm armed : Alarm} {result : Except ServiceError Unit}
    (h : alarm.Arms delay log result armed) (ne : other ≠ alarm.purpose) :
    lastIssued? other log = none := by
  cases h <;> simp [lastIssued?, Exchange.handleFor?, Ne.symm ne]

namespace Face

variable {platform : Platform} {face after : Face} {opening behind : List Exchange}
  {turns : List Turn} {input : Input} {accepted : List Expiry} {alarms wound : Purpose → Alarm}

theorem Winds.held (h : Winds alarms log wound)
    (owned : ∀ purpose, (alarms purpose).purpose = purpose)
    (held : (wound purpose).pending = some handle) :
    lastIssued? purpose log = some handle ∨
      lastIssued? purpose log = none ∧ (alarms purpose).pending = some handle := by
  cases h with
  | still quiet same =>
      rw [same] at held
      exact .inr ⟨lastIssued?_of_quiet quiet, held⟩
  | @armed _ _ _ armed _ _ alarm quiet arms changed =>
      rw [lastIssued?_append, lastIssued?_of_quiet quiet, Option.or_none]
      rw [changed] at held
      by_cases heq : purpose = armed
      · subst heq
        rw [Function.update_self] at held
        have harmed := arms.held held
        rwa [owned] at harmed
      · rw [Function.update_of_ne heq] at held
        exact .inr ⟨arms.lastIssued?_other (by rwa [owned]), held⟩

/-! ## The ledger -/

structure Ledger (log : List Exchange) (accepted : List Expiry) (face : Face) : Prop where
  purposes : ∀ purpose, (face.alarm purpose).purpose = purpose
  held : ∀ purpose handle, face.pending purpose = some handle →
    lastIssued? purpose log = some handle
  issued : ∀ expiry ∈ accepted, expiry.handle ∈ handlesIssued log
  spent : ∀ expiry ∈ accepted, ∀ purpose, face.pending purpose ≠ some expiry.handle
  once : (accepted.map Expiry.handle).Nodup

theorem ledger_ofPlatform (log : List Exchange) : Ledger log [] (ofPlatform platform) := by
  constructor
  case purposes =>
    intro purpose
    cases purpose <;> rfl
  case held =>
    intro purpose handle hpending
    cases purpose <;> contradiction
  all_goals simp

theorem Ledger.held_after (h : Ledger log accepted face) (reacts : face.Reacts input behind after)
    (held : after.pending purpose = some handle) :
    lastIssued? purpose behind = some handle ∨
      lastIssued? purpose behind = none ∧ face.pending purpose = some handle ∧
        (face.accepted? input).map Expiry.purpose ≠ some purpose := by
  have howned : ∀ purpose, (face.alarmsAt input purpose).purpose = purpose := fun purpose =>
    (purpose_alarmsAt face input purpose).trans (h.purposes purpose)
  rcases reacts.winds.held howned held with hnew | ⟨hnone, hkept⟩
  · exact .inl hnew
  · exact .inr ⟨hnone, pending_of_alarmsAt hkept⟩

theorem Ledger.turn (h : Ledger log accepted face) (reacts : face.Reacts input behind after)
    (fresh : (handlesIssued (log ++ behind)).Nodup) :
    Ledger (log ++ behind) (accepted ++ (face.accepted? input).toList) after := by
  rw [handlesIssued_append] at fresh
  have hnew : ∀ purpose handle, lastIssued? purpose behind = some handle →
      handle ∉ handlesIssued log := fun purpose handle hlast hold =>
    (List.nodup_append.mp fresh).2.2 handle hold handle (mem_handlesIssued_of_last hlast) rfl
  have haccepted : ∀ expiry ∈ (face.accepted? input).toList,
      face.accepted? input = some expiry ∧
        lastIssued? expiry.purpose log = some expiry.handle := by
    intro expiry hmem
    rw [Option.mem_toList] at hmem
    exact ⟨hmem, h.held _ _ (accepted?_eq_some_iff.mp hmem).2⟩
  constructor
  case purposes =>
    intro purpose
    rw [reacts.winds.purpose_eq, purpose_alarmsAt, h.purposes]
  case held =>
    intro purpose handle hpending
    rw [lastIssued?_append]
    rcases h.held_after reacts hpending with hlast | ⟨hnone, hkept, -⟩
    · rw [hlast, Option.some_or]
    · rw [hnone, Option.none_or, h.held _ _ hkept]
  case issued =>
    intro expiry hmem
    rw [handlesIssued_append]
    apply List.mem_append_left
    rcases List.mem_append.mp hmem with hold | hnow
    · exact h.issued expiry hold
    · exact mem_handlesIssued_of_last (haccepted expiry hnow).2
  case spent =>
    intro expiry hmem purpose hpending
    rcases List.mem_append.mp hmem with hold | hnow
    · rcases h.held_after reacts hpending with hlast | ⟨-, hkept, -⟩
      · exact hnew _ _ hlast (h.issued expiry hold)
      · exact h.spent expiry hold purpose hkept
    · obtain ⟨hnow, hissued⟩ := haccepted expiry hnow
      rcases h.held_after reacts hpending with hlast | ⟨-, hkept, hother⟩
      · exact hnew _ _ hlast (mem_handlesIssued_of_last hissued)
      · -- the other alarm would hold a handle that was issued for this one
        obtain ⟨_, hfirst⟩ := mem_of_lastIssued? hissued
        obtain ⟨_, hsecond⟩ := mem_of_lastIssued? (h.held _ _ hkept)
        have heq := purpose_eq_of_issued (List.nodup_append.mp fresh).1 hsecond hfirst
        rw [hnow, Option.map_some, heq] at hother
        contradiction
  case once =>
    rw [List.map_append, List.nodup_append]
    refine ⟨h.once, by cases face.accepted? input <;> simp, ?_⟩
    intro handle hold found hnow heq
    obtain ⟨earlier, hearlier, rfl⟩ := List.mem_map.mp hold
    obtain ⟨expiry, hexpiry, rfl⟩ := List.mem_map.mp hnow
    have hpending := (accepted?_eq_some_iff.mp (haccepted expiry hexpiry).1).2
    exact h.spent earlier hearlier expiry.purpose (heq ▸ hpending)

def Turn.accepted? (turn : Turn) : Option Expiry := turn.before.accepted? turn.input

theorem Run.ledger (run : Run platform opening turns face)
    (fresh : (handlesIssued (runLog opening turns)).Nodup) :
    Ledger (runLog opening turns) (turns.filterMap Turn.accepted?) face := by
  induction run with
  | fresh => exact ledger_ofPlatform _
  | started start =>
      rw [(trace_start start).1]
      exact ledger_ofPlatform _
  | @turn _ log turns face after input _ reacts ih =>
      rw [runLog_append, List.flatMap_singleton] at fresh ⊢
      have hbefore := ih (List.nodup_append.mp (handlesIssued_append _ _ ▸ fresh)).1
      have hafter := hbefore.turn (reacts_of_trace reacts) fresh
      have hlast : [(⟨face, input, log, after⟩ : Turn)].filterMap Turn.accepted? =
          (face.accepted? input).toList := by
        cases h : face.accepted? input <;> simp [Turn.accepted?, h]
      rwa [List.filterMap_append, hlast]

/--
On every host that issues no handle twice, whatever events come: each handle
is accepted in one turn at most.  It is accepted only while the alarm of the
purpose holds it, when it is the last that was issued for this purpose, and it
was issued for no other.  A turn that does not accept its expiry leaves the
face as it was and makes no call.
-/
theorem expiry_takes_effect_once (run : Run platform opening turns face)
    (fresh : (handlesIssued (runLog opening turns)).Nodup) :
    ((turns.filterMap Turn.accepted?).map Expiry.handle).Nodup ∧
    ∀ (before behind : List Turn) (turn : Turn) (purpose : Purpose) (handle : Handle),
      turns = before ++ turn :: behind → turn.input = .event (.timer purpose handle) →
      (∀ expiry, turn.accepted? = some expiry →
        expiry = ⟨purpose, handle⟩ ∧
        (turn.before.alarm purpose).pending = some handle ∧
        lastIssued? purpose (runLog opening before) = some handle ∧
        ∀ delay other, (⟨.schedule delay other, .ok handle⟩ : Exchange) ∈ runLog opening turns →
          other = purpose) ∧
      (turn.accepted? = none → turn.after = turn.before ∧ turn.log = []) := by
  refine ⟨(run.ledger fresh).once, ?_⟩
  rintro before behind ⟨start, input, log, finish⟩ purpose handle rfl rfl
  obtain ⟨hbefore, hreacts⟩ := run.cut
  rw [runLog_append] at fresh ⊢
  constructor
  · intro expiry haccepted
    obtain ⟨hinput, hpending⟩ := accepted?_eq_some_iff.mp haccepted
    obtain ⟨found, handle⟩ := expiry
    cases hinput
    have hfresh := (List.nodup_append.mp (handlesIssued_append _ _ ▸ fresh)).1
    have hissued := (hbefore.ledger hfresh).held _ _ hpending
    obtain ⟨_, hmem⟩ := mem_of_lastIssued? hissued
    exact ⟨rfl, hpending, hissued, fun _ _ hother =>
      purpose_eq_of_issued fresh (List.mem_append_left _ hmem) hother⟩
  · intro hstale
    exact (reacts_of_trace hreacts).eq_of_not_accepted hstale

/-- A timer is lost and replaced; the old one goes off late, the new one in time and once more. -/
theorem late_and_repeated_expiries_are_ignored :
    let face := ofPlatform .colorRect
    let shown (handle : Handle) : Face :=
      { face with popup := ⟨.bluetoothPopup, some handle⟩, popupShown := true }
    let first : Turn := ⟨face, .event (.connection false),
      [⟨.markDirty, ()⟩, ⟨.doublePulse, .ok ()⟩, ⟨.enableInteraction, .ok ()⟩,
        ⟨.schedule 5000 .bluetoothPopup, .ok 7⟩], shown 7⟩
    let second : Turn := ⟨shown 7, .event (.connection true),
      [⟨.markDirty, ()⟩, ⟨.doublePulse, .ok ()⟩, ⟨.enableInteraction, .ok ()⟩,
        ⟨.reschedule 7 5000, .error .invalidHandle⟩, ⟨.schedule 5000 .bluetoothPopup, .ok 8⟩],
      shown 8⟩
    let late : Turn := ⟨shown 8, .event (.timer .bluetoothPopup 7), [], shown 8⟩
    let fires : Turn := ⟨shown 8, .event (.timer .bluetoothPopup 8), [⟨.markDirty, ()⟩], face⟩
    let again : Turn := ⟨face, .event (.timer .bluetoothPopup 8), [], face⟩
    let turns := [first, second, late, fires, again]
    Run .colorRect [] turns face ∧ (handlesIssued (runLog [] turns)).Nodup ∧
      ((turns.filterMap Turn.accepted?).map Expiry.handle).Nodup ∧
      (late.after = late.before ∧ late.log = []) ∧
      lastIssued? .bluetoothPopup (runLog [] [first, second, late]) = some 8 ∧
      (again.after = again.before ∧ again.log = []) := by
  intro face shown first second late fires again turns
  have hfirst : (face.react first.input).Trace first.log (shown 7) :=
    .ask (.ask (.ask (.ask (.done _))))
  have hsecond : ((shown 7).react second.input).Trace second.log (shown 8) :=
    .ask (.ask (.ask (.ask (.ask (.done _)))))
  have hlate : ((shown 8).react late.input).Trace [] (shown 8) := .done _
  have hfires : ((shown 8).react fires.input).Trace fires.log face := .ask (.done _)
  have hagain : (face.react again.input).Trace [] face := .done _
  have hrun : Run .colorRect [] turns face :=
    .turn (.turn (.turn (.turn (.turn .fresh hfirst) hsecond) hlate) hfires) hagain
  have hfresh : (handlesIssued (runLog [] turns)).Nodup := by decide
  obtain ⟨honce, hturns⟩ := expiry_takes_effect_once hrun hfresh
  have hbefore := hturns [first, second] [fires, again] late _ _ rfl rfl
  have hnow := hturns [first, second, late] [again] fires _ _ rfl rfl
  have hafter := hturns [first, second, late, fires] [] again _ _ rfl rfl
  obtain ⟨-, -, hissued, -⟩ := hnow.1 ⟨.bluetoothPopup, 8⟩ rfl
  exact ⟨hrun, hfresh, honce, hbefore.2 rfl, hissued, hafter.2 rfl⟩

end Face

end Watchface
