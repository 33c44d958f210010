import Watchface.Proofs.Host.Arming
import Watchface.Proofs.Lasting

/-!
# What an alarm has been told

An alarm follows a small automaton that knows nothing but what the host has
answered and which timers went off.  A timer that is scheduled is pending until
it goes off, until the host does not know it any more, or until another one is
scheduled.  `Obeys` says what one arming does, with all its calls, and `Uses`
are the histories of an alarm that was idle at first.
-/

namespace Watchface

/-- What an alarm is told: the answer to a call, or that a timer went off. -/
inductive Moment where
  | answered (exchange : Exchange)
  | fired (handle : Handle)

namespace Moment

variable {pending : Option Handle} {handle : Handle} {moment : Moment}

def Issues (handle : Handle) (moment : Moment) : Prop :=
  ∃ delay purpose, moment = .answered ⟨.schedule delay purpose, .ok handle⟩

/-- Another timer is scheduled, this one goes off, or the host does not know it any more. -/
def Ends (handle : Handle) (moment : Moment) : Prop :=
  (∃ other, moment.Issues other) ∨ moment = .fired handle ∨
    ∃ delay, moment = .answered ⟨.reschedule handle delay, .error .invalidHandle⟩

def clear (gone : Handle) (pending : Option Handle) : Option Handle :=
  if pending = some gone then none else pending

def step (pending : Option Handle) : Moment → Option Handle
  | .answered ⟨.schedule _ _, .ok handle⟩ => some handle
  | .answered ⟨.reschedule handle _, .error .invalidHandle⟩ | .fired handle => clear handle pending
  | .answered _ => pending

theorem clear_eq_some_iff {gone : Handle} :
    clear gone pending = some handle ↔ gone ≠ handle ∧ pending = some handle := by
  unfold clear
  split
  · next h => simp [h]
  · next h =>
    refine (and_iff_right_of_imp ?_).symm
    rintro hpending rfl
    exact h hpending

theorem step_eq_some_iff (pending : Option Handle) (moment : Moment) (handle : Handle) :
    moment.step pending = some handle ↔
      moment.Issues handle ∨ (¬ moment.Ends handle ∧ pending = some handle) := by
  unfold step
  split
  · simp [Issues, Ends]
  · simp [Issues, Ends, clear_eq_some_iff]
  · simp [Issues, Ends, clear_eq_some_iff]
  · next exchange hschedule hreschedule =>
    have hissues : ∀ other, ¬ (answered exchange).Issues other := by
      rintro other ⟨delay, purpose, heq⟩
      exact hschedule delay purpose other (answered.inj heq)
    have hends : ¬ (answered exchange).Ends handle := by
      rintro (⟨other, hother⟩ | hfired | ⟨delay, heq⟩)
      · exact hissues other hother
      · contradiction
      · exact hreschedule handle delay (answered.inj heq)
    simp [hissues, hends]

theorem foldl_step_eq_some_iff {history : List Moment} :
    history.foldl step none = some handle ↔ Lasts (Issues handle) (Ends handle) history :=
  foldl_eq_some_iff_lasts step_eq_some_iff history handle

end Moment

namespace Alarm

variable {alarm armed : Alarm} {delay : UInt32} {log : List Exchange}
  {result : Except ServiceError Unit} {purpose : Purpose} {history : List Moment}

/-- What arming an alarm does: the calls it makes, what it returns, and the alarm it leaves. -/
structure Obeys (alarm : Alarm) (delay : UInt32) (log : List Exchange)
    (result : Except ServiceError Unit) (armed : Alarm) : Prop where
  /-- Before all else a pending timer is moved. -/
  moves : ∀ handle, (∃ answer, log.head? = some ⟨.reschedule handle delay, answer⟩) ↔
    alarm.pending = some handle
  /-- A timer is scheduled if none is pending, or if the host does not know the pending one. -/
  schedules : (∃ answer, ⟨.schedule delay alarm.purpose, answer⟩ ∈ log) ↔
    alarm.pending = none ∨ ∃ handle, alarm.pending = some handle ∧
      ⟨.reschedule handle delay, .error .invalidHandle⟩ ∈ log
  /-- There are no other calls. -/
  only : ∀ exchange ∈ log, exchange.call = .schedule delay alarm.purpose ∨
    ∃ handle, alarm.pending = some handle ∧ exchange.call = .reschedule handle delay
  once : (log.map Exchange.call).Nodup
  /--
  The old timer stays pending iff it has been moved.  A host may give its handle
  to the new timer, so it is the log that tells the two apart.
  -/
  granted : result = .ok () →
    (∃ handle, alarm.pending = some handle ∧ ⟨.reschedule handle delay, .ok ()⟩ ∈ log ∧
      armed = alarm) ∨
    (∀ handle, ⟨.reschedule handle delay, .ok ()⟩ ∉ log) ∧
      ∃ fresh, ⟨.schedule delay alarm.purpose, .ok fresh⟩ ∈ log ∧
        armed = { alarm with pending := some fresh }
  /-- The last answer is the failure. -/
  refused : ∀ cause, result = .error cause →
    log.getLast? = some ⟨.schedule delay alarm.purpose, .error cause⟩ ∧
      armed = { alarm with pending := none } ∨
    ∃ handle, log.getLast? = some ⟨.reschedule handle delay, .error cause⟩ ∧ armed = alarm

theorem Arms.moves (h : alarm.Arms delay log result armed) (handle : Handle) :
    (∃ answer, log.head? = some ⟨.reschedule handle delay, answer⟩) ↔
      alarm.pending = some handle := by
  cases h <;> simp [*]

theorem Arms.schedules (h : alarm.Arms delay log result armed) :
    (∃ answer, ⟨.schedule delay alarm.purpose, answer⟩ ∈ log) ↔
      alarm.pending = none ∨ ∃ handle, alarm.pending = some handle ∧
        ⟨.reschedule handle delay, .error .invalidHandle⟩ ∈ log := by
  cases h with
  | kept pending known => simp [pending, known.symm]
  | _ => simp [*]

theorem Arms.only (h : alarm.Arms delay log result armed) :
    ∀ exchange ∈ log, exchange.call = .schedule delay alarm.purpose ∨
      ∃ handle, alarm.pending = some handle ∧ exchange.call = .reschedule handle delay := by
  cases h <;> simp [*]

theorem Arms.once (h : alarm.Arms delay log result armed) : (log.map Exchange.call).Nodup := by
  cases h <;> simp

theorem Arms.granted (h : alarm.Arms delay log result armed) (ok : result = .ok ()) :
    (∃ handle, alarm.pending = some handle ∧ ⟨.reschedule handle delay, .ok ()⟩ ∈ log ∧
      armed = alarm) ∨
    (∀ handle, ⟨.reschedule handle delay, .ok ()⟩ ∉ log) ∧
      ∃ fresh, ⟨.schedule delay alarm.purpose, .ok fresh⟩ ∈ log ∧
        armed = { alarm with pending := some fresh } := by
  cases h with
  | moved pending => exact .inl ⟨_, pending, List.mem_cons_self, rfl⟩
  | scheduled => exact .inr ⟨by simp, _, List.mem_cons_self, rfl⟩
  | replaced => exact .inr ⟨by simp, _, List.mem_cons_of_mem _ List.mem_cons_self, rfl⟩
  | unscheduled | kept | lost => contradiction

theorem Arms.refused (h : alarm.Arms delay log result armed) {cause : ServiceError}
    (error : result = .error cause) :
    log.getLast? = some ⟨.schedule delay alarm.purpose, .error cause⟩ ∧
      armed = { alarm with pending := none } ∨
    ∃ handle, log.getLast? = some ⟨.reschedule handle delay, .error cause⟩ ∧ armed = alarm := by
  cases h with
  | scheduled | moved | replaced => contradiction
  | unscheduled | lost =>
      obtain rfl := Except.error.inj error
      exact .inl ⟨rfl, rfl⟩
  | kept =>
      obtain rfl := Except.error.inj error
      exact .inr ⟨_, rfl, rfl⟩

theorem Arms.obeys (h : alarm.Arms delay log result armed) :
    alarm.Obeys delay log result armed :=
  ⟨h.moves, h.schedules, h.only, h.once, h.granted, fun _ => h.refused⟩

/-! ## Histories -/

theorem Arms.pending_eq (h : alarm.Arms delay log result armed) :
    armed.pending = (log.map .answered).foldl Moment.step alarm.pending := by
  cases h with
  | scheduled | moved => rfl
  | unscheduled idle => exact idle.symm
  | @kept _ cause _ known => cases cause <;> first | contradiction | rfl
  | replaced => rfl
  | lost pending => simp [Moment.step, Moment.clear, pending]

theorem pending_fire? (alarm : Alarm) (handle : Handle) :
    ((alarm.fire? handle).getD alarm).pending = Moment.step alarm.pending (.fired handle) := by
  change _ = Moment.clear handle alarm.pending
  unfold fire? Moment.clear
  split <;> rfl

/-- An alarm that was idle at first, and all that it has been told since. -/
inductive Uses (purpose : Purpose) : List Moment → Alarm → Prop
  | idle : Uses purpose [] (idle purpose)
  | armed {history : List Moment} {alarm after : Alarm} {delay : UInt32} {log : List Exchange}
      {result : Except ServiceError Unit} (before : Uses purpose history alarm)
      (arms : (alarm.arm delay).Trace log (result, after)) :
      Uses purpose (history ++ log.map .answered) after
  | fired {history : List Moment} {alarm : Alarm} (before : Uses purpose history alarm)
      (handle : Handle) :
      Uses purpose (history ++ [.fired handle]) ((alarm.fire? handle).getD alarm)

theorem Uses.pending_eq (h : Uses purpose history alarm) :
    alarm.pending = history.foldl Moment.step none := by
  induction h with
  | idle => rfl
  | armed _ arms ih => rw [(arms_of_trace arms).pending_eq, ih, List.foldl_append]
  | fired _ handle ih =>
      rw [pending_fire?, ih, List.foldl_append, List.foldl_cons, List.foldl_nil]

/--
Whatever the host answers, every arming does what `Obeys` asks for.  So a timer
is pending iff it is the last one that was scheduled and it has not gone off
since, nor has the host disowned it; and of all expiries the alarm heeds only
that of its pending timer.
-/
theorem alarm_follows_its_history (uses : Uses purpose history alarm) :
    (∀ {σ : Type} (host : Host σ) (state : σ) (other : Alarm) (delay : UInt32),
      let outcome := (other.arm delay).run host state
      other.Obeys delay outcome.log outcome.value.1 outcome.value.2) ∧
    (∀ handle, alarm.pending = some handle ↔
      Lasts (Moment.Issues handle) (Moment.Ends handle) history) ∧
    ∀ handle, (alarm.fire? handle).isSome = true ↔ alarm.pending = some handle := by
  refine ⟨fun host state other delay => ?_, fun handle => ?_, fun handle => ?_⟩
  · exact (arms_of_trace (Dialogue.trace_run host (other.arm delay) state)).obeys
  · rw [uses.pending_eq, Moment.foldl_step_eq_some_iff]
  · simp [Option.isSome_iff_exists, fire?_eq_some_iff]

/-- The first timer is lost, and its expiry comes late, when a second one is pending. -/
theorem late_expiry_leaves_the_new_timer :
    let alarm : Alarm := ⟨.weatherRefresh, some 2⟩
    let history : List Moment :=
      [.answered ⟨.schedule 5000 .weatherRefresh, .ok 1⟩,
        .answered ⟨.reschedule 1 5000, .error .busy⟩,
        .answered ⟨.reschedule 1 7000, .error .invalidHandle⟩,
        .answered ⟨.schedule 7000 .weatherRefresh, .error .outOfMemory⟩,
        .answered ⟨.schedule 9000 .weatherRefresh, .ok 2⟩,
        .fired 1]
    Uses .weatherRefresh history alarm ∧
      Lasts (Moment.Issues 2) (Moment.Ends 2) history ∧
      ¬ Lasts (Moment.Issues 1) (Moment.Ends 1) history ∧
      (alarm.fire? 2).isSome = true ∧ (alarm.fire? 1).isSome = false := by
  intro alarm history
  let first : Alarm := ⟨.weatherRefresh, some 1⟩
  have hfirst : ((idle .weatherRefresh).arm 5000).Trace
      [⟨.schedule 5000 .weatherRefresh, .ok 1⟩] (.ok (), first) := .ask (.done _)
  have hbusy : (first.arm 5000).Trace
      [⟨.reschedule 1 5000, .error .busy⟩] (.error .busy, first) := .ask (.done _)
  have hlost : (first.arm 7000).Trace
      [⟨.reschedule 1 7000, .error .invalidHandle⟩,
        ⟨.schedule 7000 .weatherRefresh, .error .outOfMemory⟩]
      (.error .outOfMemory, idle .weatherRefresh) := .ask (.ask (.done _))
  have hsecond : ((idle .weatherRefresh).arm 9000).Trace
      [⟨.schedule 9000 .weatherRefresh, .ok 2⟩] (.ok (), alarm) := .ask (.done _)
  have huses : Uses .weatherRefresh history alarm :=
    .fired (.armed (.armed (.armed (.armed .idle hfirst) hbusy) hlost) hsecond) 1
  obtain ⟨-, hpending, hfires⟩ := alarm_follows_its_history huses
  refine ⟨huses, (hpending 2).mp rfl, ?_, (hfires 2).mpr rfl, ?_⟩
  · rw [← hpending]
    decide
  · rw [Bool.eq_false_iff, ne_eq, hfires]
    decide

end Alarm

end Watchface
