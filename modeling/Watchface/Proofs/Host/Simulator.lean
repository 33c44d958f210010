import Watchface.Proofs.Host.Deadline

/-!
# The timers of a simulated watch

A simulated watch is a timer service: it answers every dialogue as `Replies`
allows, provided that it hands out fresh handles.  When time passes, all due
timers become undelivered at once.  While no time passes, an alarm may be armed
again without any effect on the timers.
-/

namespace Watchface

def Exchange.issuedHandle? : Exchange → Option Handle
  | ⟨.schedule _ _, .ok handle⟩ => some handle
  | _ => none

def handlesIssued (log : List Exchange) : List Handle := log.filterMap Exchange.issuedHandle?

theorem handlesIssued_cons (exchange : Exchange) (log : List Exchange) :
    handlesIssued (exchange :: log) = exchange.issuedHandle?.toList ++ handlesIssued log := by
  cases h : exchange.issuedHandle? with
  | none => simp [handlesIssued, h]
  | some handle => simp [handlesIssued, h]

@[simp] theorem handlesIssued_append (first second : List Exchange) :
    handlesIssued (first ++ second) = handlesIssued first ++ handlesIssued second := by
  simp [handlesIssued]

def issuedAfter (log : List Exchange) (issued : List Handle) : List Handle :=
  (handlesIssued log).reverse ++ issued

theorem issuedAfter_cons (exchange : Exchange) (log : List Exchange) (issued : List Handle) :
    issuedAfter (exchange :: log) issued =
      issuedAfter log (exchange.issuedHandle?.toList ++ issued) := by
  rw [issuedAfter, issuedAfter, handlesIssued_cons]
  cases exchange.issuedHandle? <;> simp

theorem issuedAfter_append (first second : List Exchange) (issued : List Handle) :
    issuedAfter (first ++ second) issued = issuedAfter second (issuedAfter first issued) := by
  simp [issuedAfter]

theorem nodup_issuedAfter_iff {log : List Exchange} :
    (issuedAfter log []).Nodup ↔ (handlesIssued log).Nodup := by
  rw [issuedAfter, List.append_nil, List.nodup_reverse]

namespace Simulator

open TimerService (Answers Replies Tracks postpone)

variable {α : Type} {watch : Simulator} {undelivered : List Expiry} {issued : List Handle}

/-- The watch as a timer service, with what its state does not show. -/
def service (watch : Simulator) (undelivered : List Expiry) (issued : List Handle) :
    TimerService :=
  ⟨watch.timers, undelivered, issued, watch.elapsed⟩

def timersOf (watch : Simulator) (purpose : Purpose) : List Timer :=
  watch.timers.filter fun timer => timer.purpose = purpose

theorem mem_timersOf {purpose : Purpose} {timer : Timer} :
    timer ∈ watch.timersOf purpose ↔ timer ∈ watch.timers ∧ timer.purpose = purpose := by
  simp [timersOf]

theorem setDeadline?_eq_some {handle : Handle} {timers : List Timer} (deadline : Nat)
    (nodup : (timers.map Timer.handle).Nodup) (live : handle ∈ timers.map Timer.handle) :
    setDeadline? handle deadline timers = some (timers.map (postpone handle deadline)) := by
  induction timers with
  | nil => contradiction
  | cons timer timers ih =>
      rw [List.map_cons, List.nodup_cons] at nodup
      rw [setDeadline?, List.map_cons, postpone]
      by_cases hfound : timer.handle = handle
      · have hrest : ∀ other ∈ timers, postpone handle deadline other = other := by
          intro other hother
          have hne : other.handle ≠ handle := by
            intro heq
            rw [← heq] at hfound
            exact nodup.1 (hfound ▸ List.mem_map_of_mem hother)
          rw [postpone, if_neg hne]
        rw [if_pos hfound, if_pos hfound, List.map_congr_left hrest, List.map_id']
      · rw [List.map_cons, List.mem_cons] at live
        rw [if_neg hfound, if_neg hfound, ih nodup.2 (live.resolve_left (Ne.symm hfound)),
          Option.map_some]

theorem setDeadline?_eq_none_iff {handle : Handle} {timers : List Timer} {deadline : Nat} :
    setDeadline? handle deadline timers = none ↔ handle ∉ timers.map Timer.handle := by
  induction timers with
  | nil => simp [setDeadline?]
  | cons timer timers ih =>
      rw [setDeadline?, List.map_cons, List.mem_cons, not_or, ← ih]
      by_cases hfound : timer.handle = handle
      · simp [hfound]
      · simp [hfound, Ne.symm hfound]

/-- The watch calls a handle invalid only if no live timer has it. -/
def HonestTo (watch : Simulator) : Call → Prop
  | .reschedule handle delay =>
      (watch.reschedule handle delay).1 = .error .invalidHandle →
        handle ∉ watch.timers.map Timer.handle
  | _ => True

theorem honestTo_of_faults (honest : watch.faults .reschedule ≠ some .invalidHandle)
    (call : Call) : watch.HonestTo call := by
  cases call with
  | reschedule handle delay =>
      intro hinvalid
      unfold reschedule at hinvalid
      split at hinvalid
      · next fault hfault =>
        rw [Except.error.injEq] at hinvalid
        rw [hfault, hinvalid] at honest
        contradiction
      · split at hinvalid
        · contradiction
        · next hnone => exact setDeadline?_eq_none_iff.mp hnone
  | _ => trivial

theorem answers_schedule (delay : UInt32) (purpose : Purpose)
    (fresh : ∀ handle, (watch.schedule delay purpose).1 = .ok handle → handle ∉ issued) :
    Answers (watch.service undelivered issued)
      ⟨.schedule delay purpose, (watch.schedule delay purpose).1⟩
      ((watch.schedule delay purpose).2.service undelivered
        ((watch.schedule delay purpose).1.toOption.toList ++ issued)) := by
  unfold schedule at fresh ⊢
  cases h : watch.faults .schedule with
  | some fault => exact .unscheduled
  | none =>
      rw [h] at fresh
      exact .scheduled (fresh watch.nextHandle rfl)

theorem answers_reschedule (handle : Handle) (delay : UInt32)
    (numbered : (watch.service undelivered issued).Numbered)
    (honest : watch.HonestTo (.reschedule handle delay)) :
    Answers (watch.service undelivered issued)
      ⟨.reschedule handle delay, (watch.reschedule handle delay).1⟩
      ((watch.reschedule handle delay).2.service undelivered issued) := by
  unfold HonestTo at honest
  unfold reschedule at honest ⊢
  cases h : watch.faults .reschedule with
  | some fault =>
      rw [h] at honest
      by_cases hinvalid : fault = .invalidHandle
      · subst hinvalid
        exact .gone (honest rfl)
      · exact .unmoved hinvalid
  | none =>
      by_cases hlive : handle ∈ watch.timers.map Timer.handle
      · have hnodup : (watch.timers.map Timer.handle).Nodup := numbered.nodup
        rw [setDeadline?_eq_some _ hnodup hlive]
        exact .moved hlive
      · rw [setDeadline?_eq_none_iff.mpr hlive]
        exact .gone hlive

theorem answers_answer (call : Call)
    (numbered : (watch.service undelivered issued).Numbered) (honest : watch.HonestTo call)
    (fresh : ∀ handle, Exchange.issuedHandle? ⟨call, (answer call watch).1⟩ = some handle →
      handle ∉ issued) :
    Answers (watch.service undelivered issued) ⟨call, (answer call watch).1⟩
      ((answer call watch).2.service undelivered
        ((Exchange.issuedHandle? ⟨call, (answer call watch).1⟩).toList ++ issued)) := by
  cases call with
  | schedule delay purpose =>
      have hissued : Exchange.issuedHandle?
          ⟨.schedule delay purpose, (watch.schedule delay purpose).1⟩ =
            (watch.schedule delay purpose).1.toOption := by
        cases (watch.schedule delay purpose).1 <;> rfl
      simp only [answer] at fresh ⊢
      rw [hissued] at fresh ⊢
      apply answers_schedule
      intro handle hhandle
      apply fresh
      rw [hhandle]
      rfl
  | reschedule handle delay => exact answers_reschedule handle delay numbered honest
  | _ => exact .other rfl

theorem frame_answer (call : Call) (watch : Simulator) :
    ∃ timers nextHandle,
      (answer call watch).2 = { watch with timers := timers, nextHandle := nextHandle } := by
  cases call with
  | schedule delay purpose =>
      simp only [answer, schedule]
      split
      · exact ⟨watch.timers, watch.nextHandle, rfl⟩
      · exact ⟨_, _, rfl⟩
  | reschedule handle delay =>
      simp only [answer, reschedule]
      split
      · exact ⟨watch.timers, watch.nextHandle, rfl⟩
      · split
        · exact ⟨_, watch.nextHandle, rfl⟩
        · exact ⟨watch.timers, watch.nextHandle, rfl⟩
  | _ => exact ⟨watch.timers, watch.nextHandle, rfl⟩

theorem faults_answer (call : Call) (watch : Simulator) :
    (answer call watch).2.faults = watch.faults := by
  obtain ⟨timers, nextHandle, hanswer⟩ := frame_answer call watch
  rw [hanswer]

theorem now_answer (call : Call) (watch : Simulator) :
    (answer call watch).2.now = watch.now := by
  obtain ⟨timers, nextHandle, hanswer⟩ := frame_answer call watch
  rw [hanswer]
  rfl

/-! ## Whole dialogues -/

theorem faults_kept (faults : Service → Option ServiceError) (call : Call) (state : Simulator)
    (h : state.faults = faults) : (host.answer call state).2.faults = faults :=
  (faults_answer call state).trans h

theorem faults_run (dialogue : Dialogue α) (watch : Simulator) :
    (dialogue.run host watch).state.faults = watch.faults :=
  Dialogue.keeps_run (faults_kept watch.faults) dialogue rfl

theorem schedules_run (dialogue : Dialogue α) (works : watch.faults .schedule = none) :
    Schedules (dialogue.run host watch).log := by
  intro delay purpose cause hmem
  obtain ⟨found, hfaults, hanswer⟩ :=
    Dialogue.mem_log_run (faults_kept watch.faults) dialogue rfl hmem
  simp [host, answer, schedule, hfaults, works] at hanswer

theorem reschedules_run (dialogue : Dialogue α) (works : watch.faults .reschedule = none) :
    Reschedules (dialogue.run host watch).log := by
  intro handle delay cause hmem
  obtain ⟨found, hfaults, hanswer⟩ :=
    Dialogue.mem_log_run (faults_kept watch.faults) dialogue rfl hmem
  simp only [host, answer, reschedule, hfaults, works] at hanswer
  split at hanswer
  · contradiction
  · exact Except.error.inj hanswer

theorem now_kept (now : UInt32) (call : Call) (state : Simulator) (h : state.now = now) :
    (host.answer call state).2.now = now :=
  (now_answer call state).trans h

theorem clockShows_run (dialogue : Dialogue α) (watch : Simulator) :
    ClockShows watch.now (dialogue.run host watch).log := by
  intro answer hmem
  obtain ⟨found, hnow, hanswer⟩ := Dialogue.mem_log_run (now_kept watch.now) dialogue rfl hmem
  exact hanswer.trans hnow

def HonestIn : Dialogue α → Simulator → Prop
  | .done _, _ => True
  | .ask call next, watch =>
      watch.HonestTo call ∧ HonestIn (next (answer call watch).1) (answer call watch).2

theorem honestIn_of_faults (dialogue : Dialogue α)
    (honest : watch.faults .reschedule ≠ some .invalidHandle) : HonestIn dialogue watch := by
  induction dialogue generalizing watch with
  | done value => trivial
  | ask call next ih =>
      refine ⟨honestTo_of_faults honest call, ih _ ?_⟩
      rwa [faults_answer]

/-- The watch holds any dialogue as a timer service, as long as its handles are fresh. -/
theorem replies_run (dialogue : Dialogue α)
    (numbered : (watch.service undelivered issued).Numbered) (honest : HonestIn dialogue watch)
    (fresh : (issuedAfter (dialogue.run host watch).log issued).Nodup) :
    Replies (watch.service undelivered issued) (dialogue.run host watch).log
      ((dialogue.run host watch).state.service undelivered
        (issuedAfter (dialogue.run host watch).log issued)) := by
  induction dialogue generalizing watch issued with
  | done value => exact .nil
  | ask call next ih =>
      simp only [Dialogue.run, issuedAfter_cons] at fresh ⊢
      have hfresh : ∀ handle,
          Exchange.issuedHandle? ⟨call, (answer call watch).1⟩ = some handle →
            handle ∉ issued := by
        intro handle hhandle
        have hnodup := (List.nodup_append.mp fresh).2.1
        have hissued : Exchange.issuedHandle? ⟨call, (host.answer call watch).1⟩ = some handle :=
          hhandle
        rw [hissued] at hnodup
        exact (List.nodup_cons.mp hnodup).1
      have hanswers := answers_answer call numbered honest.1 hfresh
      exact .cons hanswers (ih _ (numbered.answers hanswers) honest.2 fresh)

theorem faults_setFault_eq_none {service other : Service} {fault : Option ServiceError}
    (works : watch.faults other = none) (cleared : other = service → fault = none) :
    (watch.setFault service fault).faults other = none := by
  by_cases heq : other = service
  · simp [setFault, heq, cleared heq]
  · simp [setFault, heq, works]

def Timer.expiry (timer : Timer) : Expiry := ⟨timer.purpose, timer.handle⟩

theorem mem_due {milliseconds : Nat} {timer : Timer} :
    timer ∈ (watch.advance milliseconds).1 ↔
      timer ∈ watch.timers ∧ timer.deadline ≤ watch.elapsed + milliseconds := by
  simp [advance]

theorem mem_live {milliseconds : Nat} {timer : Timer} :
    timer ∈ (watch.advance milliseconds).2.timers ↔
      timer ∈ watch.timers ∧ watch.elapsed + milliseconds < timer.deadline := by
  simp [advance]

theorem ahead_advance (watch : Simulator) (milliseconds : Nat) :
    ((watch.advance milliseconds).2.service undelivered issued).Ahead := by
  intro timer hmem
  exact (mem_live.mp hmem).2

theorem within_advance {purpose : Purpose} {distance : Nat}
    (within : ∀ timer ∈ watch.timersOf purpose, timer.deadline ≤ watch.elapsed + distance)
    (milliseconds : Nat) :
    ∀ timer ∈ (watch.advance milliseconds).2.timersOf purpose,
      timer.deadline ≤ (watch.advance milliseconds).2.elapsed + distance := by
  intro timer hmem
  obtain ⟨hlive, hpurpose⟩ := mem_timersOf.mp hmem
  have hbefore := within timer (mem_timersOf.mpr ⟨(mem_live.mp hlive).1, hpurpose⟩)
  have helapsed : (watch.advance milliseconds).2.elapsed = watch.elapsed + milliseconds := rfl
  omega

theorem tracks_advance {pending : Purpose → Option Handle}
    (h : Tracks (watch.service [] issued) pending) (milliseconds : Nat) :
    Tracks ((watch.advance milliseconds).2.service
      ((watch.advance milliseconds).1.map Timer.expiry) issued) pending := by
  have hsub : (watch.advance milliseconds).2.timers.Sublist watch.timers := List.filter_sublist
  constructor
  case live_issued =>
    intro handle hmem
    exact h.live_issued handle ((hsub.map Timer.handle).subset hmem)
  case undelivered_issued =>
    intro expiry hmem
    obtain ⟨timer, htimer, rfl⟩ := List.mem_map.mp hmem
    exact h.live_issued _ (List.mem_map_of_mem (mem_due.mp htimer).1)
  case nodup => exact h.nodup.sublist (hsub.map Timer.handle)
  case expired =>
    intro expiry hmem hlive
    obtain ⟨due, hdue, rfl⟩ := List.mem_map.mp hmem
    obtain ⟨live, hlive, hsame⟩ := List.mem_map.mp hlive
    rw [mem_due] at hdue
    have hlive := mem_live.mp hlive
    have heq := List.inj_on_of_nodup_map h.nodup hlive.1 hdue.1 hsame
    rw [heq] at hlive
    omega
  case owned =>
    intro timer hmem
    exact h.owned timer (mem_live.mp hmem).1
  case known =>
    intro purpose handle hpending
    rcases h.known purpose handle hpending with ⟨timer, hmem, rfl, rfl⟩ | hnone
    · rcases Nat.lt_or_ge (watch.elapsed + milliseconds) timer.deadline with hlater | hdue
      · exact .inl ⟨timer, mem_live.mpr ⟨hmem, hlater⟩, rfl, rfl⟩
      · exact .inr (List.mem_map_of_mem (f := Timer.expiry) (mem_due.mpr ⟨hmem, hdue⟩))
    · contradiction

/-! ## Timers set twice -/

section
variable {alarm : Alarm} {delay : UInt32} {handle : Handle} {deadline : Nat}

theorem setDeadline?_twice {timers moved : List Timer}
    (h : setDeadline? handle deadline timers = some moved) :
    setDeadline? handle deadline moved = some moved := by
  induction timers generalizing moved with
  | nil => simp [setDeadline?] at h
  | cons timer timers ih =>
      rw [setDeadline?] at h
      by_cases hfound : timer.handle = handle
      · rw [if_pos hfound, Option.some.injEq] at h
        rw [← h, setDeadline?, if_pos hfound]
      · rw [if_neg hfound, Option.map_eq_some_iff] at h
        obtain ⟨rest, hrest, rfl⟩ := h
        rw [setDeadline?, if_neg hfound, ih hrest, Option.map_some]

theorem setDeadline?_concat {timers : List Timer}
    (fresh : handle ∉ timers.map Timer.handle) (purpose : Purpose) :
    setDeadline? handle deadline (timers ++ [⟨handle, purpose, deadline⟩]) =
      some (timers ++ [⟨handle, purpose, deadline⟩]) := by
  induction timers with
  | nil => simp [setDeadline?]
  | cons timer timers ih =>
      rw [List.map_cons, List.mem_cons, not_or] at fresh
      rw [List.cons_append, setDeadline?, if_neg (Ne.symm fresh.1), ih fresh.2, Option.map_some]

/-- The alarm is pending, and to set its timer once more would change no timer. -/
def IsSet (watch : Simulator) (alarm : Alarm) (delay : UInt32) : Prop :=
  ∃ handle, alarm.pending = some handle ∧
    setDeadline? handle (watch.elapsed + delay.toNat) watch.timers = some watch.timers

theorem run_schedule (schedules : watch.faults .schedule = none) (alarm : Alarm)
    (delay : UInt32) :
    (alarm.schedule delay).run host watch =
      ⟨(.ok (), { alarm with pending := some watch.nextHandle }),
        watch.addTimer delay alarm.purpose,
        [⟨.schedule delay alarm.purpose, .ok watch.nextHandle⟩]⟩ := by
  have hanswer : host.answer (.schedule delay alarm.purpose) watch =
      (.ok watch.nextHandle, watch.addTimer delay alarm.purpose) := by
    simp only [host, answer, schedule, schedules]
  simp [Alarm.schedule, Dialogue.call, Dialogue.run, hanswer]

theorem answer_reschedule_live (reschedules : watch.faults .reschedule = none)
    {timers : List Timer}
    (live : setDeadline? handle (watch.elapsed + delay.toNat) watch.timers = some timers) :
    host.answer (.reschedule handle delay) watch = (.ok (), { watch with timers := timers }) := by
  simp only [host, answer, reschedule, reschedules, live]

theorem answer_reschedule_gone (reschedules : watch.faults .reschedule = none)
    (gone : setDeadline? handle (watch.elapsed + delay.toNat) watch.timers = none) :
    host.answer (.reschedule handle delay) watch = (.error .invalidHandle, watch) := by
  simp only [host, answer, reschedule, reschedules, gone]

theorem isSet_addTimer (fresh : watch.nextHandle ∉ watch.timers.map Timer.handle)
    (alarm : Alarm) (delay : UInt32) :
    (watch.addTimer delay alarm.purpose).IsSet
      { alarm with pending := some watch.nextHandle } delay :=
  ⟨watch.nextHandle, rfl, setDeadline?_concat fresh alarm.purpose⟩

theorem isSet_arm (schedules : watch.faults .schedule = none)
    (reschedules : watch.faults .reschedule = none)
    (fresh : watch.nextHandle ∉ watch.timers.map Timer.handle) (alarm : Alarm) (delay : UInt32) :
    let outcome := (alarm.arm delay).run host watch
    outcome.state.IsSet outcome.value.2 delay := by
  have hscheduled := isSet_addTimer fresh alarm delay
  unfold Alarm.arm
  cases hpending : alarm.pending with
  | none => simpa only [run_schedule schedules] using hscheduled
  | some handle =>
      cases hset : setDeadline? handle (watch.elapsed + delay.toNat) watch.timers with
      | some moved =>
          simp only [Dialogue.call, Dialogue.run, Dialogue.ask_bind, Dialogue.done_bind,
            answer_reschedule_live reschedules hset]
          exact ⟨handle, hpending, setDeadline?_twice hset⟩
      | none =>
          simp only [Dialogue.call, Dialogue.run, Dialogue.ask_bind, Dialogue.done_bind,
            answer_reschedule_gone reschedules hset, run_schedule schedules]
          exact hscheduled

theorem IsSet.run_arm (h : watch.IsSet alarm delay)
    (reschedules : watch.faults .reschedule = none) :
    ∃ handle, alarm.pending = some handle ∧
      (alarm.arm delay).run host watch =
        ⟨(.ok (), alarm), watch, [⟨.reschedule handle delay, .ok ()⟩]⟩ := by
  obtain ⟨handle, hpending, hset⟩ := h
  refine ⟨handle, hpending, ?_⟩
  unfold Alarm.arm
  simp only [hpending, Dialogue.call, Dialogue.run, Dialogue.ask_bind, Dialogue.done_bind,
    answer_reschedule_live reschedules hset, Dialogue.pure_eq]

end

end Simulator

end Watchface
