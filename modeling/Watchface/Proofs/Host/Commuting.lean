import Watchface.Proofs.Host.Simulator

/-!
# Dialogues in either order

On a simulated watch two dialogues meet only in the list of timers and in the
next handle.  Let each of them arm no more than one alarm, and let the two
alarms hold different timers.  Then it makes no difference to either of them
which comes first, apart from the handles that they get: `ArmsLast.commute`.
-/

namespace Watchface

namespace Simulator

variable {watch : Simulator} {timers : List Timer} {handle other : Handle}
  {deadline later : Nat}

def moveFirst (handle : Handle) (deadline : Nat) (timers : List Timer) : List Timer :=
  (setDeadline? handle deadline timers).getD timers

theorem setDeadline?_of_live (live : handle ∈ timers.map Timer.handle) (deadline : Nat) :
    setDeadline? handle deadline timers = some (moveFirst handle deadline timers) := by
  cases hmoved : setDeadline? handle deadline timers with
  | none => exact absurd live (setDeadline?_eq_none_iff.mp hmoved)
  | some moved => rw [moveFirst, hmoved, Option.getD_some]

theorem moveFirst_cons (handle : Handle) (deadline : Nat) (timer : Timer) (timers : List Timer) :
    moveFirst handle deadline (timer :: timers) =
      if timer.handle = handle then { timer with deadline := deadline } :: timers
      else timer :: moveFirst handle deadline timers := by
  by_cases hfound : timer.handle = handle
  · simp [moveFirst, setDeadline?, hfound]
  · cases hrest : setDeadline? handle deadline timers <;>
      simp [moveFirst, setDeadline?, hfound, hrest]

theorem handles_moveFirst (handle : Handle) (deadline : Nat) (timers : List Timer) :
    (moveFirst handle deadline timers).map Timer.handle = timers.map Timer.handle := by
  induction timers with
  | nil => rfl
  | cons timer timers ih =>
      rw [moveFirst_cons]
      by_cases hfound : timer.handle = handle
      · rw [if_pos hfound, List.map_cons, List.map_cons]
      · rw [if_neg hfound, List.map_cons, List.map_cons, ih]

theorem moveFirst_append (live : handle ∈ timers.map Timer.handle) (deadline : Nat)
    (behind : List Timer) :
    moveFirst handle deadline (timers ++ behind) = moveFirst handle deadline timers ++ behind := by
  induction timers with
  | nil => contradiction
  | cons timer timers ih =>
      rw [List.cons_append, moveFirst_cons, moveFirst_cons]
      by_cases hfound : timer.handle = handle
      · rw [if_pos hfound, if_pos hfound, List.cons_append]
      · have hlive := (List.mem_cons.mp live).resolve_left (Ne.symm hfound)
        rw [if_neg hfound, if_neg hfound, List.cons_append, ih hlive]

theorem moveFirst_comm (ne : handle ≠ other) (deadline later : Nat) (timers : List Timer) :
    moveFirst handle deadline (moveFirst other later timers) =
      moveFirst other later (moveFirst handle deadline timers) := by
  induction timers with
  | nil => rfl
  | cons timer timers ih =>
      by_cases hfirst : timer.handle = handle
      · subst hfirst
        simp [moveFirst_cons, ne]
      · by_cases hsecond : timer.handle = other
        · subst hsecond
          simp [moveFirst_cons, hfirst]
        · simp [moveFirst_cons, hfirst, hsecond, ih]

def deadlines (watch : Simulator) : List (Purpose × Nat) :=
  watch.timers.map fun timer => (timer.purpose, timer.deadline)

/-! ## What arming an alarm comes to -/

inductive Change where
  | move (handle : Handle)
  | keep (cause : ServiceError)
  | add
  | refuse (cause : ServiceError)

namespace Change

def result : Change → Except ServiceError Unit
  | .move _ | .add => .ok ()
  | .keep cause | .refuse cause => .error cause

def armed (change : Change) (watch : Simulator) (alarm : Alarm) : Alarm :=
  match change with
  | .move _ | .keep _ => alarm
  | .add => { alarm with pending := some watch.nextHandle }
  | .refuse _ => { alarm with pending := none }

def apply (change : Change) (watch : Simulator) (purpose : Purpose) (delay : UInt32) :
    Simulator :=
  match change with
  | .move handle =>
      { watch with timers := moveFirst handle (watch.elapsed + delay.toNat) watch.timers }
  | .add => watch.addTimer delay purpose
  | .keep _ | .refuse _ => watch

end Change

def scheduling (watch : Simulator) : Change :=
  match watch.faults .schedule with
  | none => .add
  | some cause => .refuse cause

/-- What becomes of the timers when the alarm is armed now. -/
def changeBy (watch : Simulator) (alarm : Alarm) : Change :=
  match alarm.pending with
  | none => watch.scheduling
  | some handle =>
      match watch.faults .reschedule with
      | some .invalidHandle => watch.scheduling
      | some cause => .keep cause
      | none =>
          if handle ∈ watch.timers.map Timer.handle then .move handle else watch.scheduling

/-- The outcome is that of the change; a timer that is added shows in the log. -/
structure Brings (change : Change) (watch : Simulator) (alarm : Alarm) (delay : UInt32)
    (outcome : Outcome Simulator (Except ServiceError Unit × Alarm)) : Prop where
  value : outcome.value = (change.result, change.armed watch alarm)
  state : outcome.state = change.apply watch alarm.purpose delay
  timed : ∀ exchange ∈ outcome.log, exchange.call.isTimer = true
  issued : change = .add → watch.nextHandle ∈ handlesIssued outcome.log

theorem brings_schedule (watch : Simulator) (alarm : Alarm) (delay : UInt32) :
    Brings watch.scheduling watch alarm delay ((alarm.schedule delay).run host watch) := by
  cases hfault : watch.faults .schedule with
  | none =>
      rw [run_schedule hfault, scheduling, hfault]
      exact ⟨rfl, rfl, by simp, fun _ => by simp [handlesIssued, Exchange.issuedHandle?]⟩
  | some cause =>
      have hanswer : host.answer (.schedule delay alarm.purpose) watch = (.error cause, watch) := by
        simp only [host, answer, schedule, hfault]
      simp only [Alarm.schedule, Dialogue.call, Dialogue.ask_bind, Dialogue.done_bind,
        Dialogue.run, hanswer, scheduling, hfault]
      exact ⟨rfl, rfl, by simp, fun hadd => by contradiction⟩

theorem Brings.after_exchange {change : Change} {alarm : Alarm} {delay : UInt32}
    {outcome : Outcome Simulator (Except ServiceError Unit × Alarm)}
    (h : Brings change watch alarm delay outcome) {exchange : Exchange}
    (timed : exchange.call.isTimer = true) :
    Brings change watch alarm delay { outcome with log := exchange :: outcome.log } where
  value := h.value
  state := h.state
  timed := List.forall_mem_cons.mpr ⟨timed, h.timed⟩
  issued hadd := by
    rw [handlesIssued_cons]
    exact List.mem_append_right _ (h.issued hadd)

theorem brings_arm (watch : Simulator) (alarm : Alarm) (delay : UInt32) :
    Brings (watch.changeBy alarm) watch alarm delay ((alarm.arm delay).run host watch) := by
  have hschedule := brings_schedule watch alarm delay
  unfold Alarm.arm changeBy
  cases hpending : alarm.pending with
  | none => exact hschedule
  | some handle =>
      cases hfault : watch.faults .reschedule with
      | some cause =>
          have hanswer : host.answer (.reschedule handle delay) watch = (.error cause, watch) := by
            simp only [host, answer, reschedule, hfault]
          simp only [Dialogue.call, Dialogue.ask_bind, Dialogue.done_bind, Dialogue.run, hanswer]
          cases cause with
          | invalidHandle => exact hschedule.after_exchange rfl
          | _ => exact ⟨rfl, rfl, by simp, fun hadd => by contradiction⟩
      | none =>
          by_cases hlive : handle ∈ watch.timers.map Timer.handle
          · have hmoved := setDeadline?_of_live hlive (watch.elapsed + delay.toNat)
            simp only [Dialogue.call, Dialogue.ask_bind, Dialogue.done_bind, Dialogue.run,
              answer_reschedule_live hfault hmoved, if_pos hlive]
            exact ⟨rfl, rfl, by simp, fun hadd => by contradiction⟩
          · have hgone : setDeadline? handle (watch.elapsed + delay.toNat) watch.timers = none :=
              setDeadline?_eq_none_iff.mpr hlive
            simp only [Dialogue.call, Dialogue.ask_bind, Dialogue.done_bind, Dialogue.run,
              answer_reschedule_gone hfault hgone, if_neg hlive]
            exact hschedule.after_exchange rfl

variable {alarm rival : Alarm} {change first second : Change} {purpose role : Purpose}
  {delay wait : UInt32}

theorem Change.frame (change : Change) (watch : Simulator) (purpose : Purpose) (delay : UInt32) :
    ∃ timers nextHandle, change.apply watch purpose delay =
      { watch with timers := timers, nextHandle := nextHandle } := by
  cases change with
  | add => exact ⟨_, _, rfl⟩
  | _ => exact ⟨_, watch.nextHandle, rfl⟩

theorem Change.mem_handles_apply (change : Change) (watch : Simulator) (purpose : Purpose)
    (delay : UInt32) (handle : Handle) :
    handle ∈ (change.apply watch purpose delay).timers.map Timer.handle ↔
      handle ∈ watch.timers.map Timer.handle ∨ (change = .add ∧ handle = watch.nextHandle) := by
  cases change with
  | move moved => simp [apply, handles_moveFirst]
  | add => simp [apply, addTimer]
  | keep cause | refuse cause => simp [apply]

theorem changeBy_apply (fresh : change = .add → alarm.pending ≠ some watch.nextHandle) :
    (change.apply watch purpose delay).changeBy alarm = watch.changeBy alarm := by
  have hlive : ∀ handle, alarm.pending = some handle →
      (handle ∈ (change.apply watch purpose delay).timers.map Timer.handle ↔
        handle ∈ watch.timers.map Timer.handle) := by
    intro handle hpending
    rw [Change.mem_handles_apply, or_iff_left]
    rintro ⟨hadd, hnext⟩
    exact fresh hadd (hnext ▸ hpending)
  obtain ⟨timers, nextHandle, hframe⟩ := change.frame watch purpose delay
  rw [hframe] at hlive ⊢
  unfold changeBy scheduling
  cases hpending : alarm.pending with
  | none => rfl
  | some handle => simp only [hlive handle hpending]

theorem scheduling_ne_move (watch : Simulator) (handle : Handle) :
    watch.scheduling ≠ .move handle := by
  unfold scheduling
  split <;> simp

theorem pending_of_changeBy (h : watch.changeBy alarm = .move handle) :
    alarm.pending = some handle ∧ handle ∈ watch.timers.map Timer.handle := by
  unfold changeBy at h
  split at h
  · exact absurd h (scheduling_ne_move watch handle)
  · next pending hpending =>
    split at h
    · exact absurd h (scheduling_ne_move watch handle)
    · contradiction
    · split at h
      · next hlive =>
        rw [Change.move.injEq] at h
        exact ⟨h ▸ hpending, h ▸ hlive⟩
      · exact absurd h (scheduling_ne_move watch handle)

theorem deadlines_comm (distinct : ∀ handle, first = .move handle → second ≠ .move handle)
    (live : ∀ handle, first = .move handle ∨ second = .move handle →
      handle ∈ watch.timers.map Timer.handle) :
    (second.apply (first.apply watch purpose delay) role wait).deadlines.Perm
      (first.apply (second.apply watch role wait) purpose delay).deadlines := by
  cases first with
  | keep | refuse => exact .refl _
  | move handle =>
      have hlive := live handle (.inl rfl)
      cases second with
      | keep | refuse => exact .refl _
      | move other =>
          have hne : other ≠ handle := fun heq => distinct handle rfl (heq ▸ rfl)
          simp only [Change.apply, deadlines, moveFirst_comm hne]
          exact .refl _
      | add =>
          simp only [Change.apply, addTimer, deadlines, moveFirst_append hlive]
          exact .refl _
  | add =>
      cases second with
      | keep | refuse => exact .refl _
      | move other =>
          have hlive := live other (.inr rfl)
          simp only [Change.apply, addTimer, deadlines, moveFirst_append hlive]
          exact .refl _
      | add =>
          simp only [Change.apply, addTimer, deadlines, List.map_append, List.map_cons,
            List.map_nil, List.append_assoc, List.singleton_append]
          exact (List.Perm.swap _ _ []).append_left _

/-- Make the change that arming the alarm comes to, or none if it is not armed. -/
def wound (watch : Simulator) (alarm : Alarm) : Option UInt32 → Simulator
  | none => watch
  | some delay => (watch.changeBy alarm).apply watch alarm.purpose delay

theorem wound_frame (watch : Simulator) (alarm : Alarm) (delay? : Option UInt32) :
    ∃ timers nextHandle,
      watch.wound alarm delay? = { watch with timers := timers, nextHandle := nextHandle } := by
  cases delay? with
  | none => exact ⟨watch.timers, watch.nextHandle, rfl⟩
  | some delay => exact (watch.changeBy alarm).frame watch alarm.purpose delay

theorem Change.isPending_armed (change : Change) (one two : Simulator) (alarm : Alarm) :
    (change.armed one alarm).isPending = (change.armed two alarm).isPending := by
  cases change <;> rfl

theorem answer_quiet {call : Call} (quiet : call.isTimer = false) (watch : Simulator)
    (timers : List Timer) (nextHandle : Handle) :
    host.answer call { watch with timers := timers, nextHandle := nextHandle } =
      ((host.answer call watch).1, { watch with timers := timers, nextHandle := nextHandle }) := by
  cases call with
  | schedule | reschedule => contradiction
  | _ => rfl

end Simulator

/-! ## Dialogues that arm one alarm -/

def untimed (log : List Exchange) : List Exchange :=
  log.filter fun exchange => !exchange.call.isTimer

theorem untimed_cons (exchange : Exchange) (log : List Exchange) :
    untimed (exchange :: log) =
      if exchange.call.isTimer then untimed log else exchange :: untimed log := by
  cases htimer : exchange.call.isTimer <;> simp only [untimed, List.filter_cons, htimer] <;> rfl

theorem untimed_append (first second : List Exchange) :
    untimed (first ++ second) = untimed first ++ untimed second :=
  List.filter_append ..

theorem untimed_eq_nil {log : List Exchange}
    (timed : ∀ exchange ∈ log, exchange.call.isTimer = true) : untimed log = [] := by
  rw [untimed, List.filter_eq_nil_iff]
  intro exchange hmem
  rw [timed exchange hmem]
  exact Bool.false_ne_true

open Simulator (host)

/-- Two watches that differ in their timers, but not in what arming the alarm comes to. -/
structure Simulator.Alike (alarm : Alarm) (one two : Simulator) : Prop where
  frame : ∃ timers nextHandle, two = { one with timers := timers, nextHandle := nextHandle }
  change : two.changeBy alarm = one.changeBy alarm

namespace Dialogue

variable {α β : Type} {related : α → α → Prop} {alarm : Alarm} {dialogue : Dialogue α}
  {one two : Simulator}

/--
Quiet calls come first; at most one alarm is armed, and then the dialogue is
over.  The value takes from the alarm no more than if it was armed and if it is
pending: values that agree in this are related.
-/
inductive ArmsLast (related : α → α → Prop) (alarm : Alarm) : Dialogue α → Prop
  | done {value : α} (same : related value value) : ArmsLast related alarm (.done value)
  | ask {call : Call} {next : call.Answer → Dialogue α} (quiet : call.isTimer = false)
      (tails : ∀ answer, ArmsLast related alarm (next answer)) :
      ArmsLast related alarm (.ask call next)
  | arm {delay : UInt32} {finish : Except ServiceError Unit × Alarm → α}
      (alike : ∀ first second, first.1 = second.1 → first.2.isPending = second.2.isPending →
        related (finish first) (finish second)) :
      ArmsLast related alarm (alarm.arm delay >>= fun armed => .done (finish armed))

theorem armsLast_attempt_bind {call : Call} {next : Unit → Dialogue α}
    (quiet : call.isTimer = false) (rest : ArmsLast related alarm (next ())) :
    ArmsLast related alarm (attempt call >>= next) :=
  .ask quiet fun _ => rest

theorem armsLast_call_bind {call : Call} {next : call.Answer → Dialogue α}
    (quiet : call.isTimer = false) (rest : ∀ answer, ArmsLast related alarm (next answer)) :
    ArmsLast related alarm (Dialogue.call call >>= next) :=
  .ask quiet rest

theorem armsLast_bind {first : Dialogue β} {next : β → Dialogue α}
    (quiet : ∀ log value, first.Trace log value → Quiet log)
    (rest : ∀ log value, first.Trace log value → ArmsLast related alarm (next value)) :
    ArmsLast related alarm (first >>= next) := by
  induction first with
  | done value => exact rest [] value (.done value)
  | ask call tail ih =>
      have hquiet : ∀ answer log value, (tail answer).Trace log value →
          call.isTimer = false ∧ Quiet log := fun _ _ _ trace =>
        quiet_cons.mp (quiet _ _ (.ask trace))
      constructor
      case quiet =>
        exact (hquiet call.anyAnswer _ _ (trace_run script (tail call.anyAnswer) [])).1
      case tails =>
        intro answer
        apply ih answer
        · exact fun log value trace => (hquiet answer log value trace).2
        · exact fun log value trace => rest _ value (.ask trace)

/-- How the dialogue goes on two watches: alike, and it winds the alarm on both or on none. -/
structure GoesAlike (related : α → α → Prop) (alarm : Alarm) (dialogue : Dialogue α)
    (one two : Simulator) (delay? : Option UInt32) : Prop where
  values : related (dialogue.run host one).value (dialogue.run host two).value
  logs : untimed (dialogue.run host one).log = untimed (dialogue.run host two).log
  first : (dialogue.run host one).state = one.wound alarm delay?
  second : (dialogue.run host two).state = two.wound alarm delay?
  issued : delay?.isSome = true → one.changeBy alarm = .add →
    one.nextHandle ∈ handlesIssued (dialogue.run host one).log

theorem goesAlike_arm {delay : UInt32} {finish : Except ServiceError Unit × Alarm → α}
    (values : ∀ first second, first.1 = second.1 → first.2.isPending = second.2.isPending →
      related (finish first) (finish second))
    (alike : Simulator.Alike alarm one two) :
    GoesAlike related alarm (alarm.arm delay >>= fun armed => .done (finish armed)) one two
      (some delay) := by
  have hone := Simulator.brings_arm one alarm delay
  have htwo := Simulator.brings_arm two alarm delay
  constructor
  case values =>
    simp only [run_bind, run_done, hone.value, htwo.value, alike.change]
    exact values _ _ rfl (Simulator.Change.isPending_armed _ one two alarm)
  case logs =>
    simp only [run_bind, run_done, List.append_nil, untimed_eq_nil hone.timed,
      untimed_eq_nil htwo.timed]
  case first =>
    simp only [run_bind, run_done, hone.state, Simulator.wound]
  case second =>
    simp only [run_bind, run_done, htwo.state, Simulator.wound]
  case issued =>
    intro _ hadd
    simp only [run_bind, run_done, List.append_nil]
    exact hone.issued hadd

theorem ArmsLast.goesAlike (h : ArmsLast related alarm dialogue)
    (alike : Simulator.Alike alarm one two) :
    ∃ delay?, GoesAlike related alarm dialogue one two delay? := by
  -- up to the arming both watches stay as they are, so the induction is on the dialogue alone
  induction h with
  | done same => exact ⟨none, same, rfl, rfl, rfl, fun hsome => by contradiction⟩
  | @ask call next quiet tails ih =>
      obtain ⟨timers, nextHandle, hframe⟩ := alike.frame
      obtain ⟨delay?, htail⟩ := ih (host.answer call one).1
      have hone : host.answer call one = ((host.answer call one).1, one) :=
        Simulator.answer_quiet quiet one one.timers one.nextHandle
      have htwo : host.answer call two = ((host.answer call one).1, two) := by
        rw [hframe]
        exact Simulator.answer_quiet quiet one timers nextHandle
      refine ⟨delay?, ?_, ?_, ?_, ?_, ?_⟩
      all_goals simp only [run, htwo]; rw [hone]
      · exact htail.values
      · rw [untimed_cons, untimed_cons, htail.logs]
      · exact htail.first
      · exact htail.second
      · intro hsome hadd
        rw [handlesIssued_cons]
        exact List.mem_append_right _ (htail.issued hsome hadd)
  | @arm delay finish values => exact ⟨some delay, goesAlike_arm values alike⟩

end Dialogue

theorem Dialogue.run_map {σ α β : Type} (host : Host σ) (f : α → β) (dialogue : Dialogue α)
    (state : σ) : (f <$> dialogue).run host state =
      { dialogue.run host state with value := f (dialogue.run host state).value } := by
  rw [map_eq_pure_bind, run_bind]
  simp only [pure_eq, run_done, List.append_nil]

variable {α β : Type} {related : α → α → Prop} {matched : β → β → Prop} {alarm rival : Alarm}
  {dialogue : Dialogue α} {other : Dialogue β} {watch : Simulator}

structure Commute (related : α → α → Prop) (matched : β → β → Prop) (dialogue : Dialogue α)
    (other : Dialogue β) (watch : Simulator) : Prop where
  first : related (dialogue.run host watch).value
    (dialogue.run host (other.run host watch).state).value
  second : matched (other.run host watch).value
    (other.run host (dialogue.run host watch).state).value
  deadlines : (other.run host (dialogue.run host watch).state).state.deadlines.Perm
    (dialogue.run host (other.run host watch).state).state.deadlines
  logs : (untimed ((dialogue.run host watch).log ++
      (other.run host (dialogue.run host watch).state).log)).Perm
    (untimed ((other.run host watch).log ++
      (dialogue.run host (other.run host watch).state).log))

theorem alike_wound {delay? : Option UInt32}
    (fresh : delay?.isSome = true → watch.changeBy rival = .add →
      alarm.pending ≠ some watch.nextHandle) :
    Simulator.Alike alarm watch (watch.wound rival delay?) := by
  constructor
  case frame => exact watch.wound_frame rival delay?
  case change =>
    cases delay? with
    | none => rfl
    | some delay => exact Simulator.changeBy_apply (fresh rfl)

theorem alike_run (h : dialogue.ArmsLast related rival)
    (spares : ∀ handle ∈ handlesIssued (dialogue.run host watch).log,
      alarm.pending ≠ some handle) :
    Simulator.Alike alarm watch (dialogue.run host watch).state := by
  have hself : Simulator.Alike rival watch watch := ⟨⟨watch.timers, watch.nextHandle, rfl⟩, rfl⟩
  obtain ⟨delay?, hgoes⟩ := h.goesAlike hself
  rw [hgoes.first]
  exact alike_wound fun hsome hadd => spares watch.nextHandle (hgoes.issued hsome hadd)

theorem wound_comm {delay? wait? : Option UInt32}
    (distinct : ∀ handle, alarm.pending = some handle → rival.pending ≠ some handle)
    (first : Simulator.Alike rival watch (watch.wound alarm delay?))
    (second : Simulator.Alike alarm watch (watch.wound rival wait?)) :
    ((watch.wound alarm delay?).wound rival wait?).deadlines.Perm
      ((watch.wound rival wait?).wound alarm delay?).deadlines := by
  cases delay? with
  | none => exact .refl _
  | some delay =>
      cases wait? with
      | none => exact .refl _
      | some wait =>
          have hfirst := first.change
          have hsecond := second.change
          simp only [Simulator.wound] at hfirst hsecond ⊢
          rw [hfirst, hsecond]
          apply Simulator.deadlines_comm
          · intro handle hone htwo
            exact distinct handle (Simulator.pending_of_changeBy hone).1
              (Simulator.pending_of_changeBy htwo).1
          · rintro handle (hmove | hmove)
            · exact (Simulator.pending_of_changeBy hmove).2
            · exact (Simulator.pending_of_changeBy hmove).2

theorem Dialogue.ArmsLast.commute (h : dialogue.ArmsLast related alarm)
    (rest : other.ArmsLast matched rival)
    (distinct : ∀ handle, alarm.pending = some handle → rival.pending ≠ some handle)
    (spares : ∀ handle ∈ handlesIssued (dialogue.run host watch).log,
      rival.pending ≠ some handle)
    (leaves : ∀ handle ∈ handlesIssued (other.run host watch).log,
      alarm.pending ≠ some handle) :
    Commute related matched dialogue other watch := by
  have hrival := alike_run h spares
  have halarm := alike_run rest leaves
  obtain ⟨delay?, hone⟩ := h.goesAlike halarm
  obtain ⟨wait?, htwo⟩ := rest.goesAlike hrival
  constructor
  case first => exact hone.values
  case second => exact htwo.values
  case deadlines =>
    rw [htwo.second, hone.second]
    rw [hone.first] at hrival ⊢
    rw [htwo.first] at halarm ⊢
    exact wound_comm distinct hrival halarm
  case logs =>
    rw [untimed_append, untimed_append, ← htwo.logs, ← hone.logs]
    exact List.perm_append_comm

end Watchface
