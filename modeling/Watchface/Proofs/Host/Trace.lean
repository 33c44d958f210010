import Watchface.Host.Dialogue

/-!
# Traces of dialogues

A trace of a dialogue is one way in which it can go: the calls it makes with
answers that some host might give, and the value it ends with.  Nothing is
asked of the answers, so what holds of every trace holds on every host.  The
two notions agree by `trace_iff_run`: traces are the logs that hosts leave.
-/

namespace Watchface

def Call.anyAnswer : (call : Call) → call.Answer
  | .markDirty | .closeChannel | .unsubscribeTick | .unsubscribeConnection => ()
  | .schedule _ _ => .error .unavailable
  | .readClock => 0
  | .doublePulse | .enableInteraction | .openChannel _ _ | .send _ | .subscribeTick _
  | .subscribeConnection | .reschedule _ _ => .error .unavailable

namespace Dialogue

variable {α β σ : Type}

inductive Trace : Dialogue α → List Exchange → α → Prop
  | done (value : α) : Trace (.done value) [] value
  | ask {call : Call} {next : call.Answer → Dialogue α} {answer : call.Answer}
      {log : List Exchange} {value : α} (tail : Trace (next answer) log value) :
      Trace (.ask call next) (⟨call, answer⟩ :: log) value

@[simp] theorem trace_done_iff {value found : α} {log : List Exchange} :
    Trace (.done value) log found ↔ log = [] ∧ found = value := by
  constructor
  · intro h
    cases h
    exact ⟨rfl, rfl⟩
  · rintro ⟨rfl, rfl⟩
    exact .done _

@[simp] theorem trace_ask_iff {call : Call} {next : call.Answer → Dialogue α}
    {log : List Exchange} {value : α} :
    Trace (.ask call next) log value ↔
      ∃ answer rest, log = ⟨call, answer⟩ :: rest ∧ (next answer).Trace rest value := by
  constructor
  · intro h
    cases h with
    | ask tail => exact ⟨_, _, rfl, tail⟩
  · rintro ⟨answer, rest, rfl, tail⟩
    exact .ask tail

theorem Trace.bind {dialogue : Dialogue α} {next : α → Dialogue β}
    {first second : List Exchange} {mid : α} {value : β}
    (hfirst : dialogue.Trace first mid) (hsecond : (next mid).Trace second value) :
    (dialogue >>= next).Trace (first ++ second) value := by
  induction hfirst with
  | done => exact hsecond
  | ask _ ih => exact .ask (ih hsecond)

theorem trace_bind_iff {dialogue : Dialogue α} {next : α → Dialogue β}
    {log : List Exchange} {value : β} :
    (dialogue >>= next).Trace log value ↔
      ∃ mid first second, dialogue.Trace first mid ∧ (next mid).Trace second value ∧
        log = first ++ second := by
  constructor
  · intro h
    induction dialogue generalizing log with
    | done mid => exact ⟨mid, [], log, .done mid, h, rfl⟩
    | ask call rest ih =>
        obtain ⟨answer, tail, rfl, htail⟩ := trace_ask_iff.mp h
        obtain ⟨mid, first, second, hfirst, hsecond, rfl⟩ := ih answer htail
        exact ⟨mid, ⟨call, answer⟩ :: first, second, .ask hfirst, hsecond, rfl⟩
  · rintro ⟨mid, first, second, hfirst, hsecond, rfl⟩
    exact hfirst.bind hsecond

@[simp] theorem trace_attempt_iff {call : Call} {log : List Exchange} {value : Unit} :
    (attempt call).Trace log value ↔ ∃ answer, log = [⟨call, answer⟩] := by
  simp [attempt]

theorem trace_attempt_bind_iff {call : Call} {next : Unit → Dialogue β} {log : List Exchange}
    {value : β} :
    (attempt call >>= next).Trace log value ↔
      ∃ answer rest, log = ⟨call, answer⟩ :: rest ∧ (next ()).Trace rest value := by
  simp [attempt]

theorem trace_call_bind_iff {call : Call} {next : call.Answer → Dialogue β}
    {log : List Exchange} {value : β} :
    (Dialogue.call call >>= next).Trace log value ↔
      ∃ answer rest, log = ⟨call, answer⟩ :: rest ∧ (next answer).Trace rest value := by
  simp [Dialogue.call]

/-! ## Traces and hosts -/

theorem trace_run (host : Host σ) (dialogue : Dialogue α) (state : σ) :
    dialogue.Trace (dialogue.run host state).log (dialogue.run host state).value := by
  induction dialogue generalizing state with
  | done value => exact .done value
  | ask call next ih => exact .ask (ih _ _)

theorem keeps_run {host : Host σ} {keeps : σ → Prop}
    (kept : ∀ call state, keeps state → keeps (host.answer call state).2)
    (dialogue : Dialogue α) {state : σ} (h : keeps state) :
    keeps (dialogue.run host state).state := by
  induction dialogue generalizing state with
  | done value => exact h
  | ask call next ih => exact ih _ (kept call state h)

theorem mem_log_run {host : Host σ} {keeps : σ → Prop}
    (kept : ∀ call state, keeps state → keeps (host.answer call state).2)
    (dialogue : Dialogue α) {state : σ} (h : keeps state) {exchange : Exchange}
    (mem : exchange ∈ (dialogue.run host state).log) :
    ∃ found, keeps found ∧ exchange.answer = (host.answer exchange.call found).1 := by
  induction dialogue generalizing state with
  | done value => contradiction
  | ask call next ih =>
      rcases List.mem_cons.mp mem with rfl | hmem
      · exact ⟨state, h, rfl⟩
      · exact ih _ (kept call state h) hmem

def script : Host (List Exchange) where
  answer call
    | [] => (call.anyAnswer, [])
    | exchange :: rest =>
        if h : exchange.call = call then (h ▸ exchange.answer, rest) else (call.anyAnswer, rest)

@[simp] theorem answer_script (call : Call) (answer : call.Answer) (rest : List Exchange) :
    script.answer call (⟨call, answer⟩ :: rest) = (answer, rest) := by
  simp [script]

theorem run_script {dialogue : Dialogue α} {log : List Exchange} {value : α}
    (h : dialogue.Trace log value) (rest : List Exchange) :
    dialogue.run script (log ++ rest) = ⟨value, rest, log⟩ := by
  induction h with
  | done value => rfl
  | ask _ ih => simp [run, ih]

theorem trace_iff_run {dialogue : Dialogue α} {log : List Exchange} {value : α} :
    dialogue.Trace log value ↔
      ∃ (σ : Type) (host : Host σ) (state : σ),
        (dialogue.run host state).log = log ∧ (dialogue.run host state).value = value := by
  constructor
  · intro h
    have hrun := run_script h []
    refine ⟨List Exchange, script, log ++ [], ?_, ?_⟩
    · rw [hrun]
    · rw [hrun]
  · rintro ⟨σ, host, state, rfl, rfl⟩
    exact trace_run host dialogue state

end Dialogue

def ClockShows (now : UInt32) (log : List Exchange) : Prop :=
  ∀ answer : UInt32, (⟨.readClock, answer⟩ : Exchange) ∈ log → answer = now

theorem clockShows_append {now : UInt32} {first second : List Exchange} :
    ClockShows now (first ++ second) ↔ ClockShows now first ∧ ClockShows now second := by
  simp [ClockShows, or_imp, forall_and]

def Exchange.clockReading? : Exchange → Option UInt32
  | ⟨.readClock, time⟩ => some time
  | _ => none

def clockReadings (log : List Exchange) : List UInt32 := log.filterMap Exchange.clockReading?

@[simp] theorem clockReadings_nil : clockReadings [] = [] := rfl

@[simp] theorem clockReadings_cons (exchange : Exchange) (log : List Exchange) :
    clockReadings (exchange :: log) = exchange.clockReading?.toList ++ clockReadings log := by
  cases h : exchange.clockReading? <;> simp [clockReadings, h]

@[simp] theorem clockReadings_append (first second : List Exchange) :
    clockReadings (first ++ second) = clockReadings first ++ clockReadings second := by
  simp [clockReadings]

/-- As far as the clock is read in both logs, it shows the same times. -/
def SameClock (first second : List Exchange) : Prop :=
  ∀ pair ∈ (clockReadings first).zip (clockReadings second), pair.1 = pair.2

def ClockOpens (now : UInt32) (log : List Exchange) : Prop :=
  ∀ time ∈ (clockReadings log).head?, time = now

theorem exists_clockOpens (log : List Exchange) : ∃ now, ClockOpens now log := by
  refine ⟨(clockReadings log).head?.getD 0, fun time htime => ?_⟩
  rw [Option.mem_def] at htime
  rw [htime, Option.getD_some]

theorem ClockShows.opens {now : UInt32} {log : List Exchange} (h : ClockShows now log) :
    ClockOpens now log := by
  intro time htime
  obtain ⟨⟨call, answer⟩, hmem, hreading⟩ :=
    List.mem_filterMap.mp (List.mem_of_head? htime)
  cases call with
  | readClock =>
      obtain rfl := Option.some.inj hreading
      exact h answer hmem
  | _ => simp [Exchange.clockReading?] at hreading

theorem SameClock.opens {first second : List Exchange} (h : SameClock first second) :
    ∃ now, ClockOpens now first ∧ ClockOpens now second := by
  cases hfirst : clockReadings first with
  | nil =>
      obtain ⟨now, hopens⟩ := exists_clockOpens second
      exact ⟨now, by simp [ClockOpens, hfirst], hopens⟩
  | cons time times =>
      refine ⟨time, by simp [ClockOpens, hfirst], ?_⟩
      cases hsecond : clockReadings second with
      | nil => simp [ClockOpens, hsecond]
      | cons other others =>
          rw [SameClock, hfirst, hsecond, List.zip_cons_cons, List.forall_mem_cons] at h
          simpa [ClockOpens, hsecond] using h.1.symm

instance (first second : List Exchange) : Decidable (SameClock first second) :=
  List.decidableBAll (fun pair : UInt32 × UInt32 => pair.1 = pair.2) _

end Watchface
