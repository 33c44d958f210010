import Watchface.Proofs.Host.Arming

/-!
# Dialogues side by side

Two hosts may differ in what they answer to some free calls, and to those only.
`AnswersAlike` says so of the logs that they leave.  Two dialogues are coupled
if they go on with the same calls, whatever the free ones are answered.  The
main fact is that coupled dialogues, held with such hosts, do make the same
calls and end in related values.
-/

namespace Watchface

/-- As long as the same calls are made they have the same answers, apart from the free ones. -/
def AnswersAlike (free : Call → Bool) : List Exchange → List Exchange → Prop
  | first :: firsts, second :: seconds =>
      first.call = second.call →
        (free first.call = false → first = second) ∧ AnswersAlike free firsts seconds
  | [], _ | _, [] => True

variable {free : Call → Bool}

theorem AnswersAlike.front {first second behind rest : List Exchange}
    (h : AnswersAlike free (first ++ behind) (second ++ rest)) :
    AnswersAlike free first second := by
  induction first generalizing second with
  | nil => simp [AnswersAlike]
  | cons exchange first ih =>
      cases second with
      | nil => simp [AnswersAlike]
      | cons other second => exact fun hcall => ⟨(h hcall).1, ih (h hcall).2⟩

theorem AnswersAlike.back {first second behind rest : List Exchange}
    (h : AnswersAlike free (first ++ behind) (second ++ rest))
    (calls : first.map Exchange.call = second.map Exchange.call) :
    AnswersAlike free behind rest := by
  induction first generalizing second with
  | nil =>
      obtain rfl := List.map_eq_nil_iff.mp calls.symm
      exact h
  | cons exchange first ih =>
      cases second with
      | nil => contradiction
      | cons other second =>
          obtain ⟨hcall, hcalls⟩ := List.cons.inj calls
          exact ih (h hcall).2 hcalls

namespace Dialogue

variable {α β γ δ : Type} {related : α → β → Prop}

inductive Coupled (free : Call → Bool) (related : α → β → Prop) :
    Dialogue α → Dialogue β → Prop
  | done {value : α} {other : β} (values : related value other) :
      Coupled free related (.done value) (.done other)
  | ask {call : Call} {next : call.Answer → Dialogue α} {rest : call.Answer → Dialogue β}
      (tails : ∀ answer other, (free call = false → answer = other) →
        Coupled free related (next answer) (rest other)) :
      Coupled free related (.ask call next) (.ask call rest)

theorem Coupled.bind {dialogue : Dialogue α} {other : Dialogue β} {next : α → Dialogue γ}
    {rest : β → Dialogue δ} {ends : γ → δ → Prop} (h : Coupled free related dialogue other)
    (tails : ∀ value found, related value found → Coupled free ends (next value) (rest found)) :
    Coupled free ends (dialogue >>= next) (other >>= rest) := by
  induction h with
  | done values => exact tails _ _ values
  | ask _ ih => exact .ask fun answer found same => ih answer found same

theorem coupled_attempt (call : Call) : Coupled free Eq (attempt call) (attempt call) :=
  .ask fun _ _ _ => .done rfl

theorem coupled_attempt_bind {call : Call} {next : Unit → Dialogue α} {rest : Unit → Dialogue β}
    (h : Coupled free related (next ()) (rest ())) :
    Coupled free related (attempt call >>= next) (attempt call >>= rest) :=
  .ask fun _ _ _ => h

theorem coupled_call_bind {call : Call} {next : call.Answer → Dialogue α}
    {rest : call.Answer → Dialogue β} (strict : free call = false)
    (h : ∀ answer, Coupled free related (next answer) (rest answer)) :
    Coupled free related (Dialogue.call call >>= next) (Dialogue.call call >>= rest) := by
  refine .ask fun answer other same => ?_
  rw [← same strict]
  exact h answer

theorem coupled_self {dialogue : Dialogue α}
    (strict : ∀ log value, dialogue.Trace log value →
      ∀ exchange ∈ log, free exchange.call = false) :
    Coupled free Eq dialogue dialogue := by
  induction dialogue with
  | done value => exact .done rfl
  | ask call next ih =>
      have hstrict : ∀ answer log value, (next answer).Trace log value →
          free call = false ∧ ∀ exchange ∈ log, free exchange.call = false := fun _ _ _ tail =>
        List.forall_mem_cons.mp (strict _ _ (.ask tail))
      refine .ask fun answer other same => ?_
      obtain ⟨hcall, -⟩ := hstrict answer _ _ (trace_run script (next answer) [])
      rw [← same hcall]
      exact ih answer fun log value tail => (hstrict answer log value tail).2

theorem Coupled.alike {dialogue : Dialogue α} {other : Dialogue β}
    {first second behind rest : List Exchange} {value : α} {found : β}
    (h : Coupled free related dialogue other) (one : dialogue.Trace first value)
    (two : other.Trace second found)
    (alike : AnswersAlike free (first ++ behind) (second ++ rest)) :
    first.map Exchange.call = second.map Exchange.call ∧ related value found := by
  induction h generalizing first second with
  | done values =>
      obtain ⟨rfl, rfl⟩ := trace_done_iff.mp one
      obtain ⟨rfl, rfl⟩ := trace_done_iff.mp two
      exact ⟨rfl, values⟩
  | @ask call next rest tails ih =>
      obtain ⟨answer, firsts, rfl, hone⟩ := trace_ask_iff.mp one
      obtain ⟨reply, seconds, rfl, htwo⟩ := trace_ask_iff.mp two
      obtain ⟨hsame, htail⟩ := alike rfl
      have hanswers : free call = false → answer = reply := fun strict =>
        eq_of_heq (Exchange.mk.inj (hsame strict)).2
      obtain ⟨hcalls, hrelated⟩ := ih answer reply hanswers hone htwo htail
      exact ⟨congrArg (call :: ·) hcalls, hrelated⟩

end Dialogue

theorem Alarm.coupled_arm (alarm : Alarm) (delay : UInt32)
    (scheduled : ∀ purpose, free (.schedule delay purpose) = false)
    (moved : ∀ handle, free (.reschedule handle delay) = false) :
    Dialogue.Coupled free Eq (alarm.arm delay) (alarm.arm delay) := by
  refine Dialogue.coupled_self fun log ⟨result, armed⟩ trace => ?_
  cases arms_of_trace trace <;> simp [scheduled, moved]

end Watchface
