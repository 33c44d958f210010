import Watchface.Host.Call

/-!
Computations that talk to a host.

A dialogue is either over or asks one call and goes on with the answer.  It
fixes what is asked and leaves every answer open, so a statement about a
dialogue holds whatever the host does.  `run` holds the dialogue with one host
and keeps a log of the calls and their answers.
-/

namespace Watchface

inductive Dialogue (α : Type) where
  | done (value : α)
  | ask (call : Call) (next : call.Answer → Dialogue α)

namespace Dialogue

variable {α β γ : Type}

def bind : Dialogue α → (α → Dialogue β) → Dialogue β
  | .done value, next => next value
  | .ask call rest, next => .ask call fun answer => (rest answer).bind next

instance : Monad Dialogue where
  pure := .done
  bind := bind

def call (call : Call) : Dialogue call.Answer := .ask call .done

def attempt (call : Call) : Dialogue Unit := .ask call fun _ => .done ()

def attemptIf (condition : Bool) (call : Call) : Dialogue Unit :=
  if condition then attempt call else .done ()

@[simp] theorem pure_eq (value : α) : (pure value : Dialogue α) = .done value := rfl

@[simp] theorem bind_eq (dialogue : Dialogue α) (next : α → Dialogue β) :
    dialogue.bind next = dialogue >>= next := rfl

@[simp] theorem done_bind (value : α) (next : α → Dialogue β) :
    Dialogue.done value >>= next = next value := rfl

@[simp] theorem ask_bind (call : Call) (rest : call.Answer → Dialogue α)
    (next : α → Dialogue β) :
    Dialogue.ask call rest >>= next = .ask call fun answer => rest answer >>= next := rfl

theorem bind_done (dialogue : Dialogue α) : dialogue >>= Dialogue.done = dialogue := by
  induction dialogue with
  | done value => rfl
  | ask call rest ih => simp [ih]

theorem bind_assoc (dialogue : Dialogue α) (first : α → Dialogue β) (second : β → Dialogue γ) :
    dialogue >>= first >>= second = dialogue >>= fun value => first value >>= second := by
  induction dialogue with
  | done value => rfl
  | ask call rest ih => simp [ih]

instance : LawfulMonad Dialogue :=
  LawfulMonad.mk' Dialogue
    (fun dialogue => bind_done dialogue)
    (fun _ _ => rfl)
    bind_assoc

end Dialogue

/-- A host with states of type `σ`: what it answers to a call, and its state afterwards. -/
structure Host (σ : Type) where
  answer : (call : Call) → σ → call.Answer × σ

structure Outcome (σ α : Type) where
  value : α
  state : σ
  log : List Exchange

namespace Dialogue

variable {σ α β : Type}

def run (host : Host σ) : Dialogue α → σ → Outcome σ α
  | .done value, state => ⟨value, state, []⟩
  | .ask call next, state =>
      let answered := host.answer call state
      let rest := (next answered.1).run host answered.2
      { rest with log := ⟨call, answered.1⟩ :: rest.log }

@[simp] theorem run_done (host : Host σ) (value : α) (state : σ) :
    (Dialogue.done value).run host state = ⟨value, state, []⟩ := rfl

theorem run_bind (host : Host σ) (dialogue : Dialogue α) (next : α → Dialogue β) (state : σ) :
    (dialogue >>= next).run host state =
      let first := dialogue.run host state
      let second := (next first.value).run host first.state
      { second with log := first.log ++ second.log } := by
  induction dialogue generalizing state with
  | done value => rfl
  | ask call rest ih => simp [run, ih]

end Dialogue

end Watchface
