import Mathlib.Data.List.Forall2
import Watchface.Proofs.Dictionary.Keys
import Watchface.Proofs.Face.Reaction

/-!
# Runs of the face

A run begins with a face that is new or has been started, and goes on turn by
turn.  Each turn takes an input and keeps its log.  The answers in the logs
are open, so a run can be that of any host.  The first fact about runs is what
`scriptReady` remembers of the messages so far.
-/

namespace Watchface.Face

structure Turn where
  before : Face
  input : Input
  log : List Exchange
  after : Face

/-- The log of the start comes first; it is empty for a face that is not started. -/
inductive Run (platform : Platform) : List Exchange → List Turn → Face → Prop
  | fresh : Run platform [] [] (ofPlatform platform)
  | started {opening : List Exchange} {face : Face}
      (start : (Face.start platform).Trace opening face) : Run platform opening [] face
  | turn {opening log : List Exchange} {turns : List Turn} {face after : Face} {input : Input}
      (run : Run platform opening turns face) (reacts : (face.react input).Trace log after) :
      Run platform opening (turns ++ [⟨face, input, log, after⟩]) after

variable {platform : Platform} {face after : Face} {log opening : List Exchange}
  {turns : List Turn}

def runLog (opening : List Exchange) (turns : List Turn) : List Exchange :=
  opening ++ turns.flatMap Turn.log

theorem runLog_append (opening : List Exchange) (first second : List Turn) :
    runLog opening (first ++ second) = runLog opening first ++ second.flatMap Turn.log := by
  rw [runLog, List.flatMap_append, ← List.append_assoc, runLog]

theorem trace_start (h : (Face.start platform).Trace log face) :
    face = ofPlatform platform ∧ ∃ tick connection channel,
      log = [⟨.subscribeTick (ofPlatform platform).tickUnit, tick⟩,
        ⟨.subscribeConnection, connection⟩,
        ⟨.openChannel Channel.inboxSize Channel.outboxSize, channel⟩] := by
  unfold Face.start at h
  obtain ⟨tick, afterTick, rfl, htick⟩ := Dialogue.trace_attempt_bind_iff.mp h
  obtain ⟨connection, afterConnection, rfl, hopen⟩ := Dialogue.trace_attempt_bind_iff.mp htick
  obtain ⟨channel, rest, rfl, hrest⟩ := Dialogue.trace_attempt_bind_iff.mp hopen
  obtain ⟨rfl, rfl⟩ := Dialogue.trace_done_iff.mp hrest
  exact ⟨rfl, tick, connection, channel, rfl⟩

theorem Run.cut {before behind : List Turn} {turn : Turn}
    (run : Run platform opening (before ++ turn :: behind) face) :
    Run platform opening before turn.before ∧
      (turn.before.react turn.input).Trace turn.log turn.after := by
  generalize hturns : before ++ turn :: behind = turns at run
  induction run generalizing behind with
  | fresh | started => simp at hturns
  | turn run reacts ih =>
      rcases List.eq_nil_or_concat behind with rfl | ⟨middle, last, rfl⟩
      · obtain ⟨rfl, hlast⟩ := List.append_inj' hturns rfl
        obtain rfl := List.singleton_inj.mp hlast
        exact ⟨run, reacts⟩
      · rw [List.concat_eq_append, ← List.cons_append, ← List.append_assoc] at hturns
        exact ih (List.append_inj' hturns rfl).1

theorem Run.nil_or_concat (run : Run platform opening turns face) :
    (turns = [] ∧ face = ofPlatform platform) ∨
      ∃ before last, turns = before ++ [last] ∧ face = last.after ∧
        Run platform opening before last.before ∧
        (last.before.react last.input).Trace last.log last.after := by
  cases run with
  | fresh => exact .inl ⟨rfl, rfl⟩
  | started start => exact .inl ⟨rfl, (trace_start start).1⟩
  | turn run reacts => exact .inr ⟨_, _, rfl, rfl, run, reacts⟩

theorem Run.face_eq {before : List Turn} {turn : Turn}
    (run : Run platform opening (before ++ [turn]) face) : face = turn.after := by
  rcases run.nil_or_concat with ⟨hnil, -⟩ | ⟨front, last, hconcat, hface, -⟩
  · simp at hnil
  · obtain ⟨-, hlast⟩ := List.append_inj' hconcat rfl
    rw [hface, List.singleton_inj.mp hlast]

theorem Run.before_eq {before behind : List Turn} {turn next : Turn}
    (run : Run platform opening (before ++ turn :: next :: behind) face) :
    next.before = turn.after := by
  rw [List.append_cons] at run
  exact run.cut.1.face_eq

/-! ## Two runs -/

/-- Two turns take the same input and, as far as both read the clock, at the same times. -/
def Turn.Parallel (first second : Turn) : Prop :=
  first.input = second.input ∧ SameClock first.log second.log

theorem forall₂_concat_iff {related : Turn → Turn → Prop} {first second : List Turn}
    {last final : Turn} :
    List.Forall₂ related (first ++ [last]) (second ++ [final]) ↔
      List.Forall₂ related first second ∧ related last final := by
  rw [← List.forall₂_reverse_iff]
  simp [and_comm]

theorem Run.eq_ofPlatform (run : Run platform opening [] face) : face = ofPlatform platform := by
  rcases run.nil_or_concat with ⟨-, hface⟩ | ⟨before, last, hturns, -⟩
  · exact hface
  · simp at hturns

/-- What holds when two runs begin, and is kept by turns that are parallel, holds of both runs. -/
theorem Run.parallel_induction {motive : List Turn → Face → List Turn → Face → Prop}
    {beginning : List Exchange} {others : List Turn} {other : Face}
    (first : Run platform opening turns face) (second : Run platform beginning others other)
    (parallel : List.Forall₂ Turn.Parallel turns others)
    (start : motive [] (ofPlatform platform) [] (ofPlatform platform))
    (turn : ∀ {turns others : List Turn} {last final : Turn},
      motive turns last.before others final.before → last.Parallel final →
      (last.before.react last.input).Trace last.log last.after →
      (final.before.react final.input).Trace final.log final.after →
      motive (turns ++ [last]) last.after (others ++ [final]) final.after) :
    motive turns face others other := by
  induction first generalizing others other with
  | fresh =>
      obtain rfl := List.forall₂_nil_left_iff.mp parallel
      rw [second.eq_ofPlatform]
      exact start
  | started begun =>
      obtain rfl := List.forall₂_nil_left_iff.mp parallel
      rw [second.eq_ofPlatform, (trace_start begun).1]
      exact start
  | turn run reacts ih =>
      rcases second.nil_or_concat with ⟨rfl, -⟩ | ⟨before, final, rfl, rfl, hbefore, hreacts⟩
      · simp at parallel
      · obtain ⟨hparallel, hlast⟩ := forall₂_concat_iff.mp parallel
        exact turn (ih hbefore hparallel) hlast reacts hreacts

def ReportsReady (payload : Bytes) : Prop :=
  ∃ message tuple, Dictionary.parse payload = .ok message ∧
    .ok tuple ∈ message.items ∧ tuple.key = 109

def Input.ReportsReady (input : Input) : Prop :=
  ∃ payload, input = .event (.inbox payload) ∧ Face.ReportsReady payload

theorem reportsReady_iff {payload : Bytes} {message : Dictionary}
    (h : Dictionary.parse payload = .ok message) :
    ReportsReady payload ↔ (message.find? Message.scriptReady.key).isSome = true := by
  rw [Dictionary.isSome_find?_iff]
  constructor
  · rintro ⟨other, tuple, hparse, htuple⟩
    rw [h, Except.ok.injEq] at hparse
    subst hparse
    exact ⟨tuple, htuple⟩
  · rintro ⟨tuple, htuple⟩
    exact ⟨message, tuple, h, htuple⟩

theorem Reacts.scriptReady_iff {input : Input} (h : face.Reacts input log after) :
    after.scriptReady = true ↔ face.scriptReady = true ∨ input.ReportsReady := by
  cases h with
  | tick => simp [Input.ReportsReady]
  | connection connects => cases connects <;> simp [Input.ReportsReady, announced]
  | unreadable unreadable => simp [Input.ReportsReady, ReportsReady, unreadable]
  | message readable receives =>
      obtain ⟨now, unit, refresh, -, rfl⟩ := receives.frame
      simp [Input.ReportsReady, reportsReady_iff readable, takeWeather, settled]
  | stale => simp [Input.ReportsReady]
  | dismissed => simp [Input.ReportsReady]
  | abandoned => simp [Input.ReportsReady]
  | elapsed _ _ refreshes =>
      obtain ⟨refresh, rfl⟩ := refreshes.frame
      simp [Input.ReportsReady]
  | refresh refreshes =>
      obtain ⟨refresh, rfl⟩ := refreshes.frame
      simp [Input.ReportsReady]

theorem Run.scriptReady_iff (run : Run platform opening turns face) :
    face.scriptReady = true ↔ ∃ input ∈ turns.map Turn.input, input.ReportsReady := by
  induction run with
  | fresh => simp [ofPlatform]
  | started start =>
      rw [(trace_start start).1]
      simp [ofPlatform]
  | turn _ reacts ih =>
      rw [(reacts_of_trace reacts).scriptReady_iff, ih]
      simp only [List.map_append, List.map_cons, List.map_nil, List.mem_append,
        List.mem_singleton, or_and_right, exists_or, exists_eq_left]

end Watchface.Face
