import Mathlib.Data.List.Chain
import Watchface.Proofs.Face.Subscription

/-!
# Requests for ticks

What the face asks of the tick service in a whole run.  It requests the tick of
the defaults when it starts.  Later it gives up its tick and requests another,
exactly when a message has made the settings need another one, and before it
does anything else about the message.  So the last request is always for the
tick that the settings need, and the face remembers the last one granted.
-/

namespace Watchface

def Exchange.granted? : Exchange → Option TickUnit
  | ⟨.subscribeTick unit, .ok ()⟩ => some unit
  | _ => none

theorem Exchange.granted?_of_isTick_eq_false {exchange : Exchange}
    (h : exchange.call.isTick = false) : exchange.granted? = none := by
  rcases exchange with ⟨call, answer⟩
  cases call <;> first | rfl | simp at h

def grantedUnits (log : List Exchange) : List TickUnit := log.filterMap Exchange.granted?

theorem grantedUnits_append (first second : List Exchange) :
    grantedUnits (first ++ second) = grantedUnits first ++ grantedUnits (tickCalls second) := by
  have hticks : ∀ exchange : Exchange, exchange.call.isTick = false →
      exchange.granted? = none := fun _ => Exchange.granted?_of_isTick_eq_false
  simp only [grantedUnits, filterMap_tickCalls hticks, List.filterMap_append]

def GrantsTicks (log : List Exchange) : Prop :=
  ∀ unit cause, (⟨.subscribeTick unit, .error cause⟩ : Exchange) ∉ log

theorem GrantsTicks.mono {first second : List Exchange} (h : GrantsTicks second)
    (sub : first ⊆ second) : GrantsTicks first :=
  fun unit cause hmem => h unit cause (sub hmem)

theorem exists_request_of_lastAnswer? {log : List Exchange} {answer : Except ServiceError Unit}
    (h : lastAnswer? log = some answer) :
    ∃ unit, (⟨.subscribeTick unit, answer⟩ : Exchange) ∈ log := by
  obtain ⟨⟨call, reply⟩, hmem, hanswer⟩ := List.mem_filterMap.mp (List.mem_of_getLast? h)
  cases call with
  | subscribeTick unit =>
      obtain rfl := Option.some.inj hanswer
      exact ⟨unit, hmem⟩
  | _ => simp [Exchange.subscriptionAnswer?] at hanswer

namespace Face

variable {platform : Platform} {face after : Face} {input : Input}
  {log behind opening : List Exchange} {turns : List Turn} {units : List TickUnit}

def renewals (units : List TickUnit) : List Call :=
  units.flatMap fun unit => [.unsubscribeTick, .subscribeTick unit]

/-- The invariant of runs: `units` are what has been requested since the start. -/
structure Requested (log : List Exchange) (units : List TickUnit) (face : Face) : Prop where
  calls : (tickCalls log).map Exchange.call = .subscribeTick .minute :: renewals units
  alternates : (TickUnit.minute :: units).IsChain (· ≠ ·)
  last : (TickUnit.minute :: units).getLast? = some face.settings.tickUnit
  remembered : face.tickUnit = (grantedUnits log).getLast?.getD .minute

theorem Subscribes.remembered (h : face.Subscribes after log) :
    after.tickUnit = (grantedUnits log).getLast?.getD face.tickUnit := by
  cases h with
  | same _ unit | renewed _ unit | refused _ unit => exact unit

theorem Requested.turn (h : Requested log units face)
    (subscribes : face.Subscribes after (tickCalls behind)) :
    ∃ units, Requested (log ++ behind) units after := by
  have hcalls : (tickCalls (log ++ behind)).map Exchange.call =
      .subscribeTick .minute :: renewals units ++
        if after.settings.tickUnit = face.settings.tickUnit then []
        else [.unsubscribeTick, .subscribeTick after.settings.tickUnit] := by
    rw [tickCalls_append, List.map_append, h.calls, subscribes.calls_eq]
  have hremembered :
      after.tickUnit = (grantedUnits (log ++ behind)).getLast?.getD .minute := by
    rw [grantedUnits_append, List.getLast?_append, subscribes.remembered, h.remembered]
    cases (grantedUnits (tickCalls behind)).getLast? <;> rfl
  by_cases hsame : after.settings.tickUnit = face.settings.tickUnit
  · rw [if_pos hsame, List.append_nil] at hcalls
    exact ⟨units, hcalls, h.alternates, hsame ▸ h.last, hremembered⟩
  · rw [if_neg hsame] at hcalls
    refine ⟨units ++ [after.settings.tickUnit], ?_, ?_, ?_, hremembered⟩
    · simpa [renewals] using hcalls
    · rw [← List.cons_append]
      refine h.alternates.append (List.isChain_singleton _) ?_
      rw [h.last]
      simpa using Ne.symm hsame
    · rw [← List.cons_append, List.getLast?_concat]

theorem requested_start (h : (Face.start platform).Trace log face) : Requested log [] face := by
  obtain ⟨rfl, tick, connection, channel, rfl⟩ := trace_start h
  have hunit : (ofPlatform platform).tickUnit = .minute := rfl
  have hsettings : (ofPlatform platform).settings.tickUnit = .minute := rfl
  refine ⟨?_, List.isChain_singleton _, ?_, ?_⟩
  · simp [hunit, renewals]
  · rw [hsettings]
    rfl
  · rw [hunit]
    cases tick <;> rfl

theorem Run.requested (run : Run platform opening turns face)
    (opens : (Face.start platform).Trace opening (ofPlatform platform)) :
    ∃ units, Requested (runLog opening turns) units face := by
  induction run with
  | fresh => cases opens
  | started start =>
      rw [runLog, List.flatMap_nil, List.append_nil]
      exact ⟨[], requested_start start⟩
  | turn _ reacts ih =>
      obtain ⟨units, hrequested⟩ := ih opens
      rw [runLog_append, List.flatMap_singleton]
      exact hrequested.turn (reacts_of_trace reacts).subscribes

/-- After the redraw, the subscription is renewed before anything else, and only once. -/
def RenewsFirst (log : List Exchange) : Prop :=
  ∃ unit answer rest,
    log = ⟨.markDirty, ()⟩ :: ⟨.unsubscribeTick, ()⟩ :: ⟨.subscribeTick unit, answer⟩ :: rest ∧
      tickCalls rest = []

theorem Retunes.renewsFirst {message : Dictionary} (h : face.Retunes message log after)
    (quiet : tickCalls behind = []) :
    tickCalls (⟨.markDirty, ()⟩ :: log ++ behind) = [] ∨
      RenewsFirst (⟨.markDirty, ()⟩ :: log ++ behind) := by
  cases h with
  | same => exact .inl (by simpa using quiet)
  | changed _ resubscribes =>
      cases resubscribes with
      | renewed | failed => exact .inr ⟨_, _, behind, rfl, quiet⟩

theorem Receives.renewsFirst {message : Dictionary} (h : face.Receives message log after) :
    tickCalls log = [] ∨ RenewsFirst log := by
  cases h with
  | quiet _ retunes => exact retunes.renewsFirst rfl
  | roused _ retunes refreshes =>
      exact retunes.renewsFirst (by simpa using tickCalls_refreshes refreshes)

theorem Reacts.renewsFirst (h : face.Reacts input log after) :
    tickCalls log = [] ∨ (∃ payload, input = .event (.inbox payload)) ∧ RenewsFirst log := by
  cases h with
  | tick | unreadable | stale | dismissed | abandoned => exact .inl rfl
  | connection connects => exact .inl (tickCalls_connects connects)
  | message _ receives => exact receives.renewsFirst.imp_right fun hrenews => ⟨⟨_, rfl⟩, hrenews⟩
  | elapsed _ _ refreshes | refresh refreshes => exact .inl (tickCalls_refreshes refreshes)

theorem Run.renewsFirst (run : Run platform opening turns face) {turn : Turn}
    (mem : turn ∈ turns) :
    tickCalls turn.log = [] ∨
      (∃ payload, turn.input = .event (.inbox payload)) ∧ RenewsFirst turn.log := by
  obtain ⟨before, behind, rfl⟩ := List.append_of_mem mem
  exact (reacts_of_trace run.cut.2).renewsFirst

theorem Run.tickUnit_eq (run : Run platform opening turns face)
    (grants : GrantsTicks (runLog opening turns)) : face.tickUnit = face.settings.tickUnit := by
  induction run with
  | fresh => rfl
  | started start =>
      rw [(trace_start start).1]
      rfl
  | @turn _ log _ _ after _ _ reacts ih =>
      rw [runLog_append, List.flatMap_singleton] at grants
      have htick := ih (grants.mono (List.subset_append_left _ _))
      have hgrants : GrantsTicks (tickCalls log) :=
        (grants.mono (List.subset_append_right _ _)).mono List.filter_sublist.subset
      have hsubscribes := (reacts_of_trace reacts).subscribes
      generalize tickCalls log = calls at hgrants hsubscribes
      cases hsubscribes with
      | same same unit => rw [unit, htick, same]
      | renewed _ unit => exact unit
      | refused => exact absurd (List.mem_cons_of_mem _ List.mem_cons_self) (hgrants _ _)

theorem Run.subscription_eq (run : Run platform opening turns face)
    (opens : (Face.start platform).Trace opening (ofPlatform platform))
    (grants : GrantsTicks (runLog opening turns)) :
    subscription (runLog opening turns) = some face.tickUnit := by
  have hopening : lastAnswer? opening = some (.ok ()) := by
    obtain ⟨-, tick | ⟨⟩, connection, channel, rfl⟩ := trace_start opens
    · exact absurd (List.mem_append_left _ List.mem_cons_self) (grants _ _)
    · rfl
  rcases run.subscribed hopening with ⟨-, hheld⟩ | ⟨cause, hlast, -⟩
  · exact hheld
  · obtain ⟨unit, hmem⟩ := exists_request_of_lastAnswer? hlast
    exact absurd hmem (grants _ _)

/--
In a run from the start, the tick calls are the first request and then pairs
that give up a tick and request another one than before; the last request is
for the tick that the settings need, and the face remembers the last one that
was granted.  The pairs stand in turns with messages, one in each at most, right
after the call for a redraw.  If no request is refused, the host delivers the
tick that the face remembers, and that is the one the settings need.
-/
theorem tick_requests_follow_settings
    (opens : (Face.start platform).Trace opening (ofPlatform platform))
    (run : Run platform opening turns face) :
    (∃ units, (tickCalls (runLog opening turns)).map Exchange.call =
        .subscribeTick .minute :: renewals units ∧
      (TickUnit.minute :: units).IsChain (· ≠ ·) ∧
      (TickUnit.minute :: units).getLast? = some face.settings.tickUnit) ∧
    face.tickUnit = (grantedUnits (runLog opening turns)).getLast?.getD .minute ∧
    (∀ turn ∈ turns, tickCalls turn.log = [] ∨
      (∃ payload, turn.input = .event (.inbox payload)) ∧ RenewsFirst turn.log) ∧
    (GrantsTicks (runLog opening turns) →
      subscription (runLog opening turns) = some face.tickUnit ∧
        face.tickUnit = face.settings.tickUnit) := by
  obtain ⟨units, hrequested⟩ := run.requested opens
  refine ⟨⟨units, hrequested.calls, hrequested.alternates, hrequested.last⟩,
    hrequested.remembered, fun turn mem => run.renewsFirst mem, fun grants => ?_⟩
  exact ⟨run.subscription_eq opens grants, run.tickUnit_eq grants⟩

/--
The second hand is turned on while the host refuses its tick, and then off
again: the face requests each tick that is needed, but remembers only the ones
granted.  On a host that grants the request it has the tick at once.
-/
theorem refused_tick_is_not_remembered :
    let face := faceWithSeconds.withSeconds 0
    let turns := [refusedTurn,
      ⟨faceWithSeconds, showSeconds 0, renewalLog .minute (.ok ()), face⟩]
    (∃ units, (tickCalls (runLog openingGranted turns)).map Exchange.call =
        .subscribeTick .minute :: renewals units ∧
      (TickUnit.minute :: units).IsChain (· ≠ ·) ∧
      (TickUnit.minute :: units).getLast? = some .minute) ∧
    faceWithSeconds.tickUnit =
      (grantedUnits (runLog openingGranted [refusedTurn])).getLast?.getD .minute ∧
    RenewsFirst grantedTurn.log ∧
    subscription (runLog openingGranted [grantedTurn]) = some .second := by
  intro face turns
  have hrun : Run .colorRect openingGranted turns face :=
    run_refusedTurn.turn (.ask (.ask (.ask (.ask (.done _)))))
  have hturns := tick_requests_follow_settings trace_openingGranted hrun
  have hrefused := tick_requests_follow_settings trace_openingGranted run_refusedTurn
  have hgranted := tick_requests_follow_settings trace_openingGranted run_grantedTurn
  have hgrants : GrantsTicks (runLog openingGranted [grantedTurn]) := by
    simp [GrantsTicks, runLog, openingGranted, grantedTurn, renewalLog]
  refine ⟨hturns.1, hrefused.2.1, ?_, (hgranted.2.2.2 hgrants).1⟩
  exact ((hgranted.2.2.1 grantedTurn List.mem_cons_self).resolve_left (by
    simp [grantedTurn, renewalLog])).2

end Face

end Watchface
