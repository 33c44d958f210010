import Watchface.Proofs.Face.Run

/-!
# The tick subscription

A face that needs another tick gives up its subscription before it asks for
the new one.  If the host refuses, the face is left without ticks, although
`tickUnit` still names the tick it had.  `Subscribes` says what one reaction
does to the subscription; the main statement tells from the last answer to an
attempt whether there is one.
-/

namespace Watchface

@[simp] def Call.isTick : Call → Bool
  | .subscribeTick _ | .unsubscribeTick => true
  | _ => false

namespace Exchange

def subscription (held : Option TickUnit) : Exchange → Option TickUnit
  | ⟨.subscribeTick unit, .ok ()⟩ => some unit
  | ⟨.unsubscribeTick, ()⟩ => none
  | _ => held

def subscriptionAnswer? : Exchange → Option (Except ServiceError Unit)
  | ⟨.subscribeTick _, answer⟩ => some answer
  | _ => none

theorem subscription_of_isTick_eq_false {exchange : Exchange}
    (h : exchange.call.isTick = false) (held : Option TickUnit) :
    exchange.subscription held = held := by
  rcases exchange with ⟨call, answer⟩
  cases call <;> first | rfl | simp at h

theorem subscriptionAnswer?_of_isTick_eq_false {exchange : Exchange}
    (h : exchange.call.isTick = false) : exchange.subscriptionAnswer? = none := by
  rcases exchange with ⟨call, answer⟩
  cases call <;> first | rfl | simp at h

end Exchange

def tickCalls (log : List Exchange) : List Exchange :=
  log.filter fun exchange => exchange.call.isTick

/-- The tick that the host delivers after a log, if any. -/
def subscription (log : List Exchange) : Option TickUnit :=
  log.foldl Exchange.subscription none

def lastAnswer? (log : List Exchange) : Option (Except ServiceError Unit) :=
  (log.filterMap Exchange.subscriptionAnswer?).getLast?

@[simp] theorem tickCalls_nil : tickCalls [] = [] := rfl

@[simp] theorem tickCalls_cons (exchange : Exchange) (log : List Exchange) :
    tickCalls (exchange :: log) =
      if exchange.call.isTick then exchange :: tickCalls log else tickCalls log :=
  List.filter_cons

@[simp] theorem tickCalls_append (first second : List Exchange) :
    tickCalls (first ++ second) = tickCalls first ++ tickCalls second :=
  List.filter_append first second

theorem foldl_tickCalls (log : List Exchange) (held : Option TickUnit) :
    (tickCalls log).foldl Exchange.subscription held = log.foldl Exchange.subscription held := by
  induction log generalizing held with
  | nil => rfl
  | cons exchange log ih =>
      rw [tickCalls_cons, List.foldl_cons]
      split
      · rw [List.foldl_cons, ih]
      · next h =>
        rw [Bool.not_eq_true] at h
        rw [Exchange.subscription_of_isTick_eq_false h, ih]

theorem subscription_append (first second : List Exchange) :
    subscription (first ++ second) =
      (tickCalls second).foldl Exchange.subscription (subscription first) := by
  rw [subscription, List.foldl_append, foldl_tickCalls, subscription]

theorem filterMap_tickCalls {α : Type} {read : Exchange → Option α}
    (ticks : ∀ exchange : Exchange, exchange.call.isTick = false → read exchange = none)
    (log : List Exchange) : (tickCalls log).filterMap read = log.filterMap read := by
  rw [tickCalls, List.filterMap_filter]
  refine List.filterMap_congr fun exchange _ => ?_
  split
  · rfl
  · next h => exact (ticks exchange (Bool.not_eq_true _ ▸ h)).symm

theorem lastAnswer?_append (first second : List Exchange) :
    lastAnswer? (first ++ second) = (lastAnswer? (tickCalls second)).or (lastAnswer? first) := by
  have hticks : ∀ exchange : Exchange, exchange.call.isTick = false →
      exchange.subscriptionAnswer? = none := fun _ =>
    Exchange.subscriptionAnswer?_of_isTick_eq_false
  simp only [lastAnswer?, filterMap_tickCalls hticks, List.filterMap_append,
    List.getLast?_append]

namespace Face

variable {platform : Platform} {face after : Face} {log opening : List Exchange}
  {turns : List Turn}

/-- The tick calls of a reaction, and what becomes of the tick. -/
inductive Subscribes (face after : Face) : List Exchange → Prop
  | same (same : after.settings.tickUnit = face.settings.tickUnit)
      (unit : after.tickUnit = face.tickUnit) : Subscribes face after []
  | renewed (changed : after.settings.tickUnit ≠ face.settings.tickUnit)
      (unit : after.tickUnit = after.settings.tickUnit) :
      Subscribes face after
        [⟨.unsubscribeTick, ()⟩, ⟨.subscribeTick after.settings.tickUnit, .ok ()⟩]
  | refused {cause : ServiceError}
      (changed : after.settings.tickUnit ≠ face.settings.tickUnit)
      (unit : after.tickUnit = face.tickUnit) :
      Subscribes face after
        [⟨.unsubscribeTick, ()⟩, ⟨.subscribeTick after.settings.tickUnit, .error cause⟩]

theorem Subscribes.calls_eq (h : face.Subscribes after log) :
    log.map Exchange.call =
      if after.settings.tickUnit = face.settings.tickUnit then []
      else [.unsubscribeTick, .subscribeTick after.settings.tickUnit] := by
  cases h with
  | same same => rw [if_pos same, List.map_nil]
  | renewed changed | refused changed =>
      rw [if_neg changed]
      rfl

theorem tickCalls_arms {alarm armed : Alarm} {delay : UInt32} {result : Except ServiceError Unit}
    (h : alarm.Arms delay log result armed) : tickCalls log = [] := by
  cases h <;> rfl

theorem tickCalls_refreshes {force : Bool} (h : face.Refreshes force log after) :
    tickCalls log = [] := by
  cases h with
  | waiting => rfl
  | @ready request arming _ _ requests rearms =>
      have hrequest : tickCalls request = [] := by cases requests <;> rfl
      have harming : tickCalls arming = [] := by
        cases rearms with
        | off => rfl
        | on _ arms => exact tickCalls_arms arms
      rw [tickCalls_append, hrequest, harming, List.append_nil]

theorem tickCalls_connects {connected : Bool} (h : face.Connects connected log after) :
    tickCalls log = [] := by
  cases h with
  | silent _ vibrates => cases vibrates <;> rfl
  | announced _ vibrates arms =>
      have harming := tickCalls_arms arms
      cases vibrates <;> simp [harming]

theorem Retunes.subscribes {message : Dictionary} (h : face.Retunes message log after) :
    face.Subscribes after (tickCalls log) := by
  cases h with
  | same same =>
      have hsame : (face.settled message).settings.tickUnit = face.settings.tickUnit := by
        simpa [Settings.merge, Settings.update, settled, settings] using same
      exact .same hsame rfl
  | changed changed resubscribes =>
      have hchanged : (face.settled message).settings.tickUnit ≠ face.settings.tickUnit := by
        simpa [Settings.merge, Settings.update, settled, settings] using changed
      cases resubscribes with
      | renewed => exact .renewed hchanged rfl
      | failed => exact .refused hchanged rfl

theorem Subscribes.congr {later : Face} (h : face.Subscribes after log)
    (settings : later.settings = after.settings) (unit : later.tickUnit = after.tickUnit) :
    face.Subscribes later log := by
  cases h with
  | same same kept => exact .same (settings ▸ same) (unit.trans kept)
  | renewed changed kept =>
      rw [← settings] at changed kept ⊢
      exact .renewed changed (unit.trans kept)
  | refused changed kept =>
      rw [← settings] at changed ⊢
      exact .refused changed (unit.trans kept)

theorem Receives.subscribes {message : Dictionary} (h : face.Receives message log after) :
    face.Subscribes after (tickCalls log) := by
  cases h with
  | @quiet tuning tuned now _ retunes =>
      have htaken : face.Subscribes (tuned.takeWeather message now) (tickCalls tuning) :=
        retunes.subscribes.congr rfl rfl
      simpa using htaken
  | @roused tuning weather tuned _ now _ retunes refreshes =>
      have hrefreshes := tickCalls_refreshes refreshes
      obtain ⟨refresh, rfl⟩ := refreshes.frame
      have htaken : face.Subscribes { tuned.takeWeather message now with refresh := refresh }
          (tickCalls tuning) := retunes.subscribes.congr rfl rfl
      simpa [hrefreshes] using htaken

theorem Reacts.subscribes {input : Input} (h : face.Reacts input log after) :
    face.Subscribes after (tickCalls log) := by
  cases h with
  | tick | unreadable | stale | dismissed | abandoned => exact .same rfl rfl
  | connection connects =>
      rw [tickCalls_connects connects]
      obtain ⟨popup, shown, rfl⟩ := connects.frame
      exact .same rfl rfl
  | message _ receives => exact receives.subscribes
  | elapsed _ _ refreshes | refresh refreshes =>
      rw [tickCalls_refreshes refreshes]
      obtain ⟨refresh, rfl⟩ := refreshes.frame
      exact .same rfl rfl

/-- The face is subscribed to its tick if the last attempt was granted, and else to none. -/
def Subscribed (log : List Exchange) (face : Face) : Prop :=
  (lastAnswer? log = some (.ok ()) ∧ subscription log = some face.tickUnit) ∨
    ∃ cause, lastAnswer? log = some (.error cause) ∧ subscription log = none

theorem Subscribed.turn (h : Subscribed log face) {behind : List Exchange}
    (subscribes : face.Subscribes after (tickCalls behind)) :
    Subscribed (log ++ behind) after := by
  unfold Subscribed
  rw [lastAnswer?_append, subscription_append]
  generalize tickCalls behind = calls at subscribes
  cases subscribes with
  | same _ unit =>
      rw [unit]
      exact h
  | renewed _ unit =>
      rw [unit]
      exact .inl ⟨rfl, rfl⟩
  | @refused cause => exact .inr ⟨cause, rfl, rfl⟩

theorem subscribed_start (h : (Face.start platform).Trace log face)
    (granted : lastAnswer? log = some (.ok ())) : Subscribed log face := by
  obtain ⟨rfl, tick, connection, channel, rfl⟩ := trace_start h
  simp only [lastAnswer?, List.filterMap, Exchange.subscriptionAnswer?, List.getLast?_singleton,
    Option.some.injEq] at granted
  subst granted
  exact .inl ⟨rfl, rfl⟩

theorem Run.subscribed (run : Run platform opening turns face)
    (granted : lastAnswer? opening = some (.ok ())) : Subscribed (runLog opening turns) face := by
  induction run with
  | fresh => simp [lastAnswer?] at granted
  | started start =>
      rw [runLog, List.flatMap_nil, List.append_nil]
      exact subscribed_start start granted
  | turn _ reacts ih =>
      rw [runLog_append, List.flatMap_singleton]
      exact (ih granted).turn (reacts_of_trace reacts).subscribes

theorem Run.tickCalls_eq_nil (run : Run platform opening turns face) {turn : Turn}
    (mem : turn ∈ turns) (same : turn.after.settings.tickUnit = turn.before.settings.tickUnit) :
    tickCalls turn.log = [] := by
  induction run with
  | fresh | started => simp at mem
  | turn _ reacts ih =>
      rcases List.mem_append.mp mem with hmem | hmem
      · exact ih hmem
      · rw [List.mem_singleton] at hmem
        subst hmem
        have hsubscribes := (reacts_of_trace reacts).subscribes
        dsimp only at same ⊢
        generalize tickCalls _ = calls at hsubscribes
        cases hsubscribes with
        | same => rfl
        | renewed changed | refused changed => contradiction

/--
After every turn of a run whose first subscription was granted: the face has
the ticks it says it has if the host granted the last attempt to subscribe,
and no ticks at all if the host refused it.  No turn tries again before the
tick that the settings need has changed once more.
-/
theorem subscribed_iff_last_attempt_granted (run : Run platform opening turns face)
    (granted : lastAnswer? opening = some (.ok ())) :
    (subscription (runLog opening turns) = some face.tickUnit ↔
      lastAnswer? (runLog opening turns) = some (.ok ())) ∧
    (subscription (runLog opening turns) = none ↔
      ∃ cause, lastAnswer? (runLog opening turns) = some (.error cause)) ∧
    ∀ turn ∈ turns, turn.after.settings.tickUnit = turn.before.settings.tickUnit →
      tickCalls turn.log = [] := by
  refine ⟨?_, ?_, fun turn mem same => run.tickCalls_eq_nil mem same⟩
  · rcases run.subscribed granted with ⟨hlast, hheld⟩ | ⟨cause, hlast, hheld⟩ <;>
      simp [hlast, hheld]
  · rcases run.subscribed granted with ⟨hlast, hheld⟩ | ⟨cause, hlast, hheld⟩ <;>
      simp [hlast, hheld]

/-! ## A refused renewal -/

def openingGranted : List Exchange :=
  [⟨.subscribeTick .minute, .ok ()⟩, ⟨.subscribeConnection, .ok ()⟩,
    ⟨.openChannel Channel.inboxSize Channel.outboxSize, .ok ()⟩]

def renewalLog (unit : TickUnit) (answer : Except ServiceError Unit) : List Exchange :=
  [⟨.markDirty, ()⟩, ⟨.unsubscribeTick, ()⟩, ⟨.subscribeTick unit, answer⟩,
    ⟨.readClock, (1700000000 : UInt32)⟩]

def withSeconds (face : Face) (shown : UInt8) : Face :=
  { face with store := { face.store with settings := { face.settings with seconds := shown } } }

def showSeconds (shown : UInt8) : Input := .event (.inbox [1, 32, 0, 0, 0, 2, 1, 0, shown])

def faceWithSeconds : Face := (ofPlatform .colorRect).withSeconds 1

def refusedTurn : Turn :=
  ⟨ofPlatform .colorRect, showSeconds 1, renewalLog .second (.error .unavailable),
    faceWithSeconds⟩

def grantedTurn : Turn :=
  ⟨ofPlatform .colorRect, showSeconds 1, renewalLog .second (.ok ()),
    { faceWithSeconds with tickUnit := .second }⟩

theorem trace_openingGranted :
    (Face.start .colorRect).Trace openingGranted (ofPlatform .colorRect) :=
  .ask (.ask (.ask (.done _)))

theorem run_refusedTurn : Run .colorRect openingGranted [refusedTurn] faceWithSeconds :=
  .turn (.started trace_openingGranted) (.ask (.ask (.ask (.ask (.done _)))))

theorem run_grantedTurn :
    Run .colorRect openingGranted [grantedTurn] { faceWithSeconds with tickUnit := .second } :=
  .turn (.started trace_openingGranted) (.ask (.ask (.ask (.ask (.done _)))))

/-- The face says that it has the minute tick, and the host delivers none. -/
theorem ticks_lost_when_renewal_refused :
    Run .colorRect openingGranted [refusedTurn] faceWithSeconds ∧
      lastAnswer? openingGranted = some (.ok ()) ∧
      subscription (runLog openingGranted [refusedTurn]) = none ∧
      faceWithSeconds.tickUnit = .minute :=
  ⟨run_refusedTurn, rfl, rfl, rfl⟩

/-- Once the second hand is turned off again, the subscription is back. -/
theorem ticks_regained_at_next_change :
    let face := faceWithSeconds.withSeconds 0
    let turns := [refusedTurn,
      ⟨faceWithSeconds, showSeconds 0, renewalLog .minute (.ok ()), face⟩]
    Run .colorRect openingGranted turns face ∧
      lastAnswer? openingGranted = some (.ok ()) ∧
      subscription (runLog openingGranted turns) = some face.tickUnit ∧
      (subscription (runLog openingGranted turns) = none ↔
        ∃ cause, lastAnswer? (runLog openingGranted turns) = some (.error cause)) := by
  intro face turns
  have hreacts : (faceWithSeconds.react (showSeconds 0)).Trace
      (renewalLog .minute (.ok ())) face :=
    .ask (.ask (.ask (.ask (.done _))))
  have hrun : Run .colorRect openingGranted turns face := run_refusedTurn.turn hreacts
  have hfacts := subscribed_iff_last_attempt_granted hrun rfl
  exact ⟨hrun, rfl, hfacts.1.mpr rfl, hfacts.2.1⟩

end Face

end Watchface
