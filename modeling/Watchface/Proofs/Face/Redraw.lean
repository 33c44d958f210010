import Watchface.Proofs.Face.Run

/-!
# Redraws

The face asks for a redraw in three places: at events that come from the watch,
when it merges settings, and when it hides the popup.  Each input reaches at
most one of them, and reaches one whenever it changes something that is drawn.
`Confined` says of every input which part of the face it may change.
-/

namespace Watchface

def redraws (log : List Exchange) : Nat := log.countP fun exchange => exchange.call == .markDirty

@[simp] theorem redraws_nil : redraws [] = 0 := rfl

@[simp] theorem redraws_cons (exchange : Exchange) (log : List Exchange) :
    redraws (exchange :: log) = redraws log + if exchange.call == .markDirty then 1 else 0 :=
  List.countP_cons

@[simp] theorem redraws_append (first second : List Exchange) :
    redraws (first ++ second) = redraws first + redraws second :=
  List.countP_append

theorem Alarm.Arms.redraws_eq {alarm armed : Alarm} {delay : UInt32} {log : List Exchange}
    {result : Except ServiceError Unit} (h : alarm.Arms delay log result armed) :
    redraws log = 0 := by
  cases h <;> rfl

namespace Face

variable {platform : Platform} {face after : Face} {input : Input} {log opening : List Exchange}
  {turns : List Turn}

/-- How often an input asks for a redraw, whatever the host answers. -/
def redrawsDue (face : Face) : Input → Nat
  | .event .tick => 1
  | .event (.connection _) => 1
  | .event (.inbox payload) => if payload = [] then 0 else 1
  | .event (.timer .bluetoothPopup handle) => if face.popup.pending = some handle then 1 else 0
  | .event (.timer .weatherRefresh _) => 0
  | .refresh _ => 0

/-- The part of the face that an input may change; all else is as it was. -/
def Confined (face after : Face) : Input → Prop
  | .event .tick => after = face
  | .event (.connection _) | .event (.timer .bluetoothPopup _) =>
      after = { face with popup := after.popup, popupShown := after.popupShown }
  | .event (.timer .weatherRefresh _) | .refresh _ => after = { face with refresh := after.refresh }
  | .event (.inbox _) => after.popup = face.popup ∧ after.popupShown = face.popupShown

def Differs (face after : Face) : Prop :=
  after.settings ≠ face.settings ∨ after.weather ≠ face.weather ∨
    after.popupShown ≠ face.popupShown

theorem Refreshes.redraws_eq {force : Bool} (h : face.Refreshes force log after) :
    redraws log = 0 := by
  cases h with
  | waiting => rfl
  | @ready request arming _ _ requests rearms =>
      have hrequest : redraws request = 0 := by cases requests <;> rfl
      have harming : redraws arming = 0 := by
        cases rearms with
        | off => rfl
        | on _ arms => exact arms.redraws_eq
      rw [redraws_append, hrequest, harming]

theorem Connects.redraws_eq {connected : Bool} (h : face.Connects connected log after) :
    redraws log = 1 := by
  cases h with
  | silent _ vibrates => cases vibrates <;> rfl
  | announced _ vibrates arms =>
      have harming := arms.redraws_eq
      cases vibrates <;> simp [harming]

theorem Retunes.redraws_eq {message : Dictionary} (h : face.Retunes message log after) :
    redraws log = 0 := by
  cases h with
  | same => rfl
  | changed _ resubscribes => cases resubscribes <;> rfl

theorem Receives.redraws_eq {message : Dictionary} (h : face.Receives message log after) :
    redraws log = 1 := by
  cases h with
  | quiet _ retunes => simp [retunes.redraws_eq]
  | roused _ retunes refreshes => simp [retunes.redraws_eq, refreshes.redraws_eq]

theorem Reacts.redraws_eq (h : face.Reacts input log after) :
    redraws log = face.redrawsDue input := by
  cases h with
  | tick => rfl
  | connection connects => exact connects.redraws_eq
  | @unreadable payload error unreadable =>
      cases payload with
      | nil => rfl
      | cons => contradiction
  | @message payload _ _ _ readable receives =>
      cases payload with
      | nil => contradiction
      | cons => exact receives.redraws_eq
  | @stale purpose handle stale =>
      cases purpose with
      | bluetoothPopup => exact (if_neg stale).symm
      | weatherRefresh => rfl
  | dismissed pending => exact (if_pos pending).symm
  | abandoned => rfl
  | elapsed _ _ refreshes | refresh refreshes => exact refreshes.redraws_eq

theorem Reacts.confined (h : face.Reacts input log after) : face.Confined after input := by
  cases h with
  | tick | dismissed | abandoned => rfl
  | unreadable => exact ⟨rfl, rfl⟩
  | @stale purpose => cases purpose <;> rfl
  | connection connects =>
      obtain ⟨popup, shown, rfl⟩ := connects.frame
      rfl
  | message _ receives =>
      obtain ⟨now, unit, refresh, -, rfl⟩ := receives.frame
      exact ⟨rfl, rfl⟩
  | elapsed _ _ refreshes | refresh refreshes =>
      obtain ⟨refresh, rfl⟩ := refreshes.frame
      rfl

theorem not_differs (face : Face) : ¬ face.Differs face := by simp [Differs]

theorem Reacts.redraws_of_differs (h : face.Reacts input log after)
    (differs : face.Differs after) : redraws log = 1 := by
  cases h with
  | connection connects => exact connects.redraws_eq
  | message _ receives => exact receives.redraws_eq
  | dismissed => rfl
  | tick | unreadable | stale | abandoned => exact absurd differs face.not_differs
  | elapsed _ _ refreshes | refresh refreshes =>
      obtain ⟨refresh, rfl⟩ := refreshes.frame
      exact absurd differs face.not_differs

/--
Whatever the face and the answers of its host, an input asks for a redraw as
often as `redrawsDue` says, which is once at most, and changes only its own
part of the face.  So in every run a turn after which the settings, the weather
or the popup differ has asked for exactly one redraw.
-/
theorem each_change_is_redrawn_once (run : Run platform opening turns face) :
    (∀ (before after : Face) (input : Input) (log : List Exchange),
      (before.react input).Trace log after →
      redraws log = before.redrawsDue input ∧ before.Confined after input) ∧
    ∀ turn ∈ turns,
      turn.after.settings ≠ turn.before.settings ∨ turn.after.weather ≠ turn.before.weather ∨
        turn.after.popupShown ≠ turn.before.popupShown →
      redraws turn.log = 1 := by
  constructor
  · intro before after input log reacts
    have hreacts := reacts_of_trace reacts
    exact ⟨hreacts.redraws_eq, hreacts.confined⟩
  · intro turn hmem hdiffers
    obtain ⟨before, behind, rfl⟩ := List.append_of_mem hmem
    exact (reacts_of_trace run.cut.2).redraws_of_differs hdiffers

theorem popup_is_redrawn_as_it_comes_and_goes :
    let face := ofPlatform .colorRect
    let shown : Face := { face with popup := ⟨.bluetoothPopup, some 7⟩, popupShown := true }
    let shows : Turn := ⟨face, .event (.connection false),
      [⟨.markDirty, ()⟩, ⟨.doublePulse, .error .busy⟩, ⟨.enableInteraction, .ok ()⟩,
        ⟨.schedule 5000 .bluetoothPopup, .ok 7⟩], shown⟩
    let hides : Turn := ⟨shown, .event (.timer .bluetoothPopup 7), [⟨.markDirty, ()⟩], face⟩
    Run .colorRect [] [shows, hides] face ∧
      (shows.after.popupShown ≠ shows.before.popupShown ∧ redraws shows.log = 1) ∧
      (hides.before.react hides.input).Trace hides.log hides.after ∧
      redraws hides.log = 1 ∧ shown.Confined face hides.input := by
  intro face shown shows hides
  have hshows : (face.react shows.input).Trace shows.log shown :=
    .ask (.ask (.ask (.ask (.done _))))
  have hhides : (shown.react hides.input).Trace hides.log face := .ask (.done _)
  have hrun : Run .colorRect [] [shows, hides] face := .turn (.turn .fresh hshows) hhides
  have hchanged : shows.after.popupShown ≠ shows.before.popupShown := by decide
  obtain ⟨hsteps, hturns⟩ := each_change_is_redrawn_once hrun
  obtain ⟨honce, hconfined⟩ := hsteps shown face hides.input hides.log hhides
  exact ⟨hrun, ⟨hchanged, hturns shows List.mem_cons_self (.inr (.inr hchanged))⟩, hhides, honce,
    hconfined⟩

end Face

end Watchface
