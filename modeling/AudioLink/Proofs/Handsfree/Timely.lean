/-
**The alarm of the next question and the state of the link.**

The list of calls is asked for while the link is connected, and the alarm of the next question has
nothing to do in any other state.  When the link ceases to be connected, it is struck out.  But the
gateway is listened to already while the link is on its way up, and still while it is on its way
down.  What the gateway says then can arm the alarm, and nothing strikes it out when the link comes
to be disconnected: it is still armed on the next connection.

Main definitions:

* `AudioLink.Handsfree.Timely` — the alarm of the next question is armed on a connected link only;
* `AudioLink.Handsfree.ArmsEarly` — an impulse that arms it on a link on its way.

Main results:

* `AudioLink.Handsfree.timely_respond`, `AudioLink.Handsfree.not_timely_respond` — the alarm is
  timely after an impulse exactly if the impulse does not arm it early;
* `AudioLink.Handsfree.polling_timely_iff` — **the alarm is timely throughout a life exactly if no
  impulse arms it early**;
* `AudioLink.Handsfree.alarm_left_behind` — an alarm that is armed on a disconnected link.
-/

import AudioLink.Proofs.Handsfree.Indicators
import AudioLink.Proofs.Link.Errands

set_option relaxedAutoImplicit false
set_option autoImplicit false

namespace AudioLink.Handsfree

/-- The alarm of the next question is armed on a connected link only. -/
def Timely (link : Link Handsfree Request AlarmKind) : Prop :=
  Armed link.alarms → link.state = .connected

/-- An impulse that arms the alarm of the next question on a link on its way up or down: an
indicator that comes while the question is pending or too early to be put again, or the end of a
list that leaves calls to ask about. -/
def ArmsEarly (link : Link Handsfree Request AlarmKind) : Impulse Request → Prop
  | .hand scene (.event (.callIndicator _ _)) => link.state.isStable = false ∧
      (link.session.isQuerying = true ∨ (link.session.throttle scene.now).isSome = true)
  | .hand scene (.event (.commandResult _ _)) => link.state.isStable = false ∧
      link.session.ledger.front? = some .queryCalls ∧
        (link.session.survey.complete scene.now).1.pollAgain = true
  | _ => False

/-! ### Work that does not arm the alarm -/

/-- The alarm of the next question is not armed at the desk. -/
def Unarmed (desk : Desk Handsfree AlarmKind) : Prop := ¬Armed desk.alarms

/-- Only asking for the list of calls, and the end of the list, arm the alarm. -/
theorem routine_unarmed : Routine Unarmed where
  note _ _ := fun _ _ h => h
  announce _ _ := fun _ _ h => h
  dropAudio := fun _ _ h => h
  issue _ _ := fun _ _ h => h
  record _ _ := fun _ _ h => h
  abandonDial := by
    intro view desk h
    rw [yields_abandonDial]
    exact h

section Work

variable {view : View} {desk : Desk Handsfree AlarmKind}

/-- Asking arms the alarm when the question is put off, and only then. -/
theorem yields_queryCalls_armed_iff : queryCalls.Yields view desk fun _ after =>
    (Armed after.alarms ↔ desk.session.isQuerying = true ∨
      (desk.session.throttle view.now).isSome = true) ∧ after.drops = desk.drops := by
  rw [yields_queryCalls]
  split
  · next hquerying => exact ⟨iff_of_true (by simp [Armed, putOff]) (.inl hquerying), rfl⟩
  · next hquerying =>
      cases hthrottle : desk.session.throttle view.now with
      | some delay => exact ⟨iff_of_true (by simp [Armed, putOff]) (.inr rfl), rfl⟩
      | none =>
          refine ⟨iff_of_false ?_ ?_, rfl⟩
          · show ¬Armed (asking desk view.now).alarms
            simp [Armed, asking]
          · rintro (h | h)
            · exact hquerying h
            · cases h

/-- The answer to an order arms the alarm only if it ends a list and leaves calls. -/
theorem yields_onCommandResult_unarmed {outcome : Outcome} {code : Option Nat}
    (hunarmed : Unarmed desk)
    (hends : ¬(desk.session.ledger.front? = some .queryCalls ∧
      (desk.session.survey.complete view.now).1.pollAgain = true)) :
    (onCommandResult outcome code).Yields view desk fun _ after => Unarmed after := by
  rw [yields_onCommandResult]
  cases hfront : desk.session.ledger.front? with
  | none => exact hunarmed
  | some order =>
      by_cases hquery : order = .queryCalls
      · have hstop : (desk.session.survey.complete view.now).1.pollAgain = false :=
          Bool.eq_false_iff.2 fun hagain => hends ⟨hquery ▸ hfront, hagain⟩
        rw [hquery]
        exact Work.yields_mono (yields_finishQuery_stops hstop) fun _ _ h => h.1
      · exact routine_unarmed.upholds_onAnswer order outcome code (fun h => absurd h hquery) _ _
          hunarmed

end Work

/-! ### Steps -/

section Steps

variable {scene : Scene} {progress : Progress Handsfree Request AlarmKind}

/-- What does not arm the alarm at the desk does not arm it in a step of the link. -/
theorem turning_unarmed :
    Link.Turning fun progress : Progress Handsfree Request AlarmKind =>
      ¬Armed progress.link.alarms where
  slight f hf := by
    intro scene progress h
    show ¬(f progress.link).alarms.isArmed (.session .poll) = true
    rw [hf.alarms]
    exact h
  audioChanged _ _ _ := fun _ _ h => h
  onAudioChanged previous current wideband := fun scene progress h =>
    routine_unarmed.upholds_onAudio previous current wideband (Step.view scene progress.link)
      (Step.desk progress) h

/-- Whatever the profile does while the link is connected, it is still connected; and in any other
state the alarm is timely if it is not armed. -/
theorem yields_consult_timely {α : Type} {work : Work Handsfree AlarmKind α}
    (hwork : progress.link.state = .connected ∨
      work.Yields (Step.view scene progress.link) (Step.desk progress) fun _ after =>
        Unarmed after) :
    (Step.consult work : Step Handsfree Request AlarmKind α).Yields scene progress
      fun _ after => Timely after.link := by
  rw [Step.yields_consult]
  rcases hwork with hconnected | hwork
  · exact fun _ => hconnected
  · exact Work.yields_mono hwork fun _ _ hunarmed harmed => absurd harmed hunarmed

theorem unarmed_of_timely (h : Timely progress.link) (hne : progress.link.state ≠ .connected) :
    Unarmed (Step.desk progress) :=
  fun harmed => hne (h harmed)

/-- Routine work is timely in any state. -/
theorem upholds_consult_timely {α : Type} {work : Work Handsfree AlarmKind α}
    (hwork : Work.Upholds Unarmed work) :
    Step.Upholds (fun progress => Timely progress.link)
      (Step.consult work : Step Handsfree Request AlarmKind α) := by
  intro scene progress h
  refine yields_consult_timely ?_
  by_cases hconnected : progress.link.state = .connected
  · exact .inl hconnected
  · exact .inr (hwork _ _ (unarmed_of_timely h hconnected))

/-- When the link leaves the state it is in, the alarm is struck out if it was armed. -/
theorem yields_leave_unarmed (h : Timely progress.link) :
    (Link.leave progress.link.state : Step Handsfree Request AlarmKind Unit).Yields scene progress
      fun _ left => ¬Armed left.link.alarms := by
  by_cases hconnected : progress.link.state = .connected
  · rw [hconnected, Link.leave, Step.yields_bind]
    refine Step.yields_of_forall fun _ left => ?_
    rw [Step.yields_change]
    simp [Armed, AlarmKind.isSession]
  · exact turning_unarmed.upholds_leave hconnected scene progress fun harmed =>
      hconnected (h harmed)

theorem upholds_transition_timely (next : LinkState) :
    Step.Upholds (fun progress => Timely progress.link)
      (Link.transition next : Step Handsfree Request AlarmKind Unit) := by
  intro scene progress h
  by_cases hsame : progress.link.state = next
  · exact (Link.yields_transition_of_eq hsame).2 h
  · by_cases hconnected : next = .connected
    · subst hconnected
      exact Step.yields_mono Link.yields_transition_state fun _ _ hstate _ => hstate
    · rw [Link.yields_transition_of_ne hsame]
      refine Step.yields_mono (yields_leave_unarmed h) ?_
      intro _ left hleft
      have hentered : Step.Upholds (fun progress : Progress Handsfree Request AlarmKind =>
          ¬Armed progress.link.alarms) (Link.enter next) := by
        cases next with
        | disconnected =>
            intro scene progress h
            rw [Link.enter, Step.yields_consult]
            show onDisconnected.Yields _ (Step.desk progress) _
            rw [yields_onDisconnected]
            exact h
        | connecting => exact turning_unarmed.upholds_enter rfl
        | connected => exact absurd rfl hconnected
        | disconnecting => exact turning_unarmed.upholds_enter rfl
      refine Step.yields_mono (Step.Upholds.bind hentered (fun _ => ?_) scene _ hleft) ?_
      · exact .ite (fun _ => fun _ _ h => h) fun _ => .pure _
      · exact fun _ _ hunarmed harmed => absurd harmed hunarmed

/-- On its own account a link keeps the alarm timely. -/
theorem turning_timely :
    Link.Turning fun progress : Progress Handsfree Request AlarmKind => Timely progress.link where
  slight f hf := by
    intro scene progress h
    show (f progress.link).alarms.isArmed (.session .poll) = true →
      (f progress.link).state = .connected
    rw [hf.alarms, hf.state]
    exact h
  audioChanged _ _ _ := fun _ _ h => h
  onAudioChanged _ _ _ := upholds_consult_timely (routine_unarmed.upholds_onAudio _ _ _)

theorem moves_timely :
    Link.Moves fun progress : Progress Handsfree Request AlarmKind => Timely progress.link where
  ask _ _ := fun _ _ h => h
  transition := upholds_transition_timely
  setAudio audio wideband scene progress _ h :=
    turning_timely.upholds_setAudio audio wideband scene progress h
  defer _ _ h := h
  introduce _ _ h := h

/-- An event that is for the profile leaves the alarm timely if it does not arm it on a link on its
way. -/
theorem yields_event_timely {event : Event} (h : Timely progress.link)
    (hforeign : event.isForProfile = true)
    (hwork : progress.link.state.isStable = false → Unarmed (Step.desk progress) →
      (onEvent event).Yields (Step.view scene progress.link) (Step.desk progress) fun _ after =>
        Unarmed after) :
    (Link.onErrand (.message (.event event)) : Step Handsfree Request AlarmKind Verdict).Yields
      scene progress fun _ after => Timely after.link := by
  by_cases hdown : progress.link.state = .disconnected
  · exact (Link.yields_onErrand_event_unheard hdown hforeign).2 h
  · refine (Link.yields_onErrand_event hdown hforeign).2 (yields_consult_timely ?_)
    by_cases hconnected : progress.link.state = .connected
    · exact .inl hconnected
    · refine .inr (hwork ?_ (unarmed_of_timely h hconnected))
      cases hstate : progress.link.state with
      | disconnected => exact absurd hstate hdown
      | connecting => rfl
      | connected => exact absurd hstate hconnected
      | disconnecting => rfl

/-- A message that is neither for the profile nor an event is for the link, and leaves the alarm
timely like any of its moves; an indicator and an answer do unless they arm it early. -/
theorem yields_onMessage_timely {message : Message Request} (h : Timely progress.link)
    (hearly : ¬ArmsEarly progress.link (.hand scene message)) :
    (Link.onErrand (.message message) : Step Handsfree Request AlarmKind Verdict).Yields scene
      progress fun _ after => Timely after.link := by
  have hother (hrequest : ∀ request, message ≠ .request request)
      (hindicator : ∀ kind value, message ≠ .event (.callIndicator kind value))
      (hanswer : ∀ outcome code, message ≠ .event (.commandResult outcome code)) :
      (Link.onMessage message : Step Handsfree Request AlarmKind Verdict).Yields scene progress
        fun _ after => Timely after.link := by
    refine moves_timely.upholds_onMessage ?_ ?_ scene progress h
    · exact fun request heq => absurd heq (hrequest request)
    · rintro event rfl
      refine upholds_consult_timely (routine_unarmed.upholds_onEvent event ?_ ?_)
      · exact fun kind value heq => absurd (congrArg Message.event heq) (hindicator kind value)
      · exact fun outcome code heq => absurd (congrArg Message.event heq) (hanswer outcome code)
  cases message with
  | connect | disconnect | connectAudio | disconnectAudio => exact hother nofun nofun nofun
  | request request =>
      -- a request is for the profile only while the link is connected
      show (Link.onRequest request : Step Handsfree Request AlarmKind Verdict).Yields _ _ _
      rw [Link.onRequest, Step.yields_bind, Step.yields_link, Step.yields_ite]
      split
      · next hconnected => exact yields_consult_timely (.inl hconnected)
      · exact h
  | event event =>
      cases event with
      | callIndicator kind value =>
          refine yields_event_timely h rfl fun htransient _ => ?_
          refine Work.yields_mono yields_queryCalls_armed_iff ?_
          rintro _ after ⟨hiff, -⟩ harmed
          exact hearly ⟨htransient, hiff.1 harmed⟩
      | commandResult outcome code =>
          refine yields_event_timely h rfl fun htransient hunarmed => ?_
          exact yields_onCommandResult_unarmed hunarmed fun hends => hearly ⟨htransient, hends⟩
      | _ =>
          refine hother ?_ ?_ ?_
          · rintro _ ⟨⟩
          · rintro _ _ ⟨⟩
          · rintro _ _ ⟨⟩

/-- An alarm that goes off is for the profile only while the link is connected. -/
theorem yields_onAlarm_timely {kind : AudioLink.AlarmKind AlarmKind} (h : Timely progress.link) :
    (Link.onErrand (.alarm kind) : Step Handsfree Request AlarmKind Verdict).Yields scene progress
      fun _ after => Timely after.link := by
  show (Link.onAlarm kind : Step Handsfree Request AlarmKind Verdict).Yields scene progress _
  rw [Link.onAlarm, Step.yields_bind, Step.yields_link]
  cases kind with
  | connect =>
      refine Step.Upholds.ite (fun _ => ?_) (fun _ => .pure _) scene progress h
      exact .bind moves_timely.upholds_refuse fun _ => fun _ _ h => h
  | disconnect => exact Step.Upholds.ite (fun _ => fun _ _ h => h) (fun _ => .pure _) scene _ h
  | session kind =>
      rw [Step.yields_ite]
      split
      · next hconnected => exact yields_consult_timely (.inl hconnected)
      · exact h

end Steps

/-! ### Impulses -/

section Impulses

variable {link : Link Handsfree Request AlarmKind} {impulse : Impulse Request}

/-- **An impulse that does not arm the alarm early leaves it timely.** -/
theorem timely_respond (hlink : Link.Between link) (h : Timely link)
    (hearly : ¬ArmsEarly link impulse) : Timely (link.respond impulse).1 := by
  have hown (scene : Scene) (progress : Progress Handsfree Request AlarmKind)
      (errand : Errand Request AlarmKind) (rest : List (Errand Request AlarmKind))
      (h : Timely progress.link) (_ : progress.link.queue = errand :: rest)
      (hown : Link.Incidental errand) :
      (Link.handle errand : Step Handsfree Request AlarmKind Unit).Yields scene
        ⟨{ progress.link with queue := rest }, progress.log⟩ fun _ after => Timely after.link := by
    refine Link.yields_handle ?_ fun _ _ h => h
    cases hown with
    | connect | linkDown | dropAudio => exact yields_onMessage_timely h nofun
  cases impulse with
  | hand scene message =>
      refine Link.respond_hand_own (P := fun after => Timely after.link) hlink ?_ (hown scene)
      exact Link.yields_handle (yields_onMessage_timely h hearly) fun _ _ h => h
  | wake scene =>
      refine Link.respond_wake_own (P := fun after => Timely after.link) hlink h ?_ (hown scene)
      intro progress kind others h _ hpop
      refine Link.yields_handle (yields_onAlarm_timely ?_) fun _ _ h => h
      exact fun harmed => h (Alarms.isArmed_le_of_popDue hpop harmed)

theorem ArmsEarly.transient (h : ArmsEarly link impulse) : link.state.isStable = false := by
  unfold ArmsEarly at h
  split at h
  · exact h.1
  · exact h.1
  · cases h

/-- **An impulse that arms the alarm early leaves it armed on a link that is not connected.** -/
theorem not_timely_respond (hqueue : link.queue = []) (hearly : ArmsEarly link impulse) :
    ¬Timely (link.respond impulse).1 := by
  have hup : link.state ≠ .disconnected := by
    intro hstate
    have htransient := hearly.transient
    rw [hstate] at htransient
    cases htransient
  have hdown : link.state ≠ .connected := by
    intro hstate
    have htransient := hearly.transient
    rw [hstate] at htransient
    cases htransient
  let P (progress : Progress Handsfree Request AlarmKind) : Prop :=
    Armed progress.link.alarms ∧ progress.link.state = link.state
  have hmistimed {after : Progress Handsfree Request AlarmKind} (h : P after) :
      ¬Timely after.link :=
    fun htimely => hdown (h.2.symm.trans (htimely h.1))
  unfold ArmsEarly at hearly
  split at hearly
  · next scene kind value =>
      refine hmistimed (Link.respond_event (P := P) hqueue hup rfl ?_ fun _ _ h => h)
      refine Work.yields_mono yields_queryCalls_armed_iff ?_
      rintro _ after ⟨hiff, hdrops⟩
      exact ⟨hdrops, hiff.2 hearly.2, rfl⟩
  · next scene outcome code =>
      refine hmistimed (Link.respond_event (P := P) hqueue hup rfl ?_ fun _ _ h => h)
      refine (yields_onCommandResult_of_front hearly.2.1).2 ?_
      refine Work.yields_mono (yields_finishQuery_arms hearly.2.2) ?_
      rintro _ after ⟨harmed, hdrops⟩
      exact ⟨hdrops, harmed, rfl⟩
  · cases hearly

/-- The alarm is timely throughout a life exactly if no impulse arms it early. -/
theorem timely_live_iff (hlink : Link.Between link) (h : Timely link)
    {impulses : List (Impulse Request)} :
    (∀ later, later <+: impulses → Timely (link.live later).1) ↔
      ∀ before impulse, before ++ [impulse] <+: impulses →
        ¬ArmsEarly (link.live before).1 impulse := by
  constructor
  · intro htimely before impulse hupto hearly
    have hnext := htimely _ hupto
    rw [Link.live_snoc] at hnext
    exact not_timely_respond (Link.between_live hlink before).queue hearly hnext
  · intro hearly later hlater
    induction later using List.reverseRecOn with
    | nil => exact h
    | append_singleton before impulse ih =>
        rw [Link.live_snoc]
        exact timely_respond (Link.between_live hlink before)
          (ih ((List.prefix_append _ _).trans hlater)) (hearly before impulse hlater)

end Impulses

/-! ### The life of a link -/

/-- On a disconnected link, no alarm is pending but that of the next question. -/
theorem nextDeadline_eq_none_iff {link : Link Handsfree Request AlarmKind} (h : link.AtRest)
    (hdown : link.state = .disconnected) :
    link.alarms.nextDeadline = none ↔ ¬Armed link.alarms := by
  rw [Alarms.nextDeadline, List.min?_eq_none_iff, List.map_eq_nil_iff, Armed,
    Alarms.isArmed_iff, List.eq_nil_iff_forall_not_mem]
  constructor
  · rintro hnone ⟨alarm, hmem, -⟩
    exact hnone alarm hmem
  · intro hpoll alarm hmem
    have harmed : link.alarms.isArmed alarm.kind = true := Alarms.isArmed_iff.2 ⟨alarm, hmem, rfl⟩
    cases hkind : alarm.kind with
    | connect =>
        rw [hkind, h.connect, hdown] at harmed
        cases harmed
    | disconnect =>
        rw [hkind, h.disconnect, hdown] at harmed
        cases harmed
    | session kind => exact hpoll ⟨alarm, hmem, hkind⟩

/-- **When the alarm of the next question is out of place.**  Throughout the life of a link the
alarm is armed only while the link is connected, exactly if no impulse arms it early; and whenever
the link is disconnected, no alarm at all is pending exactly if this one is not. -/
theorem polling_timely_iff (settings : HandsfreeSettings) (issuer : Nat) (peer : Address)
    (impulses : List (Impulse Request)) :
    let link := Link.start peer (start settings issuer)
    ((∀ later, later <+: impulses → Timely (link.live later).1) ↔
      ∀ before impulse, before ++ [impulse] <+: impulses →
        ¬ArmsEarly (link.live before).1 impulse) ∧
    ((link.live impulses).1.state = .disconnected →
      ((link.live impulses).1.alarms.nextDeadline = none ↔ ¬Armed (link.live impulses).1.alarms)) := by
  intro link
  refine ⟨timely_live_iff (Link.between_start peer _) nofun, fun hdown => ?_⟩
  exact nextDeadline_eq_none_iff
    (Link.atRest_live careful rfl (Link.bounded_start peer _) impulses) hdown

/-- A gateway is connected and its number is learnt; the user asks to disconnect, and while the link
is on its way down two indicators come before the gateway is gone. -/
def farewell : List (Impulse Request) :=
  [.hand (obliging 0) .connect,
    .hand (obliging 1) (.event (.linkChanged .connected ⟨Capabilities.enhancedCallStatus, 0⟩)),
    .hand (obliging 2) (.event (.commandResult .ok none)),
    .hand (obliging 3) .disconnect,
    .hand (obliging 4) (.event (.callIndicator .call 1)),
    .hand (obliging 5) (.event (.callIndicator .call 0)),
    .hand (obliging 6) (.event (.linkChanged .disconnected .none))]

/-- The gateway is connected once more. -/
def reunion : List (Impulse Request) :=
  [.hand (obliging 7) .connect,
    .hand (obliging 8) (.event (.linkChanged .connected ⟨Capabilities.enhancedCallStatus, 0⟩))]

/-- The link is disconnected, but an alarm is pending, and when the link is connected again it is
still set to the same time. -/
theorem alarm_left_behind :
    (fresh.live farewell).1.state = .disconnected ∧
      (fresh.live farewell).1.alarms.nextDeadline ≠ none ∧ ¬Timely (fresh.live farewell).1 ∧
      (fresh.live (farewell ++ reunion)).1.state = .connected ∧
      (fresh.live (farewell ++ reunion)).1.alarms = (fresh.live farewell).1.alarms := by
  rw [Link.live_eq_get 1 rfl, Link.live_eq_get 1 rfl]
  refine ⟨rfl, by decide, fun htimely => ?_, rfl, rfl⟩
  exact absurd (htimely (by decide)) (by decide)

end AudioLink.Handsfree
