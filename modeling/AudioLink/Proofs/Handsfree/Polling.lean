/-
**The question for the list of calls.**

A handsfree unit learns of the calls of its gateway by asking for the list of them.  Something that
calls for the question puts it at once, or, when that was done too recently or an answer is
outstanding, arms the alarm of the next question.  As long as the link is connected, nothing but
the end of a list of calls takes this alarm away without asking: it does when the list leaves no
calls to ask about.

Main definitions:

* `AudioLink.Handsfree.Settled` — the list of calls was asked for, or the link has ceased to be
  connected;
* `AudioLink.Handsfree.Waits` — the link is connected, and the question is still to be put;
* `AudioLink.Handsfree.Awaits` — one or the other;
* `AudioLink.Handsfree.EndsPolling` — an impulse that ends a list and leaves no calls.

Main results:

* `AudioLink.Handsfree.yields_queryCalls_polls` — asking always leads to the question;
* `AudioLink.Handsfree.yields_handle_awaits` — no errand that a connected link finds in its queue
  takes the question away;
* `AudioLink.Handsfree.awaits_respond` — **nor does an impulse that does not end polling**;
* `AudioLink.Handsfree.not_armed_of_endsPolling` — **one that ends polling does**.
-/

import AudioLink.Proofs.Call.Reconciled
import AudioLink.Proofs.Profiles

set_option relaxedAutoImplicit false
set_option autoImplicit false

namespace AudioLink.Handsfree

/-! ### The end of the question -/

/-- What becomes of an indicator in the end: the list of calls is asked for, whether or not the
transport takes the question, or the link ceases to be connected. -/
def settles : Effect → Bool
  | .call (.command .queryCurrentCalls) _ => true
  | .notice (.linkChanged .connected _) => true
  | _ => false

/-- The list of calls was asked for, or the link has ceased to be connected. -/
def Settled (log : List Effect) : Prop := log.any settles = true

instance (log : List Effect) : Decidable (Settled log) := inferInstanceAs (Decidable (_ = true))

theorem settled_append {log more : List Effect} :
    Settled (log ++ more) ↔ Settled log ∨ Settled more := by
  rw [Settled, List.any_append, Bool.or_eq_true]
  rfl

theorem persists_settled : Persists Settled := persists_any settles

theorem settled_snoc {effect : Effect} (h : settles effect = true) (log : List Effect) :
    Settled (log ++ [effect]) :=
  any_snoc_iff.2 (.inr h)

/-! ### Work that keeps the question -/

/-- The alarm of the next question is armed. -/
def Armed (alarms : Alarms (AudioLink.AlarmKind AlarmKind)) : Prop :=
  alarms.isArmed (.session .poll) = true

instance (alarms : Alarms (AudioLink.AlarmKind AlarmKind)) : Decidable (Armed alarms) :=
  inferInstanceAs (Decidable (_ = true))

/-- The question is put or is still to be put. -/
def Polls (desk : Desk Handsfree AlarmKind) : Prop := Settled desk.log ∨ Armed desk.alarms

/-- Asking for the list of calls always leads to the question, at once or later. -/
theorem yields_queryCalls_polls (view : View) (desk : Desk Handsfree AlarmKind) :
    queryCalls.Yields view desk fun _ after => Polls after := by
  rw [yields_queryCalls]
  split
  · exact .inr (by simp [putOff, Armed])
  · split
    · exact .inr (by simp [putOff, Armed])
    · exact .inl (settled_snoc rfl _)

theorem acts_polls : Acts Polls where
  note _ _ := fun _ _ h => h
  announce _ _ := fun _ _ h => h.imp_left (persists_settled _ _)
  dropAudio := fun _ _ h => h
  issue _ _ := fun _ _ h => h.imp_left (persists_settled _ _)
  queryCalls := fun view desk _ => yields_queryCalls_polls view desk
  record _ _ := fun _ _ h => h
  enter _ _ _ _ _ _ h := h.imp_left (persists_settled _ _)
  order _ := fun _ _ h => h.imp_left (persists_settled _ _)
  abandonDial := by
    intro view desk h
    rw [yields_abandonDial]
    exact h.imp_left (persists_settled _ _)
  strike := fun _ _ h => h

/-- A list that leaves calls to ask about arms the alarm of the next question. -/
theorem yields_finishQuery_arms {view : View} {desk : Desk Handsfree AlarmKind}
    (hagain : (desk.session.survey.complete view.now).1.pollAgain = true) :
    finishQuery.Yields view desk fun _ after => Armed after.alarms ∧ after.drops = desk.drops := by
  have hstuck : (desk.session.survey.complete view.now).1.stuck = none := by
    cases h : desk.session.survey.stuckAge view.now with
    | none => rw [Survey.complete_eq h]
    | some age => simp [Survey.complete_eq_of_stuck h] at hagain
  rw [yields_finishQuery, hstuck]
  refine ⟨?_, rfl⟩
  show Armed (polling desk.alarms _ _)
  rw [polling, if_pos hagain]
  split
  · next harmed => exact harmed
  · simp [Armed]

/-- A list that leaves no calls cancels the question. -/
theorem yields_finishQuery_stops {view : View} {desk : Desk Handsfree AlarmKind}
    (hstop : (desk.session.survey.complete view.now).1.pollAgain = false) :
    finishQuery.Yields view desk fun _ after => ¬Armed after.alarms ∧ after.drops = desk.drops := by
  rw [yields_finishQuery]
  -- a stuck call and a list without calls end in the same way
  split
  · show (issueQuietly (.terminate .hangUp)).Yields view (surveyed desk view.now) _
    rw [yields_issueQuietly]
    exact ⟨by simp [Armed], rfl⟩
  · refine ⟨?_, rfl⟩
    show ¬Armed (polling desk.alarms _ _)
    rw [polling, hstop]
    simp [Armed]

/-! ### Errands that keep the question -/

/-- The errands that a connected link finds in its queue. -/
inductive Harmless : Errand Request AlarmKind → Prop
  | dropAudio : Harmless (.message .disconnectAudio)
  | alarm (kind : AudioLink.AlarmKind AlarmKind) : Harmless (.alarm kind)

/-- The link is connected, and the question is still to be put: the alarm is armed, or has just
gone off. -/
structure Waits (link : Link Handsfree Request AlarmKind) : Prop where
  connected : link.state = .connected
  kept : Armed link.alarms ∨ .alarm (.session .poll) ∈ link.queue
  harmless : ∀ errand ∈ link.queue, Harmless errand

theorem Waits.armed {link : Link Handsfree Request AlarmKind} (h : Waits link)
    (hqueue : link.queue = []) : Armed link.alarms := by
  refine h.kept.resolve_right ?_
  rw [hqueue]
  exact List.not_mem_nil

/-- The question is put, or the link is gone, or the question is still to be put. -/
def Awaits (progress : Progress Handsfree Request AlarmKind) : Prop :=
  Settled progress.log ∨ Waits progress.link

section Errands

variable {scene : Scene} {progress : Progress Handsfree Request AlarmKind}

theorem yields_awaits_of_settled {α : Type} {step : Step Handsfree Request AlarmKind α}
    (h : step.Yields scene progress fun _ after => Settled after.log) :
    step.Yields scene progress fun _ after => Awaits after :=
  Step.yields_mono h fun _ _ => .inl

/-- Work that keeps the question keeps it in a step of the link as well; and whatever the work does,
an alarm that has gone off is still to be served. -/
theorem yields_consult_awaits {α : Type} {work : Work Handsfree AlarmKind α}
    (hconnected : progress.link.state = .connected)
    (hharmless : ∀ errand ∈ progress.link.queue, Harmless errand)
    (hwork : .alarm (.session .poll) ∈ progress.link.queue ∨
      work.Yields (Step.view scene progress.link) (Step.desk progress) fun _ after => Polls after) :
    (Step.consult work : Step Handsfree Request AlarmKind α).Yields scene progress
      fun _ after => Awaits after := by
  rw [Step.yields_consult]
  have hqueue (desk : Desk Handsfree AlarmKind) :
      ∀ errand ∈ (Step.settle progress.link desk).queue, Harmless errand := by
    intro errand herrand
    rcases List.mem_append.1 herrand with herrand | herrand
    · exact hharmless errand herrand
    · rw [(List.mem_replicate.1 herrand).2]
      exact .dropAudio
  rcases hwork with hpending | hwork
  · exact .inr ⟨hconnected, .inr (List.mem_append_left _ hpending), hqueue _⟩
  · refine Work.yields_mono hwork ?_
    rintro _ desk (hsettled | harmed)
    · exact .inl hsettled
    · exact .inr ⟨hconnected, .inl harmed, hqueue desk⟩

/-- Settling the question is never taken back. -/
theorem lasting_settled :
    Link.Lasting (ρ := Request) (τ := AlarmKind) fun (_ : Handsfree) log => Settled log :=
  discreet.lasting persists_settled

/-- Work that takes nothing back and keeps the alarm keeps the question. -/
theorem upholds_consult_awaits {α : Type} {work : Work Handsfree AlarmKind α}
    (hsettled : Work.Upholds (fun desk => Settled desk.log) work)
    (hpolls : Work.Upholds Polls work) :
    Step.Upholds Awaits (Step.consult work : Step Handsfree Request AlarmKind α) := by
  rintro scene progress (h | h)
  · exact yields_awaits_of_settled (Link.upholds_consult
      (J := fun _ log => Settled log) hsettled scene progress h)
  · refine yields_consult_awaits h.connected h.harmless ?_
    exact h.kept.symm.imp_right fun harmed => hpolls _ _ (.inr harmed)

/-- A link that leaves the connected state says so. -/
theorem yields_transition_settled {next : LinkState}
    (hconnected : progress.link.state = .connected) (hne : next ≠ .connected) :
    (Link.transition next : Step Handsfree Request AlarmKind Unit).Yields scene progress
      fun _ after => Settled after.log := by
  rw [Link.yields_transition_of_ne (hconnected ▸ hne.symm), hconnected]
  -- whatever is done on the way out, the change is announced, and what follows takes nothing back
  refine Step.yields_of_forall ?_
  intro _ left
  refine Step.Upholds.bind (lasting_settled.upholds_enter next) (fun _ => ?_) scene _ ?_
  · exact .ite (fun _ => Link.upholds_change fun _ => rfl) fun _ => .pure _
  · exact settled_snoc rfl _

theorem turning_awaits : Link.Turning Awaits where
  slight f hf := by
    intro scene progress h
    rw [Step.yields_change]
    refine h.imp_right fun h => ⟨(hf.state _).trans h.connected, ?_, ?_⟩
    · rw [Armed, hf.alarms, hf.queue]
      exact h.kept
    · rw [hf.queue]
      exact h.harmless
  audioChanged _ _ _ := fun _ _ h => h.imp_left (persists_settled _ _)
  onAudioChanged _ _ _ := upholds_consult_awaits (lasting_settled.consulted.onAudioChanged _ _ _)
    (acts_polls.upholds_onAudio _ _ _)

/-- No move of a connected link takes the question away. -/
theorem moves_awaits : Link.Moves Awaits where
  ask _ _ := fun _ _ h => h.imp_left (persists_settled _ _)
  transition next := by
    rintro scene progress (h | h)
    · exact yields_awaits_of_settled (lasting_settled.upholds_transition next scene progress h)
    · by_cases hne : next = .connected
      · rw [Link.yields_transition_of_eq (h.connected.trans hne.symm)]
        exact .inr h
      · exact yields_awaits_of_settled (yields_transition_settled h.connected hne)
  setAudio audio wideband scene progress _ h :=
    turning_awaits.upholds_setAudio audio wideband scene progress h
  defer _ _ h := h.imp_right fun h => ⟨h.connected, h.kept, h.harmless⟩
  introduce _ _ h := h.imp_right fun h => ⟨h.connected, h.kept, h.harmless⟩

/-- No message takes the question away, the answer to an order apart. -/
theorem upholds_onMessage_awaits {message : Message Request}
    (hother : ∀ outcome code, message ≠ .event (.commandResult outcome code)) :
    Step.Upholds Awaits
      (Link.onMessage message : Step Handsfree Request AlarmKind Verdict) := by
  refine moves_awaits.upholds_onMessage (fun request _ => ?_) fun event hevent => ?_
  · refine upholds_consult_awaits (lasting_settled.consulted.onRequest request) ?_
    exact acts_polls.upholds_onRequest request fun number _ => acts_polls.upholds_dial number
  · refine upholds_consult_awaits (lasting_settled.consulted.onEvent event) ?_
    refine acts_polls.upholds_onEvent event fun outcome code hanswer => ?_
    exact absurd (hevent.trans (congrArg Message.event hanswer)) (hother outcome code)

/-- An alarm that goes off while the link is connected keeps the question; that of the next
question leads to it. -/
theorem yields_onAlarm_awaits {kind : AudioLink.AlarmKind AlarmKind}
    (hconnected : progress.link.state = .connected)
    (hkept : kind = .session .poll ∨ Armed progress.link.alarms ∨
      .alarm (.session .poll) ∈ progress.link.queue)
    (hharmless : ∀ errand ∈ progress.link.queue, Harmless errand) :
    (Link.onAlarm kind : Step Handsfree Request AlarmKind Verdict).Yields scene progress
      fun _ after => Awaits after := by
  rw [Link.onAlarm, Step.yields_bind, Step.yields_link]
  cases kind with
  | connect =>
      rw [hconnected]
      exact .inr ⟨hconnected, hkept.resolve_left (by decide), hharmless⟩
  | disconnect =>
      rw [hconnected]
      exact .inr ⟨hconnected, hkept.resolve_left (by decide), hharmless⟩
  | session kind =>
      cases kind with
      | poll =>
          show (if progress.link.state = .connected then _ else _ :
            Step Handsfree Request AlarmKind Verdict).Yields scene progress _
          rw [if_pos hconnected]
          exact yields_consult_awaits hconnected hharmless (.inr (yields_queryCalls_polls _ _))

/-- Whatever a connected link finds in its queue keeps the question. -/
theorem yields_handle_awaits {errand : Errand Request AlarmKind}
    {rest : List (Errand Request AlarmKind)} (h : Awaits progress)
    (hqueue : progress.link.queue = errand :: rest) :
    (Link.handle errand : Step Handsfree Request AlarmKind Unit).Yields scene
      ⟨{ progress.link with queue := rest }, progress.log⟩ fun _ after => Awaits after := by
  rcases h with hsettled | ⟨hconnected, hkept, hharmless⟩
  · exact yields_awaits_of_settled (lasting_settled.upholds_handle errand scene _ hsettled)
  · rw [hqueue] at hkept hharmless
    have hrest : ∀ errand ∈ rest, Harmless errand :=
      fun errand h => hharmless errand (List.mem_cons_of_mem _ h)
    refine Link.yields_handle ?_ fun after fault h => h.imp_left (persists_settled _ _)
    cases hharmless errand (List.mem_cons_self ..) with
    | dropAudio =>
        refine upholds_onMessage_awaits ?_ scene _ (.inr ⟨hconnected, ?_, ?_⟩)
        · nofun
        · refine hkept.imp_right fun hmem => ?_
          rcases List.mem_cons.1 hmem with hmem | hmem
          · cases hmem
          · exact hmem
        · exact hrest
    | alarm kind =>
        refine yields_onAlarm_awaits hconnected ?_ hrest
        rcases hkept with harmed | hmem
        · exact .inr (.inl harmed)
        · rcases List.mem_cons.1 hmem with hmem | hmem
          · cases hmem
            exact .inl rfl
          · exact .inr (.inr hmem)

end Errands

/-! ### Impulses -/

/-- An impulse that ends polling: it ends the list of calls that was asked for, and leaves no calls
to ask about again. -/
def EndsPolling (link : Link Handsfree Request AlarmKind) : Impulse Request → Prop
  | .hand scene (.event (.commandResult _ _)) =>
      link.session.ledger.front? = some .queryCalls ∧
        (link.session.survey.complete scene.now).1.pollAgain = false
  | _ => False

section Impulses

variable {link : Link Handsfree Request AlarmKind} {impulse : Impulse Request}

/-- The answer to an order keeps the question unless it ends polling. -/
theorem yields_onCommandResult_polls {scene : Scene} {outcome : Outcome} {code : Option Nat}
    (harmed : Armed link.alarms)
    (hgoes : ¬EndsPolling link (.hand scene (.event (.commandResult outcome code)))) :
    (onCommandResult outcome code).Yields (Step.view scene link) (Step.desk ⟨link, []⟩)
      fun _ after => Polls after := by
  rw [yields_onCommandResult]
  cases hfront : link.session.ledger.front? with
  | none =>
      rw [show (Step.desk ⟨link, []⟩).session.ledger.front? = none from hfront]
      exact .inr harmed
  | some order =>
      rw [show (Step.desk ⟨link, []⟩).session.ledger.front? = some order from hfront]
      by_cases hquery : order = .queryCalls
      · cases hagain : (link.session.survey.complete scene.now).1.pollAgain with
        | false => exact absurd ⟨hquery ▸ hfront, hagain⟩ hgoes
        | true =>
            rw [hquery]
            exact Work.yields_mono (yields_finishQuery_arms hagain) fun _ _ h => .inr h.1
      · exact acts_polls.upholds_onAnswer order outcome code (fun h => absurd h hquery) _ _
          (.inr harmed)

/-- **An impulse that does not end polling keeps the question.** -/
theorem awaits_respond (hqueue : link.queue = []) (hwaits : Waits link)
    (hgoes : ¬EndsPolling link impulse) :
    Awaits ⟨(link.respond impulse).1, (link.respond impulse).2⟩ := by
  cases impulse with
  | hand scene message =>
      refine Link.respond_hand (P := Awaits) hqueue ?_ fun _ _ _ => yields_handle_awaits
      refine Link.yields_handle ?_ fun after fault h => h.imp_left (persists_settled _ _)
      by_cases hanswer : ∃ outcome code, message = .event (.commandResult outcome code)
      · obtain ⟨outcome, code, rfl⟩ := hanswer
        refine (Link.yields_onErrand_event ?_ rfl).2 ?_
        · rw [hwaits.connected]
          decide
        · refine yields_consult_awaits hwaits.connected hwaits.harmless (.inr ?_)
          exact yields_onCommandResult_polls (hwaits.armed hqueue) hgoes
      · refine upholds_onMessage_awaits ?_ scene _ (.inr hwaits)
        exact fun outcome code h => hanswer ⟨outcome, code, h⟩
  | wake scene =>
      refine Link.respond_wake (P := Awaits) hqueue (.inr hwaits) ?_
        fun _ _ _ => yields_handle_awaits
      rintro progress kind others (hsettled | hwaits) hempty hpop
      · exact .inl hsettled
      · refine .inr ⟨hwaits.connected, ?_, ?_⟩
        · by_cases hpoll : AlarmKind.session .poll = kind
          · exact .inr (hpoll ▸ List.mem_singleton_self _)
          · refine .inl ?_
            rw [Armed, Alarms.isArmed_of_popDue hpop hpoll]
            exact hwaits.armed hempty
        · intro errand herrand
          rw [List.mem_singleton.1 herrand]
          exact .alarm kind

theorem EndsPolling.exists (h : EndsPolling link impulse) :
    ∃ scene outcome code, impulse = .hand scene (.event (.commandResult outcome code)) ∧
      link.session.ledger.front? = some .queryCalls ∧
      (link.session.survey.complete scene.now).1.pollAgain = false := by
  unfold EndsPolling at h
  split at h
  · exact ⟨_, _, _, rfl, h⟩
  · cases h

/-- **An impulse that ends polling cancels the question.** -/
theorem not_armed_of_endsPolling (hqueue : link.queue = []) (hconnected : link.state = .connected)
    (hends : EndsPolling link impulse) : ¬Armed (link.respond impulse).1.alarms := by
  obtain ⟨scene, outcome, code, rfl, hfront, hstop⟩ := hends.exists
  -- the answer leaves nothing in the queue, so that it is the only errand
  refine (Link.respond_hand (P := fun after => ¬Armed after.link.alarms ∧ after.link.queue = [])
    hqueue ?_ ?_).1
  · refine Link.yields_handle ?_ fun after fault h => h
    refine (Link.yields_onErrand_event ?_ rfl).2 ?_
    · rw [hconnected]
      decide
    · rw [Step.yields_consult]
      refine (yields_onCommandResult_of_front hfront).2 ?_
      refine Work.yields_mono (yields_finishQuery_stops hstop) ?_
      rintro _ after ⟨hcancelled, hdrops⟩
      refine ⟨hcancelled, ?_⟩
      have hnone : after.drops = 0 := hdrops
      show link.queue ++ List.replicate after.drops _ = []
      rw [hqueue, hnone]
      rfl
  · rintro progress errand rest ⟨-, hempty⟩ hcons
    rw [hempty] at hcons
    cases hcons

end Impulses

end AudioLink.Handsfree
