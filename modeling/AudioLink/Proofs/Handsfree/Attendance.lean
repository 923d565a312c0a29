/-
**How calls are attended to.**

The gateway does not say that a call has ended, and a call that was dialled here and never listed is
only given up when a list of calls comes to its end.  So as long as there are calls, the gateway has
to be asked for the list of them again and again: at any time a question is pending, or the alarm of
the next one is armed.  Three things put an end to this, and nothing else does.  The alarm of the
next question is struck out before the question is put, so that nothing is left when the transport
refuses the question; it is struck out as well when the link ceases to be connected, although a link
that is not disconnected keeps its calls; and when it goes off while the link is not connected, it
is passed over.

Main definitions:

* `AudioLink.Handsfree.Attended` — there are no calls, or a question is pending, or the alarm of the
  next one is armed;
* `AudioLink.Handsfree.Neglects` — an impulse at which one of the three things happens;
* `AudioLink.Handsfree.Diligent` — a life in which none of them does.

Main results:

* `AudioLink.Handsfree.chores_tended`, `AudioLink.Handsfree.profile_tended` — no act and no occasion
  leaves calls unattended, unless the transport refuses the question;
* `AudioLink.Handsfree.moves_watched` — nor does a move of the link, unless it ceases to be
  connected;
* `AudioLink.Handsfree.attended_respond` — **nor does an impulse, unless it neglects the calls**;
* `AudioLink.Handsfree.calls_attended` — **in a diligent life all calls are attended to**;
* `AudioLink.Handsfree.calls_unattended` — each of the three things may leave calls unattended.
-/

import AudioLink.Proofs.Handsfree.Indicators
import AudioLink.Proofs.Link.Errands

set_option relaxedAutoImplicit false
set_option autoImplicit false

namespace AudioLink.Handsfree

/-! ### Attendance and neglect -/

/-- Calls are attended to: there are none, or a question for the list of calls is pending, or the
alarm of the next one is armed. -/
def Attended (s : Handsfree) (alarms : Alarms (AudioLink.AlarmKind AlarmKind)) : Prop :=
  s.roster.isEmpty = true ∨ s.isQuerying = true ∨ Armed alarms

instance (s : Handsfree) (alarms : Alarms (AudioLink.AlarmKind AlarmKind)) :
    Decidable (Attended s alarms) :=
  inferInstanceAs (Decidable (_ ∨ _ ∨ _))

/-- Whether an effect is that the transport refuses the question for the list of calls, or that the
link ceases to be connected without being disconnected. -/
def neglects : Effect → Bool
  | .call (.command .queryCurrentCalls) accepted => !accepted
  | .notice (.linkChanged .connected current) => current != .disconnected
  | _ => false

/-- The transport has refused the question for the list of calls, or the link has ceased to be
connected without being disconnected. -/
def Neglected (log : List Effect) : Prop := log.any neglects = true

instance (log : List Effect) : Decidable (Neglected log) := inferInstanceAs (Decidable (_ = true))

theorem persists_neglected : Persists Neglected := persists_any neglects

theorem neglected_snoc {effect : Effect} (h : neglects effect = true) (log : List Effect) :
    Neglected (log ++ [effect]) :=
  any_snoc_iff.2 (.inr h)

/-! ### What becomes of questions and calls -/

/-- A pending question stays pending when another order is issued. -/
theorem isQuerying_issue {s : Handsfree} (h : s.isQuerying = true) (order : Order) (now : Instant)
    (accepted : Bool) :
    ({ s with ledger := (s.ledger.issue order now accepted).2 } : Handsfree).isQuerying = true := by
  rw [isQuerying, List.contains_iff_mem] at h
  rw [isQuerying, List.contains_iff_mem, Ledger.actions_issue]
  split
  · exact List.mem_append_left _ h
  · exact h

/-- A question that the transport has taken is pending. -/
theorem isQuerying_queryCalls (s : Handsfree) (now : Instant) :
    ({ s with ledger := (s.ledger.issue .queryCalls now true).2 } : Handsfree).isQuerying =
      true := by
  rw [isQuerying, List.contains_iff_mem, Ledger.actions_issue, if_pos rfl]
  exact List.mem_append_right _ (List.mem_singleton_self _)

/-- A pending question stays pending when another order is answered. -/
theorem isQuerying_struck {desk : Desk Handsfree AlarmKind}
    (h : desk.session.isQuerying = true)
    (hfront : desk.session.ledger.front? ≠ some .queryCalls) :
    (struck desk).session.isQuerying = true := by
  rw [isQuerying, List.contains_iff_mem] at h
  rw [isQuerying, List.contains_iff_mem]
  show Order.queryCalls ∈ desk.session.ledger.resolve.2.actions
  rw [Ledger.actions_resolve]
  rw [Ledger.front?] at hfront
  cases hactions : desk.session.ledger.actions with
  | nil =>
      rw [hactions] at h
      cases h
  | cons oldest others =>
      rw [hactions] at h hfront
      refine (List.mem_cons.1 h).resolve_left fun heq => hfront ?_
      rw [heq]
      rfl

theorem isEmpty_abandon {s : Survey} (h : s.roster.isEmpty = true) :
    s.abandon.2.roster.isEmpty = true := by
  show (s.roster.calls.filter _).isEmpty = true
  rw [List.isEmpty_iff.1 h]
  rfl

/-- When a dialled call is given up again, the calls are those there were before. -/
theorem isEmpty_abandon_dial {s entered : Survey} {number : String} {now : Instant} {call : Call}
    (hdial : s.dial number now = .ok (call, entered)) (h : s.roster.isEmpty = true) :
    entered.abandon.2.roster.isEmpty = true := by
  rw [Survey.dial] at hdial
  split at hdial
  · cases hdial
  · obtain ⟨rfl, rfl⟩ := Prod.mk.inj (Except.ok.inj hdial)
    show ((Roster.place _ s.roster.calls).filter _).isEmpty = true
    rw [List.isEmpty_iff.1 h]
    rfl

/-- A pass after which there are no calls to ask about leaves no calls. -/
theorem isEmpty_complete {s : Survey} {now : Instant} (h : (s.complete now).1.pollAgain = false) :
    (s.complete now).2.roster.isEmpty = true := by
  cases hstuck : s.stuckAge now with
  | some age =>
      rw [Survey.complete_eq_of_stuck hstuck]
      rfl
  | none =>
      rw [Survey.complete_eq hstuck] at h ⊢
      exact Bool.not_eq_eq_eq_not.1 h

/-! ### Work that attends to calls -/

/-- At the desk, calls are attended to or were neglected. -/
def Tended (desk : Desk Handsfree AlarmKind) : Prop :=
  Neglected desk.log ∨ Attended desk.session desk.alarms

/-- The question for the list of calls is put off, or put, or refused. -/
theorem yields_queryCalls_tended (view : View) (desk : Desk Handsfree AlarmKind) :
    queryCalls.Yields view desk fun _ after => Tended after := by
  rw [yields_queryCalls]
  split
  · exact .inr (.inr (.inr (by simp [putOff, Armed])))
  · split
    · exact .inr (.inr (.inr (by simp [putOff, Armed])))
    · rw [yields_issue]
      cases haccepted : view.transport (asking desk view.now).log
          (.command Order.queryCalls.command) with
      | false => exact .inl (neglected_snoc rfl _)
      | true => exact .inr (.inr (.inl (isQuerying_queryCalls _ _)))

/-- The end of a list leaves no calls, or arms the alarm of the next question. -/
theorem yields_finishQuery_tended (view : View) (desk : Desk Handsfree AlarmKind) :
    finishQuery.Yields view desk fun _ after => Tended after := by
  cases hagain : (desk.session.survey.complete view.now).1.pollAgain with
  | true =>
      refine Work.yields_mono (yields_finishQuery_arms hagain) ?_
      rintro _ after ⟨harmed, -⟩
      exact .inr (.inr (.inr harmed))
  | false =>
      have hempty := isEmpty_complete hagain
      rw [yields_finishQuery]
      split
      · rw [yields_issueQuietly]
        exact .inr (.inl hempty)
      · exact .inr (.inl hempty)

/-- No act leaves calls unattended, unless the transport refuses the question. -/
theorem chores_tended : Chores Tended where
  note f haside := by
    rintro view desk (hneglected | hattended)
    · exact .inl hneglected
    · rw [Work.yields_update]
      refine .inr ?_
      rw [Attended, roster, isQuerying, haside.survey, haside.ledger]
      exact hattended
  announce _ _ := fun _ _ h => h.imp_left (persists_neglected _ _)
  dropAudio := fun _ _ h => h
  issue order _ := by
    rintro view desk (hneglected | hattended)
    · exact .inl (persists_neglected _ _ hneglected)
    · refine .inr ?_
      rcases hattended with hempty | hquerying | harmed
      · exact .inl hempty
      · exact .inr (.inl (isQuerying_issue hquerying ..))
      · exact .inr (.inr harmed)
  queryCalls := fun view desk _ => yields_queryCalls_tended view desk
  record _ _ := fun _ _ h => h
  abandonDial := by
    rintro view desk (hneglected | hattended)
    · rw [yields_abandonDial]
      exact .inl (persists_neglected _ _ hneglected)
    · rw [yields_abandonDial]
      exact .inr (hattended.imp_left isEmpty_abandon)

/-- A call that the transport lets through is asked about; any other is given up at once. -/
theorem upholds_dial_tended (number : String) : Work.Upholds Tended (dial number) := by
  intro view desk htended
  rw [yields_dial]
  split
  · exact htended
  · split
    · exact htended
    · next call survey hdial =>
        rw [yields_issue]
        cases view.transport (entered desk call survey).log
          (.command (Order.dial number).command) with
        | true => exact yields_queryCalls_tended view _
        | false =>
            show abandonDial.Yields view _ _
            rw [yields_abandonDial]
            rcases htended with hneglected | hempty | hquerying | harmed
            · exact .inl (persists_neglected _ _ (persists_neglected _ _
                (persists_neglected _ _ hneglected)))
            · exact .inr (.inl (isEmpty_abandon_dial hdial hempty))
            · exact .inr (.inr (.inl (isQuerying_issue hquerying (.dial number) view.now false)))
            · exact .inr (.inr (.inr harmed))

theorem upholds_onCommandResult_tended (outcome : Outcome) (code : Option Nat) :
    Work.Upholds Tended (onCommandResult outcome code) := by
  intro view desk htended
  rw [yields_onCommandResult]
  have hstruck (hother : desk.session.ledger.front? ≠ some .queryCalls) : Tended (struck desk) := by
    rcases htended with hneglected | hempty | hquerying | harmed
    · exact .inl hneglected
    · exact .inr (.inl hempty)
    · exact .inr (.inr (.inl (isQuerying_struck hquerying hother)))
    · exact .inr (.inr (.inr harmed))
  cases hfront : desk.session.ledger.front? with
  | none => exact hstruck (by rw [hfront]; nofun)
  | some order =>
      by_cases hquery : order = .queryCalls
      · -- the question that was answered is no longer pending, whatever was so before
        rw [hquery]
        exact yields_finishQuery_tended view (struck desk)
      · have htended : Tended (struck desk) := by
          refine hstruck fun heq => hquery ?_
          exact Option.some.inj (hfront.symm.trans heq)
        exact chores_tended.upholds_onAnswer order outcome code (fun h => absurd h hquery) view _
          htended

/-- With the link all calls are gone. -/
theorem yields_onDisconnected_isEmpty (view : View) (desk : Desk Handsfree AlarmKind) :
    onDisconnected.Yields view desk fun _ after => after.session.roster.isEmpty = true := by
  rw [yields_onDisconnected]
  rfl

/-- No occasion leaves calls unattended, unless the transport refuses the question. -/
theorem profile_tended : ProfileUpholds Handsfree Tended :=
  chores_tended.profile upholds_dial_tended upholds_onCommandResult_tended fun view desk _ =>
    Work.yields_mono (yields_onDisconnected_isEmpty view desk) fun _ _ hempty => .inr (.inl hempty)

/-! ### Moves that attend to calls -/

/-- In the middle of a step, calls are attended to or were neglected. -/
def Watched (progress : Progress Handsfree Request AlarmKind) : Prop :=
  Neglected progress.log ∨ Attended progress.link.session progress.link.alarms

section Moves

variable {scene : Scene} {progress : Progress Handsfree Request AlarmKind}

theorem upholds_consult_watched {α : Type} {work : Work Handsfree AlarmKind α}
    (hwork : Work.Upholds Tended work) :
    Step.Upholds Watched (Step.consult work : Step Handsfree Request AlarmKind α) :=
  fun scene progress h => hwork (Step.view scene progress.link) (Step.desk progress) h

/-- A change that does not touch the profile and keeps its alarm is of no matter. -/
theorem upholds_change_watched {f : Link Handsfree Request AlarmKind → Link Handsfree Request
    AlarmKind} (hsession : ∀ link, (f link).session = link.session)
    (halarms : ∀ link, Armed link.alarms → Armed (f link).alarms) :
    Step.Upholds Watched (Step.change f) := by
  intro scene progress h
  rw [Step.yields_change, Watched, hsession]
  exact h.imp_right (.imp_right (.imp_right (halarms _)))

theorem turning_watched : Link.Turning Watched where
  slight f hf := by
    refine upholds_change_watched hf.session fun link harmed => ?_
    rw [Armed, hf.alarms]
    exact harmed
  audioChanged _ _ _ := fun _ _ h => h.imp_left (persists_neglected _ _)
  onAudioChanged _ _ _ := upholds_consult_watched (profile_tended.onAudioChanged _ _ _)

theorem upholds_enter_watched (state : LinkState) :
    Step.Upholds Watched (Link.enter state : Step Handsfree Request AlarmKind Unit) := by
  cases state with
  | disconnected =>
      rw [Link.enter]
      exact upholds_consult_watched profile_tended.onDisconnected
  | connecting => exact turning_watched.upholds_enter rfl
  | connected =>
      refine .bind (upholds_change_watched (fun _ => rfl) fun _ => id) fun _ => ?_
      refine .bind turning_watched.upholds_silence fun _ => ?_
      exact upholds_consult_watched profile_tended.onConnected
  | disconnecting => exact turning_watched.upholds_enter rfl

/-- A link that drops out has no calls. -/
theorem yields_transition_isEmpty (hup : progress.link.state ≠ .disconnected) :
    (Link.transition .disconnected : Step Handsfree Request AlarmKind Unit).Yields scene progress
      fun _ after => after.link.session.roster.isEmpty = true := by
  rw [Link.yields_transition_of_ne hup]
  refine Step.yields_of_forall ?_
  intro _ left
  rw [Step.yields_bind, Link.enter, Step.yields_consult]
  exact yields_onDisconnected_isEmpty _ _

/-- No move of a link leaves calls unattended, unless the link ceases to be connected. -/
theorem upholds_transition_watched (next : LinkState) :
    Step.Upholds Watched (Link.transition next : Step Handsfree Request AlarmKind Unit) := by
  intro scene progress h
  have harrived : Step.Upholds Watched (do
      Link.enter next
      if next.isStable then Link.replayDeferred
      : Step Handsfree Request AlarmKind Unit) := by
    refine .bind (upholds_enter_watched next) fun _ => ?_
    exact .ite (fun _ => upholds_change_watched (fun _ => rfl) fun _ => id) fun _ => .pure _
  by_cases hsame : progress.link.state = next
  · rw [Link.yields_transition_of_eq hsame]
    exact h
  by_cases hdown : next = .disconnected
  · subst hdown
    exact Step.yields_mono (yields_transition_isEmpty hsame) fun _ _ hempty => .inr (.inl hempty)
  rw [Link.yields_transition_of_ne hsame]
  by_cases hconnected : progress.link.state = .connected
  · -- the alarm is struck out on the way, and the announcement says so
    refine Step.yields_of_forall fun _ left => harrived scene _ (.inl (neglected_snoc ?_ _))
    rw [hconnected]
    exact bne_iff_ne.2 hdown
  · refine Step.yields_mono (turning_watched.upholds_leave hconnected scene progress h) ?_
    intro _ left hleft
    exact harrived scene _ (hleft.imp_left (persists_neglected _ _))

theorem moves_watched : Link.Moves Watched where
  ask _ _ := fun _ _ h => h.imp_left (persists_neglected _ _)
  transition := upholds_transition_watched
  setAudio audio wideband scene _ _ h := turning_watched.upholds_setAudio audio wideband scene _ h
  defer _ _ h := h
  introduce _ _ h := h

end Moves

/-! ### Impulses -/

/-- When the alarm of the next question goes off, the link is connected, so that the alarm is not
passed over. -/
def Heard (now : Instant) (link : Link Handsfree Request AlarmKind) : Prop :=
  link.state = .connected ∨
    ∀ alarm ∈ link.alarms.entries, alarm.kind = .session .poll → now < alarm.deadline

/-- While a link is woken, there are no calls, or they are attended to and the alarm is not passed
over, or they were neglected. -/
def Served (now : Instant) (progress : Progress Handsfree Request AlarmKind) : Prop :=
  Neglected progress.log ∨ progress.link.session.roster.isEmpty = true ∨
    (progress.link.session.isQuerying = true ∨ Armed progress.link.alarms) ∧
      Heard now progress.link

namespace Served

variable {now : Instant} {before after : Progress Handsfree Request AlarmKind}

theorem of_watched (h : Watched before) (hheard : Heard now before.link) : Served now before := by
  rcases h with hneglected | hempty | hasked
  · exact .inl hneglected
  · exact .inr (.inl hempty)
  · exact .inr (.inr ⟨hasked, hheard⟩)

theorem watched (h : Served now before) : Watched before := by
  rcases h with hneglected | hempty | ⟨hasked, -⟩
  · exact .inl hneglected
  · exact .inr (.inl hempty)
  · exact .inr (.inr hasked)

/-- What does not touch the profile, and adds nothing to its alarms and takes nothing away, is of no
matter, as long as a connected link stays so. -/
theorem alike (h : Served now before) (hsession : after.link.session = before.link.session)
    (hlog : Neglected before.log → Neglected after.log)
    (harmed : Armed before.link.alarms → Armed after.link.alarms)
    (hentries : ∀ alarm ∈ after.link.alarms.entries, alarm.kind = .session .poll →
      alarm ∈ before.link.alarms.entries)
    (hstate : before.link.state = .connected → after.link.state = .connected) :
    Served now after := by
  rw [Served, hsession]
  refine h.imp hlog (.imp_right ?_)
  rintro ⟨hasked, hheard⟩
  refine ⟨hasked.imp_right harmed, hheard.imp hstate ?_⟩
  intro hlater alarm halarm hpoll
  exact hlater alarm (hentries alarm halarm hpoll) hpoll

theorem snoc (h : Served now before) (effect : Effect) :
    Served now { before with log := before.log ++ [effect] } :=
  h.imp_left (persists_neglected _ _)

end Served

section Impulses

variable {scene : Scene} {progress : Progress Handsfree Request AlarmKind}

/-- No message leaves calls unattended, unless it neglects them. -/
theorem upholds_message_watched (message : Message Request) :
    Step.Upholds Watched
      (Link.handle (.message message) : Step Handsfree Request AlarmKind Unit) := by
  intro scene progress h
  refine Link.yields_handle ?_ fun _ _ hafter => hafter.imp_left (persists_neglected _ _)
  refine moves_watched.upholds_onMessage (fun request _ => ?_) (fun event _ => ?_) scene progress h
  · exact upholds_consult_watched (profile_tended.onRequest request)
  · exact upholds_consult_watched (profile_tended.onEvent event)

/-- When a link begins to connect, an alarm is armed, but not that of the next question. -/
theorem yields_transition_served (h : Served scene.now progress)
    (hstate : progress.link.state = .disconnected) :
    (Link.transition .connecting : Step Handsfree Request AlarmKind Unit).Yields scene progress
      fun _ after => Served scene.now after := by
  rw [Link.yields_transition_of_ne (by rw [hstate]; nofun), hstate]
  show Served scene.now ⟨{ progress.link with
    state := .connecting
    alarms := progress.link.alarms.schedule .connect
      (scene.now + progress.link.session.settings.connectTimeout) },
    progress.log ++ [.notice (.linkChanged .disconnected .connecting)]⟩
  refine h.alike rfl (persists_neglected _ _) ?_ ?_ ?_
  · intro harmed
    rw [Armed] at harmed
    rw [Armed, Alarms.isArmed_schedule, harmed, Bool.or_true]
  · intro alarm halarm hpoll
    rcases List.mem_append.1 halarm with hkept | hnew
    · exact (List.mem_filter.1 hkept).1
    · rw [List.mem_singleton.1 hnew] at hpoll
      cases hpoll
  · intro hconnected
    cases hstate.symm.trans hconnected

/-- A request to connect is about nothing that is served. -/
theorem yields_onConnect_served (h : Served scene.now progress) :
    (Link.onConnect : Step Handsfree Request AlarmKind Verdict).Yields scene progress
      fun _ after => Served scene.now after := by
  rw [Link.onConnect, Step.yields_bind, Step.yields_link]
  cases hstate : progress.link.state with
  | connected => exact h
  | connecting | disconnecting => exact h.alike rfl id id (fun _ halarm _ => halarm) id
  | disconnected =>
      show (do
        if ← Step.ask .connect then
          Link.transition .connecting
          return .ok ()
        else return .error (.rejected "connect")
        : Step Handsfree Request AlarmKind Verdict).Yields scene progress _
      rw [Step.yields_bind, Step.yields_ask, Step.yields_ite]
      split
      · rw [Step.yields_bind]
        exact yields_transition_served (h.snoc _) hstate
      · exact h.snoc _

/-- An errand that the link makes for itself leaves calls served. -/
theorem yields_own_served {errand : Errand Request AlarmKind} (hown : Link.Incidental errand)
    (h : Served scene.now progress) :
    (Link.handle errand : Step Handsfree Request AlarmKind Unit).Yields scene progress
      fun _ after => Served scene.now after := by
  refine Link.yields_handle ?_ fun _ _ hafter => hafter.snoc _
  cases hown with
  | connect => exact yields_onConnect_served h
  | dropAudio =>
      exact Link.leads_onDisconnectAudio (Q := Served scene.now) (fun _ _ hasked => hasked.snoc _)
        (fun _ => id) scene progress h
  | linkDown =>
      show (do Link.onLinkChanged .disconnected .none; return .ok () :
        Step Handsfree Request AlarmKind Verdict).Yields scene progress _
      rw [Step.yields_bind, Link.onLinkChanged, Step.yields_bind, Step.yields_link]
      cases hstate : progress.link.state with
      | disconnected => exact h
      | connecting | connected | disconnecting =>
          have hup : progress.link.state ≠ .disconnected := by
            rw [hstate]
            decide
          refine Step.yields_mono (yields_transition_isEmpty hup) ?_
          intro _ after hempty
          exact .inr (.inl hempty)

/-- Serving an alarm leaves calls served: that of the next question leads to the question. -/
theorem yields_alarm_served {kind : AudioLink.AlarmKind AlarmKind}
    {others : Alarms (AudioLink.AlarmKind AlarmKind)} (h : Served scene.now progress)
    (hpop : progress.link.alarms.popDue scene.now = some (kind, others)) :
    (Link.handle (.alarm kind) : Step Handsfree Request AlarmKind Unit).Yields scene
      ⟨{ progress.link with alarms := others, queue := [] }, progress.log⟩
      fun _ after => Served scene.now after := by
  obtain ⟨alarm, hpending, hkind, hdue, hothers⟩ := Alarms.exists_of_popDue hpop
  -- any other alarm only brings about that the link is given up later
  have hgiven (hother : AudioLink.AlarmKind.session AlarmKind.poll ≠ kind) :
      Served scene.now ⟨{ progress.link with alarms := others, queue := [] }, progress.log⟩ := by
    refine h.alike rfl id ?_ ?_ id
    · intro harmed
      rw [Armed, Alarms.isArmed_of_popDue hpop hother]
      exact harmed
    · intro other hmem _
      rw [hothers] at hmem
      exact List.mem_of_mem_erase hmem
  have hgiveUp : Step.Upholds (Served scene.now)
      (Link.giveUp : Step Handsfree Request AlarmKind Unit) :=
    fun _ _ hserved => hserved.alike rfl id id (fun _ hmem _ => hmem) id
  have hrefuse : Step.Upholds (Served scene.now)
      (Link.refuse : Step Handsfree Request AlarmKind Unit) :=
    fun _ _ hserved => hserved.snoc _
  refine Link.yields_handle ?_ fun _ _ hafter => hafter.snoc _
  cases kind with
  | connect =>
      refine Step.Upholds.bind .link (fun link => ?_) scene _ (hgiven (by decide))
      refine .ite (fun _ => ?_) fun _ => .pure _
      exact .bind hrefuse fun _ => .bind hgiveUp fun _ => .pure _
  | disconnect =>
      refine Step.Upholds.bind .link (fun link => ?_) scene _ (hgiven (by decide))
      exact .ite (fun _ => .bind hgiveUp fun _ => .pure _) fun _ => .pure _
  | session kind =>
      cases kind with
      | poll =>
          show (Link.onAlarm (.session .poll) :
            Step Handsfree Request AlarmKind Verdict).Yields scene _ _
          rw [Link.onAlarm, Step.yields_bind, Step.yields_link, Step.yields_ite]
          split
          · next hconnected =>
              rw [Step.yields_consult]
              refine Work.yields_mono (yields_queryCalls_tended _ _) ?_
              intro _ desk htended
              exact .of_watched htended (.inl hconnected)
          · next hconnected =>
              refine h.imp_right (.imp_right ?_)
              rintro ⟨-, hheard⟩
              have hlater := hheard.resolve_left hconnected alarm hpending hkind
              exact absurd hdue (Nat.not_le.2 hlater)

/-- An impulse that neglects the calls: the transport refuses the question for the list of them, the
link ceases to be connected without being disconnected, or the alarm of the next question is passed
over. -/
def Neglects (link : Link Handsfree Request AlarmKind) (impulse : Impulse Request) : Prop :=
  Neglected (link.respond impulse).2 ∨ ∃ scene, impulse = .wake scene ∧ ¬Heard scene.now link

variable {link : Link Handsfree Request AlarmKind}

/-- **An impulse leaves calls attended to, unless it neglects them.** -/
theorem attended_respond (hlink : Link.Between link) (h : Attended link.session link.alarms)
    {impulse : Impulse Request} (hcare : ¬Neglects link impulse) :
    Attended (link.respond impulse).1.session (link.respond impulse).1.alarms := by
  obtain ⟨hkept, hheard⟩ := not_or.1 hcare
  refine Or.resolve_left ?_ hkept
  cases impulse with
  | hand scene message =>
      refine Link.respond_hand_own (P := Watched) hlink ?_ ?_
      · exact upholds_message_watched message scene _ (.inr h)
      · intro progress errand rest hwatched _ hown
        cases hown with
        | connect | linkDown | dropAudio => exact upholds_message_watched _ scene _ hwatched
  | wake scene =>
      have hheard : Heard scene.now link :=
        not_not.1 fun hpassed => hheard ⟨scene, rfl, hpassed⟩
      suffices hserved : Served scene.now
          ⟨(link.respond (.wake scene)).1, (link.respond (.wake scene)).2⟩ from hserved.watched
      refine Link.respond_wake_own (P := Served scene.now) hlink ?_ ?_ ?_
      · exact .of_watched (.inr h) hheard
      · intro progress kind others hserved _ hpop
        exact yields_alarm_served hserved hpop
      · intro progress errand rest hserved _ hown
        exact yields_own_served hown hserved

/-- In a diligent life no impulse neglects the calls. -/
def Diligent (link : Link Handsfree Request AlarmKind) : List (Impulse Request) → Prop
  | [] => True
  | impulse :: rest => ¬Neglects link impulse ∧ Diligent (link.respond impulse).1 rest

theorem attended_live (hlink : Link.Between link) (h : Attended link.session link.alarms)
    {impulses : List (Impulse Request)} (hdiligent : Diligent link impulses) :
    Attended (link.live impulses).1.session (link.live impulses).1.alarms := by
  induction impulses generalizing link with
  | nil => exact h
  | cons impulse rest ih =>
      obtain ⟨hcare, hrest⟩ := hdiligent
      exact ih (Link.between_respond hlink impulse) (attended_respond hlink h hcare) hrest

/-- **In a diligent life all calls are attended to.**  A link that attends to its calls at some
time, as it does in the beginning, goes on to do so, up to the first impulse that neglects them. -/
theorem calls_attended (settings : HandsfreeSettings) (issuer : Nat) (peer : Address)
    (past later : List (Impulse Request))
    (hattended : Attended ((Link.start peer (start settings issuer)).live past).1.session
      ((Link.start peer (start settings issuer)).live past).1.alarms)
    (hdiligent : Diligent ((Link.start peer (start settings issuer)).live past).1 later) :
    let link := (((Link.start peer (start settings issuer)).live past).1.live later).1
    Attended link.session link.alarms :=
  attended_live (Link.between_live (Link.between_start peer _) past) hattended hdiligent

end Impulses

/-! ### Calls that are left unattended -/

/-- The link is connected, but its calls are not attended to. -/
def Unattended (link : Link Handsfree Request AlarmKind) : Prop :=
  link.state = .connected ∧ ¬Attended link.session link.alarms

/-- A gateway lists an active call. -/
def listing : List (Impulse Request) :=
  [.hand (obliging 4) (.event (.callListed ⟨1, .incoming, .active, false, "5551"⟩)),
    .hand (obliging 5) (.event (.commandResult .ok none))]

/-- When it is time to ask about that call again. -/
def due : Instant := Duration.ofSeconds 2 5

/-- A scene in which the transport takes everything but the question for the list of calls. -/
def refusing (now : Instant) : Scene :=
  ⟨now, fun _ request => request != .command .queryCurrentCalls, .empty⟩

/-- The user asks to disconnect, but the gateway connects anew. -/
def turningBack : List (Impulse Request) :=
  [.hand (obliging 6) .disconnect,
    .hand (welcoming 7) (.event (.linkChanged .connected ⟨Capabilities.enhancedCallStatus, 0⟩))]

/-- A gateway lists an active call before it is connected, and takes its time to connect. -/
def hesitation : List (Impulse Request) :=
  .hand (obliging 0) .connect :: .hand (obliging 3) (.event (.callIndicator .callSetup 1)) ::
    listing ++ [.wake (obliging due),
      .hand (obliging due) (.event (.linkChanged .connected ⟨Capabilities.enhancedCallStatus, 0⟩))]

theorem live_listing :
    fresh.live (introduction ++ listing) =
      (Link.liveFor 1 fresh (introduction ++ listing)).get rfl :=
  Link.live_eq_get 1 rfl

/-- When it is time to ask about the call again, and the transport takes the question, the call is
attended to. -/
theorem calls_attended_listing :
    let link := (fresh.live (introduction ++ listing)).1
    Attended link.session link.alarms ∧ Diligent link [.wake (obliging due)] ∧
      Attended (link.live [.wake (obliging due)]).1.session
        (link.live [.wake (obliging due)]).1.alarms := by
  have hattended : Attended (fresh.live (introduction ++ listing)).1.session
      (fresh.live (introduction ++ listing)).1.alarms := by
    rw [live_listing]
    decide
  have hdiligent : Diligent (fresh.live (introduction ++ listing)).1 [.wake (obliging due)] := by
    refine ⟨?_, trivial⟩
    rintro (hneglected | ⟨scene, hscene, hpassed⟩)
    · rw [live_listing, Link.respond_eq_get 1 rfl] at hneglected
      exact absurd hneglected (by decide)
    · refine hpassed (.inl ?_)
      rw [live_listing]
      rfl
  exact ⟨hattended, hdiligent, calls_attended _ _ _ _ _ hattended hdiligent⟩

/-- A call is left unattended when the transport refuses the question; when the link turns back
before it is disconnected; and when the alarm goes off before the link is connected. -/
theorem calls_unattended :
    Unattended (fresh.live (introduction ++ listing ++ [.wake (refusing due)])).1 ∧
      Unattended (fresh.live (introduction ++ listing ++ turningBack)).1 ∧
      Unattended (fresh.live hesitation).1 := by
  rw [Link.live_eq_get 1 rfl, Link.live_eq_get 1 rfl, Link.live_eq_get 1 rfl]
  refine ⟨⟨rfl, ?_⟩, ⟨rfl, ?_⟩, rfl, ?_⟩
  · decide
  · decide
  · decide

end AudioLink.Handsfree
