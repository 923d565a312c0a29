/-
**When a link has waited long enough.**

Once the patience of the profile has run out, a link that is woken gives up: it takes itself to be
disconnected, and announces it.  A link that was connecting sends the device away first, once, and
announces that this took too long, once; a link that was disconnecting does neither.  Alarms of the
profile may be due as well, and are served, but a link that is not connected takes no notice of
them.

What was deferred is taken up in the same impulse, and the link may be connecting again at the end
of it.  The alarm that is armed then is not due yet, so that the link gives up once only.

Main definitions:

* `AudioLink.givesUp` — the device is sent away, or it is announced that something took too long;
* `AudioLink.GivenUp` — a link has given up in a state, and this is what it did about it;
* `AudioLink.Link.lastWords` — what a link does in each state;
* `AudioLink.Link.Gone` — a link that has given up, and will not do so again in this impulse.

Main results:

* `AudioLink.Link.yields_linkDown_givenUp` — a link that is given up announces it;
* `AudioLink.Link.yields_own_gone`, `AudioLink.Link.yields_alarm_gone` — nothing that comes
  afterwards is about giving up;
* `AudioLink.Link.OnTime.givenUp` — **a link that is woken when the patience has run out gives up,
  once**.
-/

import AudioLink.Proofs.Link.Deadlines
import AudioLink.Proofs.Link.Errands

set_option relaxedAutoImplicit false
set_option autoImplicit false

namespace AudioLink

/-! ### Giving up -/

/-- Whether an effect is that the device is sent away, or the announcement that something took too
long. -/
def givesUp : Effect → Bool
  | .call .disconnect _ | .notice (.requestFailed (.timeout _ _)) => true
  | _ => false

/-- The link has given up in `state`, and `last` is all that has left it about giving up. -/
structure GivenUp (state : LinkState) (last log : List Effect) : Prop where
  announced : .notice (.linkChanged state .disconnected) ∈ log
  last : log.filter givesUp = last

section GivenUp

variable {state : LinkState} {last log : List Effect} {effect : Effect}

theorem filter_givesUp_snoc (heffect : givesUp effect = false) (h : log.filter givesUp = last) :
    (log ++ [effect]).filter givesUp = last := by
  rw [List.filter_append, List.filter_cons_of_neg (by rw [heffect]; exact Bool.false_ne_true),
    List.filter_nil, List.append_nil]
  exact h

theorem GivenUp.snoc (h : GivenUp state last log) (heffect : givesUp effect = false) :
    GivenUp state last (log ++ [effect]) :=
  ⟨List.mem_append_left _ h.announced, filter_givesUp_snoc heffect h.last⟩

/-- Whoever has given up has moved. -/
theorem GivenUp.moved (h : GivenUp state last log) : log.any moves = true :=
  List.any_eq_true.2 ⟨_, h.announced, rfl⟩

theorem Effect.IsProfile.givesUp_eq_false (h : effect.IsProfile) : givesUp effect = false := by
  cases h with
  | command command accepted _ => rfl
  | report report => rfl

end GivenUp

namespace Link

variable {σ ρ τ : Type} {patience : Duration} {since : Instant} {scene : Scene}
  {progress : Progress σ ρ τ} {state : LinkState} {last : List Effect}

/-! ### What is not about giving up -/

section Moves

variable [ProfileSession σ ρ τ] {J : List Effect → Prop} (hdiscreet : Discreet σ)
  (hJ : ∀ log effect, givesUp effect = false → J log → J (log ++ [effect]))

include hdiscreet hJ

/-- The work of a discreet profile is not about giving up. -/
theorem profile_other : ProfileUpholds σ fun desk => J desk.log :=
  hdiscreet J fun log effect hprofile h => hJ log effect hprofile.givesUp_eq_false h

/-- Nor is a change of the audio, or the work of the profile when the link is connected. -/
theorem calm_other : Calm (ρ := ρ) (τ := τ) fun (_ : σ) log => J log :=
  (profile_other hdiscreet hJ).calm fun _ _ _ _ h => hJ _ _ rfl h

variable [DecidableEq τ]

/-- Nor is it to move to another state. -/
theorem upholds_transition_other (next : LinkState) :
    Step.Upholds (AtLink fun (_ : σ) log => J log) (transition next : Step σ ρ τ Unit) := by
  refine (calm_other hdiscreet hJ).upholds_transition next (fun _ _ _ _ h => hJ _ _ rfl h) ?_
  intro _ previous view desk h
  exact (profile_other hdiscreet hJ).onDisconnected view _ (hJ _ _ rfl h)

end Moves

/-! ### Links that have given up -/

/-- A link that has given up and is not connected, so that it takes no notice of the alarms of the
profile. -/
structure Gone (state : LinkState) (last : List Effect) (progress : Progress σ ρ τ) : Prop where
  given : GivenUp state last progress.log
  down : progress.link.state ≠ .connected

theorem Gone.snoc (h : Gone state last progress) {effect : Effect}
    (heffect : givesUp effect = false) :
    Gone state last { progress with log := progress.log ++ [effect] } :=
  ⟨h.given.snoc heffect, h.down⟩

/-- If nothing went wrong, there is nothing to tell. -/
theorem Gone.untold (h : Gone state last progress) : Gone state last progress ∧
    ∀ fault, (.ok () : Verdict) = .error fault →
      Gone state last { progress with log := progress.log ++ [.notice (.requestFailed fault)] } :=
  ⟨h, nofun⟩

/-- A fault that is not about giving up may be told. -/
theorem Gone.told (h : Gone state last progress) {fault : Fault}
    (hfault : givesUp (.notice (.requestFailed fault)) = false) :
    Gone state last progress ∧ ∀ other, (.error fault : Verdict) = .error other →
      Gone state last
        { progress with log := progress.log ++ [.notice (.requestFailed other)] } := by
  refine ⟨h, ?_⟩
  rintro _ ⟨⟩
  exact h.snoc hfault

variable [ProfileSession σ ρ τ] [DecidableEq τ]

section Errands

variable (hpatient : Patient σ)

include hpatient

/-- **A link that is given up announces it**, and what it did about it before is all it does. -/
theorem yields_linkDown_givenUp (hup : progress.link.state ≠ .disconnected)
    (hlast : progress.log.filter givesUp = last) :
    (transition .disconnected : Step σ ρ τ Unit).Yields scene progress fun _ after =>
      GivenUp progress.link.state last after.log := by
  rw [yields_transition_of_ne hup]
  have hcalm : Calm (ρ := ρ) (τ := τ) fun (_ : σ) log => log.filter givesUp = last :=
    calm_other hpatient.discreet fun _ _ heffect h => filter_givesUp_snoc heffect h
  refine Step.yields_mono (hcalm.upholds_leave _ scene progress hlast) ?_
  intro _ left hleft
  have hannounced : GivenUp progress.link.state last
      (left.log ++ [.notice (.linkChanged progress.link.state .disconnected)]) :=
    ⟨List.mem_append_right _ (List.mem_singleton_self _), filter_givesUp_snoc rfl hleft⟩
  have hprofile : ProfileUpholds σ fun desk => GivenUp progress.link.state last desk.log :=
    profile_other hpatient.discreet fun _ _ heffect h => h.snoc heffect
  have hentered : Step.Upholds (AtLink fun (_ : σ) log => GivenUp progress.link.state last log)
      (enter .disconnected : Step σ ρ τ Unit) :=
    upholds_consult hprofile.onDisconnected
  refine Step.Upholds.bind hentered (fun _ => ?_) scene _ hannounced
  exact .ite (fun _ => upholds_change fun _ => rfl) fun _ => .pure _

theorem yields_transition_gone {next : LinkState} (hdown : next ≠ .connected)
    (h : Gone state last progress) :
    (transition next : Step σ ρ τ Unit).Yields scene progress fun _ after =>
      Gone state last after := by
  have hkept : Step.Upholds (AtLink fun (_ : σ) log => GivenUp state last log)
      (transition next : Step σ ρ τ Unit) :=
    upholds_transition_other hpatient.discreet (fun _ _ heffect h => h.snoc heffect) next
  refine Step.yields_mono (Step.yields_and.2
    ⟨hkept scene progress h.given, yields_transition_state⟩) ?_
  rintro _ after ⟨hgiven, hstate⟩
  exact ⟨hgiven, hstate ▸ hdown⟩

variable [Outlined ρ]

/-- When a link that is not disconnected already is given up, it is gone afterwards. -/
theorem yields_linkDown_gone (hup : progress.link.state ≠ .disconnected)
    (hlast : progress.log.filter givesUp = last) :
    (handle (.message (.event .linkDown)) : Step σ ρ τ Unit).Yields scene progress fun _ after =>
      Gone progress.link.state last after := by
  refine yields_handle_told ?_
  show (onEvent .linkDown : Step σ ρ τ Verdict).Yields scene progress _
  rw [yields_linkDown]
  refine Step.yields_mono (Step.yields_and.2
    ⟨yields_linkDown_givenUp hpatient hup hlast, yields_transition_state⟩) ?_
  rintro _ after ⟨hgiven, hstate⟩
  have hgone : Gone progress.link.state last after := ⟨hgiven, by rw [hstate]; decide⟩
  exact hgone.untold

/-- **Nothing that a link does by itself after it has given up is about giving up.** -/
theorem yields_own_gone {errand : Errand ρ τ} (hown : Incidental errand)
    (h : Gone state last progress) :
    (handle errand : Step σ ρ τ Unit).Yields scene progress fun _ after =>
      Gone state last after := by
  refine yields_handle_told ?_
  cases hown with
  | connect =>
      show (onConnect : Step σ ρ τ Verdict).Yields scene progress _
      rw [onConnect, Step.yields_bind, Step.yields_link]
      cases hstate : progress.link.state with
      | disconnected =>
          show (Step.ask .connect >>= _ : Step σ ρ τ Verdict).Yields scene progress _
          rw [Step.yields_bind, Step.yields_ask, Step.yields_ite]
          have hasked : Gone state last { progress with log := progress.log ++
              [.call .connect (scene.transport progress.log .connect)] } := h.snoc rfl
          split
          · rw [Step.yields_bind]
            refine Step.yields_mono (yields_transition_gone hpatient (by decide) hasked) ?_
            exact fun _ _ hafter => hafter.untold
          · exact (Step.yields_pure _).2 (hasked.told rfl)
      | connecting | disconnecting =>
          have hdeferred : Gone state last { progress with
              link := { progress.link with deferred := progress.link.deferred ++ [.connect] } } :=
            ⟨h.given, h.down⟩
          exact hdeferred.untold
      | connected => exact absurd hstate h.down
  | linkDown =>
      show (onEvent .linkDown : Step σ ρ τ Verdict).Yields scene progress _
      rw [yields_linkDown]
      refine Step.yields_mono (yields_transition_gone hpatient (by decide) h) ?_
      exact fun _ _ hafter => hafter.untold
  | dropAudio =>
      show (onDisconnectAudio : Step σ ρ τ Verdict).Yields scene progress _
      rw [onDisconnectAudio, Step.yields_bind, Step.yields_link, if_pos h.down]
      exact (Step.yields_pure _).2 (h.told rfl)

end Errands

/-! ### Alarms -/

/-- What a link does about giving up, in the state it is in. -/
def lastWords (transport : Transport) (patience : Duration) : LinkState → List Effect
  | .connecting => [.call .disconnect (transport [] .disconnect),
      .notice (.requestFailed (.timeout "connect" patience))]
  | .disconnected | .connected | .disconnecting => []

theorem filter_lastWords (transport : Transport) (patience : Duration) (state : LinkState) :
    (lastWords transport patience state).filter givesUp = lastWords transport patience state := by
  cases state <;> rfl

section Alarms

variable [Outlined ρ]

/-- A link that is not connected takes no notice of an alarm of the profile. -/
theorem yields_alarm_unheard {own : τ} {post : Unit → Progress σ ρ τ → Prop}
    (hdown : progress.link.state ≠ .connected) :
    (handle (.alarm (.session own)) : Step σ ρ τ Unit).Yields scene progress post ↔
      post () progress := by
  rw [handle, Step.yields_bind]
  show (onAlarm (.session own) : Step σ ρ τ Verdict).Yields scene progress _ ↔ _
  rw [onAlarm, Step.yields_bind, Step.yields_link]
  show (if progress.link.state = .connected then _ else return .ok () :
    Step σ ρ τ Verdict).Yields scene progress _ ↔ _
  rw [if_neg hdown]
  rfl

/-- Nor do the alarms that are due afterwards make it give up again: those of the link itself, if
any is armed, were armed after it had moved, and the patience has only begun to run. -/
theorem yields_alarm_gone (hpositive : 0 < patience) {kind : AlarmKind τ}
    {others : Alarms (AlarmKind τ)} (h : Gone state last progress)
    (htimed : Timed patience since scene.now progress)
    (hpop : progress.link.alarms.popDue scene.now = some (kind, others)) :
    (handle (.alarm kind) : Step σ ρ τ Unit).Yields scene
      ⟨{ progress.link with alarms := others, queue := [] }, progress.log⟩ fun _ after =>
        Gone state last after := by
  have hsession : kind.isSession = true := by
    rw [← Bool.not_eq_false]
    intro hown
    obtain ⟨alarm, hmem, rfl, hdue, -⟩ := Alarms.exists_of_popDue hpop
    have hdeadline := htimed.2.deadline alarm hmem hown
    rw [movedAt_eq_now h.given.moved] at hdeadline
    rw [hdeadline] at hdue
    exact absurd hdue (Nat.not_le.2 (Nat.lt_add_of_pos_right hpositive))
  cases kind with
  | connect | disconnect => cases hsession
  | session own =>
      refine (yields_alarm_unheard ?_).2 ⟨h.given, h.down⟩
      exact h.down

/-- When the alarm that bounds the state of a link goes off, the link is given up next. -/
theorem yields_alarm_fired {kind : AlarmKind τ} (hown : kind.isSession = false)
    (hconnect : kind = .connect → progress.link.state = .connecting)
    (hdisconnect : kind = .disconnect → progress.link.state = .disconnecting)
    (hsame : ProfileSession.patience progress.link.session = patience)
    (hlog : progress.log = []) :
    (handle (.alarm kind) : Step σ ρ τ Unit).Yields scene progress fun _ after =>
      after = ⟨{ progress.link with queue := .message (.event .linkDown) :: progress.link.queue },
        lastWords scene.transport patience progress.link.state⟩ := by
  obtain ⟨link, log⟩ := progress
  subst hlog hsame
  rw [handle, Step.yields_bind]
  show (onAlarm kind : Step σ ρ τ Verdict).Yields scene _ _
  rw [onAlarm, Step.yields_bind, Step.yields_link]
  cases kind with
  | connect =>
      have hstate : link.state = .connecting := hconnect rfl
      rw [if_pos hstate, hstate]
      rfl
  | disconnect =>
      have hstate : link.state = .disconnecting := hdisconnect rfl
      rw [if_pos hstate, hstate]
      rfl
  | session own => cases hown

end Alarms

/-! ### Being woken -/

/-- A link that has given up in the course of an impulse. -/
structure GoneFor (patience : Duration) (since now : Instant) (state : LinkState)
    (last : List Effect) (progress : Progress σ ρ τ) : Prop extends Gone state last progress where
  timed : Timed patience since now progress
  made : SelfMade progress

section Woken

variable {link : Link σ ρ τ}

/-- When the patience has run out in a transient state, an alarm is due. -/
theorem OnTime.popDue_ne_none (h : OnTime patience since link)
    (hwaits : link.state.isStable = false) {now : Instant} (hlate : since + patience ≤ now) :
    link.alarms.popDue now ≠ none := by
  cases hstate : link.state with
  | disconnected | connected => cases (congrArg LinkState.isStable hstate).symm.trans hwaits
  | connecting => exact h.deadline.popDue_ne_none rfl (h.atRest.connect.2 hstate) hlate
  | disconnecting => exact h.deadline.popDue_ne_none rfl (h.atRest.disconnect.2 hstate) hlate

variable [Outlined ρ] (hpatient : Patient σ)

include hpatient

theorem GoneFor.yields_errand {errand : Errand ρ τ} {rest : List (Errand ρ τ)}
    (h : GoneFor patience since scene.now state last progress)
    (next : progress.link.queue = errand :: rest) :
    (handle errand : Step σ ρ τ Unit).Yields scene
      ⟨{ progress.link with queue := rest }, progress.log⟩ fun _ after =>
        GoneFor patience since scene.now state last after := by
  obtain ⟨hown, hrest⟩ := h.made.of_cons next
  have hgone : Gone state last ⟨{ progress.link with queue := rest }, progress.log⟩ :=
    ⟨h.given, h.down⟩
  exact
    { toGone := yields_own_gone hpatient hown hgone
      timed := yields_handle_timed hpatient h.timed next
      made := selfMade_handle errand scene _ hrest }

/-- A link that has given up has done so for the rest of the impulse. -/
theorem GoneFor.serveDue (hpositive : 0 < patience) (rounds : Nat)
    (h : GoneFor patience since scene.now state last progress)
    (hqueue : progress.link.queue = []) :
    GoneFor patience since scene.now state last (serveDue scene rounds progress) := by
  refine serveDue_induction ?_ (fun _ _ _ h next => h.yields_errand hpatient next) rounds hqueue h
  intro progress kind others h hempty hpop
  exact
    { toGone := yields_alarm_gone hpositive h.toGone h.timed hpop
      timed := yields_handle_timed hpatient (h.timed.popDue hempty hpop) rfl
      made := selfMade_handle (.alarm kind) scene _ ⟨nofun, h.made.deferred⟩ }

/-- To give the link up is to be gone. -/
theorem yields_linkDown_goneFor {rest : List (Errand ρ τ)}
    (next : progress.link.queue = .message (.event .linkDown) :: rest)
    (hup : progress.link.state ≠ .disconnected) (hlast : progress.log.filter givesUp = last)
    (htimed : Timed patience since scene.now progress) (hmade : SelfMade progress) :
    (handle (.message (.event .linkDown)) : Step σ ρ τ Unit).Yields scene
      ⟨{ progress.link with queue := rest }, progress.log⟩ fun _ after =>
        GoneFor patience since scene.now progress.link.state last after := by
  have hgone : (handle (.message (.event .linkDown)) : Step σ ρ τ Unit).Yields scene
      ⟨{ progress.link with queue := rest }, progress.log⟩ fun _ after =>
        Gone progress.link.state last after :=
    yields_linkDown_gone hpatient hup hlast
  exact
    { toGone := hgone
      timed := yields_handle_timed hpatient htimed next
      made := selfMade_handle _ scene _ (hmade.of_cons next).2 }

/-- The alarm that bounds the state of a link goes off, and the link is gone when it has done all
that comes of it. -/
theorem OnTime.goneFor_of_popDue (h : OnTime patience since link) {kind : AlarmKind τ}
    {others : Alarms (AlarmKind τ)} (hown : kind.isSession = false)
    (hpop : link.alarms.popDue scene.now = some (kind, others)) :
    GoneFor patience since scene.now link.state (lastWords scene.transport patience link.state)
      (drain scene ⟨{ link with alarms := others, queue := [.alarm kind] }, []⟩) := by
  obtain ⟨alarm, hmem, hkind, -⟩ := Alarms.exists_of_popDue hpop
  have harmed : link.alarms.isArmed kind = true := Alarms.isArmed_iff.2 ⟨alarm, hmem, hkind⟩
  have hconnect (heq : kind = .connect) : link.state = .connecting :=
    h.atRest.connect.1 (heq ▸ harmed)
  have hdisconnect (heq : kind = .disconnect) : link.state = .disconnecting :=
    h.atRest.disconnect.1 (heq ▸ harmed)
  have hup : link.state ≠ .disconnected := by
    cases kind with
    | connect => rw [hconnect rfl]; nofun
    | disconnect => rw [hdisconnect rfl]; nofun
    | session own => cases hown
  have htaken : Timed patience since scene.now
      ⟨{ link with alarms := others, queue := [.alarm kind] }, []⟩ :=
    (h.timed scene.now).popDue h.atRest.queue hpop
  have hmade : SelfMade ⟨{ link with alarms := others, queue := [] }, []⟩ :=
    ⟨nofun, h.atRest.deferred⟩
  -- the alarm is handled, then that the link is down, and then whatever else there is to do
  refine drain_of_yields rfl ?_
  refine Step.yields_mono (Step.yields_and.2
    ⟨yields_alarm_fired hown hconnect hdisconnect h.same rfl, Step.yields_and.2
      ⟨yields_handle_timed hpatient htaken rfl, selfMade_handle (.alarm kind) scene _ hmade⟩⟩) ?_
  rintro _ after ⟨rfl, htimed, hmade⟩
  refine drain_of_yields rfl ?_
  refine Step.yields_mono
    (yields_linkDown_goneFor hpatient rfl hup (filter_lastWords ..) htimed hmade) ?_
  intro _ after hgone
  exact drain_induction (fun _ _ _ h next => h.yields_errand hpatient next) after hgone

/-- A link in a transient state takes no notice of an alarm of the profile, and is still on time. -/
theorem OnTime.drain_session (h : OnTime patience since link) (hdown : link.state ≠ .connected)
    {own : τ} {others : Alarms (AlarmKind τ)}
    (hpop : link.alarms.popDue scene.now = some (.session own, others)) :
    drain scene ⟨{ link with alarms := others, queue := [.alarm (.session own)] }, []⟩ =
        ⟨{ link with alarms := others, queue := [] }, []⟩ ∧
      OnTime patience since { link with alarms := others, queue := [] } := by
  constructor
  · refine drain_of_yields (P := fun after => after = _) rfl ?_
    refine (yields_alarm_unheard ?_).2 (drain_of_queue_nil rfl)
    exact hdown
  · have htaken := (h.timed scene.now).popDue h.atRest.queue hpop
    have htimed := yields_handle_timed hpatient htaken rfl
    exact ((yields_alarm_unheard hdown).1 htimed).onTime rfl

/-- When every alarm that is due can be served, the one that bounds the state is among them. -/
theorem OnTime.givenUp_serveDue (hpositive : 0 < patience) (hlate : since + patience ≤ scene.now)
    {rounds : Nat} (h : OnTime patience since link) (hwaits : link.state.isStable = false)
    (hrounds : (link.alarms.dueAt scene.now).length ≤ rounds) :
    GivenUp link.state (lastWords scene.transport patience link.state)
      (serveDue scene rounds ⟨link, []⟩).log := by
  induction rounds generalizing link with
  | zero =>
      obtain ⟨⟨kind, others⟩, hpop⟩ := Option.ne_none_iff_exists'.1 (h.popDue_ne_none hwaits hlate)
      rw [← Alarms.length_dueAt_of_popDue hpop] at hrounds
      cases hrounds
  | succ rounds ih =>
      obtain ⟨⟨kind, others⟩, hpop⟩ := Option.ne_none_iff_exists'.1 (h.popDue_ne_none hwaits hlate)
      rw [← Alarms.length_dueAt_of_popDue hpop] at hrounds
      rw [serveDue]
      simp only [hpop, h.atRest.queue, List.nil_append]
      cases kind with
      | connect | disconnect =>
          have hgone := h.goneFor_of_popDue hpatient rfl hpop
          exact (hgone.serveDue hpatient hpositive rounds (queue_drain ..)).given
      | session own =>
          have hdown : link.state ≠ .connected := by
            intro hstate
            cases (congrArg LinkState.isStable hstate).symm.trans hwaits
          obtain ⟨hdrained, hnext⟩ := h.drain_session hpatient hdown hpop
          rw [hdrained]
          exact ih hnext hwaits (Nat.le_of_succ_le_succ hrounds)

/-- **A link that is woken when the patience has run out gives up, once.** -/
theorem OnTime.givenUp (h : OnTime patience since link) (hwaits : link.state.isStable = false)
    (hpositive : 0 < patience) (hlate : since + patience ≤ scene.now) :
    GivenUp link.state (lastWords scene.transport patience link.state)
      (link.respond (.wake scene)).2 :=
  OnTime.givenUp_serveDue hpatient hpositive hlate h hwaits (Nat.le_add_right ..)

end Woken

/-! ### Lives -/

variable [Outlined ρ]

/-- Throughout the life that begins here, no transient state outlasts the patience. -/
structure Limited (patience : Duration) (start : Link σ ρ τ) : Prop where
  /-- An impulse in which the link comes to be in another state is when it has entered it. -/
  entered : ∀ before impulse,
    (start.live (before ++ [impulse])).1.state ≠ (start.live before).1.state →
      start.enteredAt (before ++ [impulse]) = impulse.scene.now
  /-- A link that is connecting has its alarm armed, for the instant at which the patience runs out
  if it is counted from when the link began to connect. -/
  connecting : ∀ impulses, (start.live impulses).1.state = .connecting →
    (start.live impulses).1.alarms.deadlineOf .connect = some (start.enteredAt impulses + patience)
  /-- So has a link that is disconnecting. -/
  disconnecting : ∀ impulses, (start.live impulses).1.state = .disconnecting →
    (start.live impulses).1.alarms.deadlineOf .disconnect =
      some (start.enteredAt impulses + patience)
  /-- When it is woken then, or later, a link that is connecting gives up: it sends the device away,
  and announces that this took too long. -/
  connectExpired : ∀ impulses scene, (start.live impulses).1.state = .connecting →
    start.enteredAt impulses + patience ≤ scene.now →
    GivenUp .connecting [.call .disconnect (scene.transport [] .disconnect),
        .notice (.requestFailed (.timeout "connect" patience))]
      ((start.live impulses).1.respond (.wake scene)).2
  /-- A link that is disconnecting gives up too, but does neither. -/
  disconnectExpired : ∀ impulses scene, (start.live impulses).1.state = .disconnecting →
    start.enteredAt impulses + patience ≤ scene.now →
    GivenUp .disconnecting [] ((start.live impulses).1.respond (.wake scene)).2

/-- **The transient states of a link with a patient profile are limited**, if it has any patience at
all. -/
theorem limited_start (hpatient : Patient σ) (hreserved : Reserved σ) (peer : Address) {session : σ}
    (hsame : ProfileSession.patience session = patience) (hpositive : 0 < patience) :
    Limited patience (start peer session : Link σ ρ τ) := by
  subst hsame
  have honTime := onTime_live (ρ := ρ) hpatient peer session
  exact
    { entered := fun before impulse =>
        enteredAt_of_state_ne hreserved peer session before impulse
      connecting := fun impulses => (honTime impulses).connecting
      disconnecting := fun impulses => (honTime impulses).disconnecting
      connectExpired := fun impulses scene hstate hlate => by
        have hgiven := (honTime impulses).givenUp hpatient (by rw [hstate]; rfl) hpositive hlate
        rwa [hstate] at hgiven
      disconnectExpired := fun impulses scene hstate hlate => by
        have hgiven := (honTime impulses).givenUp hpatient (by rw [hstate]; rfl) hpositive hlate
        rwa [hstate] at hgiven }

end Link

end AudioLink
