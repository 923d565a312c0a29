/-
**How long a link waits.**

When a link begins to connect or to disconnect, it arms an alarm, and this alarm goes off when the
patience of the profile has run out.  Nothing that happens in the meantime puts it off or brings it
forward: as long as the link does not move to another state, its own alarms are left alone.  When it
does move, they are struck out, and armed anew from that moment on.

So all that matters is when a link has moved last.  Whoever sees what leaves the link knows it, as
every move is announced.

Main definitions:

* `AudioLink.moves`, `AudioLink.movedAt` — a move is announced, and when it was announced last;
* `AudioLink.Link.enteredAt` — when a link has come to be in the state it is in;
* `AudioLink.Patient` — a profile whose patience never changes;
* `AudioLink.Link.Punctual`, `AudioLink.Link.OnTime` — the alarms of a link go off when the patience
  has run out, in the middle of an impulse and between two.

Main results:

* `AudioLink.Link.yields_transition_punctual` — a link that moves arms its alarms anew;
* `AudioLink.Link.yields_handle_timed` — no errand puts off an alarm of the link;
* `AudioLink.Link.onTime_live` — **a link with a patient profile is on time after every impulse**;
* `AudioLink.Link.OnTime.connecting`, `AudioLink.Link.OnTime.disconnecting` — when the alarms of a
  link go off.
-/

import AudioLink.Proofs.Link.Chronicle
import AudioLink.Proofs.Link.Rest

set_option relaxedAutoImplicit false
set_option autoImplicit false

namespace AudioLink

/-! ### Moves -/

/-- Whether an effect announces that the link has moved to another state. -/
def moves : Effect → Bool
  | .notice (.linkChanged _ _) => true
  | .notice (.audioChanged ..) | .notice (.requestFailed _) | .notice (.report _) | .call _ _ =>
      false

theorem Effect.IsProfile.moves_eq_false {effect : Effect} (h : effect.IsProfile) :
    moves effect = false := by
  cases h with
  | command command accepted _ => rfl
  | report report => rfl

/-- When a link has moved last, if it had done so at `since` before `log` left it at `now`. -/
def movedAt (since now : Instant) (log : List Effect) : Instant :=
  if log.any moves then now else since

section MovedAt

variable {since now : Instant} {log : List Effect} {effect : Effect}

theorem movedAt_snoc (hstill : moves effect = false) :
    movedAt since now (log ++ [effect]) = movedAt since now log := by
  rw [movedAt, movedAt, List.any_append, List.any_cons, hstill, List.any_nil, Bool.or_false,
    Bool.or_false]

theorem movedAt_eq_now (hmoved : log.any moves = true) : movedAt since now log = now :=
  if_pos hmoved

/-- As long as no move is announced, the state is what was announced last. -/
theorem Told.link_after_append (past : List Effect) (hstill : log.any moves = false) :
    (Told.after (past ++ log)).link = (Told.after past).link := by
  induction log generalizing past with
  | nil => rw [List.append_nil]
  | cons effect log ih =>
      rw [List.any_cons, Bool.or_eq_false_iff] at hstill
      rw [List.append_cons, ih _ hstill.2, Told.after_snoc]
      cases effect with
      | call request accepted => rfl
      | notice notice =>
          cases notice with
          | linkChanged previous current => cases hstill.1
          | audioChanged | requestFailed | report => rfl

end MovedAt

/-! ### Patience -/

/-- A profile whose patience never changes, and that arms and lets out nothing but what is its
own. -/
structure Patient (σ : Type) {ρ τ : Type} [ProfileSession σ ρ τ] [DecidableEq τ] : Prop where
  sparing : Sparing σ
  discreet : Discreet σ
  consulted : ∀ patience : Duration, ProfileUpholds σ fun desk : Desk σ τ =>
    ProfileSession.patience desk.session = patience
  onLinkUp : ∀ capabilities (s : σ),
    ProfileSession.patience (ProfileSession.onLinkUp capabilities s).2 = ProfileSession.patience s

/-- At the desk of a profile: the patience is what it was, the alarms of the link go off when it has
run out, and the link has not moved since. -/
def KeepsTime {σ ρ τ : Type} [ProfileSession σ ρ τ] (patience : Duration)
    (since now moved : Instant) (desk : Desk σ τ) : Prop :=
  ProfileSession.patience desk.session = patience ∧ desk.alarms.OwnAt (moved + patience) ∧
    movedAt since now desk.log = moved

namespace Patient

variable {σ ρ τ : Type} [ProfileSession σ ρ τ] [DecidableEq τ] (h : Patient σ)

include h

/-- Whatever a patient profile does, the link is on time afterwards if it was. -/
theorem keepsTime (patience : Duration) (since now moved : Instant) :
    ProfileUpholds σ (KeepsTime (τ := τ) patience since now moved) := by
  refine (h.consulted patience).and (.and ?_ ?_)
  · exact h.sparing (·.OwnAt (moved + patience)) (fun _ kind other hown =>
      hown.schedule_session kind other) fun _ kind hown => hown.cancel (.session kind)
  · refine h.discreet (fun log => movedAt since now log = moved) ?_
    intro log effect hprofile hmoved
    rw [movedAt_snoc hprofile.moves_eq_false]
    exact hmoved

theorem lasting (patience : Duration) :
    Link.Lasting (ρ := ρ) (τ := τ) fun (s : σ) _ => ProfileSession.patience s = patience where
  asked _ _ _ _ _ hs := hs
  linkChanged _ _ _ _ hs := hs
  audioChanged _ _ _ _ _ hs := hs
  failed _ _ _ hs := hs
  onLinkUp s _ capabilities hs := (h.onLinkUp capabilities s).trans hs
  consulted := h.consulted patience

end Patient

namespace Link

variable {σ ρ τ : Type}

/-- When a link has come to be in the state it is in, in the course of a life: the instant of the
last impulse in which it has moved. -/
def enteredAt [ProfileSession σ ρ τ] [DecidableEq τ] [Outlined ρ] (link : Link σ ρ τ)
    (impulses : List (Impulse ρ)) : Instant :=
  link.keep (fun _ impulse log since => movedAt since impulse.scene.now log) impulses 0

/-- An impulse in which a link moves is when it has entered the state it is in then. -/
theorem enteredAt_snoc [ProfileSession σ ρ τ] [DecidableEq τ] [Outlined ρ] (link : Link σ ρ τ)
    (before : List (Impulse ρ)) (impulse : Impulse ρ) :
    link.enteredAt (before ++ [impulse]) =
      movedAt (link.enteredAt before) impulse.scene.now
        ((link.live before).1.respond impulse).2 :=
  keep_snoc ..

/-- In the middle of an impulse at `now`, the alarms of the link go off when the patience has run
out, counted from its last move. -/
structure Punctual [ProfileSession σ ρ τ] (patience : Duration) (since now : Instant)
    (progress : Progress σ ρ τ) : Prop where
  same : ProfileSession.patience progress.link.session = patience
  deadline : progress.link.alarms.OwnAt (movedAt since now progress.log + patience)

variable [ProfileSession σ ρ τ] {patience : Duration} {since : Instant} {scene : Scene}
  {progress : Progress σ ρ τ}

/-- What leaves the link next is no move. -/
theorem Punctual.snoc {now : Instant} (h : Punctual patience since now progress) {effect : Effect}
    (hstill : moves effect = false) :
    Punctual patience since now { progress with log := progress.log ++ [effect] } where
  same := h.same
  deadline := by
    rw [movedAt_snoc hstill]
    exact h.deadline

/-! ### Moves of a link -/

section Steps

variable [DecidableEq τ] (hpatient : Patient σ)

omit [DecidableEq τ] in
/-- What keeps time at the desk of the profile keeps the link punctual. -/
theorem yields_consult_punctual {α : Type} {work : Work σ τ α} {now : Instant}
    (hwork : ∀ moved, Work.Upholds (KeepsTime patience since now moved) work)
    (h : Punctual patience since now progress) :
    (Step.consult work : Step σ ρ τ α).Yields scene progress fun _ after =>
      Punctual patience since now after := by
  rw [Step.yields_consult]
  have hdesk : KeepsTime patience since now (movedAt since now progress.log)
      (Step.desk progress) :=
    ⟨h.same, h.deadline, rfl⟩
  refine Work.yields_mono (hwork _ _ _ hdesk) ?_
  rintro _ desk ⟨hpatience, hdeadline, hmoved⟩
  exact ⟨hpatience, hmoved.symm ▸ hdeadline⟩

include hpatient

/-- With the alarms struck out, entering a state arms at most the alarm that bounds it. -/
theorem yields_enter_ownAt {next : LinkState} (hcleared : Cleared progress.link)
    (hstate : progress.link.state = next)
    (hsame : ProfileSession.patience progress.link.session = patience)
    (hmoved : progress.log.any moves = true) :
    (do
      enter next
      if next.isStable then replayDeferred
      : Step σ ρ τ Unit).Yields scene progress fun _ after =>
        after.link.alarms.OwnAt (movedAt since scene.now after.log + patience) := by
  rw [Step.yields_bind]
  cases hstable : next.isStable with
  | true =>
      -- nothing is armed for a stable state
      have hentered : (enter next : Step σ ρ τ Unit).Yields scene progress fun _ entered =>
          Cleared entered.link ∧ entered.link.state = next :=
        yields_enter_stable hpatient.sparing.careful hstable hcleared hstate
      refine Step.yields_mono hentered ?_
      rintro _ entered ⟨hentered, -⟩
      rw [if_pos rfl, replayDeferred, Step.yields_change]
      exact .of_unarmed hentered.connect hentered.disconnect _
  | false =>
      have hunarmed : progress.link.alarms.OwnAt (scene.now + patience) :=
        .of_unarmed hcleared.connect hcleared.disconnect _
      cases next with
      | disconnected | connected => cases hstable
      | connecting | disconnecting =>
          rw [enter, bound, Step.yields_bind, Step.yields_read, Step.yields_change,
            if_neg Bool.false_ne_true, Step.yields_pure, movedAt_eq_now hmoved, hsame]
          exact hunarmed.schedule _

/-- **A link that moves arms its alarms anew**: what was armed for the state it leaves is struck
out, and what is armed for the next one goes off when the patience has run out. -/
theorem yields_transition_punctual {next : LinkState} (hconsistent : Consistent progress.link)
    (h : Punctual patience since scene.now progress) :
    (transition next : Step σ ρ τ Unit).Yields scene progress fun _ after =>
      Punctual patience since scene.now after := by
  by_cases hsame : progress.link.state = next
  · rw [yields_transition_of_eq hsame]
    exact h
  · have hkept := hpatient.lasting (ρ := ρ) patience
    have hrearmed : (transition next : Step σ ρ τ Unit).Yields scene progress fun _ after =>
        after.link.alarms.OwnAt (movedAt since scene.now after.log + patience) := by
      rw [yields_transition_of_ne hsame]
      have hleft : (leave progress.link.state : Step σ ρ τ Unit).Yields scene progress
          fun _ left => Cleared left.link ∧ ProfileSession.patience left.link.session = patience :=
        Step.yields_and.2 ⟨yields_leave_cleared hpatient.sparing.careful hconsistent,
          hkept.calm.upholds_leave _ scene progress h.same⟩
      refine Step.yields_mono hleft ?_
      rintro _ left ⟨hcleared, hpatience⟩
      have hturned : Cleared { left.link with state := next } := { hcleared with }
      exact yields_enter_ownAt hpatient hturned rfl hpatience (any_snoc_iff.2 (.inr rfl))
    refine Step.yields_mono (Step.yields_and.2
      ⟨hkept.upholds_transition next scene progress h.same, hrearmed⟩) ?_
    rintro _ after ⟨hpatience, hdeadline⟩
    exact ⟨hpatience, hdeadline⟩

theorem yields_setAudio_punctual (audio : AudioState) (wideband : Bool)
    (h : Punctual patience since scene.now progress) :
    (setAudio audio wideband : Step σ ρ τ Unit).Yields scene progress fun _ after =>
      Punctual patience since scene.now after := by
  rw [setAudio, Step.yields_bind, Step.yields_link, Step.yields_bind, Step.yields_change,
    Step.yields_bind, Step.yields_announce]
  refine yields_consult_punctual (fun moved => ?_) ?_
  · exact (hpatient.keepsTime patience since scene.now moved).onAudioChanged _ _ _
  · have hheard : Punctual patience since scene.now ⟨{ progress.link with
        audio := audio, wideband := audio == .on && wideband }, progress.log⟩ :=
      ⟨h.same, h.deadline⟩
    exact hheard.snoc rfl

/-! ### Errands -/

variable [Outlined ρ]

/-- Whatever a message brings about, the alarms of the link go off in time. -/
theorem conduct_punctual (message : Message ρ) :
    Conduct scene message
      (fun progress : Progress σ ρ τ => Consistent progress.link ∧
        Punctual patience since scene.now progress)
      (fun progress => Consistent progress.link ∧ Punctual patience since scene.now progress)
      (Punctual patience since scene.now) where
  introduce progress capabilities _ h := by
    refine ⟨h.1.of_alike ⟨rfl, rfl, rfl, rfl, .refl _⟩, ?_, h.2.deadline⟩
    exact (hpatient.onLinkUp capabilities progress.link.session).trans h.2.same
  ask request progress _ h := ⟨h.1, h.2.snoc rfl⟩
  unasked _ h := h
  rise _ _ _ _ h := yields_transition_punctual hpatient h.1 h.2
  transition _ _ _ h := yields_transition_punctual hpatient h.1 h.2
  setAudio audio wideband _ _ _ h := yields_setAudio_punctual hpatient audio wideband h.2
  defer _ _ _ h := ⟨h.2.same, h.2.deadline⟩
  stay _ h := h.2
  request request _ _ _ h := yields_consult_punctual (fun moved =>
    (hpatient.keepsTime patience since scene.now moved).onRequest request) h.2
  event event _ _ _ h := yields_consult_punctual (fun moved =>
    (hpatient.keepsTime patience since scene.now moved).onEvent event) h.2

theorem yields_handle_punctual (errand : Errand ρ τ) (hconsistent : Consistent progress.link)
    (h : Punctual patience since scene.now progress) :
    (handle errand : Step σ ρ τ Unit).Yields scene progress fun _ after =>
      Punctual patience since scene.now after := by
  refine yields_handle ?_ fun _ _ h => h.snoc rfl
  cases errand with
  | message message =>
      exact (conduct_punctual hpatient message).yields_onMessage ⟨hconsistent, h⟩
  | alarm kind =>
      refine yields_onAlarm h (fun _ _ => ?_) (fun _ _ => ⟨h.same, h.deadline⟩) fun own _ _ => ?_
      · have hasked (accepted : Bool) : Punctual patience since scene.now
            { progress with log := progress.log ++ [.call .disconnect accepted] } :=
          h.snoc rfl
        exact ⟨(hasked _).same, (hasked _).deadline⟩
      · exact yields_consult_punctual (fun moved =>
          (hpatient.keepsTime patience since scene.now moved).onAlarm own) h

omit hpatient in
/-- What holds between two errands of an impulse at `now`. -/
def Timed (patience : Duration) (since now : Instant) (progress : Progress σ ρ τ) : Prop :=
  Sound progress.link ∧ Punctual patience since now progress

/-- **No errand puts off an alarm of the link**, unless the link moves. -/
theorem yields_handle_timed {errand : Errand ρ τ} {rest : List (Errand ρ τ)}
    (h : Timed patience since scene.now progress) (hqueue : progress.link.queue = errand :: rest) :
    (handle errand : Step σ ρ τ Unit).Yields scene
      ⟨{ progress.link with queue := rest }, progress.log⟩ fun _ after =>
        Timed patience since scene.now after := by
  obtain ⟨hsound, hpunctual⟩ := h
  refine Step.yields_and.2 ⟨yields_handle_sound hpatient.sparing.careful hsound hqueue, ?_⟩
  refine yields_handle_punctual hpatient errand (hsound.toConsistent.requeue rest) ?_
  exact ⟨hpunctual.same, hpunctual.deadline⟩

end Steps

/-! ### Lives -/

/-- Between two impulses: the parts of the link agree, and its alarms go off when the patience has
run out, counted from `since`. -/
structure OnTime [DecidableEq τ] (patience : Duration) (since : Instant) (link : Link σ ρ τ) :
    Prop where
  atRest : AtRest link
  same : ProfileSession.patience link.session = patience
  deadline : link.alarms.OwnAt (since + patience)

section Lives

variable [DecidableEq τ] {link : Link σ ρ τ}

theorem onTime_start (peer : Address) (session : σ) (since : Instant) :
    OnTime (ProfileSession.patience session) since (start peer session : Link σ ρ τ) where
  atRest := (bounded_start peer session).atRest rfl
  same := rfl
  deadline := nofun

theorem OnTime.timed (h : OnTime patience since link) (now : Instant) :
    Timed patience since now ⟨link, []⟩ :=
  ⟨h.atRest.bounded.sound, h.same, h.deadline⟩

/-- When the queue is worked off, the link is on time. -/
theorem Timed.onTime {now : Instant} (h : Timed patience since now progress)
    (hqueue : progress.link.queue = []) :
    OnTime patience (movedAt since now progress.log) progress.link where
  atRest := (h.1.bounded_of_queue_nil hqueue).atRest hqueue
  same := h.2.same
  deadline := h.2.deadline

/-- An alarm that goes off is taken out, and the others go off when they did. -/
theorem Timed.popDue {now instant : Instant} (h : Timed patience since now progress)
    (hqueue : progress.link.queue = []) {kind : AlarmKind τ} {others : Alarms (AlarmKind τ)}
    (hpop : progress.link.alarms.popDue instant = some (kind, others)) :
    Timed patience since now
      ⟨{ progress.link with alarms := others, queue := [.alarm kind] }, progress.log⟩ :=
  ⟨(h.1.bounded_of_queue_nil hqueue).sound_of_popDue hpop, h.2.same, h.2.deadline.popDue hpop⟩

/-- When a link that is connecting gives up. -/
theorem OnTime.connecting (h : OnTime patience since link) (hstate : link.state = .connecting) :
    link.alarms.deadlineOf .connect = some (since + patience) :=
  h.deadline.deadlineOf_eq rfl (h.atRest.connect.2 hstate)

/-- When a link that is disconnecting gives up. -/
theorem OnTime.disconnecting (h : OnTime patience since link)
    (hstate : link.state = .disconnecting) :
    link.alarms.deadlineOf .disconnect = some (since + patience) :=
  h.deadline.deadlineOf_eq rfl (h.atRest.disconnect.2 hstate)

variable [Outlined ρ]

/-- A link that is on time is so at every moment of the next impulse, if its profile is patient. -/
theorem OnTime.timed_moment (hpatient : Patient σ) (h : OnTime patience since link)
    {impulse : Impulse ρ} (hmoment : Moment link impulse progress) :
    Timed patience since impulse.scene.now progress := by
  induction hmoment with
  | handed scene message =>
      exact ⟨(h.atRest.bounded.requeue _).sound, h.same, h.deadline⟩
  | woken scene => exact h.timed scene.now
  | alarm _ idle due ih => exact ih.popDue idle due
  | errand _ next ih => exact yields_handle_timed hpatient ih next

/-- The next impulse leaves the link on time, if its profile is patient. -/
theorem OnTime.respond (hpatient : Patient σ) (h : OnTime patience since link)
    (impulse : Impulse ρ) :
    OnTime patience (movedAt since impulse.scene.now (link.respond impulse).2)
      (link.respond impulse).1 := by
  have hlast := moment_respond h.atRest.queue impulse
  exact (h.timed_moment hpatient hlast).onTime (queue_respond h.atRest.queue impulse)

/-- **A link with a patient profile is on time after every impulse**, whatever the impulses were. -/
theorem onTime_live (hpatient : Patient σ) (peer : Address) (session : σ)
    (impulses : List (Impulse ρ)) :
    OnTime (ProfileSession.patience session)
      ((start peer session : Link σ ρ τ).enteredAt impulses)
      ((start peer session).live impulses).1 := by
  refine keep_induction (P := fun link since => OnTime _ since link) ?_
    (onTime_start peer session 0) impulses
  exact fun _ impulse _ h => h.respond hpatient impulse

/-- **The impulse in which a link comes to be in another state is when it has entered it.** -/
theorem enteredAt_of_state_ne (hreserved : Reserved σ) (peer : Address) (session : σ)
    (before : List (Impulse ρ)) (impulse : Impulse ρ)
    (hmoved : ((start peer session : Link σ ρ τ).live (before ++ [impulse])).1.state ≠
      ((start peer session : Link σ ρ τ).live before).1.state) :
    (start peer session : Link σ ρ τ).enteredAt (before ++ [impulse]) = impulse.scene.now := by
  have hpast := chronicle_live (ρ := ρ) hreserved peer session before
  have hnow := chronicle_live (ρ := ρ) hreserved peer session (before ++ [impulse])
  rw [live_snoc] at hnow hmoved
  rw [enteredAt_snoc]
  refine movedAt_eq_now ?_
  rw [← Bool.not_eq_false]
  intro hstill
  have hkept := Told.link_after_append ((start peer session : Link σ ρ τ).live before).2 hstill
  rw [hnow.after, hpast.after] at hkept
  exact hmoved hkept

end Lives

end Link

end AudioLink
