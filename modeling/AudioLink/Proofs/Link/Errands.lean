/-
**The errands a link makes for itself.**

Between two impulses the queue is empty.  What a link finds there while it makes something of an
impulse, it has put there itself: requests to connect that were deferred, the report that the link
is down once an alarm has gone off, and the wish of the profile that the audio be dropped.  So
whatever comes from outside — an answer, a report, a request of the user — is the first thing that
is handled after an impulse, and is handled at once.

Main definitions:

* `AudioLink.Link.Incidental` — the errands a link makes for itself;
* `AudioLink.Link.SelfMade` — there is nothing else in the queue, and nothing but requests to
  connect is deferred;
* `AudioLink.Link.Between` — a link between two impulses.

Main results:

* `AudioLink.Link.between_live` — nothing but requests to connect is ever deferred;
* `AudioLink.Link.respond_hand_own`, `AudioLink.Link.respond_wake_own` — **what the message or the
  alarms bring about and the errands of the link itself keep, an impulse keeps**;
* `AudioLink.Link.Unmoved.respond`, `AudioLink.Link.Mending.respond` — **what the link does not spoil
  survives every impulse that brings the profile nothing that does**, and what the profile makes up
  for survives any impulse but an answer;
* `AudioLink.Link.respond_event`, `AudioLink.Link.respond_request` — what the profile makes of an
  event or of a request is what the link makes of it.
-/

import AudioLink.Proofs.Link.Lasting

set_option relaxedAutoImplicit false
set_option autoImplicit false

namespace AudioLink

namespace Link

variable {σ ρ τ : Type}

/-- The errands that a link makes for itself. -/
inductive Incidental : Errand ρ τ → Prop
  | connect : Incidental (.message .connect)
  | linkDown : Incidental (.message (.event .linkDown))
  | dropAudio : Incidental (.message .disconnectAudio)

/-- What a link makes for itself is no answer. -/
theorem Incidental.ne_answer {errand : Errand ρ τ} (hown : Incidental errand) (outcome : Outcome)
    (code : Option Nat) : errand ≠ .message (.event (.commandResult outcome code)) := by
  cases hown <;> nofun

/-- Whatever a link still has to do, it has made for itself. -/
structure SelfMade (progress : Progress σ ρ τ) : Prop where
  queue : ∀ errand ∈ progress.link.queue, Incidental errand
  deferred : ∀ message ∈ progress.link.deferred, message = .connect

/-- A link between two impulses: there is nothing to do, and nothing waits but requests to
connect. -/
structure Between (link : Link σ ρ τ) : Prop where
  queue : link.queue = []
  deferred : ∀ message ∈ link.deferred, message = .connect

theorem between_start (peer : Address) (session : σ) :
    Between (start peer session : Link σ ρ τ) :=
  ⟨rfl, nofun⟩

theorem Between.selfMade {link : Link σ ρ τ} (h : Between link) (log : List Effect) :
    SelfMade ⟨link, log⟩ := by
  refine ⟨?_, h.deferred⟩
  rw [h.queue]
  nofun

/-- The first errand of a queue that the link made for itself is one of its own, and so are the
others. -/
theorem SelfMade.of_cons {progress : Progress σ ρ τ} {errand : Errand ρ τ}
    {rest : List (Errand ρ τ)} (h : SelfMade progress)
    (hcons : progress.link.queue = errand :: rest) :
    Incidental errand ∧ SelfMade ⟨{ progress.link with queue := rest }, progress.log⟩ := by
  refine ⟨h.queue errand ?_, fun other hother => h.queue other ?_, h.deferred⟩
  · rw [hcons]
    exact List.mem_cons_self ..
  · rw [hcons]
    exact List.mem_cons_of_mem _ hother

/-! ### Steps -/

section Steps

/-- A change of other things is of no matter, and what was deferred may be dropped. -/
theorem selfMade_change {f : Link σ ρ τ → Link σ ρ τ} (hqueue : ∀ link, (f link).queue = link.queue)
    (hdeferred : ∀ link, (f link).deferred ⊆ link.deferred) :
    Step.Upholds SelfMade (Step.change f) := by
  intro scene progress h
  rw [Step.yields_change]
  refine ⟨?_, fun message hmessage => h.deferred message (hdeferred _ hmessage)⟩
  rw [hqueue]
  exact h.queue

/-- Whatever a profile does at its desk, all that it adds to the queue is that the audio be
dropped. -/
theorem selfMade_consult {α : Type} (work : Work σ τ α) :
    Step.Upholds SelfMade (Step.consult work : Step σ ρ τ α) := by
  intro scene progress h
  rw [Step.yields_consult]
  refine ⟨fun errand herrand => ?_, h.deferred⟩
  rcases List.mem_append.1 herrand with herrand | herrand
  · exact h.queue errand herrand
  · rw [(List.mem_replicate.1 herrand).2]
    exact .dropAudio

variable [ProfileSession σ ρ τ]

theorem selfMade_setAudio (audio : AudioState) (wideband : Bool) :
    Step.Upholds SelfMade (setAudio audio wideband : Step σ ρ τ Unit) := by
  refine .bind .link fun link => .bind ?_ fun _ => ?_
  · exact selfMade_change (fun _ => rfl) fun _ => List.Subset.refl _
  · exact .bind (fun _ _ h => ⟨h.queue, h.deferred⟩) fun _ => selfMade_consult _

theorem selfMade_silence : Step.Upholds SelfMade (silence : Step σ ρ τ Unit) :=
  .bind .link fun _ => .ite (fun _ => selfMade_setAudio _ _) fun _ => .pure _

variable [DecidableEq τ]

theorem selfMade_leave (state : LinkState) :
    Step.Upholds SelfMade (leave state : Step σ ρ τ Unit) := by
  cases state with
  | disconnected => exact .pure _
  | connecting => exact selfMade_change (fun _ => rfl) fun _ => List.Subset.refl _
  | connected =>
      refine .bind selfMade_silence fun _ => ?_
      exact selfMade_change (fun _ => rfl) fun _ => List.Subset.refl _
  | disconnecting => exact selfMade_change (fun _ => rfl) fun _ => List.Subset.refl _

theorem selfMade_bound (kind : AlarmKind τ) :
    Step.Upholds SelfMade (bound kind : Step σ ρ τ Unit) :=
  .bind .read fun _ => selfMade_change (fun _ => rfl) fun _ => List.Subset.refl _

theorem selfMade_enter (state : LinkState) :
    Step.Upholds SelfMade (enter state : Step σ ρ τ Unit) := by
  cases state with
  | disconnected => exact selfMade_consult _
  | connecting => exact selfMade_bound _
  | connected =>
      refine .bind ?_ fun _ => .bind selfMade_silence fun _ => selfMade_consult _
      exact selfMade_change (fun _ => rfl) fun _ => List.filter_sublist.subset
  | disconnecting => exact selfMade_bound _

omit [ProfileSession σ ρ τ] [DecidableEq τ] in
/-- Nothing but requests to connect is taken up again. -/
theorem selfMade_replayDeferred : Step.Upholds SelfMade (replayDeferred : Step σ ρ τ Unit) := by
  intro scene progress h
  rw [replayDeferred, Step.yields_change]
  refine ⟨fun errand herrand => ?_, nofun⟩
  rcases List.mem_append.1 herrand with herrand | herrand
  · obtain ⟨message, hmessage, rfl⟩ := List.mem_map.1 herrand
    rw [h.deferred message hmessage]
    exact .connect
  · exact h.queue errand herrand

theorem selfMade_transition (next : LinkState) :
    Step.Upholds SelfMade (transition next : Step σ ρ τ Unit) := by
  refine .bind .link fun link => .ite (fun _ => ?_) fun _ => .pure _
  refine .bind (selfMade_leave _) fun _ => .bind ?_ fun _ => ?_
  · exact selfMade_change (fun _ => rfl) fun _ => List.Subset.refl _
  · refine .bind (fun _ _ h => ⟨h.queue, h.deferred⟩) fun _ => .bind (selfMade_enter _) fun _ => ?_
    exact .ite (fun _ => selfMade_replayDeferred) fun _ => .pure _

theorem moves_selfMade : Moves (SelfMade : Progress σ ρ τ → Prop) where
  ask _ _ := fun _ _ h => ⟨h.queue, h.deferred⟩
  transition := selfMade_transition
  setAudio audio wideband scene progress _ h := selfMade_setAudio audio wideband scene progress h
  defer progress _ h := by
    refine ⟨h.queue, fun message hmessage => ?_⟩
    rcases List.mem_append.1 hmessage with hmessage | hmessage
    · exact h.deferred message hmessage
    · exact List.mem_singleton.1 hmessage
  introduce _ _ h := ⟨h.queue, h.deferred⟩

/-- Whatever the errand, the queue is made by the link itself afterwards. -/
theorem selfMade_handle [Outlined ρ] (errand : Errand ρ τ) :
    Step.Upholds SelfMade (handle errand : Step σ ρ τ Unit) := by
  intro scene progress h
  refine yields_handle ?_ fun after fault h => ⟨h.queue, h.deferred⟩
  cases errand with
  | message message =>
      exact moves_selfMade.upholds_onMessage (fun _ _ => selfMade_consult _)
        (fun _ _ => selfMade_consult _) scene progress h
  | alarm kind =>
      have hgiveUp : Step.Upholds SelfMade (giveUp : Step σ ρ τ Unit) := by
        intro scene progress h
        refine ⟨fun errand herrand => ?_, h.deferred⟩
        rcases List.mem_cons.1 herrand with rfl | herrand
        · exact .linkDown
        · exact h.queue errand herrand
      exact upholds_onAlarm moves_selfMade.upholds_refuse hgiveUp (fun _ => selfMade_consult _) kind
        scene progress h

end Steps

/-! ### Impulses -/

section Impulses

variable [ProfileSession σ ρ τ] [DecidableEq τ] [Outlined ρ] {P : Progress σ ρ τ → Prop}
  {scene : Scene} {link : Link σ ρ τ}

/-- A message is handed to a link: what handling it brings about and the errands of the link itself
keep holds afterwards. -/
theorem respond_hand_own {message : Message ρ} (hlink : Between link)
    (first : (handle (.message message) : Step σ ρ τ Unit).Yields scene ⟨link, []⟩
      fun _ after => P after)
    (own : ∀ progress errand rest, P progress → progress.link.queue = errand :: rest →
      Incidental errand → (handle errand : Step σ ρ τ Unit).Yields scene
        ⟨{ progress.link with queue := rest }, progress.log⟩ fun _ after => P after) :
    P ⟨(link.respond (.hand scene message)).1, (link.respond (.hand scene message)).2⟩ := by
  refine (respond_hand (P := fun after => P after ∧ SelfMade after) hlink.queue ?_ ?_).1
  · exact ⟨first, selfMade_handle (.message message) scene _ (hlink.selfMade [])⟩
  · rintro progress errand rest ⟨hP, hmade⟩ hcons
    obtain ⟨hown, hrest⟩ := hmade.of_cons hcons
    exact ⟨own progress errand rest hP hcons hown, selfMade_handle errand scene _ hrest⟩

/-- A link is woken: what serving an alarm brings about and the errands of the link itself keep
holds afterwards. -/
theorem respond_wake_own (hlink : Between link) (begun : P ⟨link, []⟩)
    (alarm : ∀ progress kind others, P progress → progress.link.queue = [] →
      progress.link.alarms.popDue scene.now = some (kind, others) →
      (handle (.alarm kind) : Step σ ρ τ Unit).Yields scene
        ⟨{ progress.link with alarms := others, queue := [] }, progress.log⟩ fun _ after => P after)
    (own : ∀ progress errand rest, P progress → progress.link.queue = errand :: rest →
      Incidental errand → (handle errand : Step σ ρ τ Unit).Yields scene
        ⟨{ progress.link with queue := rest }, progress.log⟩ fun _ after => P after) :
    P ⟨(link.respond (.wake scene)).1, (link.respond (.wake scene)).2⟩ := by
  refine (respond_wake_served (P := fun after => P after ∧ SelfMade after) hlink.queue ?_ ?_ ?_).1
  · exact ⟨begun, hlink.selfMade []⟩
  · rintro progress kind others ⟨hP, hmade⟩ hempty hpop
    refine ⟨alarm progress kind others hP hempty hpop, ?_⟩
    exact selfMade_handle (.alarm kind) scene _ ⟨nofun, hmade.deferred⟩
  · rintro progress errand rest ⟨hP, hmade⟩ hcons
    obtain ⟨hown, hrest⟩ := hmade.of_cons hcons
    exact ⟨own progress errand rest hP hcons hown, selfMade_handle errand scene _ hrest⟩

/-- What is for the profile is shown to it at once.  If the profile does not ask for the audio to be
dropped, there is nothing else to do: what its work brings about, and what the user is told of its
verdict, is all. -/
theorem respond_consulted {message : Message ρ} {work : Work σ τ Verdict} (queue : link.queue = [])
    (shown : (onErrand (.message message) : Step σ ρ τ Verdict).Yields scene ⟨link, []⟩
        (fun verdict after => P ⟨after.link, after.log ++ verdict.told⟩ ∧ after.link.queue = []) ↔
      (Step.consult work).Yields scene ⟨link, []⟩ fun verdict after =>
        P ⟨after.link, after.log ++ verdict.told⟩ ∧ after.link.queue = [])
    (hwork : work.Yields (Step.view scene link) (Step.desk ⟨link, []⟩) fun verdict desk =>
      desk.drops = 0 ∧ P ⟨Step.settle link desk, desk.log ++ verdict.told⟩) :
    P ⟨(link.respond (.hand scene message)).1, (link.respond (.hand scene message)).2⟩ := by
  refine (respond_hand (P := fun after => P after ∧ after.link.queue = []) queue ?_ ?_).1
  · rw [yields_handle_iff, shown, Step.yields_consult]
    refine Work.yields_mono hwork ?_
    rintro verdict desk ⟨hdrops, hP⟩
    refine ⟨hP, ?_⟩
    show link.queue ++ List.replicate desk.drops (.message .disconnectAudio) = []
    rw [queue, hdrops]
    rfl
  · rintro progress errand rest ⟨-, hempty⟩ hcons
    cases hempty.symm.trans hcons

/-- An event is shown to the profile, as long as there is a link at all. -/
theorem respond_event_told {event : Event} (queue : link.queue = [])
    (hup : link.state ≠ .disconnected) (hforeign : event.isForProfile = true)
    (work : (ProfileSession.onEvent event : Work σ τ Verdict).Yields (Step.view scene link)
      (Step.desk ⟨link, []⟩) fun verdict desk =>
        desk.drops = 0 ∧ P ⟨Step.settle link desk, desk.log ++ verdict.told⟩) :
    P ⟨(link.respond (.hand scene (.event event))).1,
      (link.respond (.hand scene (.event event))).2⟩ :=
  respond_consulted queue (yields_onErrand_event hup hforeign) work

/-- A request is shown to the profile, as long as the link is connected. -/
theorem respond_request {request : ρ} (queue : link.queue = [])
    (hconnected : link.state = .connected)
    (work : (ProfileSession.onRequest request : Work σ τ Verdict).Yields (Step.view scene link)
      (Step.desk ⟨link, []⟩) fun verdict desk =>
        desk.drops = 0 ∧ P ⟨Step.settle link desk, desk.log ++ verdict.told⟩) :
    P ⟨(link.respond (.hand scene (.request request))).1,
      (link.respond (.hand scene (.request request))).2⟩ :=
  respond_consulted queue (yields_onErrand_request hconnected) work

/-- A request is refused, as long as the link is not connected. -/
theorem respond_request_unheard {request : ρ} (queue : link.queue = [])
    (hdown : link.state ≠ .connected) :
    link.respond (.hand scene (.request request)) =
      (link, [.notice (.requestFailed (.invalidState (describe request ++
        " needs a connected peer, state is " ++ Named.name link.state)))]) := by
  refine respond_hand_eq queue queue ?_
  rw [yields_handle_iff, yields_onErrand_request_unheard hdown]
  rfl

/-- A link that is disconnected passes over what is for the profile. -/
theorem respond_event_unheard {event : Event} (queue : link.queue = [])
    (hdown : link.state = .disconnected) (hforeign : event.isForProfile = true) :
    link.respond (.hand scene (.event event)) = (link, []) := by
  refine respond_hand_eq queue queue ?_
  rw [yields_handle_iff, yields_onErrand_event_unheard hdown hforeign]
  rfl

/-- What the work of the profile on an event brings about, and no fault spoils, holds
afterwards. -/
theorem respond_event {event : Event} (queue : link.queue = []) (hup : link.state ≠ .disconnected)
    (hforeign : event.isForProfile = true)
    (work : (ProfileSession.onEvent event : Work σ τ Verdict).Yields (Step.view scene link)
      (Step.desk ⟨link, []⟩) fun _ desk => desk.drops = 0 ∧ P ⟨Step.settle link desk, desk.log⟩)
    (told : ∀ after fault, P after →
      P { after with log := after.log ++ [.notice (.requestFailed fault)] }) :
    P ⟨(link.respond (.hand scene (.event event))).1,
      (link.respond (.hand scene (.event event))).2⟩ := by
  refine respond_event_told queue hup hforeign (Work.yields_mono work ?_)
  rintro verdict desk ⟨hdrops, hP⟩
  exact ⟨hdrops, verdict.of_told (P := fun log => P ⟨Step.settle link desk, log⟩) hP
    fun fault _ => told _ fault hP⟩

theorem between_respond (hlink : Between link) (impulse : Impulse ρ) :
    Between (link.respond impulse).1 := by
  refine ⟨queue_respond hlink.queue impulse, ?_⟩
  have hmade : SelfMade ⟨(link.respond impulse).1, (link.respond impulse).2⟩ := by
    cases impulse with
    | hand scene message =>
        refine respond_hand hlink.queue ?_ ?_
        · exact selfMade_handle (.message message) scene _ (hlink.selfMade [])
        · rintro progress errand rest hmade hcons
          exact selfMade_handle errand scene _ (hmade.of_cons hcons).2
    | wake scene =>
        refine respond_wake_served hlink.queue (hlink.selfMade []) ?_ ?_
        · rintro progress kind others hmade - -
          exact selfMade_handle (.alarm kind) scene _ ⟨nofun, hmade.deferred⟩
        · rintro progress errand rest hmade hcons
          exact selfMade_handle errand scene _ (hmade.of_cons hcons).2
  exact hmade.deferred

/-- A link that begins with nothing to do is found like that between any two impulses. -/
theorem between_live (hlink : Between link) (impulses : List (Impulse ρ)) :
    Between (link.live impulses).1 :=
  live_induction (P := fun link _ => Between link) hlink
    (fun _ _ impulse h => between_respond h impulse) impulses

/-! ### Unmoved properties -/

/-- **An unmoved property survives any impulse that brings the profile nothing that spoils it**, if
telling a fault and the alarms of the profile do not spoil it. -/
theorem Unmoved.respond {J : σ → List Effect → Prop} (h : Unmoved (ρ := ρ) (τ := τ) J)
    (hfailed : ∀ s log fault, J s log → J s (log ++ [.notice (.requestFailed fault)]))
    (halarm : ∀ kind, Work.Upholds (fun desk : Desk σ τ => J desk.session desk.log)
      (ProfileSession.onAlarm kind))
    (hdown : Work.Upholds (fun desk : Desk σ τ => J desk.session desk.log)
      (ProfileSession.onEvent .linkDown))
    (hlink : Between link) (impulse : Impulse ρ)
    (hrequest : ∀ scene request, impulse = .hand scene (.request request) →
      Work.Upholds (fun desk : Desk σ τ => J desk.session desk.log)
        (ProfileSession.onRequest request))
    (hevent : ∀ scene event, impulse = .hand scene (.event event) →
      Work.Upholds (fun desk : Desk σ τ => J desk.session desk.log) (ProfileSession.onEvent event))
    (hJ : J link.session []) :
    J (link.respond impulse).1.session (link.respond impulse).2 := by
  -- of what a link gives itself to do, only that it is down reaches the profile
  have hown : ∀ errand : Errand ρ τ, Incidental errand →
      Step.Upholds (AtLink J) (handle errand : Step σ ρ τ Unit) := by
    intro errand own
    refine h.upholds_handle hfailed (fun request heq => ?_) (fun event heq => ?_) halarm
    · subst heq
      cases own
    · subst heq
      cases own with
      | linkDown => exact hdown
  cases impulse with
  | hand scene message =>
      have hfirst : Step.Upholds (AtLink J) (handle (.message message) : Step σ ρ τ Unit) := by
        refine h.upholds_handle hfailed (fun request heq => ?_) (fun event heq => ?_) halarm
        · exact hrequest scene request (congrArg (Impulse.hand scene) (Errand.message.inj heq))
        · exact hevent scene event (congrArg (Impulse.hand scene) (Errand.message.inj heq))
      refine respond_hand_own (P := AtLink J) hlink (hfirst scene ⟨link, []⟩ hJ) ?_
      exact fun _ errand _ hJ _ own => hown errand own scene _ hJ
  | wake scene =>
      have hserved (kind : AlarmKind τ) :
          Step.Upholds (AtLink J) (handle (.alarm kind) : Step σ ρ τ Unit) :=
        h.upholds_handle hfailed (fun _ heq => nomatch heq) (fun _ heq => nomatch heq) halarm
      refine respond_wake_own (P := AtLink J) hlink hJ ?_ ?_
      · exact fun _ kind _ hJ _ _ => hserved kind scene _ hJ
      · exact fun _ errand _ hJ _ own => hown errand own scene _ hJ

/-! ### Mending properties -/

namespace Mending

variable {J : σ → List Effect → Prop} (h : Mending (ρ := ρ) (τ := τ) J)

include h

theorem upholds_incidental {errand : Errand ρ τ} (hown : Incidental errand) :
    Step.Upholds (AtLink J) (handle errand : Step σ ρ τ Unit) :=
  h.upholds_handle errand fun outcome code heq => absurd heq (hown.ne_answer outcome code)

/-- A mending property that handling a message does not spoil survives the impulse. -/
theorem respond_hand {message : Message ρ} (hlink : Between link)
    (first : (onErrand (.message message) : Step σ ρ τ Verdict).Yields scene ⟨link, []⟩
      fun _ after => AtLink J after) :
    J (link.respond (.hand scene message)).1.session (link.respond (.hand scene message)).2 := by
  refine respond_hand_own (P := AtLink J) hlink ?_ ?_
  · exact yields_handle first fun _ fault hJ => h.failed _ _ fault hJ
  · exact fun _ _ _ hJ _ hown => h.upholds_incidental hown scene _ hJ

/-- **A mending property survives any impulse but an answer.** -/
theorem respond (hlink : Between link) (impulse : Impulse ρ) (hJ : J link.session [])
    (hother : ∀ scene outcome code, impulse ≠ .hand scene (.event (.commandResult outcome code))) :
    J (link.respond impulse).1.session (link.respond impulse).2 := by
  refine h.unmoved.respond h.failed h.onAlarm (h.onEvent .linkDown nofun) hlink impulse
    (fun _ request _ => h.onRequest request) (fun scene event told => h.onEvent event ?_) hJ
  rintro outcome code rfl
  exact hother scene outcome code told

end Mending

end Impulses

end Link

end AudioLink
