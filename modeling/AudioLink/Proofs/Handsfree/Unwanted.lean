/-
**Sound that is not wanted here.**

When the audio of a gateway comes on and the sound of its calls may not come here, the audio is to
be dropped; and it is to be dropped when the user says so while there is audio.  The profile cannot
do this itself.  It tells its link, which puts the wish behind everything else that is still to be
done.  Until its turn comes the link might have dropped out, or lost its audio, and would then turn
the wish down.

This does not happen.  The profile has such a wish only on account of a message from outside, and
these are handled while there is nothing else to do; what a link does on its own account, when it
moves to another state or an alarm has gone off, only ever switches the audio off.  So the wish is
next, and the link is still connected and still has its audio.

Main definitions:

* `AudioLink.Link.KeepsAudio`, `AudioLink.Link.Considerate` — work that does not ask for the audio to
  be dropped, and a profile that asks for it only while there is audio;
* `AudioLink.Link.Clear` — a link that has nothing to do;
* `AudioLink.Link.Spared`, `AudioLink.Link.Dropping`, `AudioLink.Link.Willing` — nothing that a link
  has still to do is about dropping the audio; nothing else is left to do, and there is audio; one
  of both;
* `AudioLink.Link.Phase` — what a moment of an impulse is like;
* `AudioLink.Handsfree.Unwanted` — the occasions on which the sound is not wanted.

Main results:

* `AudioLink.Link.spared_transition` — moving to another state makes no such wish;
* `AudioLink.Link.Considerate.yields_handle`, `AudioLink.Link.Considerate.yields_handle_own` — a
  message from outside, and an errand of the link itself;
* `AudioLink.Link.Considerate.phase_of_moment` — **a wish that the audio be dropped is heard while
  there is audio**;
* `AudioLink.Link.respond_dropping` — the wish is carried out within the same impulse;
* `AudioLink.Handsfree.dropsAudio_respond_unwanted` — the transport is asked once, and the sound does
  not come here;
* `AudioLink.Handsfree.unwanted_audio_dropped` — **unwanted audio is dropped at once**.
-/

import AudioLink.Proofs.Handsfree.Indicators
import AudioLink.Proofs.Handsfree.Untouched
import AudioLink.Proofs.Link.Replay
import AudioLink.Proofs.Link.Sounding

set_option relaxedAutoImplicit false
set_option autoImplicit false

namespace AudioLink

namespace Link

variable {σ ρ τ : Type}

/-! ### Wishes -/

/-- Work that does not ask for the audio to be dropped. -/
def KeepsAudio {α : Type} (work : Work σ τ α) : Prop :=
  ∀ view (desk : Desk σ τ), work.Yields view desk fun _ after => after.drops = desk.drops

/-- A profile that asks for the audio to be dropped only when the audio comes on, or while there is
audio and the user has a request. -/
structure Considerate (σ : Type) {ρ τ : Type} [ProfileSession σ ρ τ] : Prop where
  onConnected : KeepsAudio (ProfileSession.onConnected : Work σ τ Unit)
  onDisconnected : KeepsAudio (ProfileSession.onDisconnected : Work σ τ Unit)
  onAudioChanged : ∀ previous current wideband, current ≠ .on →
    KeepsAudio (ProfileSession.onAudioChanged previous current wideband : Work σ τ Unit)
  onEvent : ∀ event, KeepsAudio (ProfileSession.onEvent event : Work σ τ Verdict)
  onRequest : ∀ request view (desk : Desk σ τ), view.audio = .off →
    (ProfileSession.onRequest request : Work σ τ Verdict).Yields view desk fun _ after =>
      after.drops = desk.drops
  onAlarm : ∀ kind, KeepsAudio (ProfileSession.onAlarm (ρ := ρ) kind : Work σ τ Verdict)

/-- Nothing that a link has still to do, now or later, is to drop the audio. -/
structure Spared (progress : Progress σ ρ τ) : Prop where
  queue : .message .disconnectAudio ∉ progress.link.queue
  deferred : .disconnectAudio ∉ progress.link.deferred

/-- All that a link has to do now is to drop the audio, and there is audio. -/
structure Dropping (progress : Progress σ ρ τ) : Prop where
  queue : ∃ count, progress.link.queue = drops count
  connected : progress.link.state = .connected
  sounding : progress.link.audio ≠ .off

/-- A link that has nothing to do now, and will not have to drop the audio later. -/
structure Clear (progress : Progress σ ρ τ) : Prop where
  queue : progress.link.queue = []
  deferred : .disconnectAudio ∉ progress.link.deferred

/-- If there is a wish that the audio be dropped, then there is nothing else to do, and there is
audio. -/
inductive Willing (progress : Progress σ ρ τ) : Prop
  | spared (h : Spared progress)
  | dropping (h : Dropping progress)

theorem Clear.spared {progress : Progress σ ρ τ} (h : Clear progress) : Spared progress where
  queue := by
    rw [h.queue]
    exact List.not_mem_nil
  deferred := h.deferred

/-- A link that waits has put off nothing but requests to connect. -/
theorem Between.clear {link : Link σ ρ τ} (h : Between link) (log : List Effect) :
    Clear ⟨link, log⟩ where
  queue := h.queue
  deferred hmem := by cases h.deferred _ hmem

/-- What is announced makes no wish. -/
theorem Willing.notice {progress : Progress σ ρ τ} (h : Willing progress) (notice : Notice) :
    Willing { progress with log := progress.log ++ [.notice notice] } := by
  cases h with
  | spared h => exact .spared ⟨h.queue, h.deferred⟩
  | dropping h => exact .dropping ⟨h.queue, h.connected, h.sounding⟩

/-! ### Moving to another state -/

section Moving

variable {progress : Progress σ ρ τ}

theorem spared_change {f : Link σ ρ τ → Link σ ρ τ} (hqueue : ∀ link, (f link).queue = link.queue)
    (hdeferred : ∀ link, (f link).deferred ⊆ link.deferred) :
    Step.Upholds Spared (Step.change f) := by
  intro scene progress h
  refine ⟨?_, fun hmem => h.deferred (hdeferred _ hmem)⟩
  show _ ∉ (f progress.link).queue
  rw [hqueue]
  exact h.queue

/-- Work that does not ask for the audio to be dropped leaves the queue as it is. -/
theorem settle_queue_of_drops {link : Link σ ρ τ} {desk : Desk σ τ} (hdrops : desk.drops = 0) :
    (Step.settle link desk).queue = link.queue := by
  rw [Step.settle, hdrops]
  exact List.append_nil _

theorem spared_consult {α : Type} {work : Work σ τ α} {scene : Scene}
    (hwork : work.Yields (Step.view scene progress.link) (Step.desk progress) fun _ after =>
      after.drops = 0) (h : Spared progress) :
    (Step.consult work : Step σ ρ τ α).Yields scene progress fun _ after => Spared after := by
  rw [Step.yields_consult]
  refine Work.yields_mono hwork ?_
  intro _ desk hdrops
  refine ⟨?_, h.deferred⟩
  rw [settle_queue_of_drops hdrops]
  exact h.queue

theorem upholds_consult_spared {α : Type} {work : Work σ τ α} (hwork : KeepsAudio work) :
    Step.Upholds Spared (Step.consult work : Step σ ρ τ α) :=
  fun _ _ h => spared_consult (hwork _ _) h

variable [ProfileSession σ ρ τ] (hprofile : Considerate σ)

include hprofile

theorem spared_setAudio {audio : AudioState} (hoff : audio ≠ .on) (wideband : Bool) :
    Step.Upholds Spared (setAudio audio wideband : Step σ ρ τ Unit) := by
  refine .bind .link fun link => .bind ?_ fun _ => ?_
  · exact spared_change (fun _ => rfl) fun _ => List.Subset.refl _
  · refine .bind (fun _ _ h => ⟨h.queue, h.deferred⟩) fun _ => ?_
    exact upholds_consult_spared (hprofile.onAudioChanged _ _ _ hoff)

theorem spared_silence : Step.Upholds Spared (silence : Step σ ρ τ Unit) :=
  have hoff : AudioState.off ≠ .on := by decide
  .bind .link fun _ => .ite (fun _ => spared_setAudio hprofile hoff false) fun _ => .pure _

variable [DecidableEq τ]

theorem spared_leave (state : LinkState) :
    Step.Upholds Spared (leave state : Step σ ρ τ Unit) := by
  cases state with
  | disconnected => exact .pure _
  | connecting | disconnecting => exact spared_change (fun _ => rfl) fun _ => List.Subset.refl _
  | connected =>
      refine .bind (spared_silence hprofile) fun _ => ?_
      exact spared_change (fun _ => rfl) fun _ => List.Subset.refl _

theorem spared_enter (state : LinkState) :
    Step.Upholds Spared (enter state : Step σ ρ τ Unit) := by
  cases state with
  | disconnected => exact upholds_consult_spared hprofile.onDisconnected
  | connecting | disconnecting =>
      exact .bind .read fun _ => spared_change (fun _ => rfl) fun _ => List.Subset.refl _
  | connected =>
      refine .bind ?_ fun _ => .bind (spared_silence hprofile) fun _ => ?_
      · exact spared_change (fun _ => rfl) fun _ => List.filter_sublist.subset
      · exact upholds_consult_spared hprofile.onConnected

omit [ProfileSession σ ρ τ] [DecidableEq τ] hprofile in
theorem spared_replayDeferred : Step.Upholds Spared (replayDeferred : Step σ ρ τ Unit) := by
  intro scene progress h
  rw [replayDeferred, Step.yields_change]
  refine ⟨fun hmem => ?_, List.not_mem_nil⟩
  rcases List.mem_append.1 hmem with hmem | hmem
  · obtain ⟨message, hmessage, heq⟩ := List.mem_map.1 hmem
    exact h.deferred (Errand.message.inj heq ▸ hmessage)
  · exact h.queue hmem

/-- **Moving to another state makes no wish that the audio be dropped.** -/
theorem spared_transition (next : LinkState) :
    Step.Upholds Spared (transition next : Step σ ρ τ Unit) := by
  refine .bind .link fun link => .ite (fun _ => ?_) fun _ => .pure _
  refine .bind (spared_leave hprofile _) fun _ => .bind ?_ fun _ => ?_
  · exact spared_change (fun _ => rfl) fun _ => List.Subset.refl _
  · refine .bind (fun _ _ h => ⟨h.queue, h.deferred⟩) fun _ => ?_
    refine .bind (spared_enter hprofile _) fun _ => ?_
    exact .ite (fun _ => spared_replayDeferred) fun _ => .pure _

end Moving

/-! ### Errands -/

namespace Considerate

variable [ProfileSession σ ρ τ] (hprofile : Considerate σ) {scene : Scene}

include hprofile

omit [ProfileSession σ ρ τ] hprofile in
/-- When the profile is asked while there is nothing to do and the link is connected, all that it
can wish for is that the audio be dropped. -/
theorem willing_consult {α : Type} {work : Work σ τ α} {progress : Progress σ ρ τ}
    (hwork : work.Yields (Step.view scene progress.link) (Step.desk progress) fun _ after =>
      progress.link.audio = .off → after.drops = 0)
    (hconnected : progress.link.state = .connected) (h : Clear progress) :
    (Step.consult work : Step σ ρ τ α).Yields scene progress fun _ after => Willing after := by
  by_cases hoff : progress.link.audio = .off
  · refine Step.yields_mono (spared_consult (Work.yields_mono hwork ?_) h.spared) ?_
    · exact fun _ _ hdrops => hdrops hoff
    · exact fun _ _ hspared => .spared hspared
  · rw [Step.yields_consult]
    refine Work.yields_mono hwork ?_
    intro _ desk _
    refine .dropping ⟨⟨desk.drops, ?_⟩, hconnected, hoff⟩
    show progress.link.queue ++ drops desk.drops = drops desk.drops
    rw [h.queue, List.nil_append]

/-- The audio changes while there is nothing to do. -/
theorem willing_setAudio {audio : AudioState} {wideband : Bool} {progress : Progress σ ρ τ}
    (hconnected : progress.link.state = .connected) (h : Clear progress) :
    (setAudio audio wideband : Step σ ρ τ Unit).Yields scene progress fun _ after =>
      Willing after := by
  rw [setAudio, Step.yields_bind, Step.yields_link, Step.yields_bind, Step.yields_change,
    Step.yields_bind, Step.yields_announce]
  refine willing_consult ?_ hconnected ⟨h.queue, h.deferred⟩
  show (ProfileSession.onAudioChanged _ audio _ : Work σ τ Unit).Yields _ _ fun _ after =>
    audio = .off → after.drops = 0
  by_cases hoff : audio = .off
  · refine Work.yields_mono (hprofile.onAudioChanged _ _ _ ?_ _ _) fun _ _ hdrops _ => hdrops
    rw [hoff]
    decide
  · exact fun heq => absurd heq hoff

/-- The user has a request while there is nothing to do. -/
theorem willing_request {request : ρ} {progress : Progress σ ρ τ}
    (hconnected : progress.link.state = .connected) (h : Clear progress) :
    (Step.consult (ProfileSession.onRequest request) : Step σ ρ τ Verdict).Yields scene progress
      fun _ after => Willing after := by
  refine willing_consult ?_ hconnected h
  by_cases hoff : progress.link.audio = .off
  · exact Work.yields_mono (hprofile.onRequest request _ _ hoff) fun _ _ hdrops _ => hdrops
  · exact fun heq => absurd heq hoff

variable [DecidableEq τ]

/-- Whatever a message brings about, it brings it about while there is nothing to do. -/
theorem conduct [Outlined ρ] (message : Message ρ) :
    Conduct scene message (Clear (σ := σ) (τ := τ)) Clear Willing where
  introduce _ _ _ h := ⟨h.queue, h.deferred⟩
  ask _ _ _ h := ⟨h.queue, h.deferred⟩
  unasked _ h := h
  rise next progress _ _ h :=
    Step.yields_mono (spared_transition hprofile next scene progress h.spared) fun _ _ => .spared
  transition next progress _ h :=
    Step.yields_mono (spared_transition hprofile next scene progress h.spared) fun _ _ => .spared
  setAudio _ _ _ hconnected _ h := hprofile.willing_setAudio hconnected h
  defer progress _ _ h := by
    refine .spared ⟨h.spared.queue, fun hmem => ?_⟩
    rcases List.mem_append.1 hmem with hmem | hmem
    · exact h.deferred hmem
    · cases List.mem_singleton.1 hmem
  stay _ h := .spared h.spared
  request _ _ _ hconnected h := hprofile.willing_request hconnected h
  event event progress _ _ h :=
    Step.yields_mono (upholds_consult_spared (hprofile.onEvent event) scene progress h.spared)
      fun _ _ hspared => .spared hspared

/-- **A message is handled while there is nothing to do.** -/
theorem yields_handle [Outlined ρ] (message : Message ρ) {link : Link σ ρ τ}
    (hlink : Between link) :
    (handle (.message message) : Step σ ρ τ Unit).Yields scene ⟨link, []⟩ fun _ after =>
      Willing after :=
  Link.yields_handle ((hprofile.conduct message).yields_onMessage (hlink.clear []))
    fun _ _ h => h.notice _

/-- An alarm goes off. -/
theorem upholds_alarm [Outlined ρ] (kind : AlarmKind τ) :
    Step.Upholds Spared (handle (.alarm kind) : Step σ ρ τ Unit) := by
  intro scene progress h
  refine Link.yields_handle ?_ fun _ _ h => ⟨h.queue, h.deferred⟩
  have hgiveUp : Step.Upholds Spared (giveUp : Step σ ρ τ Unit) := by
    intro scene progress h
    refine ⟨fun hmem => ?_, h.deferred⟩
    rcases List.mem_cons.1 hmem with heq | hmem
    · cases heq
    · exact h.queue hmem
  have hrefuse : Step.Upholds Spared (refuse : Step σ ρ τ Unit) :=
    fun _ _ h => ⟨h.queue, h.deferred⟩
  exact upholds_onAlarm hrefuse hgiveUp
    (fun own => upholds_consult_spared (hprofile.onAlarm own)) kind scene progress h

/-- A link that takes up a request to connect makes no such wish. -/
theorem upholds_connect [Outlined ρ] :
    Step.Upholds Spared (handle (.message .connect) : Step σ ρ τ Unit) := by
  intro scene progress h
  cases hstate : progress.link.state with
  | disconnected =>
      refine yields_connect_disconnected hstate ?_ ⟨h.queue, h.deferred⟩
      exact spared_transition hprofile _ scene _ ⟨h.queue, h.deferred⟩
  | connecting | disconnecting =>
      refine yields_connect_transient (by rw [hstate]; rfl) ⟨h.queue, fun hmem => ?_⟩
      rcases List.mem_append.1 hmem with hmem | hmem
      · exact h.deferred hmem
      · cases List.mem_singleton.1 hmem
  | connected =>
      refine Link.yields_handle ?_ fun _ _ h => ⟨h.queue, h.deferred⟩
      show (onConnect : Step σ ρ τ Verdict).Yields scene progress _
      rw [onConnect, Step.yields_bind, Step.yields_link, hstate]
      exact h

/-- An errand of the link itself makes no wish, if there was none. -/
theorem spared_own [Outlined ρ] {progress : Progress σ ρ τ} {errand : Errand ρ τ}
    {rest : List (Errand ρ τ)} (h : Spared progress)
    (hcons : progress.link.queue = errand :: rest) (hown : Incidental errand) :
    (handle errand : Step σ ρ τ Unit).Yields scene
      ⟨{ progress.link with queue := rest }, progress.log⟩ fun _ after => Spared after := by
  have hrest : Spared (ρ := ρ) ⟨{ progress.link with queue := rest }, progress.log⟩ :=
    ⟨fun hmem => h.queue (hcons ▸ List.mem_cons_of_mem _ hmem), h.deferred⟩
  cases hown with
  | connect => exact hprofile.upholds_connect scene _ hrest
  | linkDown =>
      refine Link.yields_handle ?_ fun _ _ h => ⟨h.queue, h.deferred⟩
      show (Link.onEvent .linkDown : Step σ ρ τ Verdict).Yields _ _ _
      rw [yields_linkDown]
      exact spared_transition hprofile _ scene _ hrest
  | dropAudio => exact absurd (hcons ▸ List.mem_cons_self ..) h.queue

omit hprofile in
/-- A wish that is heard changes nothing: if there were more of them, they are still all there is to
do. -/
theorem willing_dropping [Outlined ρ] {progress : Progress σ ρ τ} {errand : Errand ρ τ}
    {rest : List (Errand ρ τ)} (h : Dropping progress)
    (hcons : progress.link.queue = errand :: rest) :
    (handle errand : Step σ ρ τ Unit).Yields scene
      ⟨{ progress.link with queue := rest }, progress.log⟩ fun _ after => Willing after := by
  obtain ⟨count, hqueue⟩ := h.queue
  obtain ⟨rfl, others, rfl⟩ := of_drops_eq_cons (hqueue.symm.trans hcons)
  refine Link.yields_handle (P := Willing) ?_ fun _ _ h => h.notice _
  have hdropping : Dropping (ρ := ρ) (τ := τ)
      ⟨{ progress.link with queue := drops others }, progress.log⟩ :=
    ⟨⟨others, rfl⟩, h.connected, h.sounding⟩
  refine leads_onDisconnectAudio (Q := Dropping) ?_ (fun _ => .dropping) scene _ hdropping
  exact fun _ _ h => ⟨h.queue, h.connected, h.sounding⟩

/-- **An errand of the link itself makes no wish**, and a wish that is heard changes nothing. -/
theorem yields_handle_own [Outlined ρ] {progress : Progress σ ρ τ} {errand : Errand ρ τ}
    {rest : List (Errand ρ τ)} (h : Willing progress)
    (hcons : progress.link.queue = errand :: rest) (hown : Incidental errand) :
    (handle errand : Step σ ρ τ Unit).Yields scene
      ⟨{ progress.link with queue := rest }, progress.log⟩ fun _ after => Willing after := by
  cases h with
  | spared h => exact Step.yields_mono (hprofile.spared_own h hcons hown) fun _ _ => .spared
  | dropping h => exact willing_dropping h hcons

end Considerate

/-! ### Moments -/

section Moments

variable {link : Link σ ρ τ}

/-- What a moment of an impulse is like: the message was handed to the link just now, or an alarm
was taken out, or the link is willing and has made for itself what it has to do. -/
inductive Phase (link : Link σ ρ τ) : Impulse ρ → Progress σ ρ τ → Prop
  | handed (scene : Scene) (message : Message ρ) :
      Phase link (.hand scene message) ⟨{ link with queue := [.message message] }, []⟩
  | alarm {scene : Scene} {progress : Progress σ ρ τ} (kind : AlarmKind τ)
      (queue : progress.link.queue = [.alarm kind])
      (deferred : ∀ message ∈ progress.link.deferred, message = .connect) :
      Phase link (.wake scene) progress
  | willing {impulse : Impulse ρ} {progress : Progress σ ρ τ} (h : Willing progress)
      (made : SelfMade progress) : Phase link impulse progress

variable [ProfileSession σ ρ τ] [DecidableEq τ] [Outlined ρ] (hprofile : Considerate σ)
  {impulse : Impulse ρ} {progress : Progress σ ρ τ}

include hprofile

/-- Whatever errand is next, the link is willing once it is handled. -/
theorem Considerate.handle_phase (hlink : Between link) (h : Phase link impulse progress)
    {errand : Errand ρ τ} {rest : List (Errand ρ τ)}
    (hcons : progress.link.queue = errand :: rest) :
    (handle errand : Step σ ρ τ Unit).Yields impulse.scene
      ⟨{ progress.link with queue := rest }, progress.log⟩ fun _ after =>
        Willing after ∧ SelfMade after := by
  cases h with
  | handed scene message =>
      obtain ⟨rfl, rfl⟩ := List.cons.inj hcons
      have hstart : ({ link with queue := [] } : Link σ ρ τ) = link := by
        rw [← hlink.queue]
      show (handle (.message message) : Step σ ρ τ Unit).Yields scene
        ⟨{ link with queue := [] }, []⟩ _
      rw [hstart]
      exact ⟨hprofile.yields_handle message hlink, selfMade_handle _ scene _ (hlink.selfMade [])⟩
  | alarm kind queue deferred =>
      obtain ⟨rfl, rfl⟩ := List.cons.inj (queue.symm.trans hcons)
      refine ⟨.spared (hprofile.upholds_alarm kind _ _ ⟨List.not_mem_nil, fun hmem => ?_⟩), ?_⟩
      · cases deferred _ hmem
      · exact selfMade_handle _ _ _ ⟨nofun, deferred⟩
  | willing h made =>
      obtain ⟨hown, hrest⟩ := made.of_cons hcons
      exact ⟨hprofile.yields_handle_own h hcons hown, selfMade_handle _ _ _ hrest⟩

theorem Considerate.phase_of_moment (hlink : Between link)
    (hmoment : Moment link impulse progress) : Phase link impulse progress := by
  induction hmoment with
  | handed scene message =>
      rw [hlink.queue]
      exact .handed scene message
  | woken scene => exact .willing (.spared (hlink.clear []).spared) (hlink.selfMade [])
  | alarm _ _ _ ih =>
      cases ih with
      | alarm _ _ deferred => exact .alarm _ rfl deferred
      | willing _ made => exact .alarm _ rfl made.deferred
  | errand _ next ih =>
      obtain ⟨hwilling, hmade⟩ := hprofile.handle_phase hlink ih next
      exact .willing hwilling hmade

/-- **A wish that the audio be dropped is heard while there is audio**, unless it was handed to the
link from outside. -/
theorem Considerate.dropping_of_moment (hlink : Between link)
    (hmoment : Moment link impulse progress) {rest : List (Errand ρ τ)}
    (hnext : progress.link.queue = .message .disconnectAudio :: rest) :
    (∃ scene, impulse = .hand scene .disconnectAudio ∧
        progress = ⟨{ link with queue := [.message .disconnectAudio] }, []⟩) ∨
      Dropping progress := by
  cases hprofile.phase_of_moment hlink hmoment with
  | handed scene message =>
      obtain ⟨heq, -⟩ := List.cons.inj hnext
      cases heq
      exact .inl ⟨scene, rfl, rfl⟩
  | alarm kind queue _ => cases (List.cons.inj (queue.symm.trans hnext)).1
  | willing h _ =>
      cases h with
      | spared h => exact absurd (hnext ▸ List.mem_cons_self ..) h.queue
      | dropping h => exact .inr h

end Moments

/-! ### Carrying out the wish -/

/-- Whether an effect is that the transport is asked to disconnect the audio. -/
def dropsAudio : Effect → Bool
  | .call (.command .disconnectAudio) _ => true
  | _ => false

section Dropped

variable {scene : Scene} {progress : Progress σ ρ τ} {post : Verdict → Progress σ ρ τ → Prop}

/-- While a connected link has audio, to drop it means to ask the transport. -/
theorem yields_onDisconnectAudio (hconnected : progress.link.state = .connected)
    (hsounding : progress.link.audio ≠ .off) :
    (onDisconnectAudio : Step σ ρ τ Verdict).Yields scene progress post ↔
      let accepted := scene.transport progress.log (.command .disconnectAudio)
      post (if accepted then .ok () else .error (.rejected "disconnect audio"))
        { progress with log := progress.log ++ [.call (.command .disconnectAudio) accepted] } := by
  rw [onDisconnectAudio, Step.yields_bind, Step.yields_link, if_neg (not_not_intro hconnected),
    if_neg hsounding, Step.yields_bind, Step.yields_ask, Step.yields_ite]
  cases scene.transport progress.log (.command .disconnectAudio) with
  | true => rfl
  | false => rfl

/-- So the wish is not turned down for the state of the link. -/
theorem heeds_onDisconnectAudio (hconnected : progress.link.state = .connected)
    (hsounding : progress.link.audio ≠ .off) :
    (onDisconnectAudio : Step σ ρ τ Verdict).Yields scene progress fun verdict _ =>
      ∀ reason, verdict ≠ .error (.invalidState reason) := by
  refine (yields_onDisconnectAudio hconnected hsounding).2 ?_
  intro accepted reason
  split
  · nofun
  · nofun

omit scene progress post in
/-- With nothing else to do, the wish is next. -/
theorem queue_drops_one {link : Link σ ρ τ} (hqueue : link.queue = []) :
    link.queue ++ drops 1 = [.message .disconnectAudio] := by
  rw [hqueue]
  rfl

/-- All that happens when the audio is dropped: the transport is asked, and the user is told if it
refuses. -/
def dropped (scene : Scene) (log : List Effect) : List Effect :=
  let accepted := scene.transport log (.command .disconnectAudio)
  .call (.command .disconnectAudio) accepted ::
    Verdict.told (if accepted then .ok () else .error (.rejected "disconnect audio"))

/-- The transport is asked once. -/
theorem filter_dropped (scene : Scene) (log : List Effect) :
    (dropped scene log).filter dropsAudio =
      [.call (.command .disconnectAudio) (scene.transport log (.command .disconnectAudio))] := by
  rw [dropped]
  cases scene.transport log (.command .disconnectAudio) with
  | true => rfl
  | false => rfl

/-- No report is made of it. -/
theorem report_notMem_dropped (scene : Scene) (log : List Effect) (report : Report) :
    .notice (.report report) ∉ dropped scene log := by
  intro hmem
  rw [dropped] at hmem
  rcases List.mem_cons.1 hmem with heq | hmem
  · cases heq
  · revert hmem
    cases scene.transport log (.command .disconnectAudio) with
    | true => exact List.not_mem_nil
    | false =>
        intro hmem
        cases List.mem_singleton.1 hmem

variable [ProfileSession σ ρ τ] [DecidableEq τ] [Outlined ρ] {link next : Link σ ρ τ}
  {message : Message ρ} {log : List Effect}

/-- **The wish that the audio be dropped is carried out within the same impulse**, when nothing but
this is left to do and there is audio. -/
theorem respond_dropping (hqueue : link.queue = []) (hconnected : next.state = .connected)
    (hsounding : next.audio ≠ .off)
    (handled : (onErrand (.message message) : Step σ ρ τ Verdict).Yields scene ⟨link, []⟩
      fun verdict after => verdict = .ok () ∧
        after = ⟨{ next with queue := [.message .disconnectAudio] }, log⟩) :
    (link.respond (.hand scene message)).2 = log ++ dropped scene log := by
  have hstart : ({ link with queue := [] } : Link σ ρ τ) = link := by
    rw [← hqueue]
  have hqueued : link.queue ++ [.message message] = [.message message] := by
    rw [hqueue]
    rfl
  show (drain scene ⟨{ link with queue := link.queue ++ [.message message] }, []⟩).log = _
  refine drain_of_yields (P := fun after => after.log = log ++ dropped scene log) hqueued ?_
  show (handle (.message message) : Step σ ρ τ Unit).Yields scene ⟨{ link with queue := [] }, []⟩ _
  rw [hstart, yields_handle_iff]
  refine Step.yields_mono handled ?_
  rintro verdict after ⟨rfl, rfl⟩
  rw [Verdict.told, List.append_nil]
  refine drain_of_yields (P := fun after => after.log = log ++ dropped scene log) rfl ?_
  rw [yields_handle_iff]
  show (onDisconnectAudio : Step σ ρ τ Verdict).Yields scene ⟨{ next with queue := [] }, log⟩ _
  rw [yields_onDisconnectAudio hconnected hsounding]
  refine (congrArg Progress.log (drain_of_queue_nil rfl)).trans ?_
  rw [dropped]
  exact List.append_assoc ..

end Dropped

end Link

/-! ### The sound of calls -/

namespace Handsfree

/-- The profile asks for the audio to be dropped when it comes on and its sound may not come here,
and when the user says so while there is audio. -/
theorem considerate : Link.Considerate Handsfree := by
  have hkept {α : Type} {work : Work Handsfree AlarmKind α}
      (hwork : ∀ start, Work.Upholds (Untouched (fun _ => True) start) work) :
      Link.KeepsAudio work :=
    fun view desk => Work.yields_mono (hwork desk view desk (.refl trivial)) fun _ _ h => h.drops
  refine ⟨?_, ?_, ?_, ?_, ?_, ?_⟩
  · exact hkept fun _ => upholds_onConnected_untouched tolerant_any
  · exact fun view desk => yields_onDisconnected.2 rfl
  · intro previous current wideband hoff view desk
    refine yields_onAudio.2 ?_
    rw [if_neg hoff]
    split
    · rfl
    · rfl
  · exact fun event => hkept fun _ => upholds_onEvent_untouched tolerant_any fun _ _ _ => permits_any
  · intro request view desk hsilent
    by_cases hsaid : ∃ allowed, request = .allowAudioRoute allowed
    · obtain ⟨allowed, rfl⟩ := hsaid
      refine yields_onRequest_allow.2 ?_
      show (if !allowed && view.audio != .off then desk.drops + 1 else desk.drops) = desk.drops
      rw [hsilent, bne_self_eq_false, Bool.and_false]
      rfl
    · exact hkept (fun _ => upholds_onRequest_untouched tolerant_any (fun _ => permits_any)
        fun allowed heq => hsaid ⟨allowed, heq⟩) view desk
  · intro kind
    cases kind with
    | poll => exact hkept fun _ => upholds_queryCalls_untouched tolerant_any

/-- The occasions on which the sound of calls is not wanted: the audio comes on, or comes to carry
speech of another kind, while the sound may not come here; and while there is audio, the user says
that it may not. -/
inductive Unwanted (link : Link Handsfree Request AlarmKind) : Impulse Request → Prop
  | heard (scene : Scene) (report : AudioReport) (connected : link.state = .connected)
      (denied : link.session.routeAllowed = false) (on : report.audio = .on)
      (alters : link.Alters report.audio report.wideband) :
      Unwanted link (.hand scene (.event (.audioChanged report)))
  | said (scene : Scene) (connected : link.state = .connected) (sounding : link.audio ≠ .off) :
      Unwanted link (.hand scene (.request (.allowAudioRoute false)))

section Dropped

variable {scene : Scene} {link : Link Handsfree Request AlarmKind}

/-- When the audio comes on and its sound may not come here, it is to be dropped. -/
theorem yields_onAudio_denied {view : View} {desk : Desk Handsfree AlarmKind}
    {previous : AudioState} {wideband : Bool} {done : Unit → Desk Handsfree AlarmKind → Prop}
    (hdenied : desk.session.routeAllowed = false) :
    (onAudio previous .on wideband).Yields view desk done ↔
      done () { desk with drops := desk.drops + 1 } := by
  rw [yields_onAudio, if_pos rfl, if_neg (Bool.eq_false_iff.1 hdenied)]

/-- The audio comes on while its sound may not come here. -/
theorem respond_audio_denied {report : AudioReport} (hqueue : link.queue = [])
    (hconnected : link.state = .connected) (hdenied : link.session.routeAllowed = false)
    (hon : report.audio = .on) (halters : link.Alters report.audio report.wideband) :
    (link.respond (.hand scene (.event (.audioChanged report)))).2 =
      [Link.audioNotice link.audio .on report.wideband] ++
        Link.dropped scene [Link.audioNotice link.audio .on report.wideband] := by
  have hnews : Link.isNews link report = true := by
    rw [Link.isNews, Bool.or_eq_true, Bool.and_eq_true, bne_iff_ne, bne_iff_ne, beq_iff_eq]
    by_cases hsame : report.audio = link.audio
    · exact .inr (halters hsame)
    · exact .inl hsame
  let next : Link Handsfree Request AlarmKind :=
    { link with audio := .on, wideband := report.wideband }
  have hsounding : next.audio ≠ .off := (by decide : AudioState.on ≠ .off)
  refine Link.respond_dropping hqueue (show next.state = .connected from hconnected) hsounding ?_
  show (Link.onAudioReport report : Step Handsfree Request AlarmKind Verdict).Yields scene _ _
  rw [Link.onAudioReport, Step.yields_bind, Step.yields_link, if_neg (not_not_intro hconnected),
    if_pos hnews, Step.yields_bind, hon, Link.setAudio, Step.yields_bind, Step.yields_link,
    Step.yields_bind, Step.yields_change, Step.yields_bind, Step.yields_announce,
    Step.yields_consult]
  refine (yields_onAudio_denied hdenied).2 ⟨rfl, ?_⟩
  rw [← Link.queue_drops_one hqueue]
  rfl

/-- The user says that the sound may not come here while there is audio. -/
theorem respond_audio_said (hqueue : link.queue = []) (hconnected : link.state = .connected)
    (hsounding : link.audio ≠ .off) :
    (link.respond (.hand scene (.request (.allowAudioRoute false)))).2 = Link.dropped scene [] := by
  let next : Link Handsfree Request AlarmKind :=
    { link with session := { link.session with routeAllowed := false } }
  show _ = [] ++ Link.dropped scene []
  refine Link.respond_dropping hqueue (show next.state = .connected from hconnected) hsounding ?_
  rw [Link.yields_onErrand_request hconnected, Step.yields_consult]
  refine yields_onRequest_allow.2 ⟨rfl, ?_⟩
  have hwished : (!false && link.audio != .off) = true := by
    rw [bne_iff_ne.2 hsounding]
    rfl
  show Progress.mk (Step.settle link { Step.desk ⟨link, []⟩ with
    session := next.session
    drops := if !false && link.audio != .off then 1 else 0 }) [] = _
  rw [if_pos hwished, ← Link.queue_drops_one hqueue]
  rfl

/-- Whenever the sound is not wanted, the audio is dropped, and at most that it has changed is
announced before. -/
theorem respond_unwanted (hqueue : link.queue = []) {impulse : Impulse Request}
    (h : Unwanted link impulse) :
    ∃ heard, (link.respond impulse).2 = heard ++ Link.dropped impulse.scene heard ∧
      ∀ effect ∈ heard, ∃ previous wideband, effect = Link.audioNotice previous .on wideband := by
  cases h with
  | heard scene report connected denied on alters =>
      refine ⟨_, respond_audio_denied hqueue connected denied on alters, ?_⟩
      intro effect hmem
      exact ⟨_, _, List.mem_singleton.1 hmem⟩
  | said scene connected sounding => exact ⟨[], respond_audio_said hqueue connected sounding, nofun⟩

/-- **Whenever the sound is not wanted, the transport is asked once to disconnect the audio**, and
the platform is not told that the sound comes here. -/
theorem dropsAudio_respond_unwanted (hqueue : link.queue = []) {impulse : Impulse Request}
    (h : Unwanted link impulse) :
    (∃ accepted, (link.respond impulse).2.filter Link.dropsAudio =
      [.call (.command .disconnectAudio) accepted]) ∧
    ∀ rate, opening rate ∉ (link.respond impulse).2 := by
  obtain ⟨heard, hlog, hheard⟩ := respond_unwanted hqueue h
  rw [hlog]
  refine ⟨⟨impulse.scene.transport heard (.command .disconnectAudio), ?_⟩, fun rate hmem => ?_⟩
  · have hnone : heard.filter Link.dropsAudio = [] := by
      rw [List.filter_eq_nil_iff]
      intro effect hmem
      obtain ⟨previous, wideband, rfl⟩ := hheard effect hmem
      exact Bool.false_ne_true
    rw [List.filter_append, hnone, Link.filter_dropped]
    rfl
  · rcases List.mem_append.1 hmem with hmem | hmem
    · obtain ⟨previous, wideband, heq⟩ := hheard _ hmem
      cases heq
    · exact Link.report_notMem_dropped _ _ _ hmem

end Dropped

/-- **Unwanted audio is dropped at once.**  Whenever the sound of calls is not wanted, the transport
is asked exactly once within the same impulse to disconnect the audio, and the platform is not told
that the sound comes here.  And whenever it is the turn of a wish to drop the audio that was not
handed to the link from outside, it is not turned down for the state of the link. -/
theorem unwanted_audio_dropped (settings : HandsfreeSettings) (issuer : Nat) (peer : Address)
    (past : List (Impulse Request)) :
    let link := ((Link.start peer (start settings issuer)).live past).1
    (∀ impulse, Unwanted link impulse →
      (∃ accepted, (link.respond impulse).2.filter Link.dropsAudio =
        [.call (.command .disconnectAudio) accepted]) ∧
      ∀ rate, opening rate ∉ (link.respond impulse).2) ∧
    ∀ impulse progress rest, Link.Moment link impulse progress →
      progress.link.queue = .message .disconnectAudio :: rest →
      (∃ scene, impulse = .hand scene .disconnectAudio ∧
        progress = ⟨{ link with queue := [.message .disconnectAudio] }, []⟩) ∨
      (Link.onErrand (.message .disconnectAudio) :
        Step Handsfree Request AlarmKind Verdict).Yields impulse.scene
          ⟨{ progress.link with queue := rest }, progress.log⟩ fun verdict _ =>
            ∀ reason, verdict ≠ .error (.invalidState reason) := by
  intro link
  have hlink : Link.Between link := Link.between_live (Link.between_start peer _) past
  refine ⟨fun impulse => dropsAudio_respond_unwanted hlink.queue, ?_⟩
  intro impulse progress rest hmoment hnext
  refine (considerate.dropping_of_moment hlink hmoment hnext).imp_right fun h => ?_
  let heard : Progress Handsfree Request AlarmKind :=
    ⟨{ progress.link with queue := rest }, progress.log⟩
  have hconnected : heard.link.state = .connected := h.connected
  exact Link.heeds_onDisconnectAudio hconnected h.sounding

/-- A gateway is connected, and the user does not want to hear its calls. -/
def aloof : List (Impulse Request) :=
  [.hand (obliging 0) .connect,
    .hand (obliging 1) (.event (.linkChanged .connected ⟨Capabilities.enhancedCallStatus, 0⟩)),
    .hand (obliging 2) (.event (.commandResult .ok none)),
    .hand (obliging 3) (.request (.allowAudioRoute false))]

/-- The gateway turns the audio on all the same; it is dropped, and the wish to drop it is not turned
down when its turn comes. -/
theorem unwanted_audio_dropped_aloof :
    let link := (fresh.live aloof).1
    let impulse : Impulse Request := .hand (obliging 4) (.event (.audioChanged .connected))
    Unwanted link impulse ∧
      (∃ accepted, (link.respond impulse).2.filter Link.dropsAudio =
        [.call (.command .disconnectAudio) accepted]) ∧
      ∃ reported, Link.Moment link impulse reported ∧
        reported.link.queue = [.message .disconnectAudio] ∧
        (Link.onErrand (.message .disconnectAudio) :
          Step Handsfree Request AlarmKind Verdict).Yields (obliging 4)
            ⟨{ reported.link with queue := [] }, reported.log⟩ fun verdict _ =>
              ∀ reason, verdict ≠ .error (.invalidState reason) := by
  intro link impulse
  have hlink : link = ((Link.liveFor 3 fresh aloof).get rfl).1 :=
    congrArg Prod.fst (Link.live_eq_get 3 rfl)
  have hunwanted : Unwanted link impulse := by
    rw [hlink]
    exact .heard _ _ rfl rfl rfl nofun
  obtain ⟨reported, hmoment, hnext⟩ : ∃ reported, Link.Moment link impulse reported ∧
      reported.link.queue = [.message .disconnectAudio] := by
    rw [hlink]
    exact ⟨_, .errand (.handed (obliging 4) (.event (.audioChanged .connected))) rfl, rfl⟩
  have hdropped := unwanted_audio_dropped Settings.standard.handsfree 0 fresh.peer aloof
  refine ⟨hunwanted, (hdropped.1 impulse hunwanted).1, reported, hmoment, hnext, ?_⟩
  rcases hdropped.2 impulse reported [] hmoment hnext with ⟨scene, heq, -⟩ | h
  · cases (Impulse.hand.inj heq).2
  · exact h

end Handsfree

end AudioLink
