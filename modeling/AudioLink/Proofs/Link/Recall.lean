/-
**Requests to connect that are taken up again.**

A request to connect that comes at a bad moment waits for the next stable state.  When the link then
comes to be connected, there is nothing left to do, and the request is dropped; when it drops out,
the request is taken up, and the transport is asked to connect.  This is so whatever the user has
asked for in the meantime.  So the question whether a link asks to connect by itself comes down to
whether a request waits when it drops out.

Main definitions:

* `AudioLink.Link.Recalls` — an impulse at which the link drops out while a request waits;
* `AudioLink.Link.Silent` — no request to connect is there;
* `AudioLink.Link.Waiting`, `AudioLink.Link.Fate` — one waits, and what becomes of it.

Main results:

* `AudioLink.Link.connects_respond_iff` — without being told to, a link asks to connect at an
  impulse exactly when this recalls a request;
* `AudioLink.Link.connects_live_iff` — **nor does it in the course of a life, unless some impulse
  recalls a request**.
-/

import AudioLink.Proofs.Link.Rest
import AudioLink.Proofs.Link.Turns

set_option relaxedAutoImplicit false
set_option autoImplicit false

namespace AudioLink

/-- Whether an impulse hands over a request to connect. -/
def Impulse.isConnect {ρ : Type} : Impulse ρ → Bool
  | .hand _ message => message.isConnect
  | .wake _ => false

namespace Link

variable {σ ρ τ : Type}

/-- An impulse at which the link drops out while a request to connect waits. -/
def Recalls [ProfileSession σ ρ τ] [DecidableEq τ] [Outlined ρ] (link : Link σ ρ τ)
    (impulse : Impulse ρ) : Prop :=
  link.deferred ≠ [] ∧ DropsOut (link.respond impulse).2

/-! ### With no request that waits -/

/-- The transport was not asked to connect, and no request to connect is there that could lead to
it. -/
structure Silent (progress : Progress σ ρ τ) : Prop where
  asked : ¬Connects progress.log
  deferred : progress.link.deferred = []
  queue : .message .connect ∉ progress.link.queue

theorem not_mem_drops (count : Nat) : Errand.message .connect ∉ drops (ρ := ρ) (τ := τ) count := by
  intro h
  cases (List.mem_replicate.1 h).2

theorem Silent.aside {before after : Progress σ ρ τ} (h : Silent before)
    (hafter : Aside before after) : Silent after where
  asked hasked := h.asked (hafter.connects.1 hasked)
  deferred := hafter.deferred.trans h.deferred
  queue := by
    obtain ⟨count, hqueue⟩ := hafter.queue
    rw [hqueue, List.mem_append, not_or]
    exact ⟨h.queue, not_mem_drops count⟩

theorem Silent.snoc {progress : Progress σ ρ τ} (h : Silent progress) {effect : Effect}
    (heffect : connects effect = false) :
    Silent { progress with log := progress.log ++ [effect] } := by
  refine ⟨?_, h.deferred, h.queue⟩
  rw [connects_snoc, heffect, or_iff_left Bool.false_ne_true]
  exact h.asked

section Silent

variable [ProfileSession σ ρ τ] [DecidableEq τ] (hdiscreet : Discreet σ)

omit [ProfileSession σ ρ τ] [DecidableEq τ] in
theorem silent_consult {α : Type} {work : Work σ τ α} (hwork : Quiet work) :
    Step.Upholds Silent (Step.consult work : Step σ ρ τ α) := by
  intro scene progress h
  refine Step.yields_mono (aside_consult hwork scene _ (.refl progress)) ?_
  intro _ after hafter
  exact h.aside hafter

include hdiscreet

theorem passive_silent : PassiveMoves (Silent : Progress σ ρ τ → Prop) Silent where
  ask request own hne := by
    intro scene progress h
    cases own with
    | connect => exact absurd rfl hne
    | disconnect | connectAudio | disconnectAudio => exact h.snoc rfl
  introduce _ _ h := ⟨h.asked, h.deferred, h.queue⟩
  transition next := by
    intro scene progress h
    by_cases hsame : progress.link.state = next
    · rw [yields_transition_of_eq hsame]
      exact h
    · have hnone : ∀ message ∈ progress.link.deferred, message = .connect := by
        rw [h.deferred]
        nofun
      refine Step.yields_mono (yields_transition_moved hdiscreet hsame hnone) ?_
      intro _ after hafter
      refine ⟨fun hasked => h.asked (hafter.connects.1 hasked), ?_, ?_⟩
      · rw [hafter.deferred, h.deferred, ite_self]
      · obtain ⟨count, hqueue⟩ := hafter.queue
        rw [hqueue, h.deferred, List.map_nil, ite_self, List.nil_append, List.mem_append, not_or]
        exact ⟨h.queue, not_mem_drops count⟩
  setAudio audio wideband scene progress _ h := by
    have haside : Step.Upholds (Aside progress) (Link.setAudio audio wideband : Step σ ρ τ Unit) :=
      (turning_aside hdiscreet).upholds_setAudio audio wideband
    refine Step.yields_mono (haside scene _ (.refl progress)) ?_
    intro _ after hafter
    exact h.aside hafter
  stay _ h := h

variable [Outlined ρ]

/-- What is no request to connect leads to none. -/
theorem silent_handle {errand : Errand ρ τ} (hne : errand ≠ .message .connect) :
    Step.Upholds Silent (handle errand : Step σ ρ τ Unit) := by
  intro scene progress h
  refine yields_handle ?_ fun after fault h => h.snoc rfl
  have hpassive := passive_silent (ρ := ρ) hdiscreet
  cases errand with
  | message message =>
      refine hpassive.leads_onMessage (fun hconnect => hne (congrArg _ hconnect)) ?_ ?_ scene _ h
      · intro request _
        exact silent_consult fun log => (quiet_of_discreet hdiscreet log).onRequest request
      · intro event _
        exact silent_consult fun log => (quiet_of_discreet hdiscreet log).onEvent event
  | alarm kind =>
      have hgiveUp : Step.Upholds Silent (giveUp : Step σ ρ τ Unit) := by
        intro scene progress h
        refine ⟨h.asked, h.deferred, fun hmem => ?_⟩
        rcases List.mem_cons.1 hmem with hhead | hmem
        · cases hhead
        · exact h.queue hmem
      refine upholds_onAlarm hpassive.leads_refuse hgiveUp (fun kind => ?_) kind scene progress h
      exact silent_consult fun log => (quiet_of_discreet hdiscreet log).onAlarm kind

/-- With no request that waits, a link does not ask to connect unless it is told to. -/
theorem not_connects_respond {link : Link σ ρ τ} {impulse : Impulse ρ} (hqueue : link.queue = [])
    (hnone : link.deferred = []) (htold : impulse.isConnect = false) :
    ¬Connects (link.respond impulse).2 := by
  have hbegun : Silent (⟨link, []⟩ : Progress σ ρ τ) := by
    refine ⟨Bool.false_ne_true, hnone, ?_⟩
    rw [hqueue]
    exact List.not_mem_nil
  -- no errand asks to connect, and none leads to one that does
  have herrand (scene : Scene) (progress : Progress σ ρ τ) (errand : Errand ρ τ)
      (rest : List (Errand ρ τ)) (h : Silent progress)
      (hcons : progress.link.queue = errand :: rest) :
      (handle errand : Step σ ρ τ Unit).Yields scene
        ⟨{ progress.link with queue := rest }, progress.log⟩ fun _ after => Silent after := by
    have hmem := h.queue
    rw [hcons, List.mem_cons, not_or] at hmem
    exact silent_handle hdiscreet (Ne.symm hmem.1) scene _ ⟨h.asked, h.deferred, hmem.2⟩
  have hafter : Silent ⟨(link.respond impulse).1, (link.respond impulse).2⟩ := by
    cases impulse with
    | hand scene message =>
        have hne : Errand.message (τ := τ) message ≠ .message .connect := by
          rintro heq
          cases heq
          cases htold
        exact respond_hand hqueue (silent_handle hdiscreet hne scene _ hbegun) (herrand scene)
    | wake scene =>
        refine respond_wake_served hqueue hbegun ?_ (herrand scene)
        intro progress kind others h _ _
        have hne : Errand.alarm (ρ := ρ) kind ≠ .message .connect := nofun
        refine silent_handle hdiscreet hne scene _ ?_
        exact ⟨h.asked, h.deferred, List.not_mem_nil⟩
  exact hafter.asked

end Silent

/-! ### With a request that waits -/

/-- A request to connect waits, and nothing has happened to it yet. -/
structure Waiting (progress : Progress σ ρ τ) : Prop where
  transient : progress.link.state.isStable = false
  some : progress.link.deferred ≠ []
  deferred : ∀ message ∈ progress.link.deferred, message = .connect
  queue : ∃ count, progress.link.queue = drops count
  asked : ¬Connects progress.log
  up : ¬DropsOut progress.log

/-- The link is connected, and no request waits any more. -/
structure Dropped (progress : Progress σ ρ τ) : Prop where
  state : progress.link.state = .connected
  queue : ∃ count, progress.link.queue = drops count
  asked : ¬Connects progress.log
  up : ¬DropsOut progress.log

/-- What becomes of a request to connect that waits. -/
inductive Fate (progress : Progress σ ρ τ) : Prop
  /-- It still waits. -/
  | waits (h : Waiting progress)
  /-- It waits, but the link will be given up next. -/
  | doomed (rest : List (Errand ρ τ))
      (hqueue : progress.link.queue = .message (.event .linkDown) :: rest)
      (h : Waiting ⟨{ progress.link with queue := rest }, progress.log⟩)
  /-- It is dropped, because the link is connected. -/
  | dropped (h : Dropped progress)
  /-- It is what the link does next. -/
  | taken (hstate : progress.link.state = .disconnected)
      (hqueue : ∃ rest, progress.link.queue = .message .connect :: rest)
      (hout : DropsOut progress.log)
  /-- The transport was asked to connect, after the link had dropped out. -/
  | recalled (hasked : Connects progress.log) (hout : DropsOut progress.log)

/-- When there is nothing left to do, the transport was asked to connect exactly if the link has
dropped out. -/
theorem Fate.connects_iff {progress : Progress σ ρ τ} (h : Fate progress)
    (hqueue : progress.link.queue = []) : Connects progress.log ↔ DropsOut progress.log := by
  cases h with
  | waits h => exact iff_of_false h.asked h.up
  | doomed rest hcons _ => cases hqueue.symm.trans hcons
  | dropped h => exact iff_of_false h.asked h.up
  | taken _ hcons _ =>
      obtain ⟨rest, hcons⟩ := hcons
      cases hqueue.symm.trans hcons
  | recalled hasked hout => exact iff_of_true hasked hout

theorem Waiting.aside {before after : Progress σ ρ τ} (h : Waiting before)
    (hafter : Aside before after) : Waiting after where
  transient := by
    rw [hafter.state]
    exact h.transient
  some := by
    rw [hafter.deferred]
    exact h.some
  deferred := by
    rw [hafter.deferred]
    exact h.deferred
  queue := hafter.exists_drops h.queue
  asked hasked := h.asked (hafter.connects.1 hasked)
  up hout := h.up (hafter.dropsOut.1 hout)

/-- A request that waits is dropped, taken up, or waits on when the link moves to another state. -/
theorem Waiting.moved {next : LinkState} {before after : Progress σ ρ τ} (h : Waiting before)
    (hafter : Moved next before after) : Fate after := by
  obtain ⟨more, hmore⟩ := hafter.queue
  obtain ⟨count, hdrops⟩ := exists_drops_append h.queue more
  rw [hdrops] at hmore
  have hasked : ¬Connects after.log := fun hasked => h.asked (hafter.connects.1 hasked)
  have hup (hne : next ≠ .disconnected) : ¬DropsOut after.log := by
    rw [hafter.dropsOut, or_iff_left hne]
    exact h.up
  have hwaiting (hstable : next.isStable = false) (hne : next ≠ .disconnected) :
      Waiting after := by
    have hkept : after.link.deferred = before.link.deferred := by
      rw [hafter.deferred, hstable, if_neg Bool.false_ne_true]
    refine ⟨hafter.state ▸ hstable, ?_, ?_, ⟨count, ?_⟩, hasked, hup hne⟩
    · rw [hkept]
      exact h.some
    · rw [hkept]
      exact h.deferred
    · rw [hmore, if_neg hne, List.nil_append]
  cases next with
  | disconnected =>
      obtain ⟨message, rest, hcons⟩ := List.exists_cons_of_ne_nil h.some
      have hconnect : message = .connect := h.deferred message (hcons ▸ List.mem_cons_self ..)
      refine .taken hafter.state ?_ (hafter.dropsOut.2 (.inr rfl))
      rw [hmore, if_pos rfl, hcons, hconnect]
      exact ⟨_, rfl⟩
  | connecting => exact .waits (hwaiting rfl nofun)
  | connected => exact .dropped ⟨hafter.state, ⟨_, hmore⟩, hasked, hup nofun⟩
  | disconnecting => exact .waits (hwaiting rfl nofun)

theorem Waiting.snoc {progress : Progress σ ρ τ} (h : Waiting progress) {effect : Effect}
    (hconnects : connects effect = false) (hdrops : dropsOut effect = false) :
    Waiting { progress with log := progress.log ++ [effect] } :=
  h.aside ((Aside.refl progress).snoc hconnects hdrops)

theorem Dropped.aside {before after : Progress σ ρ τ} (h : Dropped before)
    (hafter : Aside before after) : Dropped after where
  state := hafter.state.trans h.state
  queue := hafter.exists_drops h.queue
  asked hasked := h.asked (hafter.connects.1 hasked)
  up hout := h.up (hafter.dropsOut.1 hout)

theorem Dropped.snoc {progress : Progress σ ρ τ} (h : Dropped progress) {effect : Effect}
    (hconnects : connects effect = false) (hdrops : dropsOut effect = false) :
    Dropped { progress with log := progress.log ++ [effect] } :=
  h.aside ((Aside.refl progress).snoc hconnects hdrops)

/-- What leaves the link next does not change what becomes of the request. -/
theorem Fate.snoc {progress : Progress σ ρ τ} (h : Fate progress) {effect : Effect}
    (hconnects : connects effect = false) (hdrops : dropsOut effect = false) :
    Fate { progress with log := progress.log ++ [effect] } := by
  cases h with
  | waits h => exact .waits (h.snoc hconnects hdrops)
  | doomed rest hqueue h => exact .doomed rest hqueue (h.snoc hconnects hdrops)
  | dropped h => exact .dropped (h.snoc hconnects hdrops)
  | taken hstate hqueue hout => exact .taken hstate hqueue (persists_dropsOut _ _ hout)
  | recalled hasked hout =>
      exact .recalled (persists_connects _ _ hasked) (persists_dropsOut _ _ hout)

section Fate

variable [ProfileSession σ ρ τ] [DecidableEq τ] (hdiscreet : Discreet σ)

omit [ProfileSession σ ρ τ] [DecidableEq τ] in
theorem waiting_consult {α : Type} {work : Work σ τ α} (hwork : Quiet work) :
    Step.Upholds Waiting (Step.consult work : Step σ ρ τ α) := by
  intro scene progress h
  refine Step.yields_mono (aside_consult hwork scene _ (.refl progress)) ?_
  intro _ after hafter
  exact h.aside hafter

include hdiscreet

theorem passive_fate : PassiveMoves (Waiting : Progress σ ρ τ → Prop) Fate where
  ask request own hne := by
    intro scene progress h
    cases own with
    | connect => exact absurd rfl hne
    | disconnect | connectAudio | disconnectAudio => exact h.snoc rfl rfl
  introduce _ _ h := ⟨h.transient, h.some, h.deferred, h.queue, h.asked, h.up⟩
  transition next := by
    intro scene progress h
    by_cases hsame : progress.link.state = next
    · rw [yields_transition_of_eq hsame]
      exact .waits h
    · refine Step.yields_mono (yields_transition_moved hdiscreet hsame h.deferred) ?_
      intro _ after hafter
      exact h.moved hafter
  setAudio _ _ _ _ hstate h := nomatch (congrArg LinkState.isStable hstate).symm.trans h.transient
  stay _ h := .waits h

variable [Outlined ρ] {scene : Scene} {progress : Progress σ ρ τ}

/-- A message that is no request to connect, while one waits. -/
theorem yields_handle_message_fate {message : Message ρ} (hne : message ≠ .connect)
    (h : Waiting progress) :
    (handle (.message message) : Step σ ρ τ Unit).Yields scene progress fun _ after =>
      Fate after := by
  refine yields_handle ?_ fun after fault h => h.snoc rfl rfl
  have hwaits {α : Type} {step : Step σ ρ τ α} (hstep : Step.Upholds Waiting step) :
      Step.Leads Waiting Fate step := by
    intro scene progress h
    exact Step.yields_mono (hstep scene progress h) fun _ _ => .waits
  refine (passive_fate hdiscreet).leads_onMessage hne ?_ ?_ scene _ h
  · intro request _
    exact hwaits (waiting_consult fun log => (quiet_of_discreet hdiscreet log).onRequest request)
  · intro event _
    exact hwaits (waiting_consult fun log => (quiet_of_discreet hdiscreet log).onEvent event)

omit hdiscreet in
/-- An alarm, while a request waits: that of the present state gives the link up. -/
theorem yields_handle_alarm_fate {kind : AlarmKind τ} (h : Waiting progress) :
    (handle (.alarm kind) : Step σ ρ τ Unit).Yields scene progress fun _ after => Fate after := by
  refine yields_handle ?_ fun after fault h => h.snoc rfl rfl
  show (onAlarm kind : Step σ ρ τ Verdict).Yields scene progress _
  rw [onAlarm, Step.yields_bind, Step.yields_link]
  cases kind with
  | connect =>
      show (if progress.link.state = .connecting then _ else _ :
        Step σ ρ τ Verdict).Yields scene progress _
      rw [Step.yields_ite]
      split
      · exact .doomed _ rfl (h.snoc rfl rfl)
      · exact .waits h
  | disconnect =>
      show (if progress.link.state = .disconnecting then _ else _ :
        Step σ ρ τ Verdict).Yields scene progress _
      rw [Step.yields_ite]
      split
      · exact .doomed _ rfl h
      · exact .waits h
  | session kind =>
      show (if progress.link.state = .connected then _ else _ :
        Step σ ρ τ Verdict).Yields scene progress _
      rw [Step.yields_ite]
      split
      · next hstate => cases (congrArg LinkState.isStable hstate).symm.trans h.transient
      · exact .waits h

omit [Outlined ρ] in
/-- A request that is taken up leads to the transport. -/
theorem yields_connect_fate (hstate : progress.link.state = .disconnected)
    (hout : DropsOut progress.log) :
    (onConnect : Step σ ρ τ Verdict).Yields scene progress fun _ after => Fate after := by
  have hlasting := hdiscreet.lasting (ρ := ρ) persists_recalled
  -- whatever the transport says, it was asked, and nothing that follows takes that back
  have hasks : Step.Leads (fun before => DropsOut before.log)
      (AtLink fun _ log => Connects log ∧ DropsOut log) (do
        if ← Step.ask .connect then
          transition .connecting
          return .ok ()
        else return .error (.rejected "connect") : Step σ ρ τ Verdict) := by
    refine Step.Leads.bind (R := AtLink fun _ log => Connects log ∧ DropsOut log) ?_ fun _ => ?_
    · exact fun _ _ hout => ⟨connects_snoc.2 (.inr rfl), persists_dropsOut _ _ hout⟩
    · refine Step.Upholds.ite (fun _ => ?_) fun _ => .pure _
      exact .bind (hlasting.upholds_transition .connecting) fun _ => .pure _
  rw [onConnect, Step.yields_bind, Step.yields_link, hstate]
  refine Step.yields_mono (hasks scene progress hout) ?_
  rintro _ after ⟨hasked, hout⟩
  exact .recalled hasked hout

/-- Once the transport was asked, this is not taken back. -/
theorem yields_handle_recalled {errand : Errand ρ τ} (hasked : Connects progress.log)
    (hout : DropsOut progress.log) :
    (handle errand : Step σ ρ τ Unit).Yields scene progress fun _ after => Fate after := by
  have hlasting := hdiscreet.lasting (ρ := ρ) persists_recalled
  refine Step.yields_mono (hlasting.upholds_handle errand scene progress ⟨hasked, hout⟩) ?_
  rintro _ after ⟨hasked, hout⟩
  exact .recalled hasked hout

omit [ProfileSession σ ρ τ] [DecidableEq τ] hdiscreet [Outlined ρ] in
/-- While the link is connected, a wish that the audio be dropped changes nothing. -/
theorem yields_dropAudio_dropped (h : Dropped progress) :
    (onDisconnectAudio : Step σ ρ τ Verdict).Yields scene progress fun _ after =>
      Dropped after :=
  leads_onDisconnectAudio (fun _ _ h => h.snoc rfl rfl) (fun _ h => h) scene progress h

/-- The errands that a link makes for itself, while a request waits or has waited. -/
theorem yields_handle_fate {errand : Errand ρ τ} {rest : List (Errand ρ τ)} (h : Fate progress)
    (hcons : progress.link.queue = errand :: rest) :
    (handle errand : Step σ ρ τ Unit).Yields scene
      ⟨{ progress.link with queue := rest }, progress.log⟩ fun _ after => Fate after := by
  cases h with
  | waits h =>
      obtain ⟨count, hqueue⟩ := h.queue
      obtain ⟨rfl, hrest⟩ := of_drops_eq_cons (hqueue.symm.trans hcons)
      refine yields_handle_message_fate hdiscreet nofun ?_
      exact ⟨h.transient, h.some, h.deferred, hrest, h.asked, h.up⟩
  | doomed others hqueue h =>
      obtain ⟨rfl, rfl⟩ := List.cons.inj (hqueue.symm.trans hcons)
      exact yields_handle_message_fate hdiscreet nofun h
  | dropped h =>
      obtain ⟨count, hqueue⟩ := h.queue
      obtain ⟨rfl, hrest⟩ := of_drops_eq_cons (hqueue.symm.trans hcons)
      refine yields_handle ?_ fun after fault h => h.snoc rfl rfl
      refine Step.yields_mono (yields_dropAudio_dropped ⟨h.state, hrest, h.asked, h.up⟩) ?_
      intro _ after hafter
      exact .dropped hafter
  | taken hstate hqueue hout =>
      obtain ⟨others, hqueue⟩ := hqueue
      obtain ⟨rfl, rfl⟩ := List.cons.inj (hqueue.symm.trans hcons)
      refine yields_handle ?_ fun after fault h => h.snoc rfl rfl
      exact yields_connect_fate hdiscreet hstate hout
  | recalled hasked hout => exact yields_handle_recalled hdiscreet hasked hout

omit [DecidableEq τ] [Outlined ρ] in
/-- An alarm of a connected link is for the profile, or is of no matter. -/
theorem yields_onAlarm_dropped {kind : AlarmKind τ} (h : Dropped progress) :
    (onAlarm kind : Step σ ρ τ Verdict).Yields scene progress fun _ after => Dropped after := by
  rw [onAlarm, Step.yields_bind, Step.yields_link, h.state]
  cases kind with
  | connect => exact h
  | disconnect => exact h
  | session kind =>
      have hquiet : Quiet (ProfileSession.onAlarm (σ := σ) kind) := fun log =>
        (quiet_of_discreet hdiscreet log).onAlarm kind
      refine Step.yields_mono (aside_consult hquiet scene _ (.refl progress)) ?_
      intro _ after hafter
      exact h.aside hafter

/-- An alarm that goes off with nothing else to do. -/
theorem yields_alarm_fate {kind : AlarmKind τ} {others : Alarms (AlarmKind τ)} (h : Fate progress)
    (hempty : progress.link.queue = []) :
    (handle (.alarm kind) : Step σ ρ τ Unit).Yields scene
      ⟨{ progress.link with alarms := others, queue := [] }, progress.log⟩
      fun _ after => Fate after := by
  cases h with
  | waits h =>
      refine yields_handle_alarm_fate ?_
      exact ⟨h.transient, h.some, h.deferred, ⟨0, rfl⟩, h.asked, h.up⟩
  | doomed rest hqueue h => cases hempty.symm.trans hqueue
  | dropped h =>
      refine yields_handle ?_ fun after fault h => h.snoc rfl rfl
      have hdropped :
          Dropped ⟨{ progress.link with alarms := others, queue := [] }, progress.log⟩ :=
        ⟨h.state, ⟨0, rfl⟩, h.asked, h.up⟩
      refine Step.yields_mono (yields_onAlarm_dropped hdiscreet hdropped) ?_
      intro _ after hafter
      exact .dropped hafter
  | taken hstate hqueue hout =>
      obtain ⟨rest, hqueue⟩ := hqueue
      cases hempty.symm.trans hqueue
  | recalled hasked hout => exact yields_handle_recalled hdiscreet hasked hout

/-- With a request that waits, a link asks to connect exactly if it drops out, unless it is told to
connect. -/
theorem connects_respond_of_waiting {link : Link σ ρ τ} {impulse : Impulse ρ} (hrest : AtRest link)
    (hsome : link.deferred ≠ []) (htold : impulse.isConnect = false) :
    Connects (link.respond impulse).2 ↔ DropsOut (link.respond impulse).2 := by
  have hwaiting : Waiting (⟨link, []⟩ : Progress σ ρ τ) :=
    ⟨hrest.isStable_eq_false hsome, hsome, hrest.deferred, ⟨0, hrest.queue⟩, Bool.false_ne_true,
      Bool.false_ne_true⟩
  have hfate : Fate ⟨(link.respond impulse).1, (link.respond impulse).2⟩ := by
    cases impulse with
    | hand scene message =>
        have hne : message ≠ .connect := by
          rintro rfl
          cases htold
        refine respond_hand hrest.queue (yields_handle_message_fate hdiscreet hne hwaiting) ?_
        intro progress errand rest h hcons
        exact yields_handle_fate hdiscreet h hcons
    | wake scene =>
        refine respond_wake_served hrest.queue (.waits hwaiting) ?_ ?_
        · intro progress kind others h hempty _
          exact yields_alarm_fate hdiscreet h hempty
        · intro progress errand rest h hcons
          exact yields_handle_fate hdiscreet h hcons
  exact hfate.connects_iff (queue_respond hrest.queue impulse)

/-! ### Impulses and lives -/

/-- Without being told to, a link asks to connect exactly if it drops out while a request to connect
waits. -/
theorem connects_respond_iff {link : Link σ ρ τ} {impulse : Impulse ρ} (hrest : AtRest link)
    (htold : impulse.isConnect = false) :
    Connects (link.respond impulse).2 ↔ Recalls link impulse := by
  by_cases hnone : link.deferred = []
  · refine iff_of_false (not_connects_respond hdiscreet hrest.queue hnone htold) ?_
    exact fun hrecalls => hrecalls.1 hnone
  · rw [connects_respond_of_waiting hdiscreet hrest hnone htold]
    exact (and_iff_right hnone).symm

/-- **In a life in which it is not told to connect, a link asks to connect exactly if some impulse
recalls a request.** -/
theorem connects_live_iff (hcareful : Careful σ) {link : Link σ ρ τ} (hrest : AtRest link)
    {impulses : List (Impulse ρ)}
    (htold : ∀ impulse ∈ impulses, impulse.isConnect = false) :
    Connects (link.live impulses).2 ↔ ∃ before impulse, before ++ [impulse] <+: impulses ∧
      Recalls (link.live before).1 impulse := by
  refine any_live_iff.trans ?_
  refine exists_congr fun before => exists_congr fun impulse => and_congr_right fun hprefix => ?_
  have hmem : impulse ∈ impulses :=
    hprefix.subset (List.mem_append_right _ (List.mem_singleton_self _))
  exact connects_respond_iff hdiscreet (atRest_live hcareful hrest.queue hrest.bounded before)
    (htold impulse hmem)

end Fate

end Link

end AudioLink
