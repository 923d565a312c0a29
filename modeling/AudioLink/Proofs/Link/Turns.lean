/-
**Turns of a link.**

When a link moves to another state it has much to do: it silences the audio, strikes out alarms, and
lets the profile do its work.  None of this is about connecting.  All that a turn does about the
requests to connect that wait is this: when the link comes to be connected they are dropped, when it
drops out they are taken up, and otherwise they wait on.

Main definitions:

* `AudioLink.Link.Connects`, `AudioLink.Link.DropsOut` — the transport was asked to connect, and the
  link has come to be disconnected;
* `AudioLink.Link.Aside` — between two moments nothing happened that is about connecting;
* `AudioLink.Link.Moved` — what moving to another state does about the requests that wait.

Main results:

* `AudioLink.Link.quiet_of_discreet` — the work of a discreet profile is not about connecting;
* `AudioLink.Link.yields_transition_moved` — **moving to another state takes up what waits, drops
  it, or lets it wait**.
-/

import AudioLink.Proofs.Link.Lasting

set_option relaxedAutoImplicit false
set_option autoImplicit false

namespace AudioLink

namespace Link

variable {σ ρ τ : Type}

/-! ### What is asked and what is announced -/

/-- Whether an effect is that the transport is asked to connect. -/
def connects : Effect → Bool
  | .call .connect _ => true
  | _ => false

/-- The transport was asked to connect. -/
def Connects (log : List Effect) : Prop := log.any connects = true

/-- Whether an effect announces that the link has come to be disconnected. -/
def dropsOut : Effect → Bool
  | .notice (.linkChanged _ .disconnected) => true
  | _ => false

/-- The link has come to be disconnected. -/
def DropsOut (log : List Effect) : Prop := log.any dropsOut = true

instance (log : List Effect) : Decidable (Connects log) := inferInstanceAs (Decidable (_ = true))

instance (log : List Effect) : Decidable (DropsOut log) := inferInstanceAs (Decidable (_ = true))

theorem connects_snoc {log : List Effect} {effect : Effect} :
    Connects (log ++ [effect]) ↔ Connects log ∨ connects effect = true := any_snoc_iff

theorem dropsOut_snoc {log : List Effect} {effect : Effect} :
    DropsOut (log ++ [effect]) ↔ DropsOut log ∨ dropsOut effect = true := any_snoc_iff

theorem persists_connects : Persists Connects := persists_any connects

theorem persists_dropsOut : Persists DropsOut := persists_any dropsOut

theorem persists_recalled : Persists fun log => Connects log ∧ DropsOut log :=
  fun _ _ h => ⟨persists_connects _ _ h.1, persists_dropsOut _ _ h.2⟩

/-! ### What is done on the side -/

/-- The wishes of a profile that the audio be dropped. -/
def drops (count : Nat) : List (Errand ρ τ) := List.replicate count (.message .disconnectAudio)

theorem drops_append (queue : List (Errand ρ τ)) (count more : Nat) :
    queue ++ drops count ++ drops more = queue ++ drops (count + more) := by
  rw [List.append_assoc, drops, drops, List.replicate_append_replicate]
  rfl

/-- Wishes that join a queue which holds nothing else. -/
theorem exists_drops_append {queue : List (Errand ρ τ)} (h : ∃ count, queue = drops count)
    (more : Nat) : ∃ count, queue ++ drops more = drops count := by
  obtain ⟨count, rfl⟩ := h
  exact ⟨count + more, drops_append [] count more⟩

/-- The first of some wishes that the audio be dropped is one, and so are the others. -/
theorem of_drops_eq_cons {count : Nat} {errand : Errand ρ τ} {rest : List (Errand ρ τ)}
    (h : drops count = errand :: rest) :
    errand = .message .disconnectAudio ∧ ∃ others, rest = drops others := by
  cases count with
  | zero => cases h
  | succ count =>
      obtain ⟨rfl, rfl⟩ := List.cons.inj h
      exact ⟨rfl, count, rfl⟩

/-- Between two moments nothing happened that is about connecting: at most, the profile wished that
the audio be dropped. -/
structure Aside (before after : Progress σ ρ τ) : Prop where
  state : after.link.state = before.link.state
  deferred : after.link.deferred = before.link.deferred
  queue : ∃ count, after.link.queue = before.link.queue ++ drops count
  connects : Connects after.log ↔ Connects before.log
  dropsOut : DropsOut after.log ↔ DropsOut before.log

namespace Aside

variable {before after : Progress σ ρ τ}

theorem refl (progress : Progress σ ρ τ) : Aside progress progress :=
  ⟨rfl, rfl, ⟨0, (List.append_nil _).symm⟩, Iff.rfl, Iff.rfl⟩

/-- A queue in which there are only such wishes stays one. -/
theorem exists_drops (h : Aside before after)
    (honly : ∃ count, before.link.queue = drops count) :
    ∃ count, after.link.queue = drops count := by
  obtain ⟨more, hmore⟩ := h.queue
  rw [hmore]
  exact exists_drops_append honly more

/-- What leaves the link next is about something else. -/
theorem snoc (h : Aside before after) {effect : Effect} (hconnects : Link.connects effect = false)
    (hdrops : Link.dropsOut effect = false) :
    Aside before { after with log := after.log ++ [effect] } where
  state := h.state
  deferred := h.deferred
  queue := h.queue
  connects := by rw [connects_snoc, h.connects, hconnects, or_iff_left Bool.false_ne_true]
  dropsOut := by rw [dropsOut_snoc, h.dropsOut, hdrops, or_iff_left Bool.false_ne_true]

end Aside

section Steps

variable {before : Progress σ ρ τ}

/-- A change of other things is of no matter. -/
theorem aside_change {f : Link σ ρ τ → Link σ ρ τ} (hstate : ∀ link, (f link).state = link.state)
    (hdeferred : ∀ link, (f link).deferred = link.deferred)
    (hqueue : ∀ link, (f link).queue = link.queue) :
    Step.Upholds (Aside before) (Step.change f) := by
  intro scene progress h
  rw [Step.yields_change]
  exact ⟨(hstate _).trans h.state, (hdeferred _).trans h.deferred, (hqueue _).symm ▸ h.queue,
    h.connects, h.dropsOut⟩

/-- Work that never asks to connect, and announces no change of the link. -/
def Quiet {α : Type} (work : Work σ τ α) : Prop :=
  ∀ log, Work.Upholds (fun desk => (Connects desk.log ↔ Connects log) ∧
    (DropsOut desk.log ↔ DropsOut log)) work

theorem aside_consult {α : Type} {work : Work σ τ α} (hwork : Quiet work) :
    Step.Upholds (Aside before) (Step.consult work : Step σ ρ τ α) := by
  intro scene progress h
  rw [Step.yields_consult]
  refine Work.yields_mono (hwork _ _ (Step.desk progress) ⟨h.connects, h.dropsOut⟩) ?_
  rintro _ desk ⟨hconnects, hdrops⟩
  obtain ⟨count, hqueue⟩ := h.queue
  refine ⟨h.state, h.deferred, ⟨count + desk.drops, ?_⟩, hconnects, hdrops⟩
  show progress.link.queue ++ drops desk.drops = _
  rw [hqueue, drops_append]

variable [ProfileSession σ ρ τ]

/-- The work of a discreet profile is quiet. -/
theorem quiet_of_discreet (hdiscreet : Discreet σ) (log : List Effect) :
    ProfileUpholds σ fun desk =>
      (Connects desk.log ↔ Connects log) ∧ (DropsOut desk.log ↔ DropsOut log) := by
  refine hdiscreet (fun said => (Connects said ↔ Connects log) ∧ (DropsOut said ↔ DropsOut log)) ?_
  rintro said effect hown ⟨hconnects, hdrops⟩
  have hnone : connects effect = false ∧ dropsOut effect = false := by
    cases hown with
    | command command accepted _ => exact ⟨rfl, rfl⟩
    | report report => exact ⟨rfl, rfl⟩
  rw [connects_snoc, dropsOut_snoc, hnone.1, hnone.2, or_iff_left Bool.false_ne_true,
    or_iff_left Bool.false_ne_true]
  exact ⟨hconnects, hdrops⟩

variable (hdiscreet : Discreet σ)

include hdiscreet

variable [DecidableEq τ]

theorem turning_aside : Turning (Aside before : Progress σ ρ τ → Prop) where
  slight _ hf := aside_change hf.state hf.deferred hf.queue
  audioChanged _ _ _ := fun _ _ h => h.snoc rfl rfl
  onAudioChanged _ _ _ :=
    aside_consult fun log => (quiet_of_discreet hdiscreet log).onAudioChanged _ _ _

theorem aside_leave (state : LinkState) :
    Step.Upholds (Aside before) (leave state : Step σ ρ τ Unit) := by
  by_cases hconnected : state = .connected
  · subst hconnected
    refine .bind (turning_aside hdiscreet).upholds_silence fun _ => ?_
    exact aside_change (fun _ => rfl) (fun _ => rfl) fun _ => rfl
  · exact (turning_aside hdiscreet).upholds_leave hconnected

/-- On entering a state nothing is done about what waits, unless the link is connected now. -/
theorem aside_enter {state : LinkState} (hne : state ≠ .connected) :
    Step.Upholds (Aside before) (enter state : Step σ ρ τ Unit) := by
  cases state with
  | disconnected => exact aside_consult fun log => (quiet_of_discreet hdiscreet log).onDisconnected
  | connecting => exact (turning_aside hdiscreet).upholds_enter rfl
  | connected => exact absurd rfl hne
  | disconnecting => exact (turning_aside hdiscreet).upholds_enter rfl

end Steps

/-! ### Moving to another state -/

/-- On its way to another state a link has announced it, and done nothing about what waits. -/
structure Turned (next : LinkState) (before turned : Progress σ ρ τ) : Prop where
  state : turned.link.state = next
  deferred : turned.link.deferred = before.link.deferred
  queue : ∃ count, turned.link.queue = before.link.queue ++ drops count
  connects : Connects turned.log ↔ Connects before.log
  dropsOut : DropsOut turned.log ↔ DropsOut before.log ∨ next = .disconnected

/-- What moving to another state does: what waits is taken up when the link drops out, is dropped
when it is connected, and waits on otherwise. -/
structure Moved (next : LinkState) (before after : Progress σ ρ τ) : Prop where
  state : after.link.state = next
  deferred : after.link.deferred = if next.isStable then [] else before.link.deferred
  queue : ∃ count, after.link.queue =
    (if next = .disconnected then before.link.deferred.map .message else []) ++
      (before.link.queue ++ drops count)
  connects : Connects after.log ↔ Connects before.log
  dropsOut : DropsOut after.log ↔ DropsOut before.log ∨ next = .disconnected

section Moves

variable {next : LinkState} {before turned after : Progress σ ρ τ}

/-- The change of the state is announced. -/
theorem Aside.announce (h : Aside before after) (previous next : LinkState) :
    Turned next before ⟨{ after.link with state := next },
      after.log ++ [.notice (.linkChanged previous next)]⟩ where
  state := rfl
  deferred := h.deferred
  queue := h.queue
  connects := by
    rw [connects_snoc, h.connects]
    exact or_iff_left Bool.false_ne_true
  dropsOut := by
    rw [dropsOut_snoc, h.dropsOut]
    cases next <;> simp [Link.dropsOut]

theorem Turned.aside (h : Turned next before turned) (hafter : Aside turned after) :
    Turned next before after where
  state := hafter.state.trans h.state
  deferred := hafter.deferred.trans h.deferred
  queue := by
    obtain ⟨count, hqueue⟩ := h.queue
    obtain ⟨more, hmore⟩ := hafter.queue
    exact ⟨count + more, by rw [hmore, hqueue, drops_append]⟩
  connects := hafter.connects.trans h.connects
  dropsOut := hafter.dropsOut.trans h.dropsOut

variable [ProfileSession σ ρ τ] [DecidableEq τ] {scene : Scene} (hdiscreet : Discreet σ)

include hdiscreet

/-- When the link is connected now, the requests that wait are dropped, so that none is left to be
taken up. -/
theorem yields_enter_connected_moved (h : Turned .connected before turned)
    (hwaiting : ∀ message ∈ before.link.deferred, message = .connect) :
    (do enter .connected; replayDeferred : Step σ ρ τ Unit).Yields scene turned fun _ after =>
      Moved .connected before after := by
  have hnone : turned.link.deferred.filter (!·.isConnect) = [] := by
    rw [List.filter_eq_nil_iff]
    intro message hmessage
    rw [hwaiting message (h.deferred ▸ hmessage)]
    exact Bool.false_ne_true
  -- the link without the requests that have waited
  let dropped : Progress σ ρ τ := { turned with link := { turned.link with
    deferred := turned.link.deferred.filter (!·.isConnect) } }
  have hentered : (do silence; Step.consult ProfileSession.onConnected : Step σ ρ τ Unit).Yields
      scene dropped fun _ entered => Aside dropped entered :=
    Step.Upholds.bind (turning_aside hdiscreet).upholds_silence (fun _ =>
      aside_consult fun log => (quiet_of_discreet hdiscreet log).onConnected) scene _ (.refl _)
  rw [Step.yields_bind, enter, Step.yields_bind, Step.yields_change]
  refine Step.yields_mono hentered ?_
  intro _ entered hentered
  have hempty : entered.link.deferred = [] := hentered.deferred.trans hnone
  obtain ⟨count, hqueue⟩ := h.queue
  obtain ⟨more, hmore⟩ := hentered.queue
  rw [replayDeferred, Step.yields_change]
  refine ⟨hentered.state.trans h.state, rfl, ⟨count + more, ?_⟩,
    hentered.connects.trans h.connects, hentered.dropsOut.trans h.dropsOut⟩
  calc entered.link.deferred.map Errand.message ++ entered.link.queue
      = entered.link.queue := by rw [hempty, List.map_nil, List.nil_append]
    _ = turned.link.queue ++ drops more := hmore
    _ = before.link.queue ++ drops (count + more) := by rw [hqueue, drops_append]

/-- **Moving to another state takes up what waits, drops it, or lets it wait.** -/
theorem yields_transition_moved (hne : before.link.state ≠ next)
    (hwaiting : ∀ message ∈ before.link.deferred, message = .connect) :
    (transition next : Step σ ρ τ Unit).Yields scene before fun _ after =>
      Moved next before after := by
  rw [yields_transition_of_ne hne]
  refine Step.yields_mono (aside_leave hdiscreet _ scene _ (.refl before)) ?_
  intro _ left hleft
  have hturned := hleft.announce before.link.state next
  generalize Progress.mk _ (left.log ++ [.notice (.linkChanged before.link.state next)]) = turned
    at hturned ⊢
  by_cases hup : next = .connected
  · subst hup
    exact yields_enter_connected_moved hdiscreet hturned hwaiting
  · rw [Step.yields_bind]
    refine Step.yields_mono (aside_enter hdiscreet hup scene _ (.refl turned)) ?_
    intro _ entered hentered
    have hentered := hturned.aside hentered
    obtain ⟨count, hqueue⟩ := hentered.queue
    rw [Step.yields_ite]
    cases next with
    | connected => exact absurd rfl hup
    | disconnected =>
        refine ⟨hentered.state, rfl, ⟨count, ?_⟩, hentered.connects, hentered.dropsOut⟩
        show entered.link.deferred.map Errand.message ++ entered.link.queue = _
        rw [hentered.deferred, hqueue]
        rfl
    | connecting | disconnecting =>
        exact ⟨hentered.state, hentered.deferred, ⟨count, hqueue⟩, hentered.connects,
          hentered.dropsOut⟩

end Moves

end Link

end AudioLink
