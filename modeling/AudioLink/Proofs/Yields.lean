/-
**What work and steps yield.**

Work at a desk and steps of a link are both written in a monad of states.  What one of them does is
said here by what holds after it: `step.Yields scene progress post` says that `post` holds of the
answer and of the link after the step, when it is begun at `progress`.  The equations below take
such a statement apart along the step, so that no proof has to run one by hand.

A property that nothing the step does can spoil is upheld by it.  Whether it is can be read off the
shape of the step: reading never spoils anything, and doing two things upholds what both uphold.

Main definitions:

* `AudioLink.Work.Yields`, `AudioLink.Step.Yields` — what holds after work, after a step;
* `AudioLink.Work.Upholds`, `AudioLink.Step.Upholds` — a property is kept, whatever the answers of
  the transport;
* `AudioLink.Step.Leads` — one property leads to another;
* `AudioLink.ProfileUpholds` — a profile keeps a property on every occasion.

Main results:

* `AudioLink.Step.yields_consult` — a step in which the profile is consulted yields what the work
  of the profile yields, once its desk is cleared;
* `AudioLink.Work.Upholds.bind`, `AudioLink.Step.Upholds.bind` — doing one thing after another.
-/
import AudioLink.Link.Handling

set_option relaxedAutoImplicit false
set_option autoImplicit false

namespace AudioLink

variable {σ ρ τ : Type} {α β : Type}

/-! ### Work at the desk -/

namespace Work

/-- After the work, begun at `desk`, `post` holds of its answer and of the desk. -/
def Yields (work : Work σ τ α) (view : View) (desk : Desk σ τ) (post : α → Desk σ τ → Prop) :
    Prop :=
  post ((work.run view).run desk).1 ((work.run view).run desk).2

section Equations

variable {view : View} {desk : Desk σ τ}

theorem yields_mono {work : Work σ τ α} {post post' : α → Desk σ τ → Prop}
    (h : work.Yields view desk post) (himp : ∀ a desk, post a desk → post' a desk) :
    work.Yields view desk post' :=
  himp _ _ h

/-- Two things hold after some work if each of them does. -/
theorem yields_and {work : Work σ τ α} {post post' : α → Desk σ τ → Prop} :
    (work.Yields view desk fun a after => post a after ∧ post' a after) ↔
      work.Yields view desk post ∧ work.Yields view desk post' :=
  Iff.rfl

@[simp] theorem yields_pure (a : α) {post : α → Desk σ τ → Prop} :
    (pure a : Work σ τ α).Yields view desk post ↔ post a desk := Iff.rfl

@[simp] theorem yields_bind (work : Work σ τ α) (rest : α → Work σ τ β)
    {post : β → Desk σ τ → Prop} :
    (work >>= rest).Yields view desk post ↔
      work.Yields view desk fun a desk => (rest a).Yields view desk post := Iff.rfl

@[simp] theorem yields_map (f : α → β) (work : Work σ τ α) {post : β → Desk σ τ → Prop} :
    (f <$> work).Yields view desk post ↔
      work.Yields view desk fun a desk => post (f a) desk := Iff.rfl

@[simp] theorem yields_read {post : View → Desk σ τ → Prop} :
    (read : Work σ τ View).Yields view desk post ↔ post view desk := Iff.rfl

@[simp] theorem yields_now {post : Instant → Desk σ τ → Prop} :
    (now : Work σ τ Instant).Yields view desk post ↔ post view.now desk := Iff.rfl

@[simp] theorem yields_session {post : σ → Desk σ τ → Prop} :
    (session : Work σ τ σ).Yields view desk post ↔ post desk.session desk := Iff.rfl

@[simp] theorem yields_update (f : σ → σ) {post : Unit → Desk σ τ → Prop} :
    (update f : Work σ τ Unit).Yields view desk post ↔
      post () { desk with session := f desk.session } := Iff.rfl

@[simp] theorem yields_announce (report : Report) {post : Unit → Desk σ τ → Prop} :
    (announce report : Work σ τ Unit).Yields view desk post ↔
      post () { desk with log := desk.log ++ [.notice (.report report)] } := Iff.rfl

@[simp] theorem yields_announceAll (reports : List Report) {post : Unit → Desk σ τ → Prop} :
    (announceAll reports : Work σ τ Unit).Yields view desk post ↔
      post () { desk with log := desk.log ++ reports.map fun r => .notice (.report r) } := Iff.rfl

@[simp] theorem yields_dropAudio {post : Unit → Desk σ τ → Prop} :
    (dropAudio : Work σ τ Unit).Yields view desk post ↔
      post () { desk with drops := desk.drops + 1 } := Iff.rfl

@[simp] theorem yields_arm [DecidableEq τ] (kind : τ) (delay : Duration)
    {post : Unit → Desk σ τ → Prop} :
    (arm kind delay : Work σ τ Unit).Yields view desk post ↔
      post () { desk with alarms := desk.alarms.schedule (.session kind) (view.now + delay) } :=
  Iff.rfl

@[simp] theorem yields_disarm [DecidableEq τ] (kind : τ) {post : Unit → Desk σ τ → Prop} :
    (disarm kind : Work σ τ Unit).Yields view desk post ↔
      post () { desk with alarms := desk.alarms.cancel (.session kind) } := Iff.rfl

@[simp] theorem yields_isArmed [DecidableEq τ] (kind : τ) {post : Bool → Desk σ τ → Prop} :
    (isArmed kind : Work σ τ Bool).Yields view desk post ↔
      post (desk.alarms.isArmed (.session kind)) desk := Iff.rfl

@[simp] theorem yields_ite {c : Prop} [Decidable c] {yes no : Work σ τ α}
    {post : α → Desk σ τ → Prop} :
    (if c then yes else no).Yields view desk post ↔
      if c then yes.Yields view desk post else no.Yields view desk post := by
  split <;> rfl

end Equations

/-! ### Properties that work upholds -/

/-- Whatever the profile sees, the work does not spoil `I`. -/
def Upholds (I : Desk σ τ → Prop) (work : Work σ τ α) : Prop :=
  ∀ view desk, I desk → work.Yields view desk fun _ desk => I desk

namespace Upholds

variable {I : Desk σ τ → Prop}

theorem pure (a : α) : Upholds I (Pure.pure a : Work σ τ α) := fun _ _ h => h

theorem bind {work : Work σ τ α} {rest : α → Work σ τ β} (hwork : Upholds I work)
    (hrest : ∀ a, Upholds I (rest a)) : Upholds I (work >>= rest) :=
  fun view desk h => hrest _ view _ (hwork view desk h)

theorem ite {c : Prop} [Decidable c] {yes no : Work σ τ α} (hyes : c → Upholds I yes)
    (hno : ¬c → Upholds I no) : Upholds I (if c then yes else no) := by
  split
  · next h => exact hyes h
  · next h => exact hno h

theorem read : Upholds I (MonadReader.read : Work σ τ View) := fun _ _ h => h

theorem now : Upholds I (Work.now : Work σ τ Instant) := fun _ _ h => h

theorem session : Upholds I (Work.session : Work σ τ σ) := fun _ _ h => h

end Upholds

end Work

/-- On whatever occasion the profile is consulted, it does not spoil `I`. -/
structure ProfileUpholds (σ : Type) {ρ τ : Type} [ProfileSession σ ρ τ] (I : Desk σ τ → Prop) :
    Prop where
  onConnected : Work.Upholds I ProfileSession.onConnected
  onDisconnected : Work.Upholds I ProfileSession.onDisconnected
  onAudioChanged : ∀ previous current wideband,
    Work.Upholds I (ProfileSession.onAudioChanged previous current wideband)
  onEvent : ∀ event, Work.Upholds I (ProfileSession.onEvent event)
  onRequest : ∀ request, Work.Upholds I (ProfileSession.onRequest request)
  onAlarm : ∀ kind, Work.Upholds I (ProfileSession.onAlarm kind)

/-- A profile that keeps two properties keeps both together. -/
theorem ProfileUpholds.and [ProfileSession σ ρ τ] {I J : Desk σ τ → Prop}
    (hI : ProfileUpholds σ I) (hJ : ProfileUpholds σ J) :
    ProfileUpholds σ fun desk => I desk ∧ J desk where
  onConnected view desk h := ⟨hI.onConnected view desk h.1, hJ.onConnected view desk h.2⟩
  onDisconnected view desk h := ⟨hI.onDisconnected view desk h.1, hJ.onDisconnected view desk h.2⟩
  onAudioChanged previous current wideband view desk h :=
    ⟨hI.onAudioChanged previous current wideband view desk h.1,
      hJ.onAudioChanged previous current wideband view desk h.2⟩
  onEvent event view desk h := ⟨hI.onEvent event view desk h.1, hJ.onEvent event view desk h.2⟩
  onRequest request view desk h :=
    ⟨hI.onRequest request view desk h.1, hJ.onRequest request view desk h.2⟩
  onAlarm kind view desk h := ⟨hI.onAlarm kind view desk h.1, hJ.onAlarm kind view desk h.2⟩

/-! ### Steps of a link -/

namespace Step

/-- After the step, begun at `progress`, `post` holds of its answer and of the link with its
log. -/
def Yields (step : Step σ ρ τ α) (scene : Scene) (progress : Progress σ ρ τ)
    (post : α → Progress σ ρ τ → Prop) : Prop :=
  post ((step.run scene).run progress).1 ((step.run scene).run progress).2

section Equations

variable {scene : Scene} {progress : Progress σ ρ τ}

/-- What holds whatever happened holds after a step. -/
theorem yields_of_forall {step : Step σ ρ τ α} {post : α → Progress σ ρ τ → Prop}
    (h : ∀ a progress, post a progress) : step.Yields scene progress post :=
  h _ _

theorem yields_mono {step : Step σ ρ τ α} {post post' : α → Progress σ ρ τ → Prop}
    (h : step.Yields scene progress post)
    (himp : ∀ a progress, post a progress → post' a progress) :
    step.Yields scene progress post' :=
  himp _ _ h

/-- Two things hold after a step if each of them does. -/
theorem yields_and {step : Step σ ρ τ α} {post post' : α → Progress σ ρ τ → Prop} :
    (step.Yields scene progress fun a after => post a after ∧ post' a after) ↔
      step.Yields scene progress post ∧ step.Yields scene progress post' :=
  Iff.rfl

@[simp] theorem yields_pure (a : α) {post : α → Progress σ ρ τ → Prop} :
    (pure a : Step σ ρ τ α).Yields scene progress post ↔ post a progress := Iff.rfl

@[simp] theorem yields_bind (step : Step σ ρ τ α) (rest : α → Step σ ρ τ β)
    {post : β → Progress σ ρ τ → Prop} :
    (step >>= rest).Yields scene progress post ↔
      step.Yields scene progress fun a progress => (rest a).Yields scene progress post := Iff.rfl

@[simp] theorem yields_read {post : Scene → Progress σ ρ τ → Prop} :
    (read : Step σ ρ τ Scene).Yields scene progress post ↔ post scene progress := Iff.rfl

@[simp] theorem yields_link {post : Link σ ρ τ → Progress σ ρ τ → Prop} :
    (link : Step σ ρ τ (Link σ ρ τ)).Yields scene progress post ↔ post progress.link progress :=
  Iff.rfl

@[simp] theorem yields_change (f : Link σ ρ τ → Link σ ρ τ)
    {post : Unit → Progress σ ρ τ → Prop} :
    (change f).Yields scene progress post ↔ post () { progress with link := f progress.link } :=
  Iff.rfl

@[simp] theorem yields_ask (request : Outgoing) {post : Bool → Progress σ ρ τ → Prop} :
    (ask request : Step σ ρ τ Bool).Yields scene progress post ↔
      post (scene.transport progress.log request)
        { progress with
          log := progress.log ++ [.call request (scene.transport progress.log request)] } :=
  Iff.rfl

@[simp] theorem yields_announce (notice : Notice) {post : Unit → Progress σ ρ τ → Prop} :
    (announce notice : Step σ ρ τ Unit).Yields scene progress post ↔
      post () { progress with log := progress.log ++ [.notice notice] } := Iff.rfl

@[simp] theorem yields_ite {c : Prop} [Decidable c] {yes no : Step σ ρ τ α}
    {post : α → Progress σ ρ τ → Prop} :
    (if c then yes else no).Yields scene progress post ↔
      if c then yes.Yields scene progress post else no.Yields scene progress post := by
  split <;> rfl

/-- What the profile sees of a link. -/
def view (scene : Scene) (link : Link σ ρ τ) : View :=
  { scene with link := link.state, audio := link.audio }

/-- The desk at which the profile is consulted. -/
def desk (progress : Progress σ ρ τ) : Desk σ τ where
  session := progress.link.session
  alarms := progress.link.alarms
  log := progress.log
  drops := 0

/-- A step in which the profile is consulted yields what its work yields, once the desk is
cleared. -/
theorem yields_consult (work : Work σ τ α) {post : α → Progress σ ρ τ → Prop} :
    (consult work : Step σ ρ τ α).Yields scene progress post ↔
      work.Yields (view scene progress.link) (desk progress) fun a desk =>
        post a ⟨settle progress.link desk, desk.log⟩ := Iff.rfl

end Equations

/-! ### Properties that a step upholds -/

/-- Whatever the scene, the step does not spoil `I`. -/
def Upholds (I : Progress σ ρ τ → Prop) (step : Step σ ρ τ α) : Prop :=
  ∀ scene progress, I progress → step.Yields scene progress fun _ progress => I progress

namespace Upholds

variable {I : Progress σ ρ τ → Prop}

theorem pure (a : α) : Upholds I (Pure.pure a : Step σ ρ τ α) := fun _ _ h => h

theorem bind {step : Step σ ρ τ α} {rest : α → Step σ ρ τ β} (hstep : Upholds I step)
    (hrest : ∀ a, Upholds I (rest a)) : Upholds I (step >>= rest) :=
  fun scene progress h => hrest _ scene _ (hstep scene progress h)

theorem ite {c : Prop} [Decidable c] {yes no : Step σ ρ τ α} (hyes : c → Upholds I yes)
    (hno : ¬c → Upholds I no) : Upholds I (if c then yes else no) := by
  split
  · next h => exact hyes h
  · next h => exact hno h

theorem read : Upholds I (MonadReader.read : Step σ ρ τ Scene) := fun _ _ h => h

theorem link : Upholds I (Step.link : Step σ ρ τ (Link σ ρ τ)) := fun _ _ h => h

end Upholds

/-! ### What a step leads to -/

/-- Whatever the scene, the step leads from `Q` to `P`. -/
def Leads (Q P : Progress σ ρ τ → Prop) (step : Step σ ρ τ α) : Prop :=
  ∀ scene progress, Q progress → step.Yields scene progress fun _ progress => P progress

namespace Leads

variable {Q R P : Progress σ ρ τ → Prop}

theorem pure (a : α) (h : ∀ progress, Q progress → P progress) :
    Leads Q P (Pure.pure a : Step σ ρ τ α) :=
  fun _ progress hQ => h progress hQ

theorem bind {step : Step σ ρ τ α} {rest : α → Step σ ρ τ β} (hstep : Leads Q R step)
    (hrest : ∀ a, Leads R P (rest a)) : Leads Q P (step >>= rest) :=
  fun scene progress h => hrest _ scene _ (hstep scene progress h)

theorem ite {c : Prop} [Decidable c] {yes no : Step σ ρ τ α} (hyes : c → Leads Q P yes)
    (hno : ¬c → Leads Q P no) : Leads Q P (if c then yes else no) := by
  split
  · next h => exact hyes h
  · next h => exact hno h

theorem link : Leads Q Q (Step.link : Step σ ρ τ (Link σ ρ τ)) := fun _ _ h => h

end Leads

end Step

end AudioLink
