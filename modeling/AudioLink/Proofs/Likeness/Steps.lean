/-
**Links that behave alike.**

Two links are fed the same, are woken at the same instants, and get the same answers from the
transport.  When the states of their profiles are alike they go on alike: they ask the same of the
transport and announce the same, but for the handles of calls.  What it means that two states are
alike is for the profile to say, and it has to do its part: on each occasion it must make of two
states that are alike the same, and leave them alike.

As to what the device is able to do, one of two links may know what the other does not, as long as
neither is connected: when a link comes up it is told anew.  A relation between the states of a
profile therefore has two strengths, and only the stronger is of use to a profile that is connected.

Main definitions:

* `AudioLink.Effect.Alike`, `AudioLink.Scene.Alike`, `AudioLink.Impulse.Alike` — what leaves a link
  and what it gets to see, but for the handles of calls;
* `AudioLink.Work.Alike`, `AudioLink.Step.Alike` — work and steps that make the same of what is
  alike;
* `AudioLink.Impartial` — a profile that makes the same of states that are alike;
* `AudioLink.Link.Akin`, `AudioLink.Link.Twins` — two links that differ only in the states of their
  profiles, and these are alike.

Main results:

* `AudioLink.Link.alike_handle` — an errand leaves twins twins;
* `AudioLink.Link.Twins.live` — **twins live alike**, if their profile is impartial.
-/

import AudioLink.Proofs.Likeness.Calls
import AudioLink.Proofs.Link.Life

set_option relaxedAutoImplicit false
set_option autoImplicit false

namespace AudioLink

variable {σ ρ τ α β : Type} {pairs : CallHandle → CallHandle → Prop}

/-! ### What leaves a link, and what it gets to see -/

/-- Two effects are the same but for the handle of a call, and the handles are paired. -/
def Effect.Alike (pairs : CallHandle → CallHandle → Prop) : Effect → Effect → Prop
  | .notice (.report (.callChanged first)), .notice (.report (.callChanged second)) =>
      first.Alike pairs second
  | effect, twin => effect = twin

/-- Two scenes that are the same, as far as the transport answers alike to what is alike. -/
structure Scene.Alike (pairs : CallHandle → CallHandle → Prop) (scene twin : Scene) : Prop where
  now : scene.now = twin.now
  preferences : scene.preferences = twin.preferences
  transport : ∀ log twinLog, List.Forall₂ (Effect.Alike pairs) log twinLog →
    scene.transport log = twin.transport twinLog

/-- A profile sees the same of two links. -/
structure View.Alike (pairs : CallHandle → CallHandle → Prop) (view twin : View) : Prop where
  scene : view.toScene.Alike pairs twin.toScene
  link : view.link = twin.link
  audio : view.audio = twin.audio

/-- Two impulses that are the same, in scenes that are alike. -/
inductive Impulse.Alike (pairs : CallHandle → CallHandle → Prop) : Impulse ρ → Impulse ρ → Prop
  | hand {scene twin : Scene} (message : Message ρ) (halike : scene.Alike pairs twin) :
      Alike pairs (.hand scene message) (.hand twin message)
  | wake {scene twin : Scene} (halike : scene.Alike pairs twin) :
      Alike pairs (.wake scene) (.wake twin)

/-- What has left two links stays alike when both send or announce something that is. -/
theorem forall₂_snoc {γ : Type} {R : γ → γ → Prop} {log twinLog : List γ} {effect twin : γ}
    (hlog : List.Forall₂ R log twinLog) (halike : R effect twin) :
    List.Forall₂ R (log ++ [effect]) (twinLog ++ [twin]) :=
  List.rel_append hlog (.cons halike .nil)

/-! ### Work at the desk -/

/-- Two desks with states of the profile that `R` relates, and everything else the same. -/
structure Desk.Alike (pairs : CallHandle → CallHandle → Prop) (R : σ → σ → Prop)
    (desk twin : Desk σ τ) : Prop where
  session : R desk.session twin.session
  alarms : desk.alarms = twin.alarms
  log : List.Forall₂ (Effect.Alike pairs) desk.log twin.log
  drops : desk.drops = twin.drops

namespace Work

variable {R : σ → σ → Prop}

/-- Two pieces of work that make the same of what is alike, and leave it alike. -/
def Alike (pairs : CallHandle → CallHandle → Prop) (R : σ → σ → Prop) (work twin : Work σ τ α) :
    Prop :=
  ∀ ⦃view twinView⦄, View.Alike pairs view twinView →
    ∀ ⦃desk twinDesk⦄, Desk.Alike pairs R desk twinDesk →
      ((work.run view).run desk).1 = ((twin.run twinView).run twinDesk).1 ∧
        ((work.run view).run desk).2.Alike pairs R ((twin.run twinView).run twinDesk).2

namespace Alike

theorem pure (a : α) : Alike pairs R (Pure.pure a : Work σ τ α) (Pure.pure a) :=
  fun _ _ _ _ _ hdesk => ⟨rfl, hdesk⟩

theorem bind {work twin : Work σ τ α} {rest twinRest : α → Work σ τ β}
    (hwork : Alike pairs R work twin) (hrest : ∀ a, Alike pairs R (rest a) (twinRest a)) :
    Alike pairs R (work >>= rest) (twin >>= twinRest) := by
  have hsame : ∀ a b, a = b → Alike pairs R (rest a) (twinRest b) := by
    rintro a _ rfl
    exact hrest a
  intro view twinView hview desk twinDesk hdesk
  obtain ⟨hanswer, hafter⟩ := hwork hview hdesk
  exact hsame _ _ hanswer hview hafter

theorem ite {c d : Prop} [Decidable c] [Decidable d] (hcd : c ↔ d) {yes no yes' no' : Work σ τ α}
    (hyes : c → Alike pairs R yes yes') (hno : ¬c → Alike pairs R no no') :
    Alike pairs R (if c then yes else no) (if d then yes' else no') := by
  by_cases h : c
  · rw [if_pos h, if_pos (hcd.1 h)]
    exact hyes h
  · rw [if_neg h, if_neg (mt hcd.2 h)]
    exact hno h

theorem bind_read {rest twinRest : View → Work σ τ α}
    (hrest : ∀ view twin, View.Alike pairs view twin → Alike pairs R (rest view) (twinRest twin)) :
    Alike pairs R (read >>= rest) (read >>= twinRest) :=
  fun _ _ hview _ _ hdesk => hrest _ _ hview hview hdesk

theorem bind_session {rest twinRest : σ → Work σ τ α}
    (hrest : ∀ s twin, R s twin → Alike pairs R (rest s) (twinRest twin)) :
    Alike pairs R (session >>= rest) (session >>= twinRest) :=
  fun _ _ hview _ _ hdesk => hrest _ _ hdesk.session hview hdesk

theorem now : Alike pairs R (Work.now : Work σ τ Instant) Work.now :=
  fun _ _ hview _ _ hdesk => ⟨hview.scene.now, hdesk⟩

theorem update {f g : σ → σ} (hfg : ∀ s twin, R s twin → R (f s) (g twin)) :
    Alike pairs R (Work.update f : Work σ τ Unit) (Work.update g) :=
  fun _ _ _ _ _ hdesk => ⟨rfl, hfg _ _ hdesk.session, hdesk.alarms, hdesk.log, hdesk.drops⟩

theorem send (command : Command) :
    Alike pairs R (Work.send command : Work σ τ Bool) (Work.send command) := by
  intro view twinView hview desk twinDesk hdesk
  have hanswer := congrFun (hview.scene.transport _ _ hdesk.log) (.command command)
  exact ⟨hanswer, hdesk.session, hdesk.alarms,
    forall₂_snoc hdesk.log (congrArg (Effect.call (.command command)) hanswer), hdesk.drops⟩

theorem announce {report twin : Report}
    (halike : Effect.Alike pairs (.notice (.report report)) (.notice (.report twin))) :
    Alike pairs R (Work.announce report : Work σ τ Unit) (Work.announce twin) :=
  fun _ _ _ _ _ hdesk =>
    ⟨rfl, hdesk.session, hdesk.alarms, forall₂_snoc hdesk.log halike, hdesk.drops⟩

theorem announceAll {reports twins : List Report} (halike : List.Forall₂
    (fun report twin => Effect.Alike pairs (.notice (.report report)) (.notice (.report twin)))
      reports twins) :
    Alike pairs R (Work.announceAll reports : Work σ τ Unit) (Work.announceAll twins) := by
  intro _ _ _ desk twinDesk hdesk
  refine ⟨rfl, hdesk.session, hdesk.alarms, List.rel_append hdesk.log ?_, hdesk.drops⟩
  exact List.forall₂_map_left_iff.2 (List.forall₂_map_right_iff.2 halike)

theorem dropAudio : Alike pairs R (Work.dropAudio : Work σ τ Unit) Work.dropAudio :=
  fun _ _ _ _ _ hdesk =>
    ⟨rfl, hdesk.session, hdesk.alarms, hdesk.log, congrArg (· + 1) hdesk.drops⟩

variable [DecidableEq τ]

theorem arm (kind : τ) (delay : Duration) :
    Alike pairs R (Work.arm kind delay : Work σ τ Unit) (Work.arm kind delay) := by
  intro view twinView hview desk twinDesk hdesk
  refine ⟨rfl, hdesk.session, ?_, hdesk.log, hdesk.drops⟩
  exact congrArg₂ (fun alarms now => alarms.schedule (.session kind) (now + delay)) hdesk.alarms
    hview.scene.now

theorem disarm (kind : τ) : Alike pairs R (Work.disarm kind : Work σ τ Unit) (Work.disarm kind) :=
  fun _ _ _ _ _ hdesk =>
    ⟨rfl, hdesk.session, congrArg (·.cancel (.session kind)) hdesk.alarms, hdesk.log, hdesk.drops⟩

theorem isArmed (kind : τ) :
    Alike pairs R (Work.isArmed kind : Work σ τ Bool) (Work.isArmed kind) :=
  fun _ _ _ _ _ hdesk => ⟨congrArg (·.isArmed (.session kind)) hdesk.alarms, hdesk⟩

end Alike

end Work

/-- A profile that makes the same of two states that are alike.  `Like` says which are; what the
device is able to do is known to be the same only if `known` holds, and that is when the link is
connected. -/
structure Impartial [ProfileSession σ ρ τ] (pairs : CallHandle → CallHandle → Prop)
    (Like : Prop → σ → σ → Prop) : Prop where
  weaken : ∀ {known less : Prop} {s twin : σ}, (less → known) → Like known s twin → Like less s twin
  patience : ∀ {known : Prop} {s twin : σ}, Like known s twin →
    ProfileSession.patience s = ProfileSession.patience twin
  onLinkUp : ∀ {known : Prop} {s twin : σ}, Like known s twin → ∀ capabilities,
    (ProfileSession.onLinkUp capabilities s).1 = (ProfileSession.onLinkUp capabilities twin).1 ∧
      Like True (ProfileSession.onLinkUp capabilities s).2
        (ProfileSession.onLinkUp capabilities twin).2
  onConnected : Work.Alike pairs (Like True) ProfileSession.onConnected ProfileSession.onConnected
  onDisconnected : ∀ known, Work.Alike pairs (Like known) ProfileSession.onDisconnected
    ProfileSession.onDisconnected
  onAudioChanged : ∀ known previous current wideband, Work.Alike pairs (Like known)
    (ProfileSession.onAudioChanged previous current wideband)
    (ProfileSession.onAudioChanged previous current wideband)
  onEvent : ∀ known event,
    Work.Alike pairs (Like known) (ProfileSession.onEvent event) (ProfileSession.onEvent event)
  onRequest : ∀ request,
    Work.Alike pairs (Like True) (ProfileSession.onRequest request)
      (ProfileSession.onRequest request)
  onAlarm : ∀ kind,
    Work.Alike pairs (Like True) (ProfileSession.onAlarm kind) (ProfileSession.onAlarm kind)

/-! ### Steps -/

/-- Two links that differ in nothing but the states of their profiles, and these are alike; as to
what the device is able to do, if `K` holds of the state that the links are in. -/
def Link.Akin (Like : Prop → σ → σ → Prop) (K : LinkState → Prop) (link twin : Link σ ρ τ) :
    Prop :=
  ∃ session, Like (K link.state) link.session session ∧ twin = { link with session := session }

/-- Two links in the middle of a step, related by `Q`, that have done the same. -/
structure Progress.Alike (pairs : CallHandle → CallHandle → Prop)
    (Q : Link σ ρ τ → Link σ ρ τ → Prop) (progress twin : Progress σ ρ τ) : Prop where
  link : Q progress.link twin.link
  log : List.Forall₂ (Effect.Alike pairs) progress.log twin.log

namespace Step

variable {Q M P : Link σ ρ τ → Link σ ρ τ → Prop} {Like : Prop → σ → σ → Prop}
  {K : LinkState → Prop}

/-- Two steps that make the same of links related by `Q`, and leave them related by `P`. -/
def Alike (pairs : CallHandle → CallHandle → Prop) (Q P : Link σ ρ τ → Link σ ρ τ → Prop)
    (step twin : Step σ ρ τ α) : Prop :=
  ∀ ⦃scene twinScene⦄, Scene.Alike pairs scene twinScene →
    ∀ ⦃progress twinProgress⦄, Progress.Alike pairs Q progress twinProgress →
      ((step.run scene).run progress).1 = ((twin.run twinScene).run twinProgress).1 ∧
        ((step.run scene).run progress).2.Alike pairs P ((twin.run twinScene).run twinProgress).2

namespace Alike

theorem weaken {step twin : Step σ ρ τ α} (hQ : ∀ link other, Q link other → M link other)
    (h : Alike pairs M P step twin) : Alike pairs Q P step twin :=
  fun _ _ hscene _ _ hprogress => h hscene ⟨hQ _ _ hprogress.link, hprogress.log⟩

theorem imp {step twin : Step σ ρ τ α} (hM : ∀ link other, M link other → P link other)
    (h : Alike pairs Q M step twin) : Alike pairs Q P step twin := by
  intro scene twinScene hscene progress twinProgress hprogress
  obtain ⟨hanswer, hafter⟩ := h hscene hprogress
  exact ⟨hanswer, hM _ _ hafter.link, hafter.log⟩

theorem pure (a : α) (hQ : ∀ link other, Q link other → P link other) :
    Alike pairs Q P (Pure.pure a : Step σ ρ τ α) (Pure.pure a) :=
  fun _ _ _ _ _ hprogress => ⟨rfl, hQ _ _ hprogress.link, hprogress.log⟩

theorem bind {step twin : Step σ ρ τ α} {rest twinRest : α → Step σ ρ τ β}
    (hstep : Alike pairs Q M step twin) (hrest : ∀ a, Alike pairs M P (rest a) (twinRest a)) :
    Alike pairs Q P (step >>= rest) (twin >>= twinRest) := by
  have hsame : ∀ a b, a = b → Alike pairs M P (rest a) (twinRest b) := by
    rintro a _ rfl
    exact hrest a
  intro scene twinScene hscene progress twinProgress hprogress
  obtain ⟨hanswer, hafter⟩ := hstep hscene hprogress
  exact hsame _ _ hanswer hscene hafter

theorem ite {c d : Prop} [Decidable c] [Decidable d] (hcd : c ↔ d)
    {yes no yes' no' : Step σ ρ τ α} (hyes : c → Alike pairs Q P yes yes')
    (hno : ¬c → Alike pairs Q P no no') :
    Alike pairs Q P (if c then yes else no) (if d then yes' else no') := by
  by_cases h : c
  · rw [if_pos h, if_pos (hcd.1 h)]
    exact hyes h
  · rw [if_neg h, if_neg (mt hcd.2 h)]
    exact hno h

theorem bind_read {rest twinRest : Scene → Step σ ρ τ α}
    (hrest : ∀ scene twin, Scene.Alike pairs scene twin →
      Alike pairs Q P (rest scene) (twinRest twin)) :
    Alike pairs Q P (read >>= rest) (read >>= twinRest) :=
  fun _ _ hscene _ _ hprogress => hrest _ _ hscene hscene hprogress

/-- What is done about two links may depend on what they have in common. -/
theorem bind_link_eq {rest twinRest : Link σ ρ τ → Step σ ρ τ α}
    (hrest : ∀ link session, Like (K link.state) link.session session →
      Alike pairs (fun this other => this = link ∧ other = { link with session := session }) P
        (rest link) (twinRest { link with session := session })) :
    Alike pairs (Link.Akin Like K) P (link >>= rest) (link >>= twinRest) := by
  rintro scene twinScene hscene ⟨progress, log⟩ ⟨twin, twinLog⟩ ⟨⟨session, hlike, rfl⟩, hlog⟩
  exact hrest progress session hlike hscene ⟨⟨rfl, rfl⟩, hlog⟩

/-- As long as the links are alike, it does not matter which they were. -/
theorem bind_link {rest twinRest : Link σ ρ τ → Step σ ρ τ α}
    (hrest : ∀ link session, Like (K link.state) link.session session →
      Alike pairs (Link.Akin Like K) P (rest link) (twinRest { link with session := session })) :
    Alike pairs (Link.Akin Like K) P (link >>= rest) (link >>= twinRest) := by
  refine .bind_link_eq fun link session hlike => .weaken ?_ (hrest link session hlike)
  rintro _ _ ⟨rfl, rfl⟩
  exact ⟨session, hlike, rfl⟩

theorem change {f g : Link σ ρ τ → Link σ ρ τ} (hfg : ∀ link other, Q link other →
    P (f link) (g other)) : Alike pairs Q P (Step.change f) (Step.change g) :=
  fun _ _ _ _ _ hprogress => ⟨rfl, hfg _ _ hprogress.link, hprogress.log⟩

theorem ask (request : Outgoing) :
    Alike pairs Q Q (Step.ask request : Step σ ρ τ Bool) (Step.ask request) := by
  intro scene twinScene hscene progress twinProgress hprogress
  have hanswer := congrFun (hscene.transport _ _ hprogress.log) request
  exact ⟨hanswer, hprogress.link,
    forall₂_snoc hprogress.log (congrArg (Effect.call request) hanswer)⟩

theorem announce {notice twin : Notice}
    (halike : Effect.Alike pairs (.notice notice) (.notice twin)) :
    Alike pairs Q Q (Step.announce notice : Step σ ρ τ Unit) (Step.announce twin) :=
  fun _ _ _ _ _ hprogress => ⟨rfl, hprogress.link, forall₂_snoc hprogress.log halike⟩

theorem settle_eq_of_alike {R : σ → σ → Prop} {link : Link σ ρ τ} {session : σ}
    {desk twin : Desk σ τ} (hdesk : desk.Alike pairs R twin) :
    settle { link with session := session } twin =
      { settle link desk with session := twin.session } := by
  simp only [settle, hdesk.alarms, hdesk.drops]

theorem consult {work twin : Work σ τ α}
    (hwork : ∀ state, Work.Alike pairs (Like (K state)) work twin) :
    Alike pairs (Link.Akin Like K) (Link.Akin Like K)
      (Step.consult work : Step σ ρ τ α) (Step.consult twin) := by
  rintro scene twinScene hscene ⟨link, log⟩ ⟨other, twinLog⟩ ⟨⟨session, hlike, rfl⟩, hlog⟩
  have hview : View.Alike pairs (view scene link) (view twinScene { link with session := session }) :=
    ⟨hscene, rfl, rfl⟩
  have hdesk : Desk.Alike pairs (Like (K link.state)) (desk ⟨link, log⟩)
      (desk ⟨{ link with session := session }, twinLog⟩) := ⟨hlike, rfl, hlog, rfl⟩
  obtain ⟨hanswer, hafter⟩ := hwork link.state hview hdesk
  exact ⟨hanswer, ⟨_, hafter.session, settle_eq_of_alike hafter⟩, hafter.log⟩

end Alike

end Step

namespace Link

/-- Two links whose profiles are alike, and know of the same abilities when they are connected. -/
abbrev Twins (Like : Prop → σ → σ → Prop) : Link σ ρ τ → Link σ ρ τ → Prop :=
  Akin Like (· = .connected)

section Twins

variable {Like : Prop → σ → σ → Prop} {link twin : Link σ ρ τ}

/-- Links that begin alike begin as twins. -/
theorem twins_start [ProfileSession σ ρ τ] (himpartial : Impartial (ρ := ρ) (τ := τ) pairs Like)
    {s twin : σ} (h : Like False s twin) (peer : Address) :
    Twins Like (start peer s : Link σ ρ τ) (start peer twin) :=
  ⟨twin, himpartial.weaken (fun hup => nomatch hup) h, rfl⟩

theorem Twins.alarms (h : Twins Like link twin) : twin.alarms = link.alarms := by
  obtain ⟨session, -, rfl⟩ := h
  rfl

theorem Twins.isIdle (h : Twins Like link twin) : twin.isIdle = link.isIdle := by
  obtain ⟨session, -, rfl⟩ := h
  rfl

end Twins

section Errands

variable [ProfileSession σ ρ τ] [DecidableEq τ] {Like : Prop → σ → σ → Prop}
  {K : LinkState → Prop}

/-! #### Changing state -/

omit [ProfileSession σ ρ τ] [DecidableEq τ] in
/-- What is changed alike leaves alike, if it has nothing to do with the profiles. -/
theorem alike_change {f : Link σ ρ τ → Link σ ρ τ} (hstate : ∀ link, (f link).state = link.state)
    (hsession : ∀ link session, f { link with session := session } =
      { f link with session := session }) (hkept : ∀ link, (f link).session = link.session) :
    Step.Alike pairs (Akin Like K) (Akin Like K) (Step.change f) (Step.change f) := by
  refine .change ?_
  rintro link _ ⟨session, hlike, rfl⟩
  refine ⟨session, ?_, hsession link session⟩
  rw [hstate, hkept]
  exact hlike

variable (himpartial : Impartial (ρ := ρ) (τ := τ) pairs Like)

include himpartial

omit [DecidableEq τ] in
theorem Akin.weaken {less : LinkState → Prop} {link twin : Link σ ρ τ}
    (h : Akin Like K link twin) (hless : less link.state → K link.state) :
    Akin Like less link twin := by
  obtain ⟨session, hlike, rfl⟩ := h
  exact ⟨session, himpartial.weaken hless hlike, rfl⟩

omit [DecidableEq τ] in
theorem alike_setAudio (audio : AudioState) (wideband : Bool) :
    Step.Alike pairs (Akin Like K) (Akin Like K)
      (setAudio audio wideband : Step σ ρ τ Unit) (setAudio audio wideband) := by
  refine .bind_link fun link session hlike => ?_
  refine .bind (alike_change (fun _ => rfl) (fun _ _ => rfl) fun _ => rfl) fun _ => ?_
  exact .bind (.announce rfl) fun _ => .consult fun _ => himpartial.onAudioChanged _ _ _ _

omit [DecidableEq τ] in
theorem alike_silence :
    Step.Alike pairs (Akin Like K) (Akin Like K) (silence : Step σ ρ τ Unit) silence := by
  refine .bind_link fun link session hlike => ?_
  exact .ite Iff.rfl (fun _ => alike_setAudio himpartial _ _) fun _ => .pure _ fun _ _ h => h

theorem alike_leave (state : LinkState) :
    Step.Alike pairs (Akin Like K) (Akin Like K)
      (leave state : Step σ ρ τ Unit) (leave state) := by
  cases state with
  | disconnected => exact .pure _ fun _ _ h => h
  | connecting | disconnecting =>
      exact alike_change (fun _ => rfl) (fun _ _ => rfl) fun _ => rfl
  | connected =>
      exact .bind (alike_silence himpartial) fun _ =>
        alike_change (fun _ => rfl) (fun _ _ => rfl) fun _ => rfl

theorem alike_bound (kind : AlarmKind τ) :
    Step.Alike pairs (Akin Like K) (Akin Like K)
      (bound kind : Step σ ρ τ Unit) (bound kind) := by
  refine .bind_read fun scene twin hscene => .change ?_
  rintro link _ ⟨session, hlike, rfl⟩
  refine ⟨session, hlike, ?_⟩
  simp only [hscene.now, himpartial.patience hlike]

/-- Who comes to be connected has to know the same of the device. -/
theorem alike_enter {next : LinkState} (hknown : ∀ state, next = .connected → K state) :
    Step.Alike pairs (Akin Like K) (Akin Like K)
      (enter next : Step σ ρ τ Unit) (enter next) := by
  cases next with
  | disconnected => exact .consult fun _ => himpartial.onDisconnected _
  | connecting | disconnecting => exact alike_bound himpartial _
  | connected =>
      refine .bind (alike_change (fun _ => rfl) (fun _ _ => rfl) fun _ => rfl) fun _ => ?_
      refine .bind (alike_silence himpartial) fun _ => .consult fun state => ?_
      rw [eq_true (hknown state rfl)]
      exact himpartial.onConnected

/-- Twins move to another state together; to be connected they have to know the same of the
device. -/
theorem alike_transition (next : LinkState) :
    Step.Alike pairs (Akin Like fun _ => next = .connected) (Twins Like)
      (transition next : Step σ ρ τ Unit) (transition next) := by
  refine .bind_link_eq fun link session hlike => .ite Iff.rfl (fun _ => ?_) fun hsame => ?_
  · refine .weaken (M := Akin Like fun _ => next = .connected) ?_ ?_
    · rintro _ _ ⟨rfl, rfl⟩
      exact ⟨session, hlike, rfl⟩
    refine .bind (alike_leave himpartial _) fun _ => ?_
    -- until the new state is entered, both it and the state there is count
    refine .bind (M := Akin Like fun state => next = .connected ∨ state = .connected)
      (.change ?_) fun _ => ?_
    · rintro link _ ⟨session, hlike, rfl⟩
      exact ⟨session, himpartial.weaken (fun hor => hor.elim id id) hlike, rfl⟩
    · refine .bind (.announce rfl) fun _ => ?_
      refine .bind (alike_enter himpartial fun _ hup => .inl hup) fun _ => ?_
      have hweaker : ∀ link twin : Link σ ρ τ,
          Akin Like (fun state => next = .connected ∨ state = .connected) link twin →
            Twins Like link twin :=
        fun _ _ halike => halike.weaken himpartial .inr
      refine .weaken hweaker (.ite Iff.rfl (fun _ => ?_) fun _ => .pure _ fun _ _ h => h)
      exact alike_change (fun _ => rfl) (fun _ _ => rfl) fun _ => rfl
  · refine .pure _ ?_
    rintro _ _ ⟨rfl, rfl⟩
    have hnext := not_not.1 hsame
    exact ⟨session, himpartial.weaken (fun hup => hnext ▸ hup) hlike, rfl⟩

/-- To any other state twins move together whatever they know. -/
theorem alike_transition_down {next : LinkState} (hdown : next ≠ .connected) :
    Step.Alike pairs (Akin Like K) (Twins Like)
      (transition next : Step σ ρ τ Unit) (transition next) :=
  (alike_transition himpartial next).weaken fun _ _ halike =>
    halike.weaken himpartial fun hup => absurd hup hdown

/-! #### Messages of the user -/

theorem alike_onConnect :
    Step.Alike pairs (Twins Like) (Twins Like) (onConnect : Step σ ρ τ Verdict) onConnect := by
  refine .bind_link fun link session hlike => ?_
  cases link.state with
  | disconnected =>
      refine .bind (.ask _) fun accepted => ?_
      refine .ite Iff.rfl (fun _ => ?_) fun _ => .pure _ fun _ _ h => h
      exact .bind (alike_transition_down himpartial nofun) fun _ => .pure _ fun _ _ h => h
  | connecting | disconnecting =>
      exact .bind (alike_change (fun _ => rfl) (fun _ _ => rfl) fun _ => rfl) fun _ =>
        .pure _ fun _ _ h => h
  | connected => exact .pure _ fun _ _ h => h

theorem alike_onDisconnect :
    Step.Alike pairs (Twins Like) (Twins Like) (onDisconnect : Step σ ρ τ Verdict)
      onDisconnect := by
  refine .bind_link fun link session hlike => ?_
  refine .ite Iff.rfl (fun _ => .pure _ fun _ _ h => h) fun _ => .bind (.ask _) fun accepted => ?_
  refine .ite Iff.rfl (fun _ => ?_) fun _ => ?_
  · exact .bind (alike_transition_down himpartial nofun) fun _ => .pure _ fun _ _ h => h
  · exact .bind (alike_transition_down himpartial nofun) fun _ => .pure _ fun _ _ h => h

omit [DecidableEq τ] in
theorem alike_onConnectAudio :
    Step.Alike pairs (Twins Like) (Twins Like) (onConnectAudio : Step σ ρ τ Verdict)
      onConnectAudio := by
  refine .bind_link fun link session hlike => ?_
  refine .ite Iff.rfl (fun _ => .pure _ fun _ _ h => h) fun _ => ?_
  refine .ite Iff.rfl (fun _ => .pure _ fun _ _ h => h) fun _ => .bind (.ask _) fun accepted => ?_
  refine .ite Iff.rfl (fun _ => ?_) fun _ => .pure _ fun _ _ h => h
  exact .bind (alike_setAudio himpartial _ _) fun _ => .pure _ fun _ _ h => h

omit [ProfileSession σ ρ τ] [DecidableEq τ] himpartial in
theorem alike_onDisconnectAudio :
    Step.Alike pairs (Twins Like) (Twins Like) (onDisconnectAudio : Step σ ρ τ Verdict)
      onDisconnectAudio := by
  refine .bind_link fun link session hlike => ?_
  refine .ite Iff.rfl (fun _ => .pure _ fun _ _ h => h) fun _ => ?_
  refine .ite Iff.rfl (fun _ => .pure _ fun _ _ h => h) fun _ => .bind (.ask _) fun accepted => ?_
  exact .ite Iff.rfl (fun _ => .pure _ fun _ _ h => h) fun _ => .pure _ fun _ _ h => h

omit [DecidableEq τ] in
/-- While the links are connected, their profiles know the same of the device. -/
theorem alike_consult_connected {work : Work σ τ α} (hwork : Work.Alike pairs (Like True) work work)
    {link : Link σ ρ τ} {session : σ} (hup : link.state = .connected)
    (hlike : Like (link.state = .connected) link.session session) :
    Step.Alike pairs (fun this other => this = link ∧ other = { link with session := session })
      (Twins Like) (Step.consult work) (Step.consult work) := by
  refine .weaken (M := Akin Like fun _ => True) ?_ ?_
  · rintro _ _ ⟨rfl, rfl⟩
    exact ⟨session, himpartial.weaken (fun _ => hup) hlike, rfl⟩
  · exact .imp (fun _ _ halike => halike.weaken himpartial fun _ => trivial)
      (.consult fun _ => hwork)

omit [DecidableEq τ] in
theorem alike_onRequest [Outlined ρ] (request : ρ) :
    Step.Alike pairs (Twins Like) (Twins Like) (onRequest request : Step σ ρ τ Verdict)
      (onRequest request) := by
  refine .bind_link_eq fun link session hlike => .ite Iff.rfl (fun hup => ?_) fun _ => .pure _ ?_
  · exact alike_consult_connected himpartial (himpartial.onRequest request) hup hlike
  · rintro _ _ ⟨rfl, rfl⟩
    exact ⟨session, hlike, rfl⟩

/-! #### Reports of the transport -/

omit [ProfileSession σ ρ τ] [DecidableEq τ] himpartial in
theorem alike_refuse :
    Step.Alike pairs (Akin Like K) (Akin Like K) (refuse : Step σ ρ τ Unit) refuse :=
  .bind (.ask _) fun _ => .pure _ fun _ _ h => h

theorem alike_linkUp (capabilities : Capabilities) :
    Step.Alike pairs (Akin Like K) (Twins Like) (linkUp capabilities : Step σ ρ τ Unit)
      (linkUp capabilities) := by
  refine .bind_link_eq fun link session hlike => ?_
  obtain ⟨hsuitable, hnoted⟩ := himpartial.onLinkUp hlike capabilities
  revert hsuitable hnoted
  rcases ProfileSession.onLinkUp capabilities link.session with ⟨suitable, noted⟩
  rcases ProfileSession.onLinkUp capabilities session with ⟨_, twinNoted⟩
  rintro rfl hnoted
  refine .bind (M := Akin Like fun _ => True) (.change ?_) fun _ => ?_
  · rintro _ _ ⟨rfl, rfl⟩
    exact ⟨twinNoted, hnoted, rfl⟩
  · refine .ite Iff.rfl (fun _ => ?_) fun _ => .bind (.ask _) fun accepted => ?_
    · exact (alike_transition himpartial .connected).weaken fun _ _ halike =>
        halike.weaken himpartial fun _ => trivial
    · exact .ite Iff.rfl (fun _ => alike_transition_down himpartial nofun) fun _ =>
        alike_transition_down himpartial nofun

omit [ProfileSession σ ρ τ] [DecidableEq τ] himpartial in
theorem alike_ifAdmitted {next : Step σ ρ τ Unit}
    (hnext : Step.Alike pairs (Twins Like) (Twins Like) next next) :
    Step.Alike pairs (Twins Like) (Twins Like) (ifAdmitted next) (ifAdmitted next) := by
  refine .bind_read fun scene twin hscene => .bind_link fun link session hlike => ?_
  exact .ite (by rw [hscene.preferences]) (fun _ => hnext) fun _ => alike_refuse

theorem alike_onLinkChanged (report : LinkState) (capabilities : Capabilities) :
    Step.Alike pairs (Twins Like) (Twins Like)
      (onLinkChanged report capabilities : Step σ ρ τ Unit) (onLinkChanged report capabilities) := by
  refine .bind_link fun link session hlike => ?_
  cases link.state <;> cases report
  all_goals first
    | exact .pure _ fun _ _ h => h
    | exact alike_transition_down himpartial nofun
    | exact alike_linkUp himpartial capabilities
    | exact alike_ifAdmitted (alike_linkUp himpartial capabilities)
    | exact alike_ifAdmitted (alike_transition_down himpartial nofun)

omit [DecidableEq τ] in
theorem alike_onAudioReport (report : AudioReport) :
    Step.Alike pairs (Twins Like) (Twins Like) (onAudioReport report : Step σ ρ τ Verdict)
      (onAudioReport report) := by
  refine .bind_link fun link session hlike => ?_
  refine .ite Iff.rfl (fun _ => .pure _ fun _ _ h => h) fun _ => ?_
  refine .ite Iff.rfl (fun _ => ?_) fun _ => .pure _ fun _ _ h => h
  exact .bind (alike_setAudio himpartial _ _) fun _ => .pure _ fun _ _ h => h

theorem alike_onEvent (event : Event) :
    Step.Alike pairs (Twins Like) (Twins Like) (onEvent event : Step σ ρ τ Verdict)
      (onEvent event) := by
  have hother : Step.Alike pairs (Twins Like) (Twins Like)
      (do
        let state := (← Step.link).state
        if state = .disconnected then return .error (.unexpected state event.title)
        else Step.consult (ProfileSession.onEvent event) : Step σ ρ τ Verdict)
      (do
        let state := (← Step.link).state
        if state = .disconnected then return .error (.unexpected state event.title)
        else Step.consult (ProfileSession.onEvent event)) := by
    refine .bind_link fun link session hlike => ?_
    exact .ite Iff.rfl (fun _ => .pure _ fun _ _ h => h) fun _ =>
      .consult fun _ => himpartial.onEvent _ event
  cases event with
  | linkChanged report capabilities =>
      exact .bind (alike_onLinkChanged himpartial report capabilities) fun _ =>
        .pure _ fun _ _ h => h
  | audioChanged report => exact alike_onAudioReport himpartial report
  | _ => exact hother

/-! #### Alarms -/

omit [ProfileSession σ ρ τ] [DecidableEq τ] himpartial in
theorem alike_giveUp :
    Step.Alike pairs (Akin Like K) (Akin Like K) (giveUp : Step σ ρ τ Unit) giveUp :=
  alike_change (fun _ => rfl) (fun _ _ => rfl) fun _ => rfl

omit [DecidableEq τ] in
theorem alike_onAlarm (kind : AlarmKind τ) :
    Step.Alike pairs (Twins Like) (Twins Like) (onAlarm kind : Step σ ρ τ Verdict)
      (onAlarm kind) := by
  cases kind with
  | connect =>
      refine .bind_link fun link session hlike => ?_
      refine .ite Iff.rfl (fun _ => ?_) fun _ => .pure _ fun _ _ h => h
      refine .bind alike_refuse fun _ => .bind alike_giveUp fun _ => ?_
      rw [himpartial.patience hlike]
      exact .pure _ fun _ _ h => h
  | disconnect =>
      refine .bind_link fun link session hlike => ?_
      refine .ite Iff.rfl (fun _ => ?_) fun _ => .pure _ fun _ _ h => h
      exact .bind alike_giveUp fun _ => .pure _ fun _ _ h => h
  | session kind =>
      refine .bind_link_eq fun link session hlike =>
        .ite Iff.rfl (fun hup => ?_) fun _ => .pure _ ?_
      · exact alike_consult_connected himpartial (himpartial.onAlarm kind) hup hlike
      · rintro _ _ ⟨rfl, rfl⟩
        exact ⟨session, hlike, rfl⟩

/-! #### Any errand -/

/-- **An errand leaves twins twins.** -/
theorem alike_handle [Outlined ρ] (errand : Errand ρ τ) :
    Step.Alike pairs (Twins Like) (Twins Like) (handle errand : Step σ ρ τ Unit)
      (handle errand) := by
  have honErrand : Step.Alike pairs (Twins Like) (Twins Like)
      (onErrand errand : Step σ ρ τ Verdict) (onErrand errand) := by
    cases errand with
    | alarm kind => exact alike_onAlarm himpartial kind
    | message message =>
        cases message with
        | connect => exact alike_onConnect himpartial
        | disconnect => exact alike_onDisconnect himpartial
        | connectAudio => exact alike_onConnectAudio himpartial
        | disconnectAudio => exact alike_onDisconnectAudio
        | event event => exact alike_onEvent himpartial event
        | request request => exact alike_onRequest himpartial request
  refine .bind honErrand fun verdict => ?_
  cases verdict with
  | ok => exact .pure _ fun _ _ h => h
  | error fault =>
      exact .ite Iff.rfl (fun _ => .pure _ fun _ _ h => h) fun _ => .announce rfl

end Errands

/-! ### Lives -/

section Lives

variable [ProfileSession σ ρ τ] [DecidableEq τ] [Outlined ρ] {Like : Prop → σ → σ → Prop}
  {scene twinScene : Scene} (himpartial : Impartial (ρ := ρ) (τ := τ) pairs Like)

include himpartial

/-- Twins work off their queues alike, since these are the same. -/
theorem alike_drain (hscene : scene.Alike pairs twinScene) (progress : Progress σ ρ τ) :
    ∀ twin, progress.Alike pairs (Twins Like) twin →
      (drain scene progress).Alike pairs (Twins Like) (drain twinScene twin) := by
  fun_induction drain scene progress with
  | case1 progress hempty =>
      rintro ⟨_, twinLog⟩ ⟨⟨session, hlike, rfl⟩, hlog⟩
      have hstop : drain twinScene ⟨{ progress.link with session := session }, twinLog⟩ = _ :=
        drain_of_queue_nil hempty
      rw [hstop]
      exact ⟨⟨session, hlike, rfl⟩, hlog⟩
  | case2 progress errand rest hqueue ih =>
      rintro ⟨_, twinLog⟩ ⟨⟨session, hlike, rfl⟩, hlog⟩
      have hnext : drain twinScene ⟨{ progress.link with session := session }, twinLog⟩ = _ :=
        drain_of_queue_cons hqueue
      rw [hnext]
      refine ih _ (alike_handle himpartial errand hscene ?_).2
      exact ⟨⟨session, hlike, rfl⟩, hlog⟩

/-- Twins serve the same alarms. -/
theorem alike_serveDue (hscene : scene.Alike pairs twinScene) (rounds : Nat) :
    ∀ {progress twin : Progress σ ρ τ}, progress.Alike pairs (Twins Like) twin →
      (serveDue scene rounds progress).Alike pairs (Twins Like)
        (serveDue twinScene rounds twin) := by
  induction rounds with
  | zero => exact fun halike => halike
  | succ rounds ih =>
      rintro progress ⟨_, twinLog⟩ ⟨⟨session, hlike, rfl⟩, hlog⟩
      unfold serveDue
      rw [← hscene.now]
      cases progress.link.alarms.popDue scene.now with
      | none => exact ⟨⟨session, hlike, rfl⟩, hlog⟩
      | some found =>
          exact ih (alike_drain himpartial hscene _ _ ⟨⟨session, hlike, rfl⟩, hlog⟩)

/-- Twins make the same of a message. -/
theorem Twins.process {link twin : Link σ ρ τ} (h : Twins Like link twin)
    (hscene : scene.Alike pairs twinScene) (message : Message ρ) :
    Twins Like (link.process scene message).1 (twin.process twinScene message).1 ∧
      List.Forall₂ (Effect.Alike pairs) (link.process scene message).2
        (twin.process twinScene message).2 := by
  obtain ⟨session, hlike, rfl⟩ := h
  have hbegun : Progress.Alike pairs (Twins Like)
      (⟨{ link with queue := link.queue ++ [.message message] }, []⟩ : Progress σ ρ τ)
      ⟨{ link with queue := link.queue ++ [.message message], session := session }, []⟩ :=
    ⟨⟨session, hlike, rfl⟩, .nil⟩
  have hdrained := alike_drain himpartial hscene _ _ hbegun
  exact ⟨hdrained.link, hdrained.log⟩

/-- Twins make the same of being woken. -/
theorem Twins.fireDue {link twin : Link σ ρ τ} (h : Twins Like link twin)
    (hscene : scene.Alike pairs twinScene) :
    Twins Like (link.fireDue scene).1 (twin.fireDue twinScene).1 ∧
      List.Forall₂ (Effect.Alike pairs) (link.fireDue scene).2 (twin.fireDue twinScene).2 := by
  obtain ⟨session, hlike, rfl⟩ := h
  have hbegun : Progress.Alike pairs (Twins Like) (⟨link, []⟩ : Progress σ ρ τ)
      ⟨{ link with session := session }, []⟩ := ⟨⟨session, hlike, rfl⟩, .nil⟩
  have hserved := alike_serveDue himpartial hscene (link.dueRounds scene.now) hbegun
  unfold Link.fireDue
  rw [← hscene.now]
  exact ⟨hserved.link, hserved.log⟩

/-- **Twins live alike.**  Whatever happens to both, they stay twins, and what leaves one is what
leaves the other, but for the handles of calls. -/
theorem Twins.live {link twin : Link σ ρ τ} (h : Twins Like link twin)
    {impulses twinImpulses : List (Impulse ρ)}
    (hsame : List.Forall₂ (Impulse.Alike pairs) impulses twinImpulses) :
    Twins Like (link.live impulses).1 (twin.live twinImpulses).1 ∧
      List.Forall₂ (Effect.Alike pairs) (link.live impulses).2 (twin.live twinImpulses).2 := by
  induction hsame generalizing link twin with
  | nil => exact ⟨h, .nil⟩
  | @cons impulse twinImpulse rest twinRest himpulse hrest ih =>
      have hresponse : Twins Like (link.respond impulse).1 (twin.respond twinImpulse).1 ∧
          List.Forall₂ (Effect.Alike pairs) (link.respond impulse).2
            (twin.respond twinImpulse).2 := by
        cases himpulse with
        | hand message hscene => exact h.process himpartial hscene message
        | wake hscene => exact h.fireDue himpartial hscene
      obtain ⟨hlater, hlog⟩ := ih hresponse.1
      exact ⟨hlater, List.rel_append hresponse.2 hlog⟩

end Lives

end Link

end AudioLink
