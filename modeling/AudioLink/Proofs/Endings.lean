/-
**Loops that end.**

A link works off its queue until the queue is empty, and when it is woken it serves alarms until
none is due.  Neither loop ends for a reason that can be read off its head: what is done about an
errand may put others into the queue, at its back and at its front, and serving an alarm may arm
another one.

The queue runs empty because every errand relieves the link.  That no alarm is due any more in the
end needs something of the profile.  All alarms that are armed at an instant have to go off later
than that; with a bound of no length at all, or with questions that may follow one another at once,
this would fail.  With usable settings it holds for either profile, and so serving an alarm leaves
one less that is due.

Main definitions:

* `AudioLink.Link.Drains`, `AudioLink.Link.Serves` — the two loops as they come to their end, with
  no bound on the number of their rounds;
* `AudioLink.InHand` — the profile is usable, and no more than so many alarms are due;
* `AudioLink.Provident` — a profile that arms nothing to go off at once;
* `AudioLink.Link.Finishes` — whatever stirs the link, the loops end, and nothing is due afterwards.

Main results:

* `AudioLink.Link.drains_iff`, `AudioLink.Link.serves_fireDue_iff` — each loop comes to its end, and
  to one end only;
* `AudioLink.Link.holdsAt_inHand` — nothing that a link does makes an alarm due;
* `AudioLink.Stream.provident`, `AudioLink.Handsfree.provident` — both profiles are provident;
* `AudioLink.links_finish` — **the loops of either profile end, and leave nothing behind that is
  due**.
-/

import AudioLink.Proofs.Handsfree.Indicators
import AudioLink.Proofs.Instants
import AudioLink.Proofs.Link.Rounds
import AudioLink.Proofs.Stream.Acts
import AudioLink.Settings.Validation

set_option relaxedAutoImplicit false
set_option autoImplicit false

namespace AudioLink

variable {σ ρ τ : Type}

/-! ### The two loops -/

namespace Link

section Loops

variable [ProfileSession σ ρ τ] [DecidableEq τ] [Outlined ρ]

/-- Working off the queue comes to its end: the first errand is taken out and handled, and so on,
until there is none. -/
inductive Drains (scene : Scene) : Progress σ ρ τ → Progress σ ρ τ → Prop
  | done {progress : Progress σ ρ τ} (idle : progress.link.queue = []) :
      Drains scene progress progress
  | next {progress last : Progress σ ρ τ} {errand : Errand ρ τ} {rest : List (Errand ρ τ)}
      (first : progress.link.queue = errand :: rest)
      (later : Drains scene ((handle errand).run scene |>.run
        ⟨{ progress.link with queue := rest }, progress.log⟩).2 last) :
      Drains scene progress last

/-- Serving alarms comes to its end: the next one that is due is put into the queue, which is worked
off, and so on, until none is due. -/
inductive Serves (scene : Scene) : Progress σ ρ τ → Progress σ ρ τ → Prop
  | done {progress : Progress σ ρ τ} (early : progress.link.alarms.popDue scene.now = none) :
      Serves scene progress progress
  | next {progress drained last : Progress σ ρ τ} {kind : AlarmKind τ}
      {others : Alarms (AlarmKind τ)}
      (due : progress.link.alarms.popDue scene.now = some (kind, others))
      (drains : Drains scene ⟨{ progress.link with
        alarms := others, queue := progress.link.queue ++ [.alarm kind] }, progress.log⟩ drained)
      (later : Serves scene drained last) : Serves scene progress last

variable {scene : Scene} {progress last other : Progress σ ρ τ}

/-- The queue is worked off, whatever is in it. -/
theorem drains_drain (scene : Scene) (progress : Progress σ ρ τ) :
    Drains scene progress (drain scene progress) := by
  fun_induction drain scene progress with
  | case1 progress idle => exact .done idle
  | case2 progress errand rest first ih => exact .next first ih

/-- There is one way only to work off the queue. -/
theorem Drains.unique (h : Drains scene progress last) (h' : Drains scene progress other) :
    last = other := by
  induction h with
  | done idle =>
      cases h' with
      | done => rfl
      | next first => cases idle.symm.trans first
  | next first _ ih =>
      cases h' with
      | done idle => cases idle.symm.trans first
      | next first' later =>
          obtain ⟨rfl, rfl⟩ := List.cons.inj (first.symm.trans first')
          exact ih later

/-- Working off the queue comes to its end, and to one end only. -/
theorem drains_iff : Drains scene progress last ↔ last = drain scene progress := by
  constructor
  · exact fun h => h.unique (drains_drain scene progress)
  · rintro rfl
    exact drains_drain scene progress

/-- There is one way only to serve the alarms that are due. -/
theorem Serves.unique (h : Serves scene progress last) (h' : Serves scene progress other) :
    last = other := by
  induction h with
  | done early =>
      cases h' with
      | done => rfl
      | next due => cases early.symm.trans due
  | next due drains _ ih =>
      cases h' with
      | done early => cases early.symm.trans due
      | next due' drains' later =>
          obtain ⟨rfl, rfl⟩ := Prod.mk.inj (Option.some.inj (due.symm.trans due'))
          obtain rfl := drains.unique drains'
          exact ih later

/-- When the alarms are served, none is due. -/
theorem Serves.popDue_eq_none (h : Serves scene progress last) :
    last.link.alarms.popDue scene.now = none := by
  induction h with
  | done early => exact early
  | next _ _ _ ih => exact ih

end Loops

end Link

/-! ### Alarms in hand -/

/-- The profile is usable, and no more than `count` alarms are due at `now`. -/
structure InHand [DecidableEq τ] (usable : σ → Prop) (now : Instant) (count : Nat) (s : σ)
    (alarms : Alarms (AlarmKind τ)) : Prop where
  usable : usable s
  due : (alarms.dueAt now).length ≤ count

/-- A profile that, as long as it is usable, arms nothing to go off at once, nor lets the link do
so. -/
structure Provident (σ : Type) {ρ τ : Type} [ProfileSession σ ρ τ] [DecidableEq τ]
    (usable : σ → Prop) : Prop where
  patience : ∀ s, usable s → 0 < ProfileSession.patience s
  onLinkUp : ∀ capabilities s, usable s → usable (ProfileSession.onLinkUp capabilities s).2
  consulted : ∀ now count, ProfileUpholdsAt σ now fun desk : Desk σ τ =>
    InHand usable now count desk.session desk.alarms

section InHand

variable {usable : σ → Prop} {now : Instant} {count : Nat} {s : σ}
  {alarms : Alarms (AlarmKind τ)} [DecidableEq τ]

theorem InHand.cancelWhere (h : InHand usable now count s alarms) (p : AlarmKind τ → Bool) :
    InHand usable now count s (alarms.cancelWhere p) :=
  ⟨h.usable, Nat.le_trans (Alarms.length_dueAt_cancelWhere_le alarms p now) h.due⟩

theorem InHand.schedule (h : InHand usable now count s alarms) (kind : AlarmKind τ)
    {delay : Duration} (hdelay : 0 < delay) :
    InHand usable now count s (alarms.schedule kind (now + delay)) := by
  have hlater : now < now + delay := Nat.lt_add_of_pos_right hdelay
  exact ⟨h.usable, Nat.le_trans (alarms.length_dueAt_schedule_le kind hlater) h.due⟩

end InHand

namespace Link

/-- A link in the middle of a step has its alarms in hand. -/
def HasInHand [DecidableEq τ] (usable : σ → Prop) (now : Instant) (count : Nat)
    (progress : Progress σ ρ τ) : Prop :=
  InHand usable now count progress.link.session progress.link.alarms

section Steps

variable [DecidableEq τ] {usable : σ → Prop} {now : Instant} {count : Nat}

/-- A change that is about neither the profile nor the alarms makes none due. -/
theorem upholdsAt_change_inHand {f : Link σ ρ τ → Link σ ρ τ}
    (hsession : ∀ link, (f link).session = link.session)
    (halarms : ∀ link, (f link).alarms = link.alarms) :
    Step.UpholdsAt now (HasInHand usable now count) (Step.change f) := by
  intro scene progress _ h
  show InHand usable now count (f progress.link).session (f progress.link).alarms
  rw [hsession, halarms]
  exact h

theorem upholdsAt_cancelWhere_inHand (p : AlarmKind τ → Bool) :
    Step.UpholdsAt now (HasInHand usable now count) (Step.change fun link : Link σ ρ τ =>
      { link with alarms := link.alarms.cancelWhere p }) :=
  fun _ _ _ h => InHand.cancelWhere h p

theorem upholdsAt_consult_inHand {α : Type} {work : Work σ τ α}
    (hwork : Work.UpholdsAt now (fun desk => InHand usable now count desk.session desk.alarms)
      work) :
    Step.UpholdsAt now (HasInHand usable now count) (Step.consult work : Step σ ρ τ α) :=
  .consult hwork (fun _ h => h) fun _ _ h => h

variable [ProfileSession σ ρ τ] (h : Provident σ usable)

include h

theorem upholdsAt_setAudio_inHand (audio : AudioState) (wideband : Bool) :
    Step.UpholdsAt now (HasInHand usable now count)
      (setAudio audio wideband : Step σ ρ τ Unit) := by
  refine .bind Step.Upholds.link.upholdsAt fun link => ?_
  refine .bind (upholdsAt_change_inHand (fun _ => rfl) fun _ => rfl) fun _ => ?_
  refine .bind (fun _ _ _ h => h) fun _ => ?_
  exact upholdsAt_consult_inHand ((h.consulted now count).onAudioChanged _ _ _)

theorem upholdsAt_silence_inHand :
    Step.UpholdsAt now (HasInHand usable now count) (silence : Step σ ρ τ Unit) :=
  .bind Step.Upholds.link.upholdsAt fun _ =>
    .ite (upholdsAt_setAudio_inHand h _ _) (Step.Upholds.pure _).upholdsAt

theorem upholdsAt_leave_inHand (state : LinkState) :
    Step.UpholdsAt now (HasInHand usable now count) (leave state : Step σ ρ τ Unit) := by
  cases state with
  | disconnected => exact (Step.Upholds.pure _).upholdsAt
  | connecting | disconnecting => exact upholdsAt_cancelWhere_inHand _
  | connected =>
      exact .bind (upholdsAt_silence_inHand h) fun _ => upholdsAt_cancelWhere_inHand _

/-- The bound of a transient state goes off later, since the profile is patient. -/
theorem upholdsAt_bound_inHand (kind : AlarmKind τ) :
    Step.UpholdsAt now (HasInHand usable now count) (bound kind : Step σ ρ τ Unit) := by
  rintro scene progress rfl hinHand
  rw [bound, Step.yields_bind, Step.yields_read, Step.yields_change]
  exact InHand.schedule hinHand kind (h.patience _ hinHand.usable)

theorem upholdsAt_enter_inHand (state : LinkState) :
    Step.UpholdsAt now (HasInHand usable now count) (enter state : Step σ ρ τ Unit) := by
  cases state with
  | disconnected => exact upholdsAt_consult_inHand (h.consulted now count).onDisconnected
  | connecting | disconnecting => exact upholdsAt_bound_inHand h _
  | connected =>
      refine .bind (upholdsAt_change_inHand (fun _ => rfl) fun _ => rfl) fun _ => ?_
      refine .bind (upholdsAt_silence_inHand h) fun _ => ?_
      exact upholdsAt_consult_inHand (h.consulted now count).onConnected

theorem upholdsAt_transition_inHand (next : LinkState) :
    Step.UpholdsAt now (HasInHand usable now count) (transition next : Step σ ρ τ Unit) := by
  have hpure : Step.UpholdsAt now (HasInHand usable now count) (pure () : Step σ ρ τ Unit) :=
    (Step.Upholds.pure ()).upholdsAt
  refine .bind Step.Upholds.link.upholdsAt fun link => .ite ?_ hpure
  refine .bind (upholdsAt_leave_inHand h _) fun _ => ?_
  refine .bind (upholdsAt_change_inHand (fun _ => rfl) fun _ => rfl) fun _ => ?_
  refine .bind (fun _ _ _ h => h) fun _ => .bind (upholdsAt_enter_inHand h next) fun _ => ?_
  exact .ite (upholdsAt_change_inHand (fun _ => rfl) fun _ => rfl) hpure

/-- **Nothing that a link does makes an alarm due**, if its profile is provident. -/
theorem holdsAt_inHand : HoldsAt now (HasInHand (ρ := ρ) usable now count) where
  ask _ _ := fun _ _ h => h
  introduce _ capabilities hinHand := ⟨h.onLinkUp capabilities _ hinHand.usable, hinHand.due⟩
  transition := upholdsAt_transition_inHand h
  setAudio := upholdsAt_setAudio_inHand h
  defer _ h := h
  giveUp := fun _ _ h => h
  failed _ _ h := h
  onRequest request := upholdsAt_consult_inHand ((h.consulted now count).onRequest request)
  onEvent event := upholdsAt_consult_inHand ((h.consulted now count).onEvent event)
  onAlarm kind := upholdsAt_consult_inHand ((h.consulted now count).onAlarm kind)

end Steps

/-! ### Serving alarms -/

section Serving

variable [ProfileSession σ ρ τ] [DecidableEq τ] [Outlined ρ] {usable : σ → Prop} {scene : Scene}
  {link : Link σ ρ τ} (h : Provident σ usable)

include h

/-- Nor does working off a queue. -/
theorem drain_inHand {count : Nat} {progress : Progress σ ρ τ}
    (hinHand : HasInHand usable scene.now count progress) :
    HasInHand usable scene.now count (drain scene progress) := by
  refine drain_induction ?_ progress hinHand
  intro progress errand rest hinHand _
  exact (holdsAt_inHand h).upholdsAt_handle errand scene ⟨_, progress.log⟩ rfl hinHand

/-- **With as many rounds as alarms are due, all of them are served**: each round leaves one less
that is due. -/
theorem serves_serveDue (rounds : Nat) {progress : Progress σ ρ τ}
    (hinHand : HasInHand usable scene.now rounds progress) :
    Serves scene progress (serveDue scene rounds progress) ∧
      usable (serveDue scene rounds progress).link.session := by
  induction rounds generalizing progress with
  | zero =>
      -- with no round left, no alarm is due either
      have hnone : progress.link.alarms.popDue scene.now = none := by
        cases hpop : progress.link.alarms.popDue scene.now with
        | none => rfl
        | some popped =>
            have hdue : (progress.link.alarms.dueAt scene.now).length ≤ 0 := hinHand.due
            rw [← Alarms.length_dueAt_of_popDue hpop] at hdue
            exact absurd hdue (Nat.not_succ_le_zero _)
      exact ⟨.done hnone, hinHand.usable⟩
  | succ rounds ih =>
      rw [serveDue]
      split
      · next hnone => exact ⟨.done hnone, hinHand.usable⟩
      · next kind others hpop =>
          have hfewer : (others.dueAt scene.now).length ≤ rounds := by
            have hdue : (progress.link.alarms.dueAt scene.now).length ≤ rounds + 1 := hinHand.due
            rw [← Alarms.length_dueAt_of_popDue hpop] at hdue
            exact Nat.le_of_succ_le_succ hdue
          -- what is done about the alarm may arm others, but none that is due
          have hdrained : HasInHand usable scene.now rounds (drain scene ⟨{ progress.link with
              alarms := others, queue := progress.link.queue ++ [.alarm kind] },
                progress.log⟩) :=
            drain_inHand h ⟨hinHand.usable, hfewer⟩
          obtain ⟨hserves, husable⟩ := ih hdrained
          exact ⟨.next hpop (drains_drain scene _) hserves, husable⟩

/-- A link that is woken has rounds enough. -/
theorem serves_fireDue (scene : Scene) (husable : usable link.session) :
    Serves scene ⟨link, []⟩ ⟨(fireDue scene link).1, (fireDue scene link).2⟩ ∧
      usable (fireDue scene link).1.session := by
  refine serves_serveDue h (link.dueRounds scene.now) ?_
  exact ⟨husable, Nat.le_add_right ..⟩

/-- Serving the alarms that are due comes to its end, and to one end only. -/
theorem serves_fireDue_iff (husable : usable link.session) {last : Progress σ ρ τ} :
    Serves scene ⟨link, []⟩ last ↔ last = ⟨(fireDue scene link).1, (fireDue scene link).2⟩ := by
  have hserves := (serves_fireDue h scene husable).1
  constructor
  · exact fun hother => hother.unique hserves
  · rintro rfl
    exact hserves

/-- Nothing that stirs a link makes its profile unusable. -/
theorem usable_respond (husable : usable link.session) (impulse : Impulse ρ) :
    usable (link.respond impulse).1.session := by
  cases impulse with
  | hand scene message =>
      have hbegun : HasInHand usable scene.now (link.alarms.dueAt scene.now).length
          ⟨{ link with queue := link.queue ++ [.message message] }, []⟩ :=
        ⟨husable, Nat.le_refl _⟩
      exact (drain_inHand h hbegun).usable
  | wake scene => exact (serves_fireDue h scene husable).2

end Serving

/-! ### Lives -/

section Lives

variable [ProfileSession σ ρ τ] [DecidableEq τ] [Outlined ρ]

/-- Whatever stirs the link now, what it does about that comes to an end. -/
structure Finishes (link : Link σ ρ τ) : Prop where
  /-- What the link is handed is worked off, with all that it leaves to do. -/
  handed : ∀ scene message last,
    Drains scene ⟨{ link with queue := link.queue ++ [.message message] }, []⟩ last ↔
      last = ⟨(process scene message link).1, (process scene message link).2⟩
  /-- The alarms that are due are served, with all that they leave to do. -/
  woken : ∀ scene last, Serves scene ⟨link, []⟩ last ↔
    last = ⟨(fireDue scene link).1, (fireDue scene link).2⟩
  /-- Afterwards no alarm is due. -/
  later : ∀ scene, ∀ alarm ∈ (fireDue scene link).1.alarms.entries, scene.now < alarm.deadline
  /-- So the link need not be woken at once again. -/
  next : ∀ scene deadline, (fireDue scene link).1.alarms.nextDeadline = some deadline →
    scene.now < deadline

/-- **A link with a provident profile finishes**, as long as the profile is usable. -/
theorem finishes_live {usable : σ → Prop} (h : Provident σ usable) {link : Link σ ρ τ}
    (husable : usable link.session) (impulses : List (Impulse ρ)) :
    (link.live impulses).1.Finishes := by
  have hlived : usable (link.live impulses).1.session :=
    live_induction (P := fun link _ => usable link.session) husable
      (fun _ _ impulse husable => usable_respond h husable impulse) impulses
  have hnone (scene : Scene) :
      (fireDue scene (link.live impulses).1).1.alarms.popDue scene.now = none :=
    (serves_fireDue h scene hlived).1.popDue_eq_none
  exact {
    handed := fun _ _ _ => drains_iff
    woken := fun _ _ => serves_fireDue_iff h hlived
    later := fun scene => Alarms.popDue_eq_none_iff.1 (hnone scene)
    next := fun scene _ => Alarms.lt_nextDeadline (hnone scene) }

end Lives

end Link

/-! ### Streaming -/

namespace Stream

/-- Streaming arms nothing at all. -/
theorem provident : Provident Stream fun s => 0 < s.settings.connectTimeout where
  patience _ h := h
  onLinkUp _ _ h := h
  consulted now count := by
    have hacts : Acts fun desk =>
        InHand (fun s => 0 < s.settings.connectTimeout) now count desk.session desk.alarms :=
      { note := fun _ haside _ desk h => ⟨(haside.settings desk.session).symm ▸ h.usable, h.due⟩
        announce := fun _ _ _ h => h
        issue := fun _ _ _ h => ⟨h.usable, h.due⟩ }
    refine (hacts.profile ?_ fun _ _ h => ⟨h.usable, h.due⟩).upholdsAt
    intro outcome code view desk h
    rw [yields_onCommandResult]
    split
    · exact ⟨h.usable, h.due⟩
    · exact ⟨h.usable, h.due⟩

end Stream

/-! ### Handsfree -/

namespace Handsfree

/-- The link is given some time to connect, and some time has to pass between two questions. -/
structure Usable (settings : HandsfreeSettings) : Prop where
  connectTimeout : 0 < settings.connectTimeout
  pollInterval : 0 < settings.pollInterval

/-- With usable settings, no more than `count` alarms are due at `now`. -/
def DeskInHand (now : Instant) (count : Nat) (desk : Desk Handsfree AlarmKind) : Prop :=
  InHand (fun s : Handsfree => Usable s.settings) now count desk.session desk.alarms

section Acts

variable {now : Instant} {count : Nat}

/-- A question that has to wait has to wait for some time. -/
theorem pos_of_throttle {s : Handsfree} {delay : Duration} (h : s.throttle now = some delay) :
    0 < delay := by
  obtain ⟨instant, hinstant, rfl⟩ := Option.map_eq_some_iff.1 h
  have hlater : now < instant := by simpa using (Option.filter_eq_some_iff.1 hinstant).2
  exact Nat.sub_pos_of_lt hlater

/-- A question that is put off is put off to a later instant. -/
theorem upholdsAt_queryCalls_inHand : Work.UpholdsAt now (DeskInHand now count) queryCalls := by
  rintro view desk rfl h
  have hcancelled := h.cancelWhere (· == .session .poll)
  rw [yields_queryCalls]
  split
  · exact hcancelled.schedule _ h.usable.pollInterval
  · split
    · next delay hdelay => exact hcancelled.schedule _ (pos_of_throttle hdelay)
    · exact ⟨h.usable, hcancelled.due⟩

/-- So is the question that comes after a list. -/
theorem upholdsAt_finishQuery_inHand : Work.UpholdsAt now (DeskInHand now count) finishQuery := by
  rintro view desk rfl h
  have hcancelled := h.cancelWhere (· == .session .poll)
  rw [yields_finishQuery]
  split
  · exact ⟨h.usable, hcancelled.due⟩
  · refine ⟨h.usable, ?_⟩
    show ((polling desk.alarms _ _).dueAt view.now).length ≤ count
    rw [polling]
    split
    · split
      · exact h.due
      · exact (h.schedule _ h.usable.pollInterval).due
    · exact hcancelled.due

theorem actsAt_inHand : ActsAt now (DeskInHand now count) where
  note f haside := fun _ desk h => ⟨(haside.settings desk.session).symm ▸ h.usable, h.due⟩
  announce _ _ := fun _ _ h => h
  dropAudio := fun _ _ h => h
  issue _ _ := fun _ _ h => ⟨h.usable, h.due⟩
  record _ _ := fun _ _ h => ⟨h.usable, h.due⟩
  abandonDial := by
    intro view desk h
    rw [yields_abandonDial]
    exact ⟨h.usable, h.due⟩
  queryCalls := upholdsAt_queryCalls_inHand
  finishQuery := upholdsAt_finishQuery_inHand
  enter _ _ _ _ _ _ h := ⟨h.usable, h.due⟩
  order _ := fun _ _ h => ⟨h.usable, h.due⟩
  strike := fun _ _ h => ⟨h.usable, h.due⟩

end Acts

/-- Handsfree arms nothing to go off at once. -/
theorem provident : Provident Handsfree fun s => Usable s.settings where
  patience _ h := h.connectTimeout
  onLinkUp _ _ h := h
  consulted now count := by
    refine actsAt_inHand.profile ?_
    intro view desk _ h
    rw [yields_onDisconnected]
    exact ⟨h.usable, h.due⟩

end Handsfree

/-! ### Both profiles -/

/-- **With usable settings, the loops of either profile end, and leave nothing behind that is
due**, whatever was done to the link before, and whatever stirs it now. -/
theorem links_finish (settings : Settings) (husable : settings.validate = .ok ()) (peer : Address)
    (issuer : Nat) :
    (∀ impulses : List (Impulse Stream.Request),
      let life := (Link.start peer (Stream.start settings.stream)).live impulses
      life.1.Finishes) ∧
    (∀ impulses : List (Impulse Handsfree.Request),
      let life := (Link.start peer (Handsfree.start settings.handsfree issuer)).live impulses
      life.1.Finishes) := by
  obtain ⟨hstream, hhandsfree⟩ := Settings.connectTimeout_pos husable
  have hpoll : 0 < settings.handsfree.pollInterval := Settings.pollInterval_pos husable
  exact ⟨Link.finishes_live Stream.provident hstream,
    Link.finishes_live Handsfree.provident ⟨hhandsfree, hpoll⟩⟩

namespace Handsfree

/-- The user asks to connect twice, and the gateway never answers. -/
def insistent : List (Impulse Request) :=
  [.hand (obliging 5) .connect, .hand (obliging 6) .connect]

/-- When the first attempt has taken too long, the link is taken to be down, and the second request,
which has been waiting for that, is carried out within the same round: what goes off next is the
bound of the second attempt. -/
theorem links_finish_insistent :
    let link := (fresh.live insistent).1
    let expiry := obliging (Duration.ofSeconds 10 5)
    Settings.standard.validate = .ok () ∧ link.deferred = [.connect] ∧
      link.alarms.popDue expiry.now ≠ none ∧
      Link.Serves expiry ⟨link, []⟩ ⟨(link.fireDue expiry).1, (link.fireDue expiry).2⟩ ∧
      (link.fireDue expiry).1.alarms.nextDeadline = some (Duration.ofSeconds 20 5) ∧
      ∀ alarm ∈ (link.fireDue expiry).1.alarms.entries, expiry.now < alarm.deadline := by
  intro link expiry
  have hfinishes : link.Finishes := (links_finish .standard rfl fresh.peer 0).2 insistent
  have hlink : link = ((fresh.liveFor 1 insistent).get rfl).1 :=
    congrArg Prod.fst (Link.live_eq_get 1 rfl)
  refine ⟨rfl, ?_, ?_, (hfinishes.woken expiry _).2 rfl, ?_, hfinishes.later expiry⟩
  · rw [hlink]
    rfl
  · rw [hlink]
    nofun
  · show (link.respond (.wake expiry)).1.alarms.nextDeadline = _
    rw [hlink, Link.respond_eq_get 3 (by decide +kernel)]
    decide +kernel

end Handsfree

end AudioLink
