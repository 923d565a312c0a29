/-
**How much a link still has to do.**

An errand may put others into the queue, so that it is not plain that the queue ever runs empty.
It does, because errands come in three weights.  Disconnecting, an event, a request or an alarm
may bring back everything that was deferred; but only an alarm leaves another errand of that kind
behind, a lighter one.  A request to connect, the link or its audio, is either carried out, or
deferred, or given up.  A request to drop the audio leaves nothing behind at all.

* `AudioLink.Errand.weight`, `AudioLink.Link.load` — the heavy errands, those that wait for a
  stable state included;
* `AudioLink.Link.openings` — the requests to connect that are in the queue;
* `AudioLink.Link.Relieved` — one link has less to do than another;
* `AudioLink.Link.relieved_handle` — handling the first errand of the queue relieves the link.
-/
import AudioLink.Link.Handling

set_option relaxedAutoImplicit false
set_option autoImplicit false
set_option linter.unusedSectionVars false

namespace AudioLink

variable {σ ρ τ : Type}

/-! ### Weights -/

/-- The weight of a message: what may change the state of the link to a stable one is heavy. -/
def Message.weight : Message ρ → Nat
  | .connect | .connectAudio | .disconnectAudio => 0
  | .disconnect | .event _ | .request _ => 1

/-- The weight of an errand.  An alarm may leave an event behind. -/
def Errand.weight : Errand ρ τ → Nat
  | .message m => m.weight
  | .alarm _ => 2

/-- Whether an errand asks for a connection, of the link or of its audio. -/
def Errand.isOpening : Errand ρ τ → Bool
  | .message .connect | .message .connectAudio => true
  | _ => false

/-- The weights of some items together. -/
def total {α : Type} (weight : α → Nat) : List α → Nat
  | [] => 0
  | item :: items => weight item + total weight items

section Total

variable {α β : Type}

theorem total_append (weight : α → Nat) (items others : List α) :
    total weight (items ++ others) = total weight items + total weight others := by
  induction items with
  | nil => simp [total]
  | cons item items ih => simp [total, ih, Nat.add_assoc]

theorem total_map (weight : β → Nat) (f : α → β) (items : List α) :
    total weight (items.map f) = total (fun item => weight (f item)) items := by
  induction items with
  | nil => rfl
  | cons item items ih => simp [total, ih]

theorem total_replicate (weight : α → Nat) (item : α) (light : weight item = 0) (n : Nat) :
    total weight (List.replicate n item) = 0 := by
  induction n with
  | zero => rfl
  | succ n ih => simp [List.replicate_succ, total, light, ih]

theorem total_filter_le (weight : α → Nat) (p : α → Bool) (items : List α) :
    total weight (items.filter p) ≤ total weight items := by
  induction items with
  | nil => exact Nat.le_refl _
  | cons item items ih =>
      by_cases h : p item = true <;> simp [h, total] <;> omega

end Total

namespace Link

/-- The heavy errands that a link has to do, now or in the next stable state. -/
def load (link : Link σ ρ τ) : Nat :=
  total Errand.weight link.queue + total Message.weight link.deferred

/-- The requests to connect that are in the queue. -/
def openings (link : Link σ ρ τ) : Nat := link.queue.countP Errand.isOpening

/-- `next` has less to do than `link`: fewer heavy errands, or as many and fewer requests to
connect, or as many of both and fewer errands. -/
def Relieved (next link : Link σ ρ τ) : Prop :=
  Prod.Lex (· < ·) (Prod.Lex (· < ·) (· < ·))
    (next.load, next.openings, next.queue.length)
    (link.load, link.openings, link.queue.length)

/-- A link cannot be relieved for ever. -/
theorem wellFounded_relieved : WellFounded (Relieved (σ := σ) (ρ := ρ) (τ := τ)) :=
  InvImage.wf (fun link : Link σ ρ τ => (link.load, link.openings, link.queue.length))
    (Prod.lex ⟨_, Nat.lt_wfRel.wf⟩ (Prod.lex ⟨_, Nat.lt_wfRel.wf⟩ ⟨_, Nat.lt_wfRel.wf⟩)).wf

end Link

/-! ### Steps that keep a relation -/

/-- Whatever link a step starts from, the relation `R` holds between it and the link the step ends
with. -/
def Step.Keeps {α : Type} (R : Link σ ρ τ → Link σ ρ τ → Prop) (step : Step σ ρ τ α) : Prop :=
  ∀ scene progress, R progress.link ((step.run scene).run progress).2.link

namespace Step.Keeps

variable {α β : Type} {R : Link σ ρ τ → Link σ ρ τ → Prop}

theorem pure (refl : ∀ link, R link link) (a : α) : Keeps R (Pure.pure a : Step σ ρ τ α) :=
  fun _ _ => refl _

theorem bind (trans : ∀ {a b c}, R a b → R b c → R a c) {step : Step σ ρ τ α}
    {next : α → Step σ ρ τ β} (first : Keeps R step) (second : ∀ a, Keeps R (next a)) :
    Keeps R (step >>= next) :=
  fun scene progress => trans (first scene progress) (second _ scene _)

theorem comp {S T : Link σ ρ τ → Link σ ρ τ → Prop} (comp : ∀ {a b c}, R a b → S b c → T a c)
    {step : Step σ ρ τ α} {next : α → Step σ ρ τ β} (first : Keeps R step)
    (second : ∀ a, Keeps S (next a)) : Keeps T (step >>= next) :=
  fun scene progress => comp (first scene progress) (second _ scene _)

theorem link (refl : ∀ link, R link link) : Keeps R (Step.link : Step σ ρ τ (Link σ ρ τ)) :=
  fun _ _ => refl _

theorem scene (refl : ∀ link, R link link) : Keeps R (read : Step σ ρ τ Scene) :=
  fun _ _ => refl _

theorem ask (refl : ∀ link, R link link) (request : Outgoing) :
    Keeps R (Step.ask request : Step σ ρ τ Bool) :=
  fun _ _ => refl _

theorem announce (refl : ∀ link, R link link) (notice : Notice) :
    Keeps R (Step.announce notice : Step σ ρ τ Unit) :=
  fun _ _ => refl _

theorem change {f : Link σ ρ τ → Link σ ρ τ} (h : ∀ link, R link (f link)) :
    Keeps R (Step.change f) :=
  fun _ _ => h _

theorem consult (h : ∀ link (desk : Desk σ τ), R link (Step.settle link desk))
    (work : Work σ τ α) : Keeps R (Step.consult work : Step σ ρ τ α) :=
  fun _ _ => h _ _

theorem ite {c : Prop} [Decidable c] {yes no : Step σ ρ τ α} (hy : c → Keeps R yes)
    (hn : ¬c → Keeps R no) : Keeps R (if c then yes else no) := by
  split
  · next h => exact hy h
  · next h => exact hn h

end Step.Keeps

/-! ### Steps that add nothing heavy -/

namespace Link

/-- `next` has nothing heavy to do that `link` does not have to do as well. -/
def NotHeavier (link next : Link σ ρ τ) : Prop := next.load ≤ link.load

/-- `next` has nothing to do but what `link` has to do as well, and dropping audio. -/
def NotBusier (link next : Link σ ρ τ) : Prop :=
  next.load ≤ link.load ∧ next.openings ≤ link.openings

theorem NotHeavier.refl (link : Link σ ρ τ) : NotHeavier link link := Nat.le_refl _

theorem NotHeavier.trans {a b c : Link σ ρ τ} (h : NotHeavier a b) (h' : NotHeavier b c) :
    NotHeavier a c :=
  Nat.le_trans h' h

theorem NotBusier.refl (link : Link σ ρ τ) : NotBusier link link := ⟨Nat.le_refl _, Nat.le_refl _⟩

theorem NotBusier.trans {a b c : Link σ ρ τ} (h : NotBusier a b) (h' : NotBusier b c) :
    NotBusier a c :=
  ⟨Nat.le_trans h'.1 h.1, Nat.le_trans h'.2 h.2⟩

theorem NotBusier.of_eq {link next : Link σ ρ τ} (queue : next.queue = link.queue)
    (deferred : next.deferred = link.deferred) : NotBusier link next := by
  simp [NotBusier, load, openings, queue, deferred]

/-- What a profile does at its desk adds at most requests to drop the audio. -/
theorem notBusier_settle (link : Link σ ρ τ) (desk : Desk σ τ) :
    NotBusier link (Step.settle link desk) := by
  have light (n : Nat) : total Errand.weight
      (List.replicate n (Errand.message (ρ := ρ) (τ := τ) .disconnectAudio)) = 0 :=
    total_replicate Errand.weight (.message .disconnectAudio) rfl n
  simp [NotBusier, Step.settle, load, openings, total_append, light, List.countP_replicate,
    Errand.isOpening]

end Link

theorem Step.Keeps.notHeavier {α : Type} {step : Step σ ρ τ α}
    (h : Step.Keeps Link.NotBusier step) : Step.Keeps Link.NotHeavier step :=
  fun scene progress => (h scene progress).1

namespace Link

variable [ProfileSession σ ρ τ]

open Step.Keeps in
theorem notBusier_setAudio (audio : AudioState) (wideband : Bool) :
    Step.Keeps NotBusier (setAudio audio wideband : Step σ ρ τ Unit) :=
  bind .trans (.link .refl) fun _ =>
    bind .trans (.change fun _ => .of_eq rfl rfl) fun _ =>
      bind .trans (.announce .refl _) fun _ => .consult notBusier_settle _

theorem notBusier_silence : Step.Keeps NotBusier (silence : Step σ ρ τ Unit) :=
  .bind .trans (.link .refl) fun _ =>
    .ite (fun _ => notBusier_setAudio _ _) fun _ => .pure .refl _

variable [DecidableEq τ]

theorem notBusier_leave (state : LinkState) :
    Step.Keeps NotBusier (leave state : Step σ ρ τ Unit) := by
  cases state
  · exact .pure .refl _
  · exact .change fun _ => .of_eq rfl rfl
  · exact .bind .trans notBusier_silence fun _ => .change fun _ => .of_eq rfl rfl
  · exact .change fun _ => .of_eq rfl rfl

theorem notBusier_bound (kind : AlarmKind τ) :
    Step.Keeps NotBusier (bound kind : Step σ ρ τ Unit) :=
  .bind .trans (.scene .refl) fun _ => .change fun _ => .of_eq rfl rfl

theorem notBusier_enter (state : LinkState) :
    Step.Keeps NotBusier (enter state : Step σ ρ τ Unit) := by
  cases state
  · exact .consult notBusier_settle _
  · exact notBusier_bound _
  · refine .bind .trans (.change fun link => ?_) fun _ =>
      .bind .trans notBusier_silence fun _ => .consult notBusier_settle _
    have := total_filter_le Message.weight (!·.isConnect) link.deferred
    simp only [NotBusier, load, openings]
    omega
  · exact notBusier_bound _

/-- What was deferred moves into the queue; its weight stays. -/
theorem load_replay (link : Link σ ρ τ) :
    load { link with queue := link.deferred.map .message ++ link.queue, deferred := [] } =
      link.load := by
  have : total (fun m => Errand.weight (τ := τ) (.message m)) link.deferred =
      total Message.weight link.deferred := rfl
  simp only [load, total_append, total_map, this, total]
  omega

theorem notHeavier_transition (next : LinkState) :
    Step.Keeps NotHeavier (transition next : Step σ ρ τ Unit) := by
  refine .bind .trans (.link .refl) fun link => .ite (fun _ => ?_) fun _ => .pure .refl _
  refine .bind .trans (notBusier_leave _).notHeavier fun _ => ?_
  refine .bind .trans (.change fun _ => (NotBusier.of_eq rfl rfl).1) fun _ => ?_
  refine .bind .trans (.announce .refl _) fun _ => ?_
  refine .bind .trans (notBusier_enter _).notHeavier fun _ => ?_
  exact .ite (fun _ => .change fun link => Nat.le_of_eq (load_replay link)) fun _ => .pure .refl _

/-- On the way to a transient state nothing is replayed. -/
theorem notBusier_transition {next : LinkState} (h : next.isStable = false) :
    Step.Keeps NotBusier (transition next : Step σ ρ τ Unit) := by
  refine .bind .trans (.link .refl) fun link => .ite (fun _ => ?_) fun _ => .pure .refl _
  refine .bind .trans (notBusier_leave _) fun _ => ?_
  refine .bind .trans (.change fun _ => .of_eq rfl rfl) fun _ => ?_
  refine .bind .trans (.announce .refl _) fun _ => ?_
  refine .bind .trans (notBusier_enter _) fun _ => ?_
  exact .ite (fun stable => by simp [h] at stable) fun _ => .pure .refl _

/-! ### One errand -/

theorem notBusier_onConnect : Step.Keeps NotBusier (onConnect : Step σ ρ τ Verdict) := by
  refine .bind .trans (.link .refl) fun link => ?_
  have defer : Step.Keeps NotBusier (do
      Step.change fun link => { link with deferred := link.deferred ++ [.connect] }
      return .ok () : Step σ ρ τ Verdict) :=
    .bind .trans (.change fun _ => by
      simp [NotBusier, load, openings, total_append, total, Message.weight]) fun _ => .pure .refl _
  cases link.state
  · refine .bind .trans (.ask .refl _) fun _ => .ite (fun _ => ?_) fun _ => .pure .refl _
    exact .bind .trans (notBusier_transition rfl) fun _ => .pure .refl _
  · exact defer
  · exact .pure .refl _
  · exact defer

theorem notBusier_onConnectAudio :
    Step.Keeps NotBusier (onConnectAudio : Step σ ρ τ Verdict) := by
  refine .bind .trans (.link .refl) fun link => .ite (fun _ => .pure .refl _) fun _ => ?_
  refine .ite (fun _ => .pure .refl _) fun _ => ?_
  refine .bind .trans (.ask .refl _) fun _ => .ite (fun _ => ?_) fun _ => .pure .refl _
  exact .bind .trans (notBusier_setAudio _ _) fun _ => .pure .refl _

/-- Dropping the audio adds nothing to the queue at all. -/
theorem eq_onDisconnectAudio :
    Step.Keeps (· = ·) (onDisconnectAudio : Step σ ρ τ Verdict) := by
  refine .bind .trans (.link fun _ => rfl) fun link =>
    .ite (fun _ => .pure (fun _ => rfl) _) fun _ => ?_
  refine .ite (fun _ => .pure (fun _ => rfl) _) fun _ => ?_
  refine .bind .trans (.ask (fun _ => rfl) _) fun _ => ?_
  exact .ite (fun _ => .pure (fun _ => rfl) _) fun _ => .pure (fun _ => rfl) _

theorem notHeavier_onDisconnect :
    Step.Keeps NotHeavier (onDisconnect : Step σ ρ τ Verdict) := by
  refine .bind .trans (.link .refl) fun link => .ite (fun _ => .pure .refl _) fun _ => ?_
  refine .bind .trans (.ask .refl _) fun _ => .ite (fun _ => ?_) fun _ => ?_
  · exact .bind .trans (notHeavier_transition _) fun _ => .pure .refl _
  · exact .bind .trans (notHeavier_transition _) fun _ => .pure .refl _

theorem notHeavier_onRequest [Outlined ρ] (request : ρ) :
    Step.Keeps NotHeavier (onRequest request : Step σ ρ τ Verdict) :=
  .bind .trans (.link .refl) fun _ =>
    .ite (fun _ => .consult (fun link desk => (notBusier_settle link desk).1) _) fun _ =>
      .pure .refl _

theorem notBusier_refuse : Step.Keeps NotBusier (refuse : Step σ ρ τ Unit) :=
  .bind .trans (.ask .refl _) fun _ => .pure .refl _

theorem notHeavier_linkUp (capabilities : Capabilities) :
    Step.Keeps NotHeavier (linkUp capabilities : Step σ ρ τ Unit) := by
  refine .bind .trans (.link .refl) fun link => ?_
  refine .bind .trans (.change fun _ => (NotBusier.of_eq rfl rfl).1) fun _ => ?_
  refine .ite (fun _ => notHeavier_transition _) fun _ => ?_
  refine .bind .trans (.ask .refl _) fun _ => ?_
  exact .ite (fun _ => notHeavier_transition _) fun _ => notHeavier_transition _

theorem notHeavier_ifAdmitted {next : Step σ ρ τ Unit} (h : Step.Keeps NotHeavier next) :
    Step.Keeps NotHeavier (ifAdmitted next) :=
  .bind .trans (.scene .refl) fun _ => .bind .trans (.link .refl) fun _ =>
    .ite (fun _ => h) fun _ => notBusier_refuse.notHeavier

theorem notHeavier_onLinkChanged (report : LinkState) (capabilities : Capabilities) :
    Step.Keeps NotHeavier (onLinkChanged report capabilities : Step σ ρ τ Unit) := by
  refine .bind .trans (.link .refl) fun link => ?_
  have admitted (next : LinkState) :
      Step.Keeps NotHeavier (ifAdmitted (transition next) : Step σ ρ τ Unit) :=
    notHeavier_ifAdmitted (notHeavier_transition next)
  have arrived : Step.Keeps NotHeavier (ifAdmitted (linkUp capabilities) : Step σ ρ τ Unit) :=
    notHeavier_ifAdmitted (notHeavier_linkUp capabilities)
  have ignored : Step.Keeps NotHeavier (pure () : Step σ ρ τ Unit) := .pure .refl _
  rcases link with ⟨_, state, _, _, _, _, _, _⟩
  cases state
  · cases report
    · exact ignored
    · exact admitted .connecting
    · exact arrived
    · exact ignored
  · cases report
    · exact notHeavier_transition _
    · exact ignored
    · exact notHeavier_linkUp _
    · exact notHeavier_transition _
  · cases report
    · exact notHeavier_transition _
    · exact ignored
    · exact ignored
    · exact notHeavier_transition _
  · cases report
    · exact notHeavier_transition _
    · exact admitted .connecting
    · exact arrived
    · exact ignored

theorem notHeavier_onAudioReport (report : AudioReport) :
    Step.Keeps NotHeavier (onAudioReport report : Step σ ρ τ Verdict) := by
  refine .bind .trans (.link .refl) fun link => .ite (fun _ => .pure .refl _) fun _ => ?_
  refine .ite (fun _ => ?_) fun _ => .pure .refl _
  exact .bind .trans (notBusier_setAudio _ _).notHeavier fun _ => .pure .refl _

theorem notHeavier_onEvent (event : Event) :
    Step.Keeps NotHeavier (onEvent event : Step σ ρ τ Verdict) := by
  cases event with
  | linkChanged report capabilities =>
      exact .bind .trans (notHeavier_onLinkChanged _ _) fun _ => .pure .refl _
  | audioChanged report => exact notHeavier_onAudioReport _
  | _ =>
      exact .bind .trans (.link .refl) fun _ => .ite (fun _ => .pure .refl _) fun _ =>
        .consult (fun link desk => (notBusier_settle link desk).1) _

/-- `next` has at most one heavy errand more to do than `link`, a light one of its kind. -/
def HeavierByOne (link next : Link σ ρ τ) : Prop := next.load ≤ link.load + 1

theorem NotHeavier.byOne {a b c : Link σ ρ τ} (h : NotHeavier a b) (h' : HeavierByOne b c) :
    HeavierByOne a c :=
  Nat.le_trans h' (Nat.succ_le_succ h)

theorem heavierByOne_giveUp : Step.Keeps HeavierByOne (giveUp : Step σ ρ τ Unit) :=
  .change fun link => by
    simp only [HeavierByOne, load, total, Errand.weight, Message.weight]
    omega

/-- An alarm leaves at most one event behind. -/
theorem heavierByOne_onAlarm (kind : AlarmKind τ) :
    Step.Keeps HeavierByOne (onAlarm kind : Step σ ρ τ Verdict) := by
  have refl (link : Link σ ρ τ) : HeavierByOne link link := Nat.le_succ _
  have before {α : Type} {step : Step σ ρ τ α} {next : α → Step σ ρ τ Verdict}
      (h : Step.Keeps NotHeavier step) (h' : ∀ a, Step.Keeps HeavierByOne (next a)) :
      Step.Keeps HeavierByOne (step >>= next) :=
    .comp (R := NotHeavier) (S := HeavierByOne) NotHeavier.byOne h h'
  have thenDone {step : Step σ ρ τ Unit} {verdict : Verdict}
      (h : Step.Keeps HeavierByOne step) :
      Step.Keeps HeavierByOne (do step; return verdict : Step σ ρ τ Verdict) :=
    .comp (R := HeavierByOne) (S := NotHeavier) (fun h h' => Nat.le_trans h' h) h fun _ =>
      .pure .refl _
  refine before (.link .refl) fun link => ?_
  cases kind with
  | connect =>
      refine .ite (fun _ => ?_) fun _ => .pure refl _
      exact before notBusier_refuse.notHeavier fun _ => thenDone heavierByOne_giveUp
  | disconnect =>
      refine .ite (fun _ => ?_) fun _ => .pure refl _
      exact thenDone heavierByOne_giveUp
  | session kind =>
      refine .ite (fun _ => .consult (fun link desk => ?_) _) fun _ => .pure refl _
      exact Nat.le_succ_of_le (notBusier_settle link desk).1

/-- Telling a fault changes nothing about the link. -/
theorem eq_announceFault (fault : Fault) :
    Step.Keeps (· = ·) (announceFault fault : Step σ ρ τ Unit) :=
  .ite (fun _ => .pure (fun _ => rfl) _) fun _ => .announce (fun _ => rfl) _

/-- What a relation says of an errand, it says of handling the errand. -/
theorem keeps_handle [Outlined ρ] {R : Link σ ρ τ → Link σ ρ τ → Prop} (errand : Errand ρ τ)
    (h : Step.Keeps R (onErrand errand : Step σ ρ τ Verdict)) :
    Step.Keeps R (handle errand : Step σ ρ τ Unit) := by
  refine .comp (fun r e => e ▸ r) h fun verdict => (?_ : Step.Keeps (· = ·) _)
  cases verdict with
  | ok _ => exact .pure (fun _ => rfl) _
  | error fault => exact eq_announceFault fault

/-- Handling the first errand of the queue relieves the link. -/
theorem relieved_handle [Outlined ρ] {link : Link σ ρ τ} {errand : Errand ρ τ}
    {rest : List (Errand ρ τ)} (h : link.queue = errand :: rest) (scene : Scene)
    (log : List Effect) :
    Relieved ((handle errand).run scene |>.run ⟨{ link with queue := rest }, log⟩).2.link link := by
  let start : Progress σ ρ τ := ⟨{ link with queue := rest }, log⟩
  show Relieved ((handle errand).run scene |>.run start).2.link link
  have load_eq : link.load = errand.weight + start.link.load := by
    simp only [load, h, total, start]
    omega
  have openings_eq : link.openings =
      start.link.openings + if errand.isOpening then 1 else 0 := by
    simp [openings, h, List.countP_cons, start]
  -- an errand that has a weight takes it off the load
  have lighter (keeps : Step.Keeps NotHeavier (onErrand errand : Step σ ρ τ Verdict))
      (heavy : 0 < errand.weight) :
      Relieved ((handle errand).run scene |>.run start).2.link link := by
    have := keeps_handle errand keeps scene start
    simp only [NotHeavier] at this
    exact .left _ _ (by omega)
  -- one that has none is an opening, of which there is one less
  have opened (keeps : Step.Keeps NotBusier (onErrand errand : Step σ ρ τ Verdict))
      (light : errand.weight = 0) (opening : errand.isOpening = true) :
      Relieved ((handle errand).run scene |>.run start).2.link link := by
    have := keeps_handle errand keeps scene start
    simp only [NotBusier] at this
    simp only [opening, if_true] at openings_eq
    rcases Nat.lt_or_eq_of_le this.1 with less | same
    · exact .left _ _ (by omega)
    · exact Prod.Lex.right' _ (by omega) (.left _ _ (by omega))
  cases errand with
  | message m =>
      cases m with
      | connect => exact opened notBusier_onConnect rfl rfl
      | connectAudio => exact opened notBusier_onConnectAudio rfl rfl
      | disconnect => exact lighter notHeavier_onDisconnect Nat.one_pos
      | event event => exact lighter (notHeavier_onEvent event) Nat.one_pos
      | request request => exact lighter (notHeavier_onRequest request) Nat.one_pos
      | disconnectAudio =>
          -- nothing changes but the queue, which is shorter by one
          have same := keeps_handle (.message .disconnectAudio) eq_onDisconnectAudio scene start
          rw [← same]
          refine Prod.Lex.right' _ (by simp [load_eq, Errand.weight, Message.weight]) ?_
          refine Prod.Lex.right' _ (by simp [openings_eq, Errand.isOpening]) ?_
          simp [h, start]
  | alarm kind =>
      have := keeps_handle (.alarm kind) (heavierByOne_onAlarm kind) scene start
      simp only [HeavierByOne] at this
      simp only [Errand.weight] at load_eq
      exact .left _ _ (by omega)

end Link

end AudioLink
