/-
**The life of a link.**

A link lives from one impulse to the next: it is handed a message, or it is woken for the alarms
that are due.  Each impulse comes with a scene of its own, so that clock, transport and preferences
may be different every time.  Between two impulses the queue is empty.

What holds throughout a life is proved errand by errand.  The rules below say which errands have to
be looked at: those found in the queue, and the one that an impulse puts there.

Main definitions:

* `AudioLink.Impulse`, `AudioLink.Link.respond` — one impulse, and what a link makes of it;
* `AudioLink.Effect.call?` — what an effect asks of the transport;
* `AudioLink.Link.live` — a life, with everything that left the link in the course of it;
* `AudioLink.Link.keep` — the record that someone keeps of a life;
* `AudioLink.Link.Moment` — the moments of an impulse, between one errand and the next;
* `AudioLink.Link.Steady` — a property that no errand spoils.

Main results:

* `AudioLink.Link.serveDue_induction`, `AudioLink.Link.respond_hand`,
  `AudioLink.Link.respond_wake_served`, `AudioLink.Link.respond_wake` — what every errand keeps, an
  impulse keeps;
* `AudioLink.Link.Steady.live`, `AudioLink.Link.Steady.moment` — **what no errand spoils holds
  throughout a life**, and at every moment of it;
* `AudioLink.Link.any_live_iff` — what leaves a link in its life leaves it at some impulse;
* `AudioLink.Link.live_induction`, `AudioLink.Link.keep_induction` — what every impulse keeps, of
  the link or of the link and its record, holds throughout a life.
-/

import AudioLink.Link.Run
import AudioLink.Proofs.Yields

set_option relaxedAutoImplicit false
set_option autoImplicit false

namespace AudioLink

/-- What stirs a link: a message, or alarms that are due. -/
inductive Impulse (ρ : Type) where
  | hand (scene : Scene) (message : Message ρ)
  | wake (scene : Scene)

/-- What is fixed while a link makes something of an impulse. -/
def Impulse.scene {ρ : Type} : Impulse ρ → Scene
  | hand scene _ | wake scene => scene

/-- What the user is told of a verdict. -/
def Verdict.told : Verdict → List Effect
  | .ok _ => []
  | .error fault => if fault.isUnexpected then [] else [.notice (.requestFailed fault)]

/-- What telling a fault does not spoil is not spoilt when the user is told of a verdict. -/
theorem Verdict.of_told {P : List Effect → Prop} {log : List Effect} (verdict : Verdict)
    (h : P log) (told : ∀ fault, verdict = .error fault →
      P (log ++ [.notice (.requestFailed fault)])) : P (log ++ verdict.told) := by
  cases verdict with
  | ok _ =>
      rw [Verdict.told, List.append_nil]
      exact h
  | error fault =>
      rw [Verdict.told]
      split
      · rw [List.append_nil]
        exact h
      · exact told fault rfl

/-- What the transport was asked, and how it has answered. -/
def Effect.call? : Effect → Option (Outgoing × Bool)
  | .call request accepted => some (request, accepted)
  | .notice _ => none

namespace Link

variable {σ ρ τ : Type} [ProfileSession σ ρ τ] [DecidableEq τ] [Outlined ρ]

/-! ### Impulses -/

/-- What a link makes of an impulse: the link afterwards, and what has left it. -/
def respond (link : Link σ ρ τ) : Impulse ρ → Link σ ρ τ × List Effect
  | .hand scene message => process scene message link
  | .wake scene => fireDue scene link

/-- A life: impulse after impulse, with everything that left the link. -/
def live (link : Link σ ρ τ) : List (Impulse ρ) → Link σ ρ τ × List Effect
  | [] => (link, [])
  | impulse :: rest =>
      let moment := link.respond impulse
      let later := live moment.1 rest
      (later.1, moment.2 ++ later.2)

theorem queue_respond {link : Link σ ρ τ} (h : link.queue = []) (impulse : Impulse ρ) :
    (link.respond impulse).1.queue = [] := by
  cases impulse with
  | hand scene message => exact queue_process scene message link
  | wake scene => exact queue_fireDue scene h

theorem live_append (link : Link σ ρ τ) (before after : List (Impulse ρ)) :
    link.live (before ++ after) =
      (((link.live before).1.live after).1,
        (link.live before).2 ++ ((link.live before).1.live after).2) := by
  induction before generalizing link with
  | nil => rfl
  | cons impulse before ih =>
      rw [List.cons_append, live, ih]
      simp only [live, List.append_assoc]

/-- The last impulse of a life. -/
theorem live_snoc (link : Link σ ρ τ) (before : List (Impulse ρ)) (impulse : Impulse ρ) :
    link.live (before ++ [impulse]) =
      (((link.live before).1.respond impulse).1,
        (link.live before).2 ++ ((link.live before).1.respond impulse).2) := by
  rw [live_append]
  simp only [live, List.append_nil]

/-- What leaves a link in the course of a life leaves it at some impulse. -/
theorem any_live_iff {link : Link σ ρ τ} {impulses : List (Impulse ρ)} {p : Effect → Bool} :
    (link.live impulses).2.any p = true ↔ ∃ before impulse, before ++ [impulse] <+: impulses ∧
      ((link.live before).1.respond impulse).2.any p = true := by
  induction impulses generalizing link with
  | nil =>
      constructor
      · intro h
        cases h
      · rintro ⟨before, impulse, hprefix, -⟩
        exact absurd (List.prefix_nil.1 hprefix) (List.append_ne_nil_of_right_ne_nil _ nofun)
  | cons first rest ih =>
      rw [live, List.any_append, Bool.or_eq_true, ih]
      constructor
      · rintro (h | ⟨before, impulse, hprefix, h⟩)
        · exact ⟨[], first, List.cons_prefix_cons.2 ⟨rfl, List.nil_prefix⟩, h⟩
        · exact ⟨first :: before, impulse, List.cons_prefix_cons.2 ⟨rfl, hprefix⟩, h⟩
      · rintro ⟨before, impulse, hprefix, h⟩
        cases before with
        | nil =>
            obtain ⟨rfl, -⟩ := List.cons_prefix_cons.1 hprefix
            exact .inl h
        | cons other before =>
            obtain ⟨rfl, hrest⟩ := List.cons_prefix_cons.1 hprefix
            exact .inr ⟨before, impulse, hrest, h⟩

/-- What every impulse keeps holds throughout a life. -/
theorem live_induction {P : Link σ ρ τ → List Effect → Prop} {link : Link σ ρ τ}
    (begun : P link [])
    (lived : ∀ link log impulse, P link log →
      P (link.respond impulse).1 (log ++ (link.respond impulse).2))
    (impulses : List (Impulse ρ)) : P (link.live impulses).1 (link.live impulses).2 := by
  -- the log is carried along, so that the induction can go from the front
  have carried : ∀ (impulses : List (Impulse ρ)) (link : Link σ ρ τ) (past : List Effect),
      P link past → P (link.live impulses).1 (past ++ (link.live impulses).2) := by
    intro impulses
    induction impulses with
    | nil =>
        intro link past h
        rw [live, List.append_nil]
        exact h
    | cons impulse rest ih =>
        intro link past h
        rw [live, ← List.append_assoc]
        exact ih _ _ (lived link past impulse h)
  exact carried impulses link [] begun

theorem queue_live {link : Link σ ρ τ} (h : link.queue = []) (impulses : List (Impulse ρ)) :
    (link.live impulses).1.queue = [] :=
  live_induction (P := fun link _ => link.queue = []) h
    (fun _ _ impulse h => queue_respond h impulse) impulses

/-! ### Records -/

section Records

variable {α : Type}

/-- The record of a life, as it is kept by whoever sees every impulse and what leaves the link for
it. -/
def keep (note : Link σ ρ τ → Impulse ρ → List Effect → α → α) (link : Link σ ρ τ) :
    List (Impulse ρ) → α → α
  | [], kept => kept
  | impulse :: rest, kept =>
      keep note (link.respond impulse).1 rest (note link impulse (link.respond impulse).2 kept)

/-- The last impulse that is noted. -/
theorem keep_snoc (note : Link σ ρ τ → Impulse ρ → List Effect → α → α) (link : Link σ ρ τ)
    (before : List (Impulse ρ)) (impulse : Impulse ρ) (kept : α) :
    link.keep note (before ++ [impulse]) kept =
      note (link.live before).1 impulse ((link.live before).1.respond impulse).2
        (link.keep note before kept) := by
  induction before generalizing link kept with
  | nil => rfl
  | cons first before ih =>
      rw [List.cons_append, keep, ih]
      rfl

/-- What every impulse keeps of a link and its record holds throughout a life. -/
theorem keep_induction {note : Link σ ρ τ → Impulse ρ → List Effect → α → α}
    {P : Link σ ρ τ → α → Prop}
    (noted : ∀ link impulse kept, P link kept →
      P (link.respond impulse).1 (note link impulse (link.respond impulse).2 kept))
    {link : Link σ ρ τ} {kept : α} (begun : P link kept) (impulses : List (Impulse ρ)) :
    P (link.live impulses).1 (link.keep note impulses kept) := by
  induction impulses generalizing link kept with
  | nil => exact begun
  | cons impulse rest ih => exact ih (noted link impulse kept begun)

end Records

/-! ### Errands and impulses -/

/-- What holds when an errand is handled is what holds when the user was told of its verdict. -/
theorem yields_handle_iff {errand : Errand ρ τ} {scene : Scene} {progress : Progress σ ρ τ}
    {P : Progress σ ρ τ → Prop} :
    (handle errand : Step σ ρ τ Unit).Yields scene progress (fun _ after => P after) ↔
      (onErrand errand : Step σ ρ τ Verdict).Yields scene progress fun verdict after =>
        P ⟨after.link, after.log ++ verdict.told⟩ := by
  rw [handle, Step.yields_bind]
  refine iff_of_eq (congrArg (Step.Yields _ _ _) ?_)
  funext verdict after
  cases verdict with
  | ok _ =>
      rw [Verdict.told, List.append_nil]
      rfl
  | error fault =>
      show (announceFault fault : Step σ ρ τ Unit).Yields scene after (fun _ after => P after) = _
      rw [announceFault, Verdict.told]
      cases fault.isUnexpected with
      | true =>
          rw [if_pos rfl, if_pos rfl, List.append_nil]
          rfl
      | false => rfl

/-- What holds after an errand, and whether the fault that comes of it is told or not, holds when it
is handled. -/
theorem yields_handle_told {errand : Errand ρ τ} {scene : Scene} {progress : Progress σ ρ τ}
    {P : Progress σ ρ τ → Prop}
    (done : (onErrand errand : Step σ ρ τ Verdict).Yields scene progress fun verdict after =>
      P after ∧ ∀ fault, verdict = .error fault →
        P { after with log := after.log ++ [.notice (.requestFailed fault)] }) :
    (handle errand : Step σ ρ τ Unit).Yields scene progress fun _ after => P after := by
  rw [yields_handle_iff]
  refine Step.yields_mono done ?_
  rintro verdict after ⟨h, told⟩
  exact verdict.of_told (P := fun log => P ⟨after.link, log⟩) h told

/-- What holds after an errand, and no fault spoils when it is told, holds when it is handled. -/
theorem yields_handle {errand : Errand ρ τ} {scene : Scene} {progress : Progress σ ρ τ}
    {P : Progress σ ρ τ → Prop}
    (done : (onErrand errand : Step σ ρ τ Verdict).Yields scene progress fun _ after => P after)
    (told : ∀ after fault, P after →
      P { after with log := after.log ++ [.notice (.requestFailed fault)] }) :
    (handle errand : Step σ ρ τ Unit).Yields scene progress fun _ after => P after := by
  refine yields_handle_told (Step.yields_mono done ?_)
  intro _ after h
  exact ⟨h, fun fault _ => told after fault h⟩

section Impulses

variable {P : Progress σ ρ τ → Prop} {scene : Scene} {link : Link σ ρ τ}

/-- A message is handed to a link: what handling it brings about and every errand keeps holds
afterwards. -/
theorem respond_hand {message : Message ρ} (queue : link.queue = [])
    (first : (handle (.message message) : Step σ ρ τ Unit).Yields scene ⟨link, []⟩
      fun _ after => P after)
    (errand : ∀ progress errand rest, P progress → progress.link.queue = errand :: rest →
      (handle errand : Step σ ρ τ Unit).Yields scene
        ⟨{ progress.link with queue := rest }, progress.log⟩ fun _ after => P after) :
    P ⟨(link.respond (.hand scene message)).1, (link.respond (.hand scene message)).2⟩ := by
  have hstart : ({ link with queue := [] } : Link σ ρ τ) = link := by
    cases link
    cases queue
    rfl
  have hqueue :
      link.queue ++ [.message message] = .message message :: ([] : List (Errand ρ τ)) := by
    rw [queue]
    rfl
  show P (drain scene ⟨{ link with queue := link.queue ++ [.message message] }, []⟩)
  -- the first errand is the message itself; only what comes after it may be any errand
  rw [drain_of_queue_cons hqueue]
  refine drain_induction errand _ ?_
  show P ((handle (.message message)).run scene |>.run ⟨{ link with queue := [] }, []⟩).2
  rw [hstart]
  exact first

/-- When a message leaves nothing else to do, the link is afterwards as handling the message has
left it. -/
theorem respond_hand_eq {message : Message ρ} {next : Link σ ρ τ} {log : List Effect}
    (queue : link.queue = []) (idle : next.queue = [])
    (handled : (handle (.message message) : Step σ ρ τ Unit).Yields scene ⟨link, []⟩
      fun _ after => after = ⟨next, log⟩) :
    link.respond (.hand scene message) = (next, log) := by
  have hlast : Progress.mk (link.respond (.hand scene message)).1
      (link.respond (.hand scene message)).2 = ⟨next, log⟩ := by
    refine respond_hand (P := fun after => after = ⟨next, log⟩) queue handled ?_
    rintro progress errand rest rfl hcons
    cases idle.symm.trans hcons
  obtain ⟨hlink, hlog⟩ := Progress.mk.inj hlast
  exact Prod.ext hlink hlog

/-- What holds when everything is done that handling the first errand leaves to do, holds when the
queue is worked off. -/
theorem drain_of_yields {progress : Progress σ ρ τ} {errand : Errand ρ τ}
    {rest : List (Errand ρ τ)} (next : progress.link.queue = errand :: rest)
    (handled : (handle errand : Step σ ρ τ Unit).Yields scene
      ⟨{ progress.link with queue := rest }, progress.log⟩ fun _ after => P (drain scene after)) :
    P (drain scene progress) := by
  rw [drain_of_queue_cons next]
  exact handled

/-- Alarms are served: what serving an alarm brings about and every errand keeps holds
afterwards. -/
theorem serveDue_induction
    (alarm : ∀ progress kind others, P progress → progress.link.queue = [] →
      progress.link.alarms.popDue scene.now = some (kind, others) →
      (handle (.alarm kind) : Step σ ρ τ Unit).Yields scene
        ⟨{ progress.link with alarms := others, queue := [] }, progress.log⟩ fun _ after => P after)
    (errand : ∀ progress errand rest, P progress → progress.link.queue = errand :: rest →
      (handle errand : Step σ ρ τ Unit).Yields scene
        ⟨{ progress.link with queue := rest }, progress.log⟩ fun _ after => P after)
    (rounds : Nat) {progress : Progress σ ρ τ} (queue : progress.link.queue = [])
    (begun : P progress) : P (serveDue scene rounds progress) := by
  induction rounds generalizing progress with
  | zero => exact begun
  | succ rounds ih =>
      rw [serveDue]
      split
      · exact begun
      · next kind others hpop =>
          refine ih (queue_drain ..) ?_
          -- the alarm is the only errand at first; what comes after it may be any errand
          refine drain_of_yields (congrArg (· ++ [.alarm kind]) queue) ?_
          refine Step.yields_mono (alarm progress kind others begun queue hpop) ?_
          intro _ after hafter
          exact drain_induction errand after hafter

/-- A link is woken: what serving an alarm brings about and every errand keeps holds afterwards. -/
theorem respond_wake_served (queue : link.queue = []) (begun : P ⟨link, []⟩)
    (alarm : ∀ progress kind others, P progress → progress.link.queue = [] →
      progress.link.alarms.popDue scene.now = some (kind, others) →
      (handle (.alarm kind) : Step σ ρ τ Unit).Yields scene
        ⟨{ progress.link with alarms := others, queue := [] }, progress.log⟩ fun _ after => P after)
    (errand : ∀ progress errand rest, P progress → progress.link.queue = errand :: rest →
      (handle errand : Step σ ρ τ Unit).Yields scene
        ⟨{ progress.link with queue := rest }, progress.log⟩ fun _ after => P after) :
    P ⟨(link.respond (.wake scene)).1, (link.respond (.wake scene)).2⟩ :=
  serveDue_induction alarm errand _ queue begun

/-- A link is woken: what taking out an alarm and every errand keep holds afterwards. -/
theorem respond_wake (queue : link.queue = []) (begun : P ⟨link, []⟩)
    (alarm : ∀ progress kind others, P progress → progress.link.queue = [] →
      progress.link.alarms.popDue scene.now = some (kind, others) →
      P ⟨{ progress.link with alarms := others, queue := [.alarm kind] }, progress.log⟩)
    (errand : ∀ progress errand rest, P progress → progress.link.queue = errand :: rest →
      (handle errand : Step σ ρ τ Unit).Yields scene
        ⟨{ progress.link with queue := rest }, progress.log⟩ fun _ after => P after) :
    P ⟨(link.respond (.wake scene)).1, (link.respond (.wake scene)).2⟩ := by
  refine respond_wake_served queue begun ?_ errand
  intro progress kind others h hqueue hpop
  exact errand _ (.alarm kind) [] (alarm progress kind others h hqueue hpop) rfl

end Impulses

/-! ### Moments -/

/-- The moments of an impulse: something is to be done next, or there is nothing left to do. -/
inductive Moment (link : Link σ ρ τ) : Impulse ρ → Progress σ ρ τ → Prop
  | handed (scene : Scene) (message : Message ρ) : Moment link (.hand scene message)
      ⟨{ link with queue := link.queue ++ [.message message] }, []⟩
  | woken (scene : Scene) : Moment link (.wake scene) ⟨link, []⟩
  /-- An alarm that is due is taken out. -/
  | alarm {scene : Scene} {progress : Progress σ ρ τ} {kind : AlarmKind τ}
      {others : Alarms (AlarmKind τ)} (before : Moment link (.wake scene) progress)
      (idle : progress.link.queue = [])
      (due : progress.link.alarms.popDue scene.now = some (kind, others)) :
      Moment link (.wake scene)
        ⟨{ progress.link with alarms := others, queue := [.alarm kind] }, progress.log⟩
  /-- The first errand of the queue is handled. -/
  | errand {impulse : Impulse ρ} {progress : Progress σ ρ τ} {errand : Errand ρ τ}
      {rest : List (Errand ρ τ)} (before : Moment link impulse progress)
      (next : progress.link.queue = errand :: rest) :
      Moment link impulse ((handle errand).run impulse.scene |>.run
        ⟨{ progress.link with queue := rest }, progress.log⟩).2

/-- What a link has made of an impulse is the last of its moments. -/
theorem moment_respond {link : Link σ ρ τ} (hqueue : link.queue = []) (impulse : Impulse ρ) :
    Moment link impulse ⟨(link.respond impulse).1, (link.respond impulse).2⟩ := by
  cases impulse with
  | hand scene message =>
      refine drain_induction (P := Moment link (.hand scene message)) ?_ _ (.handed scene message)
      exact fun _ _ _ before next => .errand before next
  | wake scene =>
      refine respond_wake (P := Moment link (.wake scene)) hqueue (.woken scene) ?_ ?_
      · exact fun _ _ _ before idle due => .alarm before idle due
      · exact fun _ _ _ before next => .errand before next

/-- A property of a link and of all that has left it that no errand spoils, and that is no matter of
the alarms and of the queue. -/
structure Steady (P : Link σ ρ τ → List Effect → Prop) : Prop where
  aside : ∀ link log alarms queue, P link log →
    P { link with alarms := alarms, queue := queue } log
  handle : ∀ past (errand : Errand ρ τ), Step.Upholds
    (fun progress : Progress σ ρ τ => P progress.link (past ++ progress.log)) (Link.handle errand)

namespace Steady

variable {P : Link σ ρ τ → List Effect → Prop} (h : Steady P)

include h

/-- What no errand spoils holds at every moment of an impulse. -/
theorem of_moment {link : Link σ ρ τ} {past : List Effect} (begun : P link past)
    {impulse : Impulse ρ} {progress : Progress σ ρ τ} (hmoment : Moment link impulse progress) :
    P progress.link (past ++ progress.log) := by
  induction hmoment with
  | handed scene message =>
      rw [List.append_nil]
      exact h.aside link past link.alarms _ begun
  | woken scene =>
      rw [List.append_nil]
      exact begun
  | alarm _ _ _ ih => exact h.aside _ _ _ _ ih
  | @errand impulse progress errand rest _ _ ih =>
      exact h.handle past errand impulse.scene ⟨_, progress.log⟩
        (h.aside _ _ progress.link.alarms rest ih)

/-- **What no errand spoils holds throughout a life.** -/
theorem live {link : Link σ ρ τ} (hqueue : link.queue = []) (begun : P link [])
    (impulses : List (Impulse ρ)) : P (link.live impulses).1 (link.live impulses).2 := by
  have hlived := live_induction (P := fun link log => link.queue = [] ∧ P link log)
    ⟨hqueue, begun⟩ ?_ impulses
  · exact hlived.2
  · rintro link log impulse ⟨hqueue, hP⟩
    exact ⟨queue_respond hqueue impulse, h.of_moment hP (moment_respond hqueue impulse)⟩

/-- What no errand spoils holds at every moment of every impulse of a life. -/
theorem moment {link : Link σ ρ τ} (hqueue : link.queue = []) (begun : P link [])
    {before : List (Impulse ρ)} {impulse : Impulse ρ} {progress : Progress σ ρ τ}
    (hmoment : Moment (link.live before).1 impulse progress) :
    P progress.link ((link.live before).2 ++ progress.log) :=
  h.of_moment (h.live hqueue begun before) hmoment

end Steady

end Link

end AudioLink
