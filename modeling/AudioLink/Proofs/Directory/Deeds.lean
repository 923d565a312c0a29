/-
**One thing after another.**

Here a directory is dealt with one thing at a time: a client has a message for a device, the workers
that are idle are retired, all workers are stopped, or some time passes.  Each takes as long as it
takes; meanwhile workers take their turns and are woken in any order, and in surroundings that may be
different every time.  Only when all is quiet again does the next begin.

What a client does is quite definite then.  As long as the directory is settled, workers that take
turns change nothing, and nobody has to wait.

Main definitions:

* `AudioLink.Deed` — a thing that is done to a directory;
* `AudioLink.Directory.Settled` — nothing waits in any inbox, and no alarm is due;
* `AudioLink.Directory.Stir`, `AudioLink.Plan.Done`, `AudioLink.Directory.Elapses` — a worker does
  something, a plan is carried out, and time passes, in any way in which they may;
* `AudioLink.Directory.Does`, `AudioLink.Directory.Runs` — one thing is done, or some things are done
  one after the other;
* `AudioLink.Directory.AtRest` — the directory is settled and in order.

Main results:

* `AudioLink.Plan.Done.after` — while the directory is settled, a plan goes on at once;
* `AudioLink.Directory.AtRest.enlist`, `AudioLink.Directory.AtRest.dismiss` — to enter a worker, or
  to dismiss one, leaves a directory at rest;
* `AudioLink.Plan.Done.routed`, `AudioLink.Plan.Done.asked` — **what becomes of a message for a
  device, and of the question whether a worker retires**.
-/

import AudioLink.Directory.Clock
import AudioLink.Proofs.Directory.Retiring
import Mathlib.Logic.Relation

set_option relaxedAutoImplicit false
set_option autoImplicit false

namespace AudioLink

variable {σ ρ τ α : Type}

/-! ### What is done -/

/-- A thing that is done to a directory. -/
inductive Deed (ρ : Type) where
  /-- A client has a message for a device. -/
  | call (peer : Address) (message : Message ρ)
  /-- The workers that are idle are retired. -/
  | reap
  /-- All workers are stopped. -/
  | stop
  /-- Time passes. -/
  | pass (duration : Duration)

/-- Whether a thing concerns a device: the messages for it do, and whatever concerns all devices. -/
def Deed.concerns (peer : Address) : Deed ρ → Bool
  | call other _ => other == peer
  | reap | stop | pass _ => true

/-- Whether a message makes a device known that was not. -/
def Message.opens : Message ρ → Bool
  | .connect => true
  | .event report => report.isLinkChange
  | .disconnect | .connectAudio | .disconnectAudio | .request _ => false

namespace Directory

/-- Nothing waits in any inbox, and no worker has to be woken. -/
structure Settled (d : Directory σ ρ τ) : Prop where
  emptied : ∀ i, d.inbox i = []
  early : ∀ (i : Nat) (w : Worker σ ρ τ), d.workers[i]? = some w → ∀ deadline,
    w.nextDeadline = some deadline → d.now < deadline

theorem settled_iff {d : Directory σ ρ τ} : d.Settled ↔ ∀ w ∈ d.workers,
    w.inbox = [] ∧ ∀ deadline ∈ w.nextDeadline, d.now < deadline := by
  constructor
  · intro h w hw
    obtain ⟨i, hi⟩ := List.mem_iff_getElem?.1 hw
    exact ⟨(inbox_eq hi).symm.trans (h.emptied i), h.early i w hi⟩
  · intro h
    refine ⟨fun i => ?_, fun i w hw => (h w (List.mem_of_getElem? hw)).2⟩
    cases hw : d.workers[i]? with
    | none => rw [inbox, hw]; rfl
    | some w => exact (inbox_eq hw).trans (h w (List.mem_of_getElem? hw)).1

instance (d : Directory σ ρ τ) : Decidable d.Settled := decidable_of_iff _ settled_iff.symm

/-- No worker has to be woken before an instant. -/
def QuietUntil (d : Directory σ ρ τ) (instant : Instant) : Prop :=
  ∀ (i : Nat) (w : Worker σ ρ τ), d.workers[i]? = some w → ∀ deadline,
    w.nextDeadline = some deadline → instant ≤ deadline

section Doing

variable [ProfileSession σ ρ τ] [DecidableEq τ] [Outlined ρ]

/-- A worker takes a turn, or is woken, in some of the surroundings `S`. -/
inductive Stir (S : Surroundings → Prop) (d : Directory σ ρ τ) : Directory σ ρ τ → Prop
  | turn (s : Surroundings) (hs : S s) (i : Nat) : Stir S d (d.turn s i)
  | wake (s : Surroundings) (hs : S s) (i : Nat) : Stir S d (d.wake s i)

/-- Workers do some things. -/
abbrev Stirs (S : Surroundings → Prop) : Directory σ ρ τ → Directory σ ρ τ → Prop :=
  Relation.ReflTransGen (Stir S)

end Doing

end Directory

/-- A plan is carried out while workers do some things. -/
inductive Plan.Done [ProfileSession σ ρ τ] [DecidableEq τ] [Outlined ρ] (S : Surroundings → Prop) :
    Plan σ ρ τ α → Directory σ ρ τ → α → Directory σ ρ τ → Prop
  | finished (result : α) (d : Directory σ ρ τ) : Done S (.finished result) d result d
  | advance {p q : Plan σ ρ τ α} {d next d' : Directory σ ρ τ} {result : α}
      (hadvance : p.advance d = some (q, next)) (hrest : Done S q next result d') :
      Done S p d result d'
  | stir {p : Plan σ ρ τ α} {d next d' : Directory σ ρ τ} {result : α}
      (hstir : Directory.Stir S d next) (hrest : Done S p next result d') : Done S p d result d'

namespace Directory

section Doing

variable [ProfileSession σ ρ τ] [DecidableEq τ] [Outlined ρ]

/-- Time passes up to an instant.  It stands still while there is something to do, and does not pass
by any alarm. -/
inductive Elapses (S : Surroundings → Prop) (target : Instant) :
    Directory σ ρ τ → Directory σ ρ τ → Prop
  | arrived (d : Directory σ ρ τ) (hnow : d.now = target) : Elapses S target d d
  | stir {d next d' : Directory σ ρ τ} (hstir : Stir S d next) (hrest : Elapses S target next d') :
      Elapses S target d d'
  | later {d d' : Directory σ ρ τ} (instant : Instant) (hsettled : d.Settled)
      (hlater : d.now < instant) (hwithin : instant ≤ target) (hquiet : d.QuietUntil instant)
      (hrest : Elapses S target { d with now := instant } d') : Elapses S target d d'

/-- One thing is done, and all is quiet again. -/
inductive Does (S : Surroundings → Prop) (d : Directory σ ρ τ) :
    Deed ρ → Directory σ ρ τ → Prop
  | call {peer : Address} {message : Message ρ} {result : Except Fault Unit}
      {d' : Directory σ ρ τ} (hdone : (Plan.ofMessage peer message).Done S d result d')
      (hsettled : d'.Settled) : Does S d (.call peer message) d'
  | reap {count : Nat} {d' : Directory σ ρ τ} (hdone : Plan.reap.Done S d count d')
      (hsettled : d'.Settled) : Does S d .reap d'
  | stop {d' : Directory σ ρ τ} (hdone : Plan.shutdown.Done S d () d') (hsettled : d'.Settled) :
      Does S d .stop d'
  | pass {duration : Duration} {d' : Directory σ ρ τ}
      (helapses : Elapses S (d.now + duration) d d') (hsettled : d'.Settled) :
      Does S d (.pass duration) d'

/-- Some things are done one after the other. -/
inductive Runs (S : Surroundings → Prop) :
    Directory σ ρ τ → List (Deed ρ) → Directory σ ρ τ → Prop
  | nil (d : Directory σ ρ τ) : Runs S d [] d
  | cons {d next d' : Directory σ ρ τ} {deed : Deed ρ} {deeds : List (Deed ρ)}
      (hdoes : Does S d deed next) (hruns : Runs S next deeds d') : Runs S d (deed :: deeds) d'

/-- What is done may be followed by more. -/
theorem Runs.append {S : Surroundings → Prop} {d next d' : Directory σ ρ τ}
    {deeds more : List (Deed ρ)} (hruns : Runs S d deeds next) (hmore : Runs S next more d') :
    Runs S d (deeds ++ more) d' := by
  induction hruns with
  | nil => exact hmore
  | cons hdoes _ ih => exact .cons hdoes (ih hmore)

end Doing

/-! ### Directories in order -/

/-- The directory is in order: every entry leads to a worker that takes items, every worker has
published how its link is, and only messages wait. -/
structure InOrder (d : Directory σ ρ τ) : Prop where
  kept : d.Kept
  entered : ∀ entry ∈ d.entries, d.Open entry.2
  published : ∀ (i : Nat) (w : Worker σ ρ τ), d.workers[i]? = some w → w.published = w.link.snapshot
  letters : ∀ (i : Nat) (item : Item ρ), item ∈ d.inbox i → item.message?.isSome = true
  fresh : Plan.Fresh d
  roomy : 0 < d.room

/-- The directory is settled and in order. -/
structure AtRest (d : Directory σ ρ τ) : Prop extends InOrder d, Settled d

theorem atRest_start (room : Nat) (newSession : Nat → σ) :
    AtRest (start room newSession : Directory σ ρ τ) where
  kept := kept_start room newSession
  entered _ h := nomatch h
  published _ _ h := by simp [start] at h
  letters _ _ h := by simp [inbox, start] at h
  fresh _ h := nomatch h
  roomy := Nat.lt_of_lt_of_le Nat.zero_lt_one (Nat.le_max_left 1 room)
  emptied _ := by simp [inbox, start]
  early _ _ h := by simp [start] at h

variable {d d' : Directory σ ρ τ} {peer : Address} {i : Nat} {v w : Worker σ ρ τ}

theorem Settled.letters (h : d.Settled) (i : Nat) (item : Item ρ) (hitem : item ∈ d.inbox i) :
    item.message?.isSome = true := by
  rw [h.emptied i] at hitem
  cases hitem

/-- Only the entries and the workers matter, and that no reply has a ticket yet to be given out. -/
theorem InOrder.of_eq (h : d.InOrder) (hworkers : d'.workers = d.workers)
    (hentries : d'.entries = d.entries) (hroom : d'.room = d.room) (hfresh : Plan.Fresh d') :
    d'.InOrder where
  kept :=
    { unique := hentries ▸ h.kept.unique
      known := fun e he => (Onward.of_workers_eq hworkers).knows _ _ (h.kept.known e (hentries ▸ he))
      listed := fun j w hw hopen => hentries ▸ h.kept.listed j w (hworkers ▸ hw) hopen
      emptied := fun j w hw => h.kept.emptied j w (hworkers ▸ hw) }
  entered e he := by
    rw [Open, hworkers]
    exact h.entered e (hentries ▸ he)
  published j w hw := h.published j w (hworkers ▸ hw)
  letters j := by
    rw [inbox, hworkers]
    exact h.letters j
  fresh := hfresh
  roomy := hroom ▸ h.roomy

theorem Settled.of_eq (h : d.Settled) (hworkers : d'.workers = d.workers) (hnow : d'.now = d.now) :
    d'.Settled where
  emptied j := by
    rw [inbox, hworkers]
    exact h.emptied j
  early j w hw := by
    rw [hnow]
    exact h.early j w (hworkers ▸ hw)

/-- The directory stays in order when a worker goes on and publishes how its link is. -/
theorem InOrder.replaced (h : d.InOrder) (hreplaced : Replaced i w v d d')
    (hclosed : v.closed = w.closed) (hpublished : v.published = v.link.snapshot)
    (hletters : ∀ item ∈ v.inbox, item.message?.isSome = true) (hroom : d'.room = d.room)
    (hfresh : Plan.Fresh d') : d'.InOrder where
  kept := hreplaced.kept h.kept
  entered e he := by
    obtain ⟨u, hu, hopen⟩ := h.entered e (hreplaced.entries ▸ he)
    by_cases hei : e.2 = i
    · rw [hei] at hu ⊢
      cases hreplaced.was.symm.trans hu
      exact ⟨v, hreplaced.same, hclosed.trans hopen⟩
    · exact ⟨u, (hreplaced.other hei).trans hu, hopen⟩
  published j u hu := by
    by_cases hj : j = i
    · subst hj
      cases hreplaced.same.symm.trans hu
      exact hpublished
    · exact h.published j u ((hreplaced.other hj).symm.trans hu)
  letters j item hitem := by
    by_cases hj : j = i
    · rw [hj, hreplaced.inbox_same] at hitem
      exact hletters item hitem
    · rw [hreplaced.inbox_other hj] at hitem
      exact h.letters j item hitem
  fresh := hfresh
  roomy := hroom ▸ h.roomy

/-- The worker of a device in order. -/
theorem InOrder.worker (h : d.InOrder) (hentry : (peer, i) ∈ d.entries) :
    ∃ w, d.workers[i]? = some w ∧ w.link.peer = peer ∧ w.closed = false := by
  obtain ⟨w, hw, hpeer⟩ := h.kept.known _ hentry
  obtain ⟨v, hv, hopen⟩ := h.entered _ hentry
  cases hw.symm.trans hv
  exact ⟨w, hw, hpeer, hopen⟩

/-- To put a message into an inbox leaves a directory in order. -/
theorem InOrder.push (h : d.InOrder) (hw : d.workers[i]? = some w) (hopen : w.closed = false)
    (message : Message ρ) : (d.push i w (.message message)).InOrder := by
  refine h.replaced (replaced_push hw hopen (.message message)) rfl (h.published i w hw) ?_ rfl
    h.fresh
  intro item hitem
  rcases List.mem_append.1 hitem with hold | hnew
  · exact h.letters i item ((inbox_eq hw).symm ▸ hold)
  · rw [List.mem_singleton.1 hnew]
    rfl

/-- To enter a worker leaves a directory at rest. -/
theorem AtRest.enlist (h : d.AtRest) (peer : Address) : (d.enlist peer).2.AtRest := by
  have hkept := h.kept.enlist peer
  have hinbox := d.inbox_enlist peer
  have hstill := d.still_enlist peer
  rcases d.enlist_cases peer with ⟨i, -, heq⟩ | ⟨-, heq⟩
  · rw [heq]
    exact h
  · rw [heq] at hkept hinbox hstill ⊢
    have hsettled : Settled { d with
        workers := d.workers ++ [.start (.start peer (d.newSession d.workers.length))]
        entries := placeEntry (peer, d.workers.length) d.entries } := by
      refine ⟨fun j => (hinbox j).trans (h.emptied j), fun j w hw deadline hdeadline => ?_⟩
      rcases getElem?_snoc hw with hold | ⟨-, rfl⟩
      · exact h.early j w hold deadline hdeadline
      · cases hdeadline
    refine ⟨⟨hkept, fun e he => ?_, fun j w hw => ?_, hsettled.letters, h.fresh, h.roomy⟩, hsettled⟩
    · exact (hstill.entries e he).elim (fun hold => hstill.opens _ (h.entered e hold)) id
    · rcases getElem?_snoc hw with hold | ⟨-, rfl⟩
      · exact h.published j w hold
      · rfl

/-- A directory stays settled when a worker goes on and has nothing to do. -/
theorem Settled.replaced (h : d.Settled) (hreplaced : Replaced i w v d d') (hnow : d'.now = d.now)
    (hempty : v.inbox = []) (hearly : ∀ deadline, v.nextDeadline = some deadline →
      d.now < deadline) : d'.Settled where
  emptied j := by
    by_cases hj : j = i
    · rw [hj, hreplaced.inbox_same, hempty]
    · exact (hreplaced.inbox_other hj).trans (h.emptied j)
  early j u hu deadline hdeadline := by
    rw [hnow]
    by_cases hj : j = i
    · subst hj
      cases hreplaced.same.symm.trans hu
      exact hearly deadline hdeadline
    · exact h.early j u ((hreplaced.other hj).symm.trans hu) deadline hdeadline

/-- A directory stays settled when a worker stops. -/
theorem Settled.close (h : d.Settled) (hreplaced : Replaced i w w.close d d')
    (hnow : d'.now = d.now) : d'.Settled :=
  h.replaced hreplaced hnow rfl nofun

/-- To dismiss a worker, and to take its entry away, leaves a directory at rest. -/
theorem AtRest.dismiss (h : d.AtRest) (hentry : (peer, i) ∈ d.entries)
    (hreplaced : Replaced i w w.close d d') (hnow : d'.now = d.now) (hroom : d'.room = d.room)
    (hfresh : Plan.Fresh d') : (d'.forget peer i).AtRest := by
  have hstopped : d'.Stopped i := ⟨w.close, hreplaced.same, rfl⟩
  have hkept := (hreplaced.kept h.kept).forget peer hstopped
  have hsettled : (d'.forget peer i).Settled := (h.toSettled.close hreplaced hnow).of_eq rfl rfl
  refine ⟨⟨hkept, fun e he => ?_, fun j v hv => ?_, hsettled.letters, hfresh, hroom ▸ h.roomy⟩,
    hsettled⟩
  · obtain ⟨hmem, hne⟩ := mem_entries_forget.1 he
    obtain ⟨p, j⟩ := e
    rw [hreplaced.entries] at hmem
    obtain ⟨v, hv, hopen⟩ := h.entered (p, j) hmem
    refine ⟨v, (hreplaced.other ?_).trans hv, hopen⟩
    -- an entry that leads to the worker is the entry of its device
    rintro rfl
    obtain ⟨u, hu, hpeer⟩ := h.kept.known _ hentry
    obtain ⟨u', hu', hpeer'⟩ := h.kept.known (p, j) hmem
    cases hu.symm.trans hu'
    exact hne (Prod.ext (hpeer'.symm.trans hpeer) rfl)
  · by_cases hj : j = i
    · subst hj
      cases hreplaced.same.symm.trans hv
      exact h.published j w hreplaced.was
    · exact h.published j v ((hreplaced.other hj).symm.trans hv)

/-! ### What workers do -/

/-- No time passes, and the workers are for the same devices as before. -/
structure Frame (d d' : Directory σ ρ τ) : Prop where
  now : d'.now = d.now
  peers : d'.peers = d.peers
  newSession : d'.newSession = d.newSession

theorem Frame.refl (d : Directory σ ρ τ) : Frame d d := ⟨rfl, rfl, rfl⟩

theorem Frame.trans {d'' : Directory σ ρ τ} (h : Frame d d') (h' : Frame d' d'') : Frame d d'' :=
  ⟨h'.now.trans h.now, h'.peers.trans h.peers, h'.newSession.trans h.newSession⟩

section Stirring

variable [ProfileSession σ ρ τ] [DecidableEq τ] [Outlined ρ] {S : Surroundings → Prop}

/-- A worker that does something handles a message, or serves an alarm that is due; or nothing
changes. -/
theorem stir_cases (h : d.InOrder) (hstir : Stir S d d') :
    d' = d ∨ ∃ s i w, S s ∧ d.workers[i]? = some w ∧ w.closed = false ∧
      ((∃ message rest, w.inbox = .message message :: rest ∧
          d' = d.enter i (w.handle (d.scene s w.link.peer) (.message message) rest)) ∨
        w.link.alarms.nextDeadline.any (· ≤ d.now) = true ∧
          d' = d.enter i (w.wake (d.scene s w.link.peer))) := by
  cases hstir with
  | turn s hs i =>
      rcases turn_cases s d i with ⟨-, heq⟩ | ⟨w, item, rest, hw, hinbox, heq⟩
      · exact .inl heq
      · have hmessage := h.letters i item (by
          rw [inbox_eq hw, hinbox]
          exact List.mem_cons_self ..)
        have hopen := (replaced_turn s h.kept hw hinbox).1
        cases item with
        | message message =>
            exact .inr ⟨s, i, w, hs, hw, hopen, .inl ⟨message, rest, hinbox, heq⟩⟩
        | question _ _ => cases hmessage
        | stop => cases hmessage
  | wake s hs i =>
      rcases wake_cases s d i with heq | ⟨w, hw, hopen, hdue, heq⟩
      · exact .inl heq
      · exact .inr ⟨s, i, w, hs, hw, hopen, .inr ⟨hdue, heq⟩⟩

theorem Stir.frame (hstir : Stir S d d') (h : d.InOrder) : Frame d d' := by
  rcases stir_cases h hstir with rfl | ⟨s, i, w, -, hw, hopen,
    ⟨message, rest, hinbox, rfl⟩ | ⟨-, rfl⟩⟩
  · exact .refl _
  · exact ⟨rfl, (replaced_turn s h.kept hw hinbox).2.peers, rfl⟩
  · exact ⟨rfl, (replaced_wake s hw hopen).peers, rfl⟩

/-- Whatever workers do, the directory stays in order. -/
theorem InOrder.stir (h : d.InOrder) (hstir : Stir S d d') : d'.InOrder := by
  rcases stir_cases h hstir with rfl | ⟨s, i, w, -, hw, hopen,
    ⟨message, rest, hinbox, rfl⟩ | ⟨-, rfl⟩⟩
  · exact h
  · refine h.replaced (replaced_turn s h.kept hw hinbox).2 rfl rfl (fun item hitem => ?_) rfl
      (h.fresh.enter fun _ hreply => nomatch hreply)
    refine h.letters i item ?_
    rw [inbox_eq hw, hinbox]
    exact List.mem_cons_of_mem _ hitem
  · refine h.replaced (replaced_wake s hw hopen) rfl rfl (fun item hitem => ?_) rfl
      (h.fresh.enter fun _ hreply => nomatch hreply)
    exact h.letters i item ((inbox_eq hw).symm ▸ hitem)

theorem InOrder.stirs (h : d.InOrder) (hstirs : Stirs S d d') : d'.InOrder := by
  induction hstirs with
  | refl => exact h
  | tail _ hstir ih => exact ih.stir hstir

theorem Stirs.frame (hstirs : Stirs S d d') (h : d.InOrder) : Frame d d' := by
  induction hstirs with
  | refl => exact .refl d
  | tail hearlier hstir ih => exact ih.trans (hstir.frame (h.stirs hearlier))

end Stirring

/-! ### While the directory is settled -/

section Settled

variable [ProfileSession σ ρ τ] [DecidableEq τ] [Outlined ρ] {S : Surroundings → Prop}

theorem turn_of_inbox (s : Surroundings) (h : d.inbox i = []) : d.turn s i = d := by
  rcases turn_cases s d i with ⟨-, heq⟩ | ⟨w, item, rest, hw, hinbox, -⟩
  · exact heq
  · cases hinbox.symm.trans ((inbox_eq hw).symm.trans h)

theorem wake_of_early (s : Surroundings) (h : ∀ w, d.workers[i]? = some w → ∀ deadline,
    w.nextDeadline = some deadline → d.now < deadline) : d.wake s i = d := by
  rcases wake_cases s d i with heq | ⟨w, hw, hopen, hdue, -⟩
  · exact heq
  · obtain ⟨deadline, hdeadline, hle⟩ := (Option.any_eq_true _ _).1 hdue
    have hnext : w.nextDeadline = some deadline := by
      rw [Worker.nextDeadline, hopen]
      exact hdeadline
    exact absurd (of_decide_eq_true hle) (Nat.not_le.2 (h w hw deadline hnext))

/-- In a settled directory, workers have nothing to do. -/
theorem Settled.stir (h : d.Settled) (hstir : Stir S d d') : d' = d := by
  cases hstir with
  | turn s hs i => exact turn_of_inbox s (h.emptied i)
  | wake s hs i => exact wake_of_early s (h.early i)

theorem Settled.stirs (h : d.Settled) (hstirs : Stirs S d d') : d' = d := by
  induction hstirs using Relation.ReflTransGen.head_induction_on with
  | refl => rfl
  | head hstir hrest ih =>
      obtain rfl := h.stir hstir
      exact ih h

end Settled

end Directory

namespace Plan

variable [ProfileSession σ ρ τ] [DecidableEq τ] [Outlined ρ] {S : Surroundings → Prop}
  {d d' : Directory σ ρ τ} {peer : Address} {i : Nat} {a : α}

namespace Done

/-- While the directory is settled, a plan goes on at once. -/
theorem after {p q : Plan σ ρ τ α} {next : Directory σ ρ τ} (h : p.Done S d a d')
    (hsettled : d.Settled) (hadvance : p.advance d = some (q, next)) : q.Done S next a d' := by
  induction h with
  | finished result d => cases hadvance
  | advance hother hrest ih =>
      obtain ⟨rfl, rfl⟩ := Prod.mk.inj (Option.some.inj (hother.symm.trans hadvance))
      exact hrest
  | stir hstir hrest ih =>
      obtain rfl := hsettled.stir hstir
      exact ih hsettled hadvance

/-- Once a plan is finished, only workers do something. -/
theorem stirs {b : α} (h : (Plan.finished b : Plan σ ρ τ α).Done S d a d') :
    a = b ∧ Directory.Stirs S d d' := by
  generalize hplan : Plan.finished b = p at h
  induction h with
  | finished result d =>
      cases hplan
      exact ⟨rfl, .refl⟩
  | advance hadvance hrest ih =>
      subst hplan
      cases hadvance
  | stir hstir hrest ih =>
      obtain ⟨ha, hstirs⟩ := ih hplan
      exact ⟨ha, .head hstir hstirs⟩

end Done

/-! ### A message for a device -/

omit [ProfileSession σ ρ τ] [DecidableEq τ] [Outlined ρ] in
/-- Where nothing waits for a worker, there is room for an item. -/
theorem advance_send_of_empty {w : Worker σ ρ τ} (hw : d.workers[i]? = some w)
    (hopen : w.closed = false) (hempty : w.inbox = []) (hroomy : 0 < d.room) (item : Item ρ)
    (next : Bool → Plan σ ρ τ α) :
    (send i item next).advance d = some (next true, d.push i w item) := by
  have hroom : ¬d.room ≤ w.inbox.length := by
    rw [hempty]
    exact Nat.not_le.2 hroomy
  simp [advance, Directory.offer, hw, hopen, hroom, Directory.push]

omit [ProfileSession σ ρ τ] [DecidableEq τ] [Outlined ρ] in
/-- A message that does not make a device known is for a device that is. -/
theorem ofMessage_eq (peer : Address) (message : Message ρ) :
    (message.opens = true ∧ (ofMessage peer message : Plan σ ρ τ _) = route peer message) ∨
      message.opens = false ∧ ∃ otherwise,
        (ofMessage peer message : Plan σ ρ τ _) = routeKnown peer message otherwise := by
  cases message with
  | connect => exact .inl ⟨rfl, rfl⟩
  | disconnect | connectAudio | disconnectAudio | request _ => exact .inr ⟨rfl, _, rfl⟩
  | event event =>
      cases hlink : event.isLinkChange with
      | true => exact .inl ⟨hlink, by simp [ofMessage, deliver, hlink]⟩
      | false => exact .inr ⟨hlink, .ok (), by simp [ofMessage, deliver, hlink]⟩

namespace Done

/-- A message that is routed is put into the inbox of the worker of the device. -/
theorem route {message : Message ρ} {result : Except Fault Unit} (hrest : d.AtRest)
    (h : (Plan.route peer message).Done S d result d') :
    ∃ w, (d.enlist peer).2.workers[(d.enlist peer).1]? = some w ∧ w.closed = false ∧
      w.inbox = [] ∧
      Directory.Stirs S ((d.enlist peer).2.push (d.enlist peer).1 w (.message message)) d' := by
  have hrest' := hrest.enlist peer
  obtain ⟨w, hw, hopen⟩ := Directory.open_enlist hrest.entered peer
  have hempty : w.inbox = [] := (Directory.inbox_eq hw).symm.trans (hrest'.emptied _)
  have hsent := (h.after hrest.toSettled rfl).after hrest'.toSettled
    (advance_send_of_empty hw hopen hempty hrest'.roomy _ _)
  exact ⟨w, hw, hopen, hempty, hsent.stirs.2⟩

/-- **A message for a device** is put into the inbox of its worker; unless there is none, and the
message does not make the device known. -/
theorem routed {message : Message ρ} {result : Except Fault Unit} (hrest : d.AtRest)
    (h : (ofMessage peer message).Done S d result d') :
    (message.opens = false ∧ d.find? peer = none ∧ d' = d) ∨
    (message.opens = false → (d.find? peer).isSome = true) ∧
      ∃ w, (d.enlist peer).2.workers[(d.enlist peer).1]? = some w ∧ w.closed = false ∧
        w.inbox = [] ∧
        Directory.Stirs S ((d.enlist peer).2.push (d.enlist peer).1 w (.message message)) d' := by
  rcases ofMessage_eq (σ := σ) (τ := τ) peer message with ⟨hopens, heq⟩ | ⟨hopens, otherwise, heq⟩
  · rw [heq] at h
    exact .inr ⟨fun hnot => (nomatch hopens.symm.trans hnot), h.route hrest⟩
  · rw [heq] at h
    have hlooked := h.after hrest.toSettled rfl
    cases hfound : d.find? peer with
    | none =>
        rw [hfound] at hlooked
        exact .inl ⟨hopens, rfl, hrest.toSettled.stirs hlooked.stirs.2⟩
    | some i =>
        rw [hfound] at hlooked
        exact .inr ⟨fun _ => rfl, route hrest hlooked⟩

end Done

end Plan

/-! ### The question whether a worker retires -/

namespace Directory

/-- What a worker with an empty inbox replies when it is asked to retire. -/
def retirement (w : Worker σ ρ τ) : Reply σ ρ τ := if w.link.isIdle then .retired [] else .busy

/-- A worker with an empty inbox was asked to retire, and has replied. -/
def answered (d : Directory σ ρ τ) (i : Nat) (w : Worker σ ρ τ) : Directory σ ρ τ :=
  { d with
    workers := d.workers.set i (if w.link.isIdle then w.close else w)
    tickets := d.tickets + 1
    replies := d.replies ++ [(d.tickets, retirement w)] }

variable {d d' : Directory σ ρ τ} {peer : Address} {i : Nat} {w : Worker σ ρ τ}

theorem fresh_answered (hrest : d.AtRest) : Plan.Fresh (d.answered i w) := by
  intro reply hreply
  rcases List.mem_append.1 hreply with hold | hnew
  · exact Nat.lt_succ_of_lt (hrest.fresh reply hold)
  · rw [List.mem_singleton.1 hnew]
    exact Nat.lt_succ_self _

theorem reply?_answered (hrest : d.AtRest) :
    (d.answered i w).reply? d.tickets = some (retirement w) := by
  have hnone : d.replies.find? (·.1 == d.tickets) = none :=
    Option.map_eq_none_iff.1 hrest.fresh.reply?_tickets
  simp [reply?, answered, List.find?_append, hnone]

/-- A worker that does not retire goes on as if nothing had happened. -/
theorem workers_answered_busy (hw : d.workers[i]? = some w) (hbusy : w.link.isIdle = false) :
    (d.answered i w).workers = d.workers := by
  obtain ⟨hi, rfl⟩ := List.getElem?_eq_some_iff.1 hw
  simp [answered, hbusy]

/-- A worker that retires takes no more items. -/
theorem replaced_answered (hw : d.workers[i]? = some w) (hidle : w.link.isIdle = true) :
    Replaced i w w.close d (d.answered i w) :=
  ⟨hw, by simp [answered, hidle], rfl, rfl, fun _ => rfl, fun _ => rfl⟩

theorem settled_answered (hrest : d.AtRest) (hw : d.workers[i]? = some w) :
    (d.answered i w).Settled := by
  cases hidle : w.link.isIdle with
  | true => exact hrest.toSettled.close (replaced_answered hw hidle) rfl
  | false => exact hrest.toSettled.of_eq (workers_answered_busy hw hidle) rfl

/-- The same, and the worker was dismissed if it retires. -/
def asked (d : Directory σ ρ τ) (peer : Address) (i : Nat) (w : Worker σ ρ τ) : Directory σ ρ τ :=
  if w.link.isIdle then (d.answered i w).forget peer i else d.answered i w

/-- To ask a worker to retire leaves a directory at rest. -/
theorem AtRest.asked (hrest : d.AtRest) (hentry : (peer, i) ∈ d.entries)
    (hw : d.workers[i]? = some w) : (d.asked peer i w).AtRest := by
  have hfresh := fresh_answered (i := i) (w := w) hrest
  cases hidle : w.link.isIdle with
  | true =>
      rw [Directory.asked, if_pos hidle]
      exact hrest.dismiss hentry (replaced_answered hw hidle) rfl rfl hfresh
  | false =>
      rw [Directory.asked, if_neg (Bool.eq_false_iff.1 hidle)]
      exact { toInOrder := hrest.toInOrder.of_eq (workers_answered_busy hw hidle) rfl rfl hfresh
              toSettled := settled_answered hrest hw }

theorem peers_asked (hw : d.workers[i]? = some w) : (d.asked peer i w).peers = d.peers := by
  cases hidle : w.link.isIdle with
  | true =>
      rw [asked, if_pos hidle]
      exact (replaced_answered hw hidle).peers
  | false =>
      rw [asked, if_neg (Bool.eq_false_iff.1 hidle), peers, workers_answered_busy hw hidle]
      rfl

theorem newSession_asked : (d.asked peer i w).newSession = d.newSession := by
  rw [asked]
  split <;> rfl

/-- Nobody else is dismissed. -/
theorem mem_entries_asked {entry : Address × Nat} (hentry : entry ∈ d.entries)
    (hother : entry.1 ≠ peer) : entry ∈ (d.asked peer i w).entries := by
  rw [asked]
  split
  · exact mem_entries_forget.2 ⟨hentry, fun heq => hother (congrArg Prod.fst heq)⟩
  · exact hentry

variable [ProfileSession σ ρ τ] [DecidableEq τ] [Outlined ρ] {S : Surroundings → Prop}

/-- The worker that is asked replies. -/
theorem turn_asked (s : Surroundings) (hrest : d.AtRest) (hw : d.workers[i]? = some w)
    (hopen : w.closed = false) (hempty : w.inbox = []) :
    (({ d with tickets := d.tickets + 1 } : Directory σ ρ τ).push i w
      (.question .retirement d.tickets)).turn s i = d.answered i w := by
  have hpublished := hrest.published i w hw
  have hsame : (push { d with tickets := d.tickets + 1 } i w
      (.question .retirement d.tickets)).workers[i]? = _ :=
    (replaced_push (d := { d with tickets := d.tickets + 1 }) hw hopen
      (.question .retirement d.tickets)).same
  rw [turn, hsame]
  obtain ⟨link, inbox, published, closed⟩ := w
  obtain rfl : inbox = [] := hempty
  obtain rfl : published = link.snapshot := hpublished
  cases hidle : link.isIdle with
  | true => simp [Worker.handle, hidle, enter, push, setWorker, answered, retirement, Worker.close]
  | false =>
      simp [Worker.handle, hidle, enter, push, setWorker, answered, retirement, Worker.publish]

/-- While the question is in the inbox, the worker that is asked is the only one that has anything to
do. -/
theorem stir_asked (hrest : d.AtRest) (hw : d.workers[i]? = some w) (hopen : w.closed = false)
    (hempty : w.inbox = []) (hstir : Stir S
      (({ d with tickets := d.tickets + 1 } : Directory σ ρ τ).push i w
        (.question .retirement d.tickets)) d') :
    d' = ({ d with tickets := d.tickets + 1 } : Directory σ ρ τ).push i w
        (.question .retirement d.tickets) ∨ d' = d.answered i w := by
  have hreplaced := replaced_push (d := { d with tickets := d.tickets + 1 }) hw hopen
    (.question .retirement d.tickets)
  cases hstir with
  | turn s hs j =>
      by_cases hj : j = i
      · subst hj
        exact .inr (turn_asked s hrest hw hopen hempty)
      · refine .inl (turn_of_inbox s ?_)
        exact (hreplaced.inbox_other hj).trans (hrest.emptied j)
  | wake s hs j =>
      refine .inl (wake_of_early s fun v hv deadline hdeadline => ?_)
      by_cases hj : j = i
      · subst hj
        cases hreplaced.same.symm.trans hv
        exact hrest.early j w hw deadline hdeadline
      · exact hrest.early j v ((hreplaced.other hj).symm.trans hv) deadline hdeadline

end Directory

namespace Plan

variable {d d' : Directory σ ρ τ} {peer : Address} {i : Nat} {w : Worker σ ρ τ} {a : α}

/-- The question is put to a worker at rest at once. -/
theorem advance_ask (hrest : d.AtRest) (hw : d.workers[i]? = some w) (hopen : w.closed = false)
    (next : Reply σ ρ τ → Plan σ ρ τ α) :
    (ask i .retirement next).advance d =
      some (await d.tickets next, ({ d with tickets := d.tickets + 1 } : Directory σ ρ τ).push i w
        (.question .retirement d.tickets)) := by
  have hroom : ¬d.room ≤ w.inbox.length := by
    rw [← Directory.inbox_eq hw, hrest.emptied i]
    exact Nat.not_le.2 hrest.roomy
  simp [advance, Directory.ask, Directory.offer, hw, hopen, hroom, Directory.push,
    Directory.nextTicket]

theorem advance_answered (hrest : d.AtRest) (next : Reply σ ρ τ → Plan σ ρ τ α) :
    (await d.tickets next).advance (d.answered i w) =
      some (next (Directory.retirement w), d.answered i w) := by
  rw [advance, Directory.reply?_answered hrest]
  rfl

/-- The reaper goes on to the next worker. -/
theorem advance_dismiss (hidle : w.link.isIdle = true) (next : Bool → Plan σ ρ τ α) :
    ((dismiss peer i (Directory.retirement w)).bind next).advance (d.answered i w) =
      some (next true, d.asked peer i w) := by
  rw [Directory.retirement, Directory.asked, if_pos hidle, if_pos hidle]
  rfl

variable [ProfileSession σ ρ τ] [DecidableEq τ] [Outlined ρ] {S : Surroundings → Prop}

namespace Done

/-- Whoever waits for the reply gets it. -/
theorem await (hrest : d.AtRest) (hw : d.workers[i]? = some w) (hopen : w.closed = false)
    (hempty : w.inbox = []) {next : Reply σ ρ τ → Plan σ ρ τ α}
    (h : (Plan.await d.tickets next).Done S (({ d with tickets := d.tickets + 1 } :
      Directory σ ρ τ).push i w (.question .retirement d.tickets)) a d') :
    (next (Directory.retirement w)).Done S (d.answered i w) a d' := by
  generalize hplan : Plan.await d.tickets next = p at h
  generalize hasked : ({ d with tickets := d.tickets + 1 } : Directory σ ρ τ).push i w
    (.question .retirement d.tickets) = asked at h
  induction h with
  | finished result d => cases hplan
  | advance hadvance hrest' ih =>
      subst hplan hasked
      have hnone : Directory.reply? (Directory.push { d with tickets := d.tickets + 1 } i w
        (.question .retirement d.tickets)) d.tickets = none := hrest.fresh.reply?_tickets
      rw [Plan.advance, hnone] at hadvance
      cases hadvance
  | stir hstir hrest' ih =>
      subst hplan hasked
      -- either it is still waited for the reply, or the worker has just replied
      rcases Directory.stir_asked hrest hw hopen hempty hstir with rfl | rfl
      · exact ih rfl rfl
      · exact hrest'.after (Directory.settled_answered hrest hw) (advance_answered hrest next)

/-- **A worker at rest that is asked to retire** does so if its link is idle. -/
theorem asked (hrest : d.AtRest) (hentry : (peer, i) ∈ d.entries) (hw : d.workers[i]? = some w)
    {next : Reply σ ρ τ → Plan σ ρ τ α} (h : (Plan.ask i .retirement next).Done S d a d') :
    (next (Directory.retirement w)).Done S (d.answered i w) a d' := by
  obtain ⟨v, hv, -, hopen⟩ := hrest.worker hentry
  cases hw.symm.trans hv
  have hempty : w.inbox = [] := (Directory.inbox_eq hw).symm.trans (hrest.emptied i)
  exact await hrest hw hopen hempty (h.after hrest.toSettled (advance_ask hrest hw hopen next))

/-- The reaper goes on to the next worker; the one that was asked goes on, or is dismissed. -/
theorem dismissed (hrest : d.AtRest) (hentry : (peer, i) ∈ d.entries) (hw : d.workers[i]? = some w)
    {next : Bool → Plan σ ρ τ α} (h : (Plan.ask i .retirement fun reply =>
      (dismiss peer i reply).bind next).Done S d a d') :
    (next w.link.isIdle).Done S (d.asked peer i w) a d' := by
  have hreplied := h.asked hrest hentry hw
  cases hidle : w.link.isIdle with
  | false =>
      rw [Directory.retirement, hidle] at hreplied
      rw [Directory.asked, hidle]
      exact hreplied
  | true => exact hreplied.after (Directory.settled_answered hrest hw) (advance_dismiss hidle next)

end Done

end Plan

end AudioLink
