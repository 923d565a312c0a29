/-
**Settling.**

A directory is run by letting all workers work off their inboxes, one after the other, and serve
the alarms that are due then.  This is one order among many in which they might work.  With profiles
that arm nothing to go off at once it leaves nothing to do, so that all is quiet again after every
operation; and what comes of an operation, or of the passing of time, is one of the things that may
come of it in whatever order the workers work.

Main definitions:

* `AudioLink.Directory.Able` — the profiles of all workers are usable, and those of new ones;
* `AudioLink.Directory.SettledAt` — a worker has nothing to do;
* `AudioLink.Directory.perform` — one thing is done while the directory is run.

Main results:

* `AudioLink.Directory.settledAt_serve` — a worker that was served has nothing to do;
* `AudioLink.Directory.settled_settle` — **once all workers were served, nobody has anything to
  do**;
* `AudioLink.Directory.does_sleep`, `AudioLink.Plan.done_runAlone` — time passes, and a plan is
  carried out, in one of the ways in which it may;
* `AudioLink.Directory.runs_perform` — **a directory that is run runs in one of the ways in which it
  may**.
-/

import AudioLink.Proofs.Directory.Annals
import AudioLink.Proofs.Directory.Feasible
import AudioLink.Proofs.Endings

set_option relaxedAutoImplicit false
set_option autoImplicit false

namespace AudioLink

variable {σ ρ τ : Type} [ProfileSession σ ρ τ] [DecidableEq τ] [Outlined ρ] {usable : σ → Prop}

/-! ### Workers -/

namespace Worker

variable (h : Provident σ usable) (scene : Scene) {w : Worker σ ρ τ}
  (husable : usable w.link.session)

include h husable

theorem usable_handle (item : Item ρ) (rest : List (Item ρ)) :
    usable (w.handle scene item rest).worker.link.session := by
  cases item with
  | message m => exact Link.usable_respond h husable (.hand scene m)
  | question question ticket => rwa [(w.handle_of_not_message scene rest rfl).1]
  | stop => exact husable

theorem usable_wake : usable (w.wake scene).worker.link.session :=
  Link.usable_respond h husable (.wake scene)

/-- A worker that has served its alarms need not be woken at once again. -/
theorem lt_nextDeadline_wake (deadline : Instant)
    (hnext : (w.wake scene).worker.nextDeadline = some deadline) : scene.now < deadline := by
  have hfinishes : w.link.Finishes := Link.finishes_live h husable []
  rw [nextDeadline] at hnext
  exact hfinishes.next scene deadline (Option.ite_none_left_eq_some.1 hnext).2

end Worker

namespace Directory

variable {d d' : Directory σ ρ τ} {i j : Nat} {s : Surroundings} {S : Surroundings → Prop}

/-- The profiles of all workers are usable, and so are those with which new workers start. -/
structure Able (usable : σ → Prop) (d : Directory σ ρ τ) : Prop where
  worker : ∀ w ∈ d.workers, usable w.link.session
  new : ∀ i, usable (d.newSession i)

namespace Able

omit [ProfileSession σ ρ τ] [DecidableEq τ] [Outlined ρ] in
theorem start (room : Nat) {newSession : Nat → σ} (hnew : ∀ i, usable (newSession i)) :
    Able usable (start room newSession : Directory σ ρ τ) :=
  ⟨nofun, hnew⟩

omit [ProfileSession σ ρ τ] [DecidableEq τ] [Outlined ρ] in
theorem enter (hable : d.Able usable) (i : Nat) {turn : Turn σ ρ τ}
    (hturn : usable turn.worker.link.session) : (d.enter i turn).Able usable := by
  refine ⟨fun w hw => ?_, hable.new⟩
  rcases List.mem_or_eq_of_mem_set hw with hold | rfl
  · exact hable.worker w hold
  · exact hturn

omit [ProfileSession σ ρ τ] [DecidableEq τ] [Outlined ρ] in
/-- The next operation of a plan enters no worker but one with a usable profile. -/
theorem advance {α : Type} {p q : Plan σ ρ τ α} (hable : d.Able usable)
    (hadvance : p.advance d = some (q, d')) : d'.Able usable := by
  rcases Plan.advance_stirs hadvance with hstill | ⟨peer, rfl⟩
  · refine ⟨fun w hw => ?_, fun i => hstill.newSession ▸ hable.new i⟩
    obtain ⟨i, hi⟩ := List.mem_iff_getElem?.1 hw
    obtain ⟨v, hv, hsame⟩ := hstill.was hi
    exact hsame ▸ hable.worker v (List.mem_of_getElem? hv)
  · rcases d.enlist_cases peer with ⟨i, -, heq⟩ | ⟨-, heq⟩
    · rw [heq]
      exact hable
    · rw [heq]
      refine ⟨fun w hw => ?_, hable.new⟩
      rcases List.mem_append.1 hw with hold | hnew
      · exact hable.worker w hold
      · exact List.mem_singleton.1 hnew ▸ hable.new _

variable (h : Provident σ usable)

include h

theorem stir (hable : d.Able usable) (hstir : Stir S d d') : d'.Able usable := by
  cases hstir with
  | turn s hs i =>
      rcases d.turn_cases s i with ⟨-, heq⟩ | ⟨w, item, rest, hw, -, heq⟩
      · rw [heq]
        exact hable
      · have husable := hable.worker w (List.mem_of_getElem? hw)
        exact heq ▸ hable.enter i (Worker.usable_handle h _ husable item rest)
  | wake s hs i =>
      rcases d.wake_cases s i with heq | ⟨w, hw, -, -, heq⟩
      · rw [heq]
        exact hable
      · have husable := hable.worker w (List.mem_of_getElem? hw)
        exact heq ▸ hable.enter i (Worker.usable_wake h _ husable)

theorem stirs (hable : d.Able usable) (hstirs : Stirs S d d') : d'.Able usable := by
  induction hstirs with
  | refl => exact hable
  | tail _ hstir ih => exact ih.stir h hstir

end Able

/-! ### Serving a worker -/

/-- A worker has nothing to do. -/
def SettledAt (d : Directory σ ρ τ) (i : Nat) : Prop :=
  d.inbox i = [] ∧ ∀ w, d.workers[i]? = some w → ∀ deadline, w.nextDeadline = some deadline →
    d.now < deadline

theorem stirs_turns (hs : S s) (i n : Nat) (d : Directory σ ρ τ) : Stirs S d (turns s i n d) := by
  induction n generalizing d with
  | zero => exact .refl
  | succ n ih => exact .head (.turn s hs i) (ih _)

theorem stirs_serve (hs : S s) (i : Nat) (d : Directory σ ρ τ) : Stirs S d (d.serve s i) :=
  (stirs_turns hs i _ d).tail (.wake s hs i)

/-- What a worker does is no matter of another. -/
theorem workers_turn (hne : j ≠ i) : (d.turn s i).workers[j]? = d.workers[j]? := by
  rcases d.turn_cases s i with ⟨-, heq⟩ | ⟨w, item, rest, -, -, heq⟩
  · rw [heq]
  · rw [heq, workers_enter, List.getElem?_set_ne (Ne.symm hne)]

theorem workers_turns (hne : j ≠ i) (n : Nat) :
    (turns s i n d).workers[j]? = d.workers[j]? := by
  induction n generalizing d with
  | zero => rfl
  | succ n ih => rw [turns, ih, workers_turn hne]

theorem workers_serve (hne : j ≠ i) : (d.serve s i).workers[j]? = d.workers[j]? := by
  rw [serve]
  rcases wake_cases s (turns s i (d.inbox i).length d) i with heq | ⟨w, -, -, -, heq⟩
  · rw [heq, workers_turns hne]
  · rw [heq, workers_enter, List.getElem?_set_ne (Ne.symm hne), workers_turns hne]

variable (h : Provident σ usable)

include h

/-- **A worker that was served has nothing to do.** -/
theorem settledAt_serve (hable : d.Able usable) (s : Surroundings) (i : Nat) :
    (d.serve s i).SettledAt i := by
  have hempty : (turns s i (d.inbox i).length d).inbox i = [] := inbox_turns s i _ (Nat.le_refl _)
  have hlater := hable.stirs h (stirs_turns (S := (· = s)) rfl i (d.inbox i).length d)
  rw [serve]
  generalize turns s i (d.inbox i).length d = e at hempty hlater
  cases hw : e.workers[i]? with
  | none =>
      rw [wake, hw]
      exact ⟨hempty, fun v hv => (Option.some_ne_none v (hv.symm.trans hw)).elim⟩
  | some w =>
      by_cases hdue : w.nextDeadline.any (· ≤ e.now) = true
      · have heq : e.wake s i = e.enter i (w.wake (e.scene s w.link.peer)) := by
          simp only [wake, hw, if_pos hdue]
        rw [heq]
        refine ⟨(inbox_enter hw _).trans ((inbox_eq hw).symm.trans hempty), fun v hv => ?_⟩
        rw [workers_enter, List.getElem?_set_self (List.getElem?_eq_some_iff.1 hw).1] at hv
        cases hv
        exact Worker.lt_nextDeadline_wake h _ (hlater.worker w (List.mem_of_getElem? hw))
      · have heq : e.wake s i = e := by simp only [wake, hw, if_neg hdue]
        rw [heq]
        refine ⟨hempty, fun v hv deadline hdeadline => ?_⟩
        cases hw.symm.trans hv
        rw [hdeadline] at hdue
        simpa using hdue

/-- A worker that has nothing to do stays so while others are served. -/
theorem SettledAt.serve (hsettled : d.SettledAt j) (hable : d.Able usable) (s : Surroundings)
    (i : Nat) : (d.serve s i).SettledAt j := by
  by_cases hji : j = i
  · exact hji ▸ settledAt_serve h hable s i
  · rw [SettledAt, inbox, workers_serve hji, now_serve]
    exact hsettled

/-- Whoever is served has nothing to do afterwards, in whatever order the workers are served. -/
theorem settledAt_foldl (hable : d.Able usable) (s : Surroundings) (order : List Nat)
    (hsettled : i ∈ order ∨ d.SettledAt i) : (order.foldl (serve s) d).SettledAt i := by
  induction order generalizing d with
  | nil => exact hsettled.resolve_left (List.not_mem_nil)
  | cons j order ih =>
      have hlater := hable.stirs h (stirs_serve (S := (· = s)) rfl j d)
      refine ih hlater ?_
      rcases hsettled with hmem | hsettled
      · rcases List.mem_cons.1 hmem with rfl | hmem
        · exact .inr (settledAt_serve h hable s i)
        · exact .inl hmem
      · exact .inr (hsettled.serve h hable s j)

/-- **Once all workers were served, nobody has anything to do.** -/
theorem settled_settle (hable : d.Able usable) (s : Surroundings) : (d.settle s).Settled := by
  have hall (i : Nat) : (d.settle s).SettledAt i := by
    refine settledAt_foldl h hable s _ ?_
    rcases Nat.lt_or_ge i d.workers.length with hlt | hge
    · exact .inl (List.mem_range.2 hlt)
    · have hnone : d.workers[i]? = none := List.getElem?_eq_none hge
      refine .inr ⟨by rw [inbox, hnone]; rfl, fun v hv => ?_⟩
      exact (Option.some_ne_none v (hv.symm.trans hnone)).elim
  exact ⟨fun i => (hall i).1, fun i => (hall i).2⟩

/-! ### The passing of time -/

omit h in
theorem stirs_settle (hs : S s) (d : Directory σ ρ τ) : Stirs S d (d.settle s) := by
  rw [settle]
  generalize List.range d.workers.length = order
  induction order generalizing d with
  | nil => exact .refl
  | cons i order ih => exact (stirs_serve hs i d).trans (ih _)

omit [ProfileSession σ ρ τ] [DecidableEq τ] [Outlined ρ] h in
/-- While nobody has anything to do, no alarm comes before the next one. -/
theorem Settled.quietUntil (hsettled : d.Settled) {instant : Instant}
    (hnext : ∀ next, d.nextAlarm = some next → instant ≤ next) : d.QuietUntil instant := by
  intro i w hw deadline hdeadline
  have hmem : deadline ∈ (d.workers.filterMap Worker.nextDeadline).filter (d.now < ·) := by
    refine List.mem_filter.2 ⟨List.mem_filterMap.2 ⟨w, List.mem_of_getElem? hw, hdeadline⟩, ?_⟩
    exact decide_eq_true (hsettled.early i w hw deadline hdeadline)
  cases halarm : d.nextAlarm with
  | none =>
      rw [List.min?_eq_none_iff.1 halarm] at hmem
      cases hmem
  | some next =>
      exact Nat.le_trans (hnext next halarm) ((List.min?_eq_some_iff.1 halarm).2 _ hmem)

omit h in
/-- Time passes up to an instant before which there is no alarm. -/
theorem Settled.elapses (hsettled : d.Settled) (hs : S s) {target : Instant}
    (hwithin : d.now ≤ target) (hquiet : d.QuietUntil target) :
    Elapses S target d (settle s { d with now := max d.now target }) := by
  rw [Nat.max_eq_right hwithin]
  have harrived : Elapses S target { d with now := target } (settle s { d with now := target }) :=
    .of_stirs (stirs_settle hs _) (.arrived _ (now_settle ..))
  rcases Nat.eq_or_lt_of_le hwithin with hnow | hlater
  · subst hnow
    exact harrived
  · exact .later target hsettled hlater (Nat.le_refl _) hquiet harrived

/-- Time passes from alarm to alarm. -/
theorem elapses_advanceTo (hs : S s) (target : Instant) (hable : d.Able usable)
    (hsettled : d.Settled) (hwithin : d.now ≤ target) :
    Elapses S target d ((d.advanceTo s target fun _ => false).settle s) ∧
      (d.advanceTo s target fun _ => false).Able usable := by
  fun_induction advanceTo s target (fun _ => false) d with
  | case1 d hstop => cases hstop
  | case2 d _ hnone =>
      exact ⟨hsettled.elapses hs hwithin (hsettled.quietUntil fun next hnext =>
        nomatch hnone.symm.trans hnext), hable.worker, hable.new⟩
  | case3 d _ next hnext hbefore ih =>
      have hquiet : d.QuietUntil next := hsettled.quietUntil fun other hother =>
        Nat.le_of_eq (Option.some.inj (hnext.symm.trans hother))
      have hlater : Able usable { d with now := next } := ⟨hable.worker, hable.new⟩
      have hstirs : Stirs S { d with now := next } (settle s { d with now := next }) :=
        stirs_settle hs _
      obtain ⟨helapses, hdone⟩ := ih (hlater.stirs h hstirs) (settled_settle h hlater s)
        (by rw [now_settle]; exact Nat.le_of_lt hbefore)
      exact ⟨.later next hsettled (now_lt_nextAlarm hnext) (Nat.le_of_lt hbefore) hquiet
        (.of_stirs hstirs helapses), hdone⟩
  | case4 d _ next hnext hafter =>
      exact ⟨hsettled.elapses hs hwithin (hsettled.quietUntil fun other hother =>
        Option.some.inj (hnext.symm.trans hother) ▸ Nat.not_lt.1 hafter), hable.worker, hable.new⟩

/-- **Time passes in one of the ways in which it may.** -/
theorem does_sleep (hs : S s) (duration : Duration) (hable : d.Able usable)
    (hsettled : d.Settled) : Does S d (.pass duration) (d.sleep s duration) := by
  obtain ⟨helapses, hdone⟩ :=
    elapses_advanceTo h hs (d.now + duration) hable hsettled (Nat.le_add_right ..)
  exact .pass helapses (settled_settle h hdone s)

end Directory

/-! ### Plans -/

namespace Plan

variable {α : Type} {d d' : Directory σ ρ τ} {s : Surroundings} {S : Surroundings → Prop}

variable (h : Provident σ usable)

include h

theorem done_run (hs : S s) {p : Plan σ ρ τ α} {a : α} (hable : d.Able usable)
    (hresult : (run (fun (u, d) => (u, d.settle s)) p () d).1.result? = some a) :
    p.Done S d a (run (fun (u, d) => (u, d.settle s)) p () d).2.2 ∧
      (run (fun (u, d) => (u, d.settle s)) p () d).2.2.Able usable := by
  fun_induction run (fun ((u, d) : Unit × Directory σ ρ τ) => (u, d.settle s)) p () d with
  | case1 p u d q next hadvance ih =>
      obtain ⟨hdone, hlater⟩ := ih (hable.advance hadvance) hresult
      exact ⟨.advance hadvance hdone, hlater⟩
  | case2 p u d _ _ =>
      cases p with
      | finished b =>
          cases hresult
          exact ⟨.finished a d, hable⟩
      | _ => cases hresult
  | case3 p u d _ _ paused q next hadvance ih =>
      have hstirs : Directory.Stirs S d paused.2 := Directory.stirs_settle hs d
      obtain ⟨hdone, hlater⟩ := ih ((hable.stirs h hstirs).advance hadvance) hresult
      exact ⟨.preceded hstirs (.advance hadvance hdone), hlater⟩
  | case4 p u d _ hwaits =>
      have hnone : p.result? = none := by simpa using hwaits
      cases hnone.symm.trans hresult

/-- **A plan is carried out in one of the ways in which it may be**, and nobody has anything to do
once all workers were served. -/
theorem done_runAlone (hs : S s) {p : Plan σ ρ τ α} {a : α} (hable : d.Able usable)
    (hresult : (p.runAlone s d).1 = some a) :
    p.Done S d a ((p.runAlone s d).2.settle s) ∧ ((p.runAlone s d).2.settle s).Settled ∧
      ((p.runAlone s d).2.settle s).Able usable := by
  obtain ⟨hdone, hlater⟩ := done_run h hs hable hresult
  have hstirs : Directory.Stirs S _ _ := Directory.stirs_settle hs (p.runAlone s d).2
  exact ⟨hdone.followed hstirs, Directory.settled_settle h hlater s, hlater.stirs h hstirs⟩

end Plan

/-! ### One thing after another -/

namespace Directory

variable {d d' : Directory σ ρ τ} {s : Surroundings} {S : Surroundings → Prop}

/-- A plan is carried out, if it comes to its end, and then all workers are served. -/
def carryOut {α : Type} (s : Surroundings) (d : Directory σ ρ τ) (p : Plan σ ρ τ α) :
    Option (Directory σ ρ τ) :=
  (p.runAlone s d).1.map fun _ => (p.runAlone s d).2.settle s

/-- One thing is done while the directory is run. -/
def perform (s : Surroundings) (d : Directory σ ρ τ) : Deed ρ → Option (Directory σ ρ τ)
  | .call peer message => d.carryOut s (.ofMessage peer message)
  | .reap => d.carryOut s .reap
  | .stop => d.carryOut s .shutdown
  | .pass duration => some (d.sleep s duration)

variable (h : Provident σ usable)

include h

theorem done_carryOut (hs : S s) {α : Type} {p : Plan σ ρ τ α} (hable : d.Able usable)
    (hdone : d.carryOut s p = some d') :
    ∃ a, p.Done S d a d' ∧ d'.Settled ∧ d'.Able usable := by
  obtain ⟨a, hresult, rfl⟩ := Option.map_eq_some_iff.1 hdone
  exact ⟨a, Plan.done_runAlone h hs hable hresult⟩

/-- What is done while the directory is run is done in one of the ways in which it may be. -/
theorem does_perform (hs : S s) {deed : Deed ρ} (hable : d.Able usable) (hsettled : d.Settled)
    (hdone : d.perform s deed = some d') : Does S d deed d' ∧ d'.Settled ∧ d'.Able usable := by
  cases deed with
  | call peer message =>
      obtain ⟨result, hplan, hquiet, hlater⟩ := done_carryOut h hs hable hdone
      exact ⟨.call hplan hquiet, hquiet, hlater⟩
  | reap =>
      obtain ⟨count, hplan, hquiet, hlater⟩ := done_carryOut h hs hable hdone
      exact ⟨.reap hplan hquiet, hquiet, hlater⟩
  | stop =>
      obtain ⟨_, hplan, hquiet, hlater⟩ := done_carryOut h hs hable hdone
      exact ⟨.stop hplan hquiet, hquiet, hlater⟩
  | pass duration =>
      obtain rfl := Option.some.inj hdone
      obtain ⟨-, hlater⟩ :=
        elapses_advanceTo h hs (d.now + duration) hable hsettled (Nat.le_add_right ..)
      exact ⟨does_sleep h hs duration hable hsettled, settled_settle h hlater s,
        hlater.stirs h (stirs_settle hs _)⟩

theorem runs_foldlM (hs : S s) {deeds : List (Deed ρ)} (hable : d.Able usable)
    (hsettled : d.Settled) (hdone : deeds.foldlM (perform s) d = some d') :
    Runs S d deeds d' ∧ d'.Settled := by
  induction deeds generalizing d with
  | nil =>
      obtain rfl := Option.some.inj hdone
      exact ⟨.nil _, hsettled⟩
  | cons deed deeds ih =>
      rw [List.foldlM_cons] at hdone
      obtain ⟨next, hnext, hrest⟩ := Option.bind_eq_some_iff.1 hdone
      obtain ⟨hdoes, hquiet, hlater⟩ := does_perform h hs hable hsettled hnext
      obtain ⟨hruns, hend⟩ := ih hlater hquiet hrest
      exact ⟨.cons hdoes hruns, hend⟩

/-- **A directory that is run, one thing after another, runs in one of the ways in which it may**,
and nobody has anything to do at the end. -/
theorem runs_perform (hs : S s) (room : Nat) {newSession : Nat → σ}
    (hnew : ∀ i, usable (newSession i)) {deeds : List (Deed ρ)}
    (hdone : deeds.foldlM (perform s) (start room newSession) = some d') :
    Runs S (start room newSession) deeds d' ∧ d'.Settled :=
  runs_foldlM h hs (.start room hnew) (atRest_start room newSession).toSettled hdone

end Directory

end AudioLink
