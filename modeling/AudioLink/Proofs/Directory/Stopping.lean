/-
**Stopping all workers.**

When all workers of a directory at rest are stopped, their entries are taken away at once, and then
one worker after the other is told to stop.  Some have stopped by then, others were told and have not
come to it yet, and the rest are as they were.  Nothing else changes, and nothing leaves any link.

Main definitions:

* `AudioLink.Directory.Closing` — some of the workers were told to stop.

Main results:

* `AudioLink.Directory.Closing.stir`, `AudioLink.Plan.Done.told` — what workers do meanwhile, and
  what becomes of the next worker;
* `AudioLink.Plan.Done.shutdown` — **in the end no worker takes items any more, and all else is as it
  was**.
-/

import AudioLink.Proofs.Directory.Deeds

set_option relaxedAutoImplicit false
set_option autoImplicit false

namespace AudioLink

variable {σ ρ τ α : Type}

/-- The worker has been told to stop. -/
def Worker.told (w : Worker σ ρ τ) : Worker σ ρ τ := { w with inbox := [.stop] }

namespace Directory

/-- Some of the workers of a directory at rest were told to stop, and some of these have stopped.
The others that take items are still to be told. -/
structure Closing (d : Directory σ ρ τ) (untold : List Nat) (d' : Directory σ ρ τ) : Prop where
  rest : d' = { d with workers := d'.workers, entries := [] }
  opens : ∀ i ∈ untold, d.Open i
  workers : ∀ i, (d.Open i → i ∈ untold) ∧ d'.workers[i]? = d.workers[i]? ∨
    i ∉ untold ∧ ∃ w, d.workers[i]? = some w ∧ w.closed = false ∧
      (d'.workers[i]? = some w.told ∨ d'.workers[i]? = some w.close)

variable {d d' : Directory σ ρ τ} {untold : List Nat} {i : Nat} {v w : Worker σ ρ τ}

/-- No worker has two entries. -/
theorem AtRest.nodup_workers (h : d.AtRest) : (d.entries.map (·.2)).Nodup := by
  refine .map_on (fun entry hentry other hother heq => ?_) (List.Nodup.of_map _ h.kept.unique)
  obtain ⟨w, hw, hpeer⟩ := h.kept.known _ hentry
  obtain ⟨v, hv, hpeer'⟩ := h.kept.known _ hother
  rw [heq, hv] at hw
  cases hw
  exact Prod.ext (hpeer.symm.trans hpeer') heq

/-- The entries are taken away, and nobody was told yet. -/
theorem closing_clear (h : d.AtRest) :
    Closing d (d.entries.map (·.2)) { d with entries := [] } where
  rest := rfl
  opens i hi := by
    obtain ⟨entry, hentry, rfl⟩ := List.mem_map.1 hi
    exact h.entered entry hentry
  workers i := by
    refine .inl ⟨fun ⟨w, hw, hopen⟩ => ?_, rfl⟩
    exact List.mem_map.2 ⟨_, h.kept.listed i w hw hopen, rfl⟩

namespace Closing

theorem now (h : Closing d untold d') : d'.now = d.now := by rw [h.rest]

/-- The worker is there, whatever was done to it. -/
theorem within (h : Closing d untold d') (hw : d.workers[i]? = some w) : i < d'.workers.length := by
  rcases h.workers i with ⟨-, hsame⟩ | ⟨-, u, -, -, hu | hu⟩
  · exact (List.getElem?_eq_some_iff.1 (hsame.trans hw)).1
  · exact (List.getElem?_eq_some_iff.1 hu).1
  · exact (List.getElem?_eq_some_iff.1 hu).1

/-- A worker is told to stop, or stops. -/
theorem set (h : Closing d untold d') (hw : d.workers[i]? = some w) (hopen : w.closed = false)
    (hv : v = w.told ∨ v = w.close) {rest : List Nat} (hi : i ∉ rest)
    (hothers : ∀ j, j ≠ i → (j ∈ rest ↔ j ∈ untold)) : Closing d rest (d'.setWorker i v) where
  rest := congrArg (Directory.setWorker · i v) h.rest
  opens j hj := h.opens j ((hothers j (ne_of_mem_of_not_mem hj hi)).1 hj)
  workers j := by
    by_cases hji : j = i
    · subst hji
      have hset : (d'.setWorker j v).workers[j]? = some v := List.getElem?_set_self (h.within hw)
      refine .inr ⟨hi, w, hw, hopen, ?_⟩
      rwa [hset, Option.some.injEq, Option.some.injEq]
    · have hset : (d'.setWorker i v).workers[j]? = d'.workers[j]? :=
        List.getElem?_set_ne (Ne.symm hji)
      rw [hothers j hji, hset]
      exact h.workers j

/-- The workers are for the same devices as before. -/
theorem peers (h : Closing d untold d') : d'.peers = d.peers := by
  refine List.ext_getElem? fun i => ?_
  rw [Directory.peers, Directory.peers, List.getElem?_map, List.getElem?_map]
  rcases h.workers i with ⟨-, hsame⟩ | ⟨-, w, hw, -, hv | hv⟩
  · rw [hsame]
  · rw [hw, hv]
    rfl
  · rw [hw, hv]
    rfl

/-- **When all were told and nothing waits any more, all workers have stopped**, and the directory is
at rest. -/
theorem atRest (h : Closing d [] d') (hrest : d.AtRest) (hsettled : d'.Settled) : d'.AtRest := by
  have hentries : d'.entries = [] := by rw [h.rest]
  have hstopped (i : Nat) (v : Worker σ ρ τ) (hv : d'.workers[i]? = some v) : v.closed ≠ false := by
    intro hopen
    rcases h.workers i with ⟨htold, hsame⟩ | ⟨-, w, -, -, hw | hw⟩
    · cases htold ⟨v, hsame.symm.trans hv, hopen⟩
    · cases (inbox_eq hw).symm.trans (hsettled.emptied i)
    · cases hw.symm.trans hv
      cases hopen
  have hpublished (i : Nat) (v : Worker σ ρ τ) (hv : d'.workers[i]? = some v) :
      v.published = v.link.snapshot := by
    rcases h.workers i with ⟨-, hsame⟩ | ⟨-, w, hw, -, hv' | hv'⟩
    · exact hrest.published i v (hsame.symm.trans hv)
    · cases hv'.symm.trans hv
      exact hrest.published i w hw
    · cases hv'.symm.trans hv
      exact hrest.published i w hw
  refine ⟨⟨⟨?_, ?_, ?_, ?_⟩, ?_, hpublished, hsettled.letters, ?_, ?_⟩, hsettled⟩
  · rw [hentries]
    exact List.nodup_nil
  · rw [hentries]
    exact nofun
  · exact fun i v hv hopen => absurd hopen (hstopped i v hv)
  · intro i v hv _
    exact (inbox_eq hv).symm.trans (hsettled.emptied i)
  · rw [hentries]
    exact nofun
  · rw [h.rest]
    exact hrest.fresh
  · rw [h.rest]
    exact hrest.roomy

variable [ProfileSession σ ρ τ] [DecidableEq τ] [Outlined ρ] {S : Surroundings → Prop}

/-- A worker that was told to stop does so. -/
theorem turn_told (s : Surroundings) (hw : d'.workers[i]? = some w.told) :
    d'.turn s i = d'.setWorker i w.close := by
  rw [turn, hw]
  simp [Worker.told, Worker.handle, Worker.close, enter, setWorker]

/-- What workers do meanwhile: those that were told to stop do so. -/
theorem stir (h : Closing d untold d') (hrest : d.AtRest) {next : Directory σ ρ τ}
    (hstir : Stir S d' next) : Closing d untold next := by
  cases hstir with
  | turn s hs i =>
      rcases h.workers i with ⟨-, hsame⟩ | ⟨htold, w, hw, hopen, hv | hv⟩
      · rwa [turn_of_inbox s (by rw [inbox, hsame]; exact hrest.emptied i)]
      · rw [turn_told s hv]
        exact h.set hw hopen (.inr rfl) htold fun _ _ => .rfl
      · rwa [turn_of_inbox s (inbox_eq hv)]
  | wake s hs i =>
      -- no alarm is due, since no time has passed
      rwa [wake_of_early s]
      intro v hv deadline hdeadline
      rw [h.now]
      rcases h.workers i with ⟨-, hsame⟩ | ⟨-, w, hw, hopen, hv' | hv'⟩
      · exact hrest.early i v (hsame.symm.trans hv) deadline hdeadline
      · cases hv'.symm.trans hv
        exact hrest.early i w hw deadline hdeadline
      · cases hv'.symm.trans hv
        cases hdeadline

theorem stirs (h : Closing d untold d') (hrest : d.AtRest) {next : Directory σ ρ τ}
    (hstirs : Stirs S d' next) : Closing d untold next := by
  induction hstirs with
  | refl => exact h
  | tail _ hstir ih => exact ih.stir hrest hstir

end Closing

end Directory

namespace Plan

variable {d d' : Directory σ ρ τ} {entries : List (Address × Nat)} {untold : List Nat} {i : Nat}

theorem stopAll_cons (peer : Address) (worker : Nat) (entries : List (Address × Nat)) :
    (stopAll ((peer, worker) :: entries) : Plan σ ρ τ Unit) =
      send worker .stop fun _ => stopAll entries := by
  rw [stopAll, sendTo, bind]
  rfl

/-- A worker that is still to be told gets to know. -/
theorem advance_untold (next : Bool → Plan σ ρ τ α) (hrest : d.AtRest)
    (h : Directory.Closing d (i :: untold) d') (hnew : i ∉ untold) :
    ∃ w, d'.workers[i]? = some w ∧
      (send i .stop next).advance d' = some (next true, d'.setWorker i w.told) ∧
      Directory.Closing d untold (d'.setWorker i w.told) := by
  obtain ⟨w, hw, hopen⟩ := h.opens i (List.mem_cons_self ..)
  have hclosing := h.set hw hopen (.inl rfl) hnew
    fun j hj => (List.mem_cons.trans (or_iff_right hj)).symm
  rcases h.workers i with ⟨-, hsame⟩ | ⟨htold, -⟩
  · refine ⟨w, hsame.trans hw, ?_, hclosing⟩
    have hempty : w.inbox = [] := (Directory.inbox_eq hw).symm.trans (hrest.emptied i)
    have hroomy : 0 < d'.room := by
      rw [h.rest]
      exact hrest.roomy
    rw [advance_send_of_empty (hsame.trans hw) hopen hempty hroomy, Directory.push, hempty]
    rfl
  · exact absurd (List.mem_cons_self ..) htold

variable [ProfileSession σ ρ τ] [DecidableEq τ] [Outlined ρ] {S : Surroundings → Prop}

namespace Done

/-- The next worker gets to know that it has to stop. -/
theorem told {next : Bool → Plan σ ρ τ α} {a : α} {last : Directory σ ρ τ} (hrest : d.AtRest)
    (h : Directory.Closing d (i :: untold) d') (hnew : i ∉ untold)
    (hdone : (send i .stop next).Done S d' a last) :
    ∃ after, Directory.Closing d untold after ∧ (next true).Done S after a last := by
  generalize hplan : send i .stop next = p at hdone
  induction hdone with
  | finished result d => cases hplan
  | advance hadvance hdone ih =>
      subst hplan
      obtain ⟨w, -, heq, hclosing⟩ := advance_untold next hrest h hnew
      obtain ⟨rfl, rfl⟩ := Prod.mk.inj (Option.some.inj (hadvance.symm.trans heq))
      exact ⟨_, hclosing, hdone⟩
  | stir hstir hdone ih => exact ih (h.stir hrest hstir) hplan

theorem stopAll {last : Directory σ ρ τ} (hrest : d.AtRest)
    (h : Directory.Closing d (entries.map (·.2)) d') (hnodup : (entries.map (·.2)).Nodup)
    (hdone : (Plan.stopAll entries).Done S d' () last) : Directory.Closing d [] last := by
  induction entries generalizing d' with
  | nil => exact h.stirs hrest hdone.stirs.2
  | cons entry entries ih =>
      obtain ⟨hnew, hnodup⟩ := List.nodup_cons.1 hnodup
      rw [stopAll_cons] at hdone
      obtain ⟨after, hclosing, hrestdone⟩ := hdone.told hrest h hnew
      exact ih hclosing hnodup hrestdone

/-- **When all workers are stopped, none takes items any more, and all else is as it was.** -/
theorem shutdown (hrest : d.AtRest) (hdone : Plan.shutdown.Done S d () d') :
    Directory.Closing d [] d' :=
  (hdone.after hrest.toSettled rfl).stopAll hrest (Directory.closing_clear hrest)
    hrest.nodup_workers

end Done

end Plan

end AudioLink
