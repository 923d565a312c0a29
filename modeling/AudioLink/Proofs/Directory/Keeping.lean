/-
**How a directory is kept.**

Clients enter workers into the directory and take entries away, put items into inboxes, and workers
take turns; all of it in any order.  Throughout, a device has one entry at most, an entry leads to a
worker of the device, and a worker that takes items has its entry: so no device ever has two workers
that do.

Main definitions:

* `AudioLink.Directory.Knows`, `AudioLink.Directory.Open`, `AudioLink.Directory.Stopped` — a worker
  of a device, a worker that takes items and one that does not;
* `AudioLink.Directory.Kept` — the entries and the workers fit together;
* `AudioLink.Directory.handledBy` — the messages that a worker has handled;
* `AudioLink.Directory.Onward` — workers stay who they are, and stay stopped;
* `AudioLink.Directory.Replaced` — one worker was replaced by the same worker later on.

Main results:

* `AudioLink.Link.peer_process`, `AudioLink.Link.peer_fireDue` — a link stays the link of its
  device;
* `AudioLink.Directory.offer_cases`, `AudioLink.Directory.turn_cases`,
  `AudioLink.Directory.wake_cases` — what an offer, a turn and an alarm may come to;
* `AudioLink.Directory.Kept.enlist`, `AudioLink.Directory.Kept.forget`,
  `AudioLink.Directory.Replaced.kept` — **the directory is kept**, whatever is done to it;
* `AudioLink.Directory.Kept.eq_of_open` — **a device has one worker at most that takes items**.
-/

import AudioLink.Directory.Clients
import AudioLink.Proofs.Link.Life
import AudioLink.Proofs.Link.Moves
import AudioLink.Proofs.Link.Changes
import Mathlib.Data.List.Nodup

set_option relaxedAutoImplicit false
set_option autoImplicit false

namespace AudioLink

variable {σ ρ τ : Type}

/-! ### The device of a link -/

namespace Link

variable [ProfileSession σ ρ τ] [DecidableEq τ]

/-- The link of a device, in the middle of a step. -/
def IsFor (peer : Address) (progress : Progress σ ρ τ) : Prop := progress.link.peer = peer

variable {peer : Address}

omit [DecidableEq τ] in
theorem upholds_silence_isFor : Step.Upholds (IsFor peer) (silence : Step σ ρ τ Unit) :=
  .bind .link fun _ => .ite (fun _ => fun _ _ h => h) fun _ => .pure _

theorem upholds_leave_isFor (state : LinkState) :
    Step.Upholds (IsFor peer) (leave state : Step σ ρ τ Unit) := by
  cases state with
  | disconnected => exact .pure _
  | connecting | disconnecting => exact fun _ _ h => h
  | connected => exact .bind upholds_silence_isFor fun _ => fun _ _ h => h

theorem upholds_enter_isFor (state : LinkState) :
    Step.Upholds (IsFor peer) (enter state : Step σ ρ τ Unit) := by
  cases state with
  | disconnected | connecting | disconnecting => exact fun _ _ h => h
  | connected =>
      refine .bind (fun _ _ h => h) fun _ => .bind upholds_silence_isFor fun _ => ?_
      exact fun _ _ h => h

theorem upholds_transition_isFor (next : LinkState) :
    Step.Upholds (IsFor peer) (transition next : Step σ ρ τ Unit) := by
  refine .bind .link fun link => .ite (fun _ => ?_) fun _ => .pure _
  refine .bind (upholds_leave_isFor _) fun _ => .bind (fun _ _ h => h) fun _ => ?_
  refine .bind (fun _ _ h => h) fun _ => .bind (upholds_enter_isFor _) fun _ => ?_
  exact .ite (fun _ => fun _ _ h => h) fun _ => .pure _

/-- No move makes a link the link of another device. -/
theorem moves_isFor : Moves (IsFor peer : Progress σ ρ τ → Prop) where
  ask _ _ := fun _ _ h => h
  transition := upholds_transition_isFor
  setAudio _ _ _ _ _ h := h
  defer _ _ h := h
  introduce _ _ h := h

variable [Outlined ρ]

theorem upholds_handle_isFor (errand : Errand ρ τ) :
    Step.Upholds (IsFor peer) (handle errand : Step σ ρ τ Unit) := by
  intro scene progress h
  refine yields_handle (P := IsFor peer) ?_ fun _ _ h => h
  cases errand with
  | message message =>
      exact moves_isFor.upholds_onMessage (fun _ _ => fun _ _ h => h) (fun _ _ => fun _ _ h => h)
        scene progress h
  | alarm kind =>
      exact upholds_onAlarm moves_isFor.upholds_refuse (fun _ _ h => h) (fun _ => fun _ _ h => h)
        kind scene progress h

theorem peer_drain (scene : Scene) (progress : Progress σ ρ τ) :
    (drain scene progress).link.peer = progress.link.peer :=
  drain_induction (P := IsFor progress.link.peer)
    (fun _ errand _ h _ => upholds_handle_isFor errand scene _ h) progress rfl

/-- **A link stays the link of its device**, whatever it is handed. -/
@[simp] theorem peer_process (scene : Scene) (message : Message ρ) (link : Link σ ρ τ) :
    (process scene message link).1.peer = link.peer :=
  peer_drain scene _

theorem peer_serveDue (scene : Scene) (rounds : Nat) (progress : Progress σ ρ τ) :
    (serveDue scene rounds progress).link.peer = progress.link.peer := by
  induction rounds generalizing progress with
  | zero => rfl
  | succ rounds ih =>
      rw [serveDue]
      split
      · rfl
      · rw [ih, peer_drain]

@[simp] theorem peer_fireDue (scene : Scene) (link : Link σ ρ τ) :
    (fireDue scene link).1.peer = link.peer :=
  peer_serveDue scene _ _

end Link

namespace Worker

variable [ProfileSession σ ρ τ] [DecidableEq τ] [Outlined ρ]

@[simp] theorem peer_handle (scene : Scene) (item : Item ρ) (rest : List (Item ρ))
    (w : Worker σ ρ τ) : (w.handle scene item rest).worker.link.peer = w.link.peer := by
  unfold handle
  split
  · exact Link.peer_process scene _ w.link
  · rfl
  · split <;> rfl
  · rfl

@[simp] theorem peer_wake (scene : Scene) (w : Worker σ ρ τ) :
    (w.wake scene).worker.link.peer = w.link.peer :=
  Link.peer_fireDue scene w.link

/-- A worker that stops leaves nothing in its inbox. -/
theorem inbox_of_closed_handle {scene : Scene} {item : Item ρ} {rest : List (Item ρ)}
    {w : Worker σ ρ τ} (hopen : w.closed = false)
    (hclosed : (w.handle scene item rest).worker.closed = true) :
    (w.handle scene item rest).worker.inbox = [] := by
  revert hclosed
  unfold handle
  split
  · intro h; cases hopen.symm.trans h
  · intro h; cases hopen.symm.trans h
  · split
    · exact fun _ => rfl
    · intro h; cases hopen.symm.trans h
  · exact fun _ => rfl

end Worker

namespace Directory

variable {d d' : Directory σ ρ τ} {peer : Address} {i : Nat}

/-! ### Workers -/

/-- A worker of a device. -/
def Knows (d : Directory σ ρ τ) (peer : Address) (i : Nat) : Prop :=
  ∃ w, d.workers[i]? = some w ∧ w.link.peer = peer

/-- A worker that takes items. -/
def Open (d : Directory σ ρ τ) (i : Nat) : Prop :=
  ∃ w, d.workers[i]? = some w ∧ w.closed = false

/-- A worker that takes no more items. -/
def Stopped (d : Directory σ ρ τ) (i : Nat) : Prop :=
  ∃ w, d.workers[i]? = some w ∧ w.closed = true

/-- The devices that the workers are for, in the order in which the workers were entered. -/
def peers (d : Directory σ ρ τ) : List Address := d.workers.map (·.link.peer)

theorem length_of_peers (h : d'.peers = d.peers) : d'.workers.length = d.workers.length := by
  have hlength := congrArg List.length h
  rwa [peers, peers, List.length_map, List.length_map] at hlength

theorem Open.not_stopped (h : d.Open i) : ¬d.Stopped i := by
  rintro ⟨w, hw, hclosed⟩
  obtain ⟨v, hv, hopen⟩ := h
  cases hw.symm.trans hv
  cases hclosed.symm.trans hopen

/-- Workers stay who they are, and a worker that has stopped stays so. -/
structure Onward (d d' : Directory σ ρ τ) : Prop where
  knows : ∀ peer i, d.Knows peer i → d'.Knows peer i
  stopped : ∀ i, d.Stopped i → d'.Stopped i

theorem Onward.trans {d'' : Directory σ ρ τ} (h : Onward d d') (h' : Onward d' d'') :
    Onward d d'' :=
  ⟨fun peer i hknown => h'.knows peer i (h.knows peer i hknown),
    fun i hstopped => h'.stopped i (h.stopped i hstopped)⟩

theorem Onward.of_workers_eq (h : d'.workers = d.workers) : Onward d d' :=
  ⟨fun _ _ hknown => by rwa [Knows, h], fun _ hstopped => by rwa [Stopped, h]⟩

/-! ### The entries and the workers -/

/-- The entries and the workers fit together. -/
structure Kept (d : Directory σ ρ τ) : Prop where
  /-- A device has one entry at most. -/
  unique : (d.entries.map (·.1)).Nodup
  /-- An entry leads to a worker of the device. -/
  known : ∀ entry ∈ d.entries, d.Knows entry.1 entry.2
  /-- A worker that takes items has its entry. -/
  listed : ∀ (i : Nat) (w : Worker σ ρ τ), d.workers[i]? = some w → w.closed = false →
    (w.link.peer, i) ∈ d.entries
  /-- A worker that has stopped has nothing in its inbox. -/
  emptied : ∀ (i : Nat) (w : Worker σ ρ τ), d.workers[i]? = some w → w.closed = true → w.inbox = []

theorem kept_start (room : Nat) (newSession : Nat → σ) :
    Kept (start room newSession : Directory σ ρ τ) where
  unique := List.nodup_nil
  known _ h := nomatch h
  listed _ _ h := by simp [start] at h
  emptied _ _ h := by simp [start] at h

/-- Two entries for one device are the same. -/
theorem Kept.entry_unique (h : d.Kept) {i j : Nat} (hi : (peer, i) ∈ d.entries)
    (hj : (peer, j) ∈ d.entries) : i = j :=
  congrArg Prod.snd (List.inj_on_of_nodup_map h.unique hi hj rfl)

/-- **A device has one worker at most that takes items.** -/
theorem Kept.eq_of_open (h : d.Kept) {i j : Nat} {v w : Worker σ ρ τ}
    (hv : d.workers[i]? = some v) (hw : d.workers[j]? = some w) (hvopen : v.closed = false)
    (hwopen : w.closed = false) (hpeer : v.link.peer = w.link.peer) : i = j := by
  have hi := h.listed i v hv hvopen
  rw [hpeer] at hi
  exact h.entry_unique hi (h.listed j w hw hwopen)

/-- What is found for a device is its entry. -/
theorem mem_of_find? (h : d.find? peer = some i) : (peer, i) ∈ d.entries := by
  obtain ⟨⟨p, j⟩, hfound, rfl⟩ := Option.map_eq_some_iff.1 h
  obtain rfl : p = peer := eq_of_beq (List.find?_some hfound :)
  exact List.mem_of_find?_eq_some hfound

theorem not_mem_of_find? (h : d.find? peer = none) (i : Nat) : (peer, i) ∉ d.entries := by
  intro hmem
  have hnone := List.find?_eq_none.1 (Option.map_eq_none_iff.1 h) _ hmem
  exact hnone (beq_self_eq_true peer)

theorem find?_eq_iff (h : d.Kept) : d.find? peer = some i ↔ (peer, i) ∈ d.entries := by
  refine ⟨mem_of_find?, fun hmem => ?_⟩
  cases hfound : d.find? peer with
  | none => exact absurd hmem (not_mem_of_find? hfound i)
  | some j => rw [h.entry_unique hmem (mem_of_find? hfound)]

theorem perm_placeEntry (entry : Address × Nat) (entries : List (Address × Nat)) :
    (placeEntry entry entries).Perm (entry :: entries) := by
  induction entries with
  | nil => exact .refl _
  | cons other rest ih =>
      rw [placeEntry]
      split
      · exact .refl _
      · exact (ih.cons other).trans (.swap entry other rest)

/-! ### Entering a worker -/

/-- Either the device has a worker, or it gets a new one. -/
theorem enlist_cases (d : Directory σ ρ τ) (peer : Address) :
    (∃ i, d.find? peer = some i ∧ d.enlist peer = (i, d)) ∨
      d.find? peer = none ∧ d.enlist peer = (d.workers.length, { d with
        workers := d.workers ++ [.start (.start peer (d.newSession d.workers.length))]
        entries := placeEntry (peer, d.workers.length) d.entries }) := by
  cases hfound : d.find? peer with
  | none => exact .inr ⟨rfl, by simp [enlist, hfound]⟩
  | some i => exact .inl ⟨i, rfl, by simp [enlist, hfound]⟩

theorem onward_append (ws : List (Worker σ ρ τ)) (entries : List (Address × Nat)) :
    Onward d { d with workers := d.workers ++ ws, entries := entries } := by
  have hlater {i : Nat} {w : Worker σ ρ τ} (hw : d.workers[i]? = some w) :
      (d.workers ++ ws)[i]? = some w :=
    (List.getElem?_append_left (List.getElem?_eq_some_iff.1 hw).1).trans hw
  exact ⟨fun _ _ ⟨w, hw, hpeer⟩ => ⟨w, hlater hw, hpeer⟩,
    fun _ ⟨w, hw, hclosed⟩ => ⟨w, hlater hw, hclosed⟩⟩

theorem onward_enlist (d : Directory σ ρ τ) (peer : Address) : Onward d (d.enlist peer).2 := by
  rcases d.enlist_cases peer with ⟨i, -, heq⟩ | ⟨-, heq⟩
  · rw [heq]
    exact .of_workers_eq rfl
  · rw [heq]
    exact onward_append _ _

/-- A worker of the directory after one was entered: it was there before, or it is the new one. -/
theorem getElem?_snoc {ws : List (Worker σ ρ τ)} {v w : Worker σ ρ τ}
    (h : (ws ++ [v])[i]? = some w) : ws[i]? = some w ∨ i = ws.length ∧ w = v := by
  rcases Nat.lt_trichotomy i ws.length with hlt | heq | hgt
  · exact .inl ((List.getElem?_append_left hlt).symm.trans h)
  · subst heq
    exact .inr ⟨rfl, by simpa using h.symm⟩
  · rw [List.getElem?_eq_none (by simp; omega)] at h
    cases h

/-- **Entering a worker keeps the directory.** -/
theorem Kept.enlist (h : d.Kept) (peer : Address) : (d.enlist peer).2.Kept := by
  have honward := d.onward_enlist peer
  rcases d.enlist_cases peer with ⟨i, -, heq⟩ | ⟨hnone, heq⟩
  · rw [heq]
    exact h
  · rw [heq] at honward ⊢
    have hplaced := perm_placeEntry (peer, d.workers.length) d.entries
    constructor
    · refine (hplaced.map _).nodup_iff.2 (List.nodup_cons.2 ⟨?_, h.unique⟩)
      intro hmem
      obtain ⟨⟨p, j⟩, hj, rfl⟩ := List.mem_map.1 hmem
      exact not_mem_of_find? hnone j hj
    · intro entry hentry
      rcases List.mem_cons.1 (hplaced.mem_iff.1 hentry) with rfl | hold
      · exact ⟨_, List.getElem?_concat_length .., rfl⟩
      · exact honward.knows _ _ (h.known entry hold)
    · intro i w hw hopen
      refine hplaced.mem_iff.2 ?_
      rcases getElem?_snoc hw with hold | ⟨rfl, rfl⟩
      · exact List.mem_cons_of_mem _ (h.listed i w hold hopen)
      · exact List.mem_cons_self ..
    · intro i w hw hclosed
      rcases getElem?_snoc hw with hold | ⟨-, rfl⟩
      · exact h.emptied i w hold hclosed
      · rfl

/-- Whoever is entered for a device is a worker of the device. -/
theorem Kept.knows_enlist (h : d.Kept) (peer : Address) :
    (d.enlist peer).2.Knows peer (d.enlist peer).1 := by
  rcases d.enlist_cases peer with ⟨i, hfound, heq⟩ | ⟨-, heq⟩
  · rw [heq]
    exact h.known _ (mem_of_find? hfound)
  · rw [heq]
    exact ⟨_, List.getElem?_concat_length .., rfl⟩

theorem inbox_append (ws : List (Worker σ ρ τ)) (entries : List (Address × Nat))
    (hempty : ∀ w ∈ ws, w.inbox = []) (j : Nat) :
    inbox { d with workers := d.workers ++ ws, entries := entries } j = d.inbox j := by
  rw [inbox, inbox, List.getElem?_append]
  split
  · rfl
  · next hge =>
      rw [List.getElem?_eq_none (Nat.not_lt.1 hge)]
      cases hw : ws[j - d.workers.length]? with
      | none => rfl
      | some w => exact hempty w (List.mem_of_getElem? hw)

/-- Entering a worker puts nothing into any inbox. -/
@[simp] theorem inbox_enlist (d : Directory σ ρ τ) (peer : Address) (j : Nat) :
    (d.enlist peer).2.inbox j = d.inbox j := by
  rcases d.enlist_cases peer with ⟨i, -, heq⟩ | ⟨-, heq⟩
  · rw [heq]
  · rw [heq]
    exact inbox_append _ _ (by simp [Worker.start]) j

/-- Workers that were entered apart, nothing is changed. -/
theorem enlist_rest (d : Directory σ ρ τ) (peer : Address) :
    (d.enlist peer).2 = { d with
      workers := (d.enlist peer).2.workers, entries := (d.enlist peer).2.entries } := by
  rcases d.enlist_cases peer with ⟨i, -, heq⟩ | ⟨-, heq⟩ <;> rw [heq]

/-! ### Taking an entry away -/

theorem mem_entries_forget {entry : Address × Nat} :
    entry ∈ (d.forget peer i).entries ↔ entry ∈ d.entries ∧ entry ≠ (peer, i) := by
  simp [forget]

/-- **Taking away the entry of a worker that has stopped keeps the directory.** -/
theorem Kept.forget (h : d.Kept) (peer : Address) (hstopped : d.Stopped i) :
    (d.forget peer i).Kept where
  unique := h.unique.sublist (List.filter_sublist.map _)
  known entry hentry := h.known entry (mem_entries_forget.1 hentry).1
  listed j w hw hopen := by
    refine mem_entries_forget.2 ⟨h.listed j w hw hopen, fun heq => ?_⟩
    obtain ⟨-, rfl⟩ := Prod.mk.inj heq
    exact Open.not_stopped ⟨w, hw, hopen⟩ hstopped
  emptied := h.emptied

/-! ### Replacing a worker -/

/-- One worker was replaced by the same worker later on. -/
structure Replaced (i : Nat) (w v : Worker σ ρ τ) (d d' : Directory σ ρ τ) : Prop where
  was : d.workers[i]? = some w
  workers : d'.workers = d.workers.set i v
  entries : d'.entries = d.entries
  peer : v.link.peer = w.link.peer
  closed : w.closed = true → v.closed = true
  emptied : v.closed = true → v.inbox = []

namespace Replaced

variable {w v : Worker σ ρ τ} (h : Replaced i w v d d')

include h

theorem same : d'.workers[i]? = some v := by
  rw [h.workers]
  exact List.getElem?_set_self (List.getElem?_eq_some_iff.1 h.was).1

theorem other {j : Nat} (hne : j ≠ i) : d'.workers[j]? = d.workers[j]? := by
  rw [h.workers]
  exact List.getElem?_set_ne (Ne.symm hne)

theorem onward : Onward d d' := by
  constructor
  · rintro p j ⟨u, hu, hpeer⟩
    by_cases heq : j = i
    · subst heq
      cases h.was.symm.trans hu
      exact ⟨v, h.same, h.peer.trans hpeer⟩
    · exact ⟨u, (h.other heq).trans hu, hpeer⟩
  · rintro j ⟨u, hu, hclosed⟩
    by_cases heq : j = i
    · subst heq
      cases h.was.symm.trans hu
      exact ⟨v, h.same, h.closed hclosed⟩
    · exact ⟨u, (h.other heq).trans hu, hclosed⟩

/-- **Replacing a worker keeps the directory.** -/
theorem kept (hkept : d.Kept) : d'.Kept where
  unique := h.entries ▸ hkept.unique
  known entry hentry := h.onward.knows _ _ (hkept.known entry (h.entries ▸ hentry))
  listed j u hu hopen := by
    rw [h.entries]
    by_cases heq : j = i
    · subst heq
      cases h.same.symm.trans hu
      rw [h.peer]
      refine hkept.listed j w h.was (Bool.eq_false_iff.2 fun hclosed => ?_)
      cases (h.closed hclosed).symm.trans hopen
    · exact hkept.listed j u ((h.other heq).symm.trans hu) hopen
  emptied j u hu hclosed := by
    by_cases heq : j = i
    · subst heq
      cases h.same.symm.trans hu
      exact h.emptied hclosed
    · exact hkept.emptied j u ((h.other heq).symm.trans hu) hclosed

theorem peers : d'.peers = d.peers := by
  refine List.ext_getElem? fun j => ?_
  rw [Directory.peers, Directory.peers, List.getElem?_map, List.getElem?_map]
  by_cases hj : j = i
  · rw [hj, h.same, h.was]
    exact congrArg some h.peer
  · rw [h.other hj]

theorem inbox_same : d'.inbox i = v.inbox := inbox_eq h.same

theorem inbox_was : d.inbox i = w.inbox := inbox_eq h.was

theorem inbox_other {j : Nat} (hne : j ≠ i) : d'.inbox j = d.inbox j := by
  rw [inbox, inbox, h.other hne]

end Replaced

/-! ### Putting an item into an inbox -/

/-- An item that is taken is the last of the inbox; otherwise nothing happens. -/
theorem offer_cases (d : Directory σ ρ τ) (i : Nat) (item : Item ρ) :
    (∃ w, d.workers[i]? = some w ∧ w.closed = false ∧ w.inbox.length < d.room ∧
      d.offer i item = (.taken, d.setWorker i { w with inbox := w.inbox ++ [item] })) ∨
    (∃ w, d.workers[i]? = some w ∧ w.closed = false ∧ d.room ≤ w.inbox.length ∧
      d.offer i item = (.full, d)) ∨
    ¬d.Open i ∧ d.offer i item = (.closed, d) := by
  cases hw : d.workers[i]? with
  | none =>
      refine .inr (.inr ⟨?_, by simp [offer, hw]⟩)
      rintro ⟨w, hw', -⟩
      cases hw.symm.trans hw'
  | some w =>
      cases hclosed : w.closed with
      | true =>
          refine .inr (.inr ⟨?_, by simp [offer, hw, hclosed]⟩)
          rintro ⟨w', hw', hopen⟩
          cases hw.symm.trans hw'
          cases hclosed.symm.trans hopen
      | false =>
          by_cases hfull : d.room ≤ w.inbox.length
          · exact .inr (.inl ⟨w, rfl, hclosed, hfull, by simp [offer, hw, hclosed, hfull]⟩)
          · exact .inl ⟨w, rfl, hclosed, Nat.lt_of_not_le hfull,
              by simp [offer, hw, hclosed, hfull]⟩

theorem replaced_setWorker {w v : Worker σ ρ τ} (hw : d.workers[i]? = some w)
    (hpeer : v.link.peer = w.link.peer) (hclosed : w.closed = true → v.closed = true)
    (hemptied : v.closed = true → v.inbox = []) : Replaced i w v d (d.setWorker i v) :=
  ⟨hw, rfl, rfl, hpeer, hclosed, hemptied⟩

/-- An item is put into the inbox of a worker that takes items. -/
theorem replaced_push {w : Worker σ ρ τ} (hw : d.workers[i]? = some w) (hopen : w.closed = false)
    (item : Item ρ) : Replaced i w { w with inbox := w.inbox ++ [item] } d
      (d.setWorker i { w with inbox := w.inbox ++ [item] }) :=
  replaced_setWorker hw rfl id fun h => nomatch hopen.symm.trans h

/-! ### What is entered -/

/-- The messages that a worker has handled, in order. -/
def handledBy (d : Directory σ ρ τ) (i : Nat) : List (Message ρ) :=
  (d.handled.filter (·.1 == i)).map (·.2)

/-- What was written down under one key stands under no other. -/
theorem map_filter_of_key {α β : Type} [BEq α] [LawfulBEq α] [DecidableEq α] (key other : α)
    (l : List β) : ((l.map fun b => (key, b)).filter (·.1 == other)).map (·.2) =
      if key = other then l else [] := by
  split
  · next heq => simp [heq, List.filter_map, Function.comp_def]
  · next hne => simp [hne, List.filter_map, Function.comp_def]

/-- What leaves one link is no matter of another device. -/
theorem logOf_enter (d : Directory σ ρ τ) (i : Nat) (turn : Turn σ ρ τ) (peer : Address) :
    (d.enter i turn).logOf peer =
      d.logOf peer ++ if turn.worker.link.peer = peer then turn.effects else [] := by
  rw [← map_filter_of_key, logOf, logOf, ← List.map_append, ← List.filter_append]
  rfl

/-- What one worker handles is no matter of another. -/
theorem handledBy_enter (d : Directory σ ρ τ) (i : Nat) (turn : Turn σ ρ τ) (j : Nat) :
    (d.enter i turn).handledBy j = d.handledBy j ++ if i = j then turn.handled else [] := by
  rw [← map_filter_of_key, handledBy, handledBy, ← List.map_append, ← List.filter_append]
  rfl

/-! ### Turns and alarms -/

variable [ProfileSession σ ρ τ] [DecidableEq τ] [Outlined ρ]

/-- In its turn a worker handles the first item of its inbox. -/
theorem turn_eq (s : Surroundings) {w : Worker σ ρ τ} {item : Item ρ} {rest : List (Item ρ)}
    (hw : d.workers[i]? = some w) (hinbox : w.inbox = item :: rest) :
    d.turn s i = d.enter i (w.handle (d.scene s w.link.peer) item rest) := by
  simp only [turn, hw, hinbox]

/-- A worker with nothing in its inbox does nothing in its turn. -/
theorem turn_cases (s : Surroundings) (d : Directory σ ρ τ) (i : Nat) :
    d.inbox i = [] ∧ d.turn s i = d ∨
      ∃ w item rest, d.workers[i]? = some w ∧ w.inbox = item :: rest ∧
        d.turn s i = d.enter i (w.handle (d.scene s w.link.peer) item rest) := by
  cases hw : d.workers[i]? with
  | none => exact .inl ⟨by simp [inbox, hw], by simp [turn, hw]⟩
  | some w =>
      cases hinbox : w.inbox with
      | nil => exact .inl ⟨by rw [inbox_eq hw, hinbox], by simp [turn, hw, hinbox]⟩
      | cons item rest => exact .inr ⟨w, item, rest, rfl, hinbox, turn_eq s hw hinbox⟩

/-- A turn replaces the worker by the one that has handled the item. -/
theorem replaced_turn (s : Surroundings) (hkept : d.Kept) {w : Worker σ ρ τ} {item : Item ρ}
    {rest : List (Item ρ)} (hw : d.workers[i]? = some w) (hinbox : w.inbox = item :: rest) :
    w.closed = false ∧
      Replaced i w (w.handle (d.scene s w.link.peer) item rest).worker d
        (d.enter i (w.handle (d.scene s w.link.peer) item rest)) := by
  have hopen : w.closed = false := by
    refine Bool.eq_false_iff.2 fun hclosed => ?_
    cases hinbox.symm.trans (hkept.emptied i w hw hclosed)
  exact ⟨hopen, hw, rfl, rfl, Worker.peer_handle .., fun h => (nomatch hopen.symm.trans h),
    Worker.inbox_of_closed_handle hopen⟩

/-- A worker is woken only if an alarm of its link is due. -/
theorem wake_cases (s : Surroundings) (d : Directory σ ρ τ) (i : Nat) :
    d.wake s i = d ∨
      ∃ w, d.workers[i]? = some w ∧ w.closed = false ∧
        w.link.alarms.nextDeadline.any (· ≤ d.now) = true ∧
        d.wake s i = d.enter i (w.wake (d.scene s w.link.peer)) := by
  cases hw : d.workers[i]? with
  | none => exact .inl (by simp [wake, hw])
  | some w =>
      by_cases hdue : w.nextDeadline.any (· ≤ d.now) = true
      · refine .inr ⟨w, rfl, ?_, ?_, by rw [wake, hw]; exact if_pos hdue⟩
        · cases hclosed : w.closed with
          | false => rfl
          | true => simp [Worker.nextDeadline, hclosed] at hdue
        · cases hclosed : w.closed with
          | false => simpa [Worker.nextDeadline, hclosed] using hdue
          | true => simp [Worker.nextDeadline, hclosed] at hdue
      · exact .inl (by rw [wake, hw]; exact if_neg hdue)

/-- An alarm replaces the worker by the one that has served it, with the same inbox. -/
theorem replaced_wake (s : Surroundings) {w : Worker σ ρ τ} (hw : d.workers[i]? = some w)
    (hopen : w.closed = false) :
    Replaced i w (w.wake (d.scene s w.link.peer)).worker d
      (d.enter i (w.wake (d.scene s w.link.peer))) :=
  ⟨hw, rfl, rfl, Worker.peer_wake .., id, fun h => nomatch hopen.symm.trans h⟩

end Directory

end AudioLink
