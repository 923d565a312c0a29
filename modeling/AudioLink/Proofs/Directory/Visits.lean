/-
**What clients do in the hall.**

A client that routes a message goes through a few stages: it has the worker of the device looked up,
puts the message into the inbox, and if the worker has stopped it has the entry taken away and tries
once more.  At each stage others may have been at work meanwhile.  What a client knows of a worker it
may rely on nevertheless: which device the worker is for, and that it has stopped.

Main definitions:

* `AudioLink.Directory.letters`, `AudioLink.Directory.others` — the messages in an inbox, and
  whatever else is there;
* `AudioLink.Directory.Calm`, `AudioLink.Directory.Quiet`, `AudioLink.Directory.Still` — what is
  done leaves the messages alone, leaves alone what the reaper relies on, or both;
* `AudioLink.Plan.Routing` — the stages of a client.

Main results:

* `AudioLink.Directory.still_enlist`, `AudioLink.Directory.still_forget`,
  `AudioLink.Directory.quiet_push` — what clients do to the directory;
* `AudioLink.Directory.quiet_turn`, `AudioLink.Directory.still_wake` — what workers do to it;
* `AudioLink.Plan.advance_send_cases` — an attempt to put a message into an inbox;
* `AudioLink.Plan.Routing.advance` — **a client goes from stage to stage, and puts its message into
  one inbox at most**: that of a worker of the device, and then it has finished.
-/

import AudioLink.Proofs.Directory.Hall

set_option relaxedAutoImplicit false
set_option autoImplicit false

namespace AudioLink

variable {σ ρ τ : Type}

namespace Directory

variable {d d' : Directory σ ρ τ} {peer : Address} {i : Nat}

/-! ### What stands in the inboxes -/

/-- The messages in an inbox, the oldest first. -/
def letters (d : Directory σ ρ τ) (i : Nat) : List (Message ρ) :=
  (d.inbox i).filterMap Item.message?

/-- What is in an inbox but is no message. -/
def others (d : Directory σ ρ τ) (i : Nat) : List (Item ρ) :=
  (d.inbox i).filter fun item => item.message?.isNone

/-- The messages are left alone: those in the inboxes and those that were handled. -/
structure Calm (d d' : Directory σ ρ τ) : Prop extends Onward d d' where
  letters : ∀ i, d'.letters i = d.letters i
  handled : d'.handled = d.handled

/-- What the reaper relies on is left alone: its question and the reply to it, and that an entry
leads to a worker that takes items. -/
structure Quiet (d d' : Directory σ ρ τ) : Prop extends Onward d d' where
  opens : ∀ i, d.Open i → d'.Open i
  replies : d'.replies = d.replies
  tickets : d'.tickets = d.tickets
  others : ∀ i, d'.others i = d.others i
  entries : ∀ entry ∈ d'.entries, entry ∈ d.entries ∨ d'.Open entry.2

/-- The inboxes are left alone, and so is whatever has happened so far. -/
structure Still (d d' : Directory σ ρ τ) : Prop extends Onward d d' where
  opens : ∀ i, d.Open i → d'.Open i
  replies : d'.replies = d.replies
  tickets : d'.tickets = d.tickets
  handled : d'.handled = d.handled
  inbox : ∀ i, d'.inbox i = d.inbox i
  entries : ∀ entry ∈ d'.entries, entry ∈ d.entries ∨ d'.Open entry.2

theorem Still.calm (h : Still d d') : Calm d d' where
  toOnward := h.toOnward
  letters i := by rw [Directory.letters, Directory.letters, h.inbox]
  handled := h.handled

theorem Still.quiet (h : Still d d') : Quiet d d' where
  toOnward := h.toOnward
  opens := h.opens
  replies := h.replies
  tickets := h.tickets
  others i := by rw [Directory.others, Directory.others, h.inbox]
  entries := h.entries

theorem Still.refl (d : Directory σ ρ τ) : Still d d :=
  ⟨.of_workers_eq rfl, fun _ h => h, rfl, rfl, rfl, fun _ => rfl, fun _ h => .inl h⟩

theorem open_append {ws : List (Worker σ ρ τ)} {entries : List (Address × Nat)} (h : d.Open i) :
    Open { d with workers := d.workers ++ ws, entries := entries } i := by
  obtain ⟨w, hw, hopen⟩ := h
  exact ⟨w, (List.getElem?_append_left (List.getElem?_eq_some_iff.1 hw).1).trans hw, hopen⟩

/-- To enter a worker disturbs nobody. -/
theorem still_enlist (d : Directory σ ρ τ) (peer : Address) : Still d (d.enlist peer).2 := by
  have honward := d.onward_enlist peer
  have hinbox := d.inbox_enlist peer
  rcases d.enlist_cases peer with ⟨i, -, heq⟩ | ⟨-, heq⟩
  · rw [heq]
    exact .refl d
  · rw [heq] at honward hinbox ⊢
    refine ⟨honward, fun _ => open_append, rfl, rfl, rfl, hinbox, fun entry hentry => ?_⟩
    rcases List.mem_cons.1 ((perm_placeEntry _ _).mem_iff.1 hentry) with rfl | hold
    · exact .inr ⟨_, List.getElem?_concat_length .., rfl⟩
    · exact .inl hold

/-- Whoever is entered takes items, if all entries lead to workers that do. -/
theorem open_enlist (hentered : ∀ entry ∈ d.entries, d.Open entry.2) (peer : Address) :
    (d.enlist peer).2.Open (d.enlist peer).1 := by
  rcases d.enlist_cases peer with ⟨i, hfound, heq⟩ | ⟨-, heq⟩
  · rw [heq]
    exact hentered _ (mem_of_find? hfound)
  · rw [heq]
    exact ⟨_, List.getElem?_concat_length .., rfl⟩

/-- To take an entry away disturbs nobody. -/
theorem still_forget (d : Directory σ ρ τ) (peer : Address) (i : Nat) :
    Still d (d.forget peer i) :=
  ⟨.of_workers_eq rfl, fun _ h => h, rfl, rfl, rfl, fun _ => rfl,
    fun _ h => .inl (mem_entries_forget.1 h).1⟩

/-! ### A message is put into an inbox -/

/-- An item is put into the inbox of a worker. -/
def push (d : Directory σ ρ τ) (i : Nat) (w : Worker σ ρ τ) (item : Item ρ) : Directory σ ρ τ :=
  d.setWorker i { w with inbox := w.inbox ++ [item] }

section Push

variable {w : Worker σ ρ τ} (hw : d.workers[i]? = some w) (hopen : w.closed = false)

include hw hopen

theorem inbox_push (item : Item ρ) (j : Nat) :
    (d.push i w item).inbox j = if j = i then d.inbox j ++ [item] else d.inbox j := by
  have hreplaced := replaced_push hw hopen item
  split
  · next heq =>
      subst heq
      rw [hreplaced.inbox_was]
      exact hreplaced.inbox_same
  · next hne => exact hreplaced.inbox_other hne

theorem letters_push (m : Message ρ) (j : Nat) :
    (d.push i w (.message m)).letters j = if j = i then d.letters j ++ [m] else d.letters j := by
  rw [letters, inbox_push hw hopen]
  split
  · exact List.filterMap_append
  · rfl

theorem open_push (item : Item ρ) {j : Nat} (hj : d.Open j) : (d.push i w item).Open j := by
  have hreplaced := replaced_push hw hopen item
  by_cases heq : j = i
  · subst heq
    exact ⟨_, hreplaced.same, hopen⟩
  · obtain ⟨v, hv, hvopen⟩ := hj
    exact ⟨v, (hreplaced.other heq).trans hv, hvopen⟩

/-- To put a message into an inbox does not disturb the reaper. -/
theorem quiet_push (m : Message ρ) : Quiet d (d.push i w (.message m)) where
  toOnward := (replaced_push hw hopen (.message m)).onward
  opens _ := open_push hw hopen (.message m)
  replies := rfl
  tickets := rfl
  others j := by
    rw [others, inbox_push hw hopen]
    split
    · rw [List.filter_append]
      exact List.append_nil _
    · rfl
  entries _ h := .inl h

theorem Kept.push (hkept : d.Kept) (item : Item ρ) : (d.push i w item).Kept :=
  (replaced_push hw hopen item).kept hkept

end Push

/-! ### Turns of workers -/

section Turns

variable [ProfileSession σ ρ τ] [DecidableEq τ] [Outlined ρ] {result : Directory σ ρ τ}
  {w : Worker σ ρ τ} {rest : List (Item ρ)}

/-- A worker that handles a message does not disturb the reaper, and the message was the first of
its inbox. -/
theorem quiet_turn {m : Message ρ} {scene : Scene} (hinbox : w.inbox = .message m :: rest)
    (hresult : result = d.enter i (w.handle scene (.message m) rest))
    (hreplaced : Replaced i w (w.handle scene (.message m) rest).worker d result)
    (hopen : w.closed = false) :
    Quiet d result ∧ d.letters i = m :: result.letters i ∧ result.handled = d.handled ++ [(i, m)] := by
  have hopens : result.Open i := ⟨_, hreplaced.same, hopen⟩
  refine ⟨?_, ?_, ?_⟩
  · refine ⟨hreplaced.onward, fun j hj => ?_, ?_, ?_, fun j => ?_, fun entry hentry => ?_⟩
    · by_cases hji : j = i
      · exact hji ▸ hopens
      · obtain ⟨v, hv, hvopen⟩ := hj
        exact ⟨v, (hreplaced.other hji).trans hv, hvopen⟩
    · rw [hresult]
      exact List.append_nil _
    · rw [hresult]
      rfl
    · by_cases hji : j = i
      · subst hji
        rw [others, others, hreplaced.inbox_same, hreplaced.inbox_was, hinbox]
        rfl
      · rw [others, others, hreplaced.inbox_other hji]
    · exact .inl (hreplaced.entries ▸ hentry)
  · rw [letters, letters, hreplaced.inbox_same, hreplaced.inbox_was, hinbox]
    rfl
  · rw [hresult]
    rfl

/-- A worker that serves its alarms disturbs nobody. -/
theorem still_wake (s : Surroundings) (hw : d.workers[i]? = some w) (hopen : w.closed = false) :
    Still d (d.enter i (w.wake (d.scene s w.link.peer))) := by
  have hreplaced := replaced_wake s hw hopen
  refine ⟨hreplaced.onward, fun j hj => ?_, List.append_nil _, rfl, List.append_nil _, fun j => ?_,
    fun entry hentry => .inl hentry⟩
  · by_cases hji : j = i
    · subst hji
      exact ⟨_, hreplaced.same, hopen⟩
    · obtain ⟨v, hv, hvopen⟩ := hj
      exact ⟨v, (hreplaced.other hji).trans hv, hvopen⟩
  · by_cases hji : j = i
    · subst hji
      rw [hreplaced.inbox_was]
      exact hreplaced.inbox_same
    · exact hreplaced.inbox_other hji

end Turns

end Directory

namespace Plan

variable {α : Type} {d d' : Directory σ ρ τ} {peer : Address} {message : Message ρ}

/-! ### Stages -/

/-- A message that is to be put into an inbox is put there, or has to wait for room, or finds the
worker stopped. -/
theorem advance_send_cases (d : Directory σ ρ τ) (i : Nat) (message : Message ρ)
    (next : Bool → Plan σ ρ τ α) :
    (∃ w, d.workers[i]? = some w ∧ w.closed = false ∧
      (send i (.message message) next).puts? d = some i ∧
      (send i (.message message) next).advance d = some (next true, d.push i w (.message message))) ∨
    (send i (.message message) next).advance d = none ∧ d.Open i ∨
    ¬d.Open i ∧ (send i (.message message) next).puts? d = none ∧
      (send i (.message message) next).advance d = some (next false, d) := by
  rcases d.offer_cases i (.message message) with
    ⟨w, hw, hopen, -, heq⟩ | ⟨w, hw, hopen, -, heq⟩ | ⟨hclosed, heq⟩
  · exact .inl ⟨w, hw, hopen, by simp [puts?, heq], by simp [advance, heq, Directory.push]⟩
  · exact .inr (.inl ⟨by simp [advance, heq], w, hw, hopen⟩)
  · exact .inr (.inr ⟨hclosed, by simp [puts?, heq], by simp [advance, heq]⟩)

/-- What a client does once it has found the worker stopped. -/
def tryAgain (peer : Address) (message : Message ρ) : Plan σ ρ τ (Except Fault Unit) :=
  enlist peer fun worker => sendTo peer worker (.message message)

/-- The stages of a client that has a message for a device. -/
inductive Routing (d : Directory σ ρ τ) (peer : Address) (message : Message ρ) :
    Plan σ ρ τ (Except Fault Unit) → Prop
  | look (otherwise : Except Fault Unit) :
      Routing d peer message (routeKnown peer message otherwise)
  | enlist : Routing d peer message (route peer message)
  /-- The client is to put the message into an inbox. -/
  | first (i : Nat) (known : d.Knows peer i) :
      Routing d peer message (send i (.message message) fun taken =>
        if taken then finished (.ok ()) else forget peer i (tryAgain peer message))
  /-- The client has found the worker stopped. -/
  | late (i : Nat) (stopped : d.Stopped i) :
      Routing d peer message (forget peer i (tryAgain peer message))
  | again : Routing d peer message (tryAgain peer message)
  | last (i : Nat) (known : d.Knows peer i) :
      Routing d peer message (sendTo peer i (.message message))
  | finished (result : Except Fault Unit) : Routing d peer message (finished result)

/-- Every plan that fits a message is a way of routing it. -/
theorem routing_ofMessage (d : Directory σ ρ τ) (peer : Address) (message : Message ρ) :
    Routing d peer message (ofMessage peer message) := by
  cases message with
  | connect => exact .enlist
  | disconnect | connectAudio | disconnectAudio | request _ => exact .look _
  | event event =>
      show Routing d peer _ (deliver peer event)
      rw [deliver]
      split
      · exact .enlist
      · exact .look _

namespace Routing

variable {plan next : Plan σ ρ τ (Except Fault Unit)}

/-- What a client relies on stays true, whoever else is at work. -/
theorem onward (h : Routing d peer message plan) (honward : Directory.Onward d d') :
    Routing d' peer message plan := by
  cases h with
  | look otherwise => exact .look otherwise
  | enlist => exact .enlist
  | first i known => exact .first i (honward.knows _ _ known)
  | late i stopped => exact .late i (honward.stopped _ stopped)
  | again => exact .again
  | last i known => exact .last i (honward.knows _ _ known)
  | finished result => exact .finished result

end Routing

/-- A known worker that does not take items has stopped. -/
theorem stopped_of_not_open {i : Nat} (hknown : d.Knows peer i) (hclosed : ¬d.Open i) :
    d.Stopped i := by
  obtain ⟨w, hw, -⟩ := hknown
  refine ⟨w, hw, ?_⟩
  cases h : w.closed with
  | true => rfl
  | false => exact absurd ⟨w, hw, h⟩ hclosed

/-- What becomes of an operation of a client: nobody is disturbed and the client is at its next
stage; or the message was put into the inbox of a worker of the device. -/
def Proceeds (d : Directory σ ρ τ) (peer : Address) (message : Message ρ)
    (plan next : Plan σ ρ τ (Except Fault Unit)) (d' : Directory σ ρ τ) : Prop :=
  (plan.puts? d = none ∧ Directory.Still d d' ∧ d'.Kept ∧ Routing d' peer message next) ∨
    ∃ i w, plan.puts? d = some i ∧ d.Knows peer i ∧ d.workers[i]? = some w ∧ w.closed = false ∧
      d' = d.push i w (.message message) ∧ next = finished (.ok ())

/-- **A client goes from stage to stage, and puts its message into one inbox at most.** -/
theorem Routing.advance {plan next : Plan σ ρ τ (Except Fault Unit)} (hkept : d.Kept)
    (h : Routing d peer message plan) (hadvance : plan.advance d = some (next, d')) :
    Proceeds d peer message plan next d' := by
  cases h with
  | look otherwise =>
      obtain ⟨rfl, rfl⟩ := Prod.mk.inj (Option.some.inj hadvance)
      refine .inl ⟨rfl, .refl d, hkept, ?_⟩
      show Routing d peer message (if (d.find? peer).isSome then _ else _)
      split
      · exact .enlist
      · exact .finished _
  | enlist =>
      obtain ⟨rfl, rfl⟩ := Prod.mk.inj (Option.some.inj hadvance)
      exact .inl ⟨rfl, d.still_enlist peer, hkept.enlist peer, .first _ (hkept.knows_enlist peer)⟩
  | first i known =>
      -- the message is taken, or has to wait, or finds the worker stopped
      rcases advance_send_cases d i message (fun taken => if taken then .finished (.ok ()) else
          forget peer i (tryAgain peer message)) with
        ⟨w, hw, hopen, hputs, heq⟩ | ⟨hnone, -⟩ | ⟨hclosed, hputs, heq⟩
      · obtain ⟨rfl, rfl⟩ := Prod.mk.inj (Option.some.inj (heq.symm.trans hadvance))
        exact .inr ⟨i, w, hputs, known, hw, hopen, rfl, rfl⟩
      · cases hnone.symm.trans hadvance
      · obtain ⟨rfl, rfl⟩ := Prod.mk.inj (Option.some.inj (heq.symm.trans hadvance))
        exact .inl ⟨hputs, .refl d, hkept, .late i (stopped_of_not_open known hclosed)⟩
  | late i stopped =>
      obtain ⟨rfl, rfl⟩ := Prod.mk.inj (Option.some.inj hadvance)
      exact .inl ⟨rfl, d.still_forget peer i, hkept.forget peer stopped, .again⟩
  | again =>
      obtain ⟨rfl, rfl⟩ := Prod.mk.inj (Option.some.inj hadvance)
      exact .inl ⟨rfl, d.still_enlist peer, hkept.enlist peer, .last _ (hkept.knows_enlist peer)⟩
  | last i known =>
      rcases advance_send_cases d i message (fun taken => (.finished
          (if taken then .ok () else .error (.closed peer)) : Plan σ ρ τ (Except Fault Unit))) with
        ⟨w, hw, hopen, hputs, heq⟩ | ⟨hnone, -⟩ | ⟨-, hputs, heq⟩
      · obtain ⟨rfl, rfl⟩ := Prod.mk.inj (Option.some.inj (heq.symm.trans hadvance))
        exact .inr ⟨i, w, hputs, known, hw, hopen, rfl, rfl⟩
      · cases hnone.symm.trans hadvance
      · obtain ⟨rfl, rfl⟩ := Prod.mk.inj (Option.some.inj (heq.symm.trans hadvance))
        exact .inl ⟨hputs, .refl d, hkept, .finished _⟩
  | finished result => cases hadvance

end Plan

end AudioLink
