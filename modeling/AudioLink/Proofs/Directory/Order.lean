/-
**The order of messages for one device.**

A client that comes in after another was told that its message is in an inbox should come after it:
the messages of both go into the inbox of the same worker, and if the worker retires between them,
the reaper routes what it was handed back.  There is one way only in which the second comes first:
while the reaper holds the message of the first, the second client finds the worker stopped, has a
new one entered, and puts its message into an inbox that is still empty.  Nothing keeps it from
doing so, and what was put into an inbox later is then handled first.

Main definitions:

* `AudioLink.Hall.Overtakes` — a message was put into an inbox while the reaper holds another;
* `AudioLink.Hall.Ahead` — one message is ahead of another.

Main results:

* `AudioLink.Hall.Sound.eq_of_waiting` — messages for one device wait for one worker;
* `AudioLink.Hall.Happens.stays_ahead`, `AudioLink.Hall.Happens.ahead` — whatever happens, what is
  ahead stays ahead, and a message comes to be ahead of a later one that does not overtake it;
* `AudioLink.Hall.messages_in_order_iff` — **messages for one device are handled in the order in
  which they were sent if and only if the later one does not overtake the other in the hands of the
  reaper**;
* `AudioLink.Stream.message_overtaken` — it happens that one does;
* `AudioLink.Hall.answered_unheeded` — what is answered without a worker is put into no inbox, and
  has no place in the order.
-/

import AudioLink.Proofs.Directory.Delivery
import AudioLink.Proofs.Link.Rounds
import AudioLink.Stream
import Mathlib.Data.List.Infix

set_option relaxedAutoImplicit false
set_option autoImplicit false

namespace AudioLink.Hall

variable {σ ρ τ : Type} {h h' : Hall σ ρ τ} {a b : Nat} {peer : Address}

/-- The message of `b` was put into an inbox while the reaper holds that of `a`. -/
def Overtakes (h : Hall σ ρ τ) (b a : Nat) : Prop := a ∈ h.held ∧ b ∈ h.handed ∧ b ∉ h.held

instance (h : Hall σ ρ τ) (b a : Nat) : Decidable (h.Overtakes b a) :=
  inferInstanceAs (Decidable (_ ∧ _ ∧ _))

/-- The message of `a` is ahead of that of `b`, wherever the two are. -/
inductive Ahead (h : Hall σ ρ τ) (a b : Nat) : Prop
  | served (order : [a, b].Sublist (h.served.map (·.2)))
  | first (done : a ∈ h.served.map (·.2)) (waits : b ∉ h.served.map (·.2))
  | waiting (i : Nat) (order : [a, b].Sublist (h.waitingFor i))
  /-- The reaper holds the second, and the first is in an inbox. -/
  | apart (i : Nat) (waits : a ∈ h.waitingFor i) (held : b ∈ h.held)
  | held (order : [a, b].Sublist h.held)

/-! ### Where the messages for a device are -/

theorem mem_handed_iff (hsound : Sound h) {k : Nat} :
    k ∈ h.handed ↔ k ∈ h.served.map (·.2) ∨ k ∈ h.waiting.map (·.2) ∨ k ∈ h.held := by
  rw [hsound.placed.mem_iff, line, List.mem_append, List.mem_append, or_assoc]

theorem mem_waitingFor {i k : Nat} : k ∈ h.waitingFor i ↔ (i, k) ∈ h.waiting := by
  constructor
  · intro hk
    obtain ⟨⟨j, l⟩, hpair, rfl⟩ := List.mem_map.1 hk
    obtain ⟨hmem, hj⟩ := List.mem_filter.1 hpair
    obtain rfl : j = i := eq_of_beq hj
    exact hmem
  · intro hmem
    exact List.mem_map.2 ⟨(i, k), List.mem_filter.2 ⟨hmem, beq_self_eq_true i⟩, rfl⟩

theorem mem_waiting_iff {k : Nat} : k ∈ h.waiting.map (·.2) ↔ ∃ i, k ∈ h.waitingFor i := by
  constructor
  · intro hk
    obtain ⟨⟨i, l⟩, hpair, rfl⟩ := List.mem_map.1 hk
    exact ⟨i, mem_waitingFor.2 hpair⟩
  · rintro ⟨i, hk⟩
    exact List.mem_map.2 ⟨(i, k), mem_waitingFor.1 hk, rfl⟩

/-- A message is in one place only. -/
theorem Sound.nodup_line (hsound : Sound h) :
    (h.served.map (·.2) ++ (h.waiting.map (·.2) ++ h.held)).Nodup := by
  have hline := hsound.placed.nodup_iff.1 hsound.once
  rwa [line, List.append_assoc] at hline

theorem Sound.not_served (hsound : Sound h) {k : Nat}
    (hk : k ∈ h.waiting.map (·.2) ∨ k ∈ h.held) : k ∉ h.served.map (·.2) := fun hserved =>
  (List.nodup_append.1 hsound.nodup_line).2.2 k hserved k (List.mem_append.2 hk) rfl

theorem Sound.not_held (hsound : Sound h) {k : Nat} (hk : k ∈ h.waiting.map (·.2)) :
    k ∉ h.held := fun hheld =>
  (List.nodup_append.1 hsound.nodup_line.of_append_right).2.2 k hk k hheld rfl

theorem Sound.nodup_waitingFor (hsound : Sound h) (i : Nat) : (h.waitingFor i).Nodup :=
  hsound.nodup_line.of_append_right.of_append_left.sublist (List.filter_sublist.map _)

/-- What one client has to say, it says to one device. -/
theorem Wants.peer_eq {k : Nat} {letter other : Address × Message ρ} (hwants : h.Wants k letter)
    (hother : h.Wants k other) : letter = other := by
  obtain ⟨client, hclient, rfl⟩ := hwants
  obtain ⟨client', hclient', rfl⟩ := hother
  cases hclient.symm.trans hclient'
  rfl

/-- **Messages for one device wait for one worker**: the one that takes messages. -/
theorem Sound.eq_of_waiting (hsound : Sound h) {i j k : Nat} {message : Message ρ}
    (hk : k ∈ h.waitingFor i) (hwants : h.Wants k (peer, message))
    (hknown : h.directory.Knows peer j) (hopen : h.directory.Open j) : i = j := by
  -- the message is in the inbox of a worker of the device, so that this worker takes messages too
  obtain ⟨m, hm, p, hp, w, hw, hpeer⟩ : ∃ m ∈ h.directory.letters i, h.Bears i k m := by
    have hthere := hsound.posted.waiting i
    revert hk
    generalize h.waitingFor i = waiting, h.directory.letters i = letters at hthere
    intro hk
    induction hthere with
    | nil => cases hk
    | cons hbears _ ih =>
        rcases List.mem_cons.1 hk with rfl | hk
        · exact ⟨_, List.mem_cons_self .., hbears⟩
        · obtain ⟨m, hm, hbears⟩ := ih hk
          exact ⟨m, List.mem_cons_of_mem _ hm, hbears⟩
  obtain ⟨rfl, -⟩ := Prod.mk.inj (hwants.peer_eq hp)
  obtain ⟨v, hv, hvpeer⟩ := hknown
  obtain ⟨v', hv', hvopen⟩ := hopen
  cases hv.symm.trans hv'
  refine hsound.kept.eq_of_open hw hv ?_ hvopen (hpeer.trans hvpeer.symm)
  refine Bool.eq_false_iff.2 fun hclosed => ?_
  rw [Directory.letters, Directory.inbox_eq hw, hsound.kept.emptied i w hw hclosed] at hm
  cases hm

/-! ### Order is kept -/

theorem sublist_snoc {l : List Nat} (ha : a ∈ l) : [a, b].Sublist (l ++ [b]) :=
  (List.singleton_sublist.2 ha).append (.refl [b])

section Moves

variable (hsound : Sound h) (hwants : ∃ message, h.Wants a (peer, message))

/-- The books of the inboxes when a client is written down. -/
theorem waitingFor_snoc {i k j : Nat} (hwaiting : h'.waiting = h.waiting ++ [(i, k)]) :
    h'.waitingFor j = if j = i then h.waitingFor j ++ [k] else h.waitingFor j := by
  rw [waitingFor, hwaiting, ofWorker_append, ofWorker_single]
  split
  · rfl
  · exact List.append_nil _

/-- No book loses anything then. -/
theorem waitingFor_sublist {i k : Nat} (hwaiting : h'.waiting = h.waiting ++ [(i, k)]) (j : Nat) :
    (h.waitingFor j).Sublist (h'.waitingFor j) := by
  rw [waitingFor_snoc hwaiting]
  split
  · exact List.sublist_append_left _ _
  · exact .refl _

include hsound hwants

/-- A message is put into the inbox of a worker of the device: what is ahead of it in an inbox is
in the same one. -/
theorem Sound.ahead_of_put {i k : Nat} (hwaiting : h'.waiting = h.waiting ++ [(i, k)])
    (hserved : h'.served = h.served) (hknown : h.directory.Knows peer i)
    (hopen : h.directory.Open i) (hk : k ∉ h.served.map (·.2))
    (ha : a ∈ h.served.map (·.2) ∨ a ∈ h.waiting.map (·.2)) : Ahead h' a k := by
  obtain ⟨message, hletter⟩ := hwants
  rcases ha with hdone | hwaits
  · exact .first (hserved ▸ hdone) (hserved ▸ hk)
  · obtain ⟨j, hj⟩ := mem_waiting_iff.1 hwaits
    obtain rfl := hsound.eq_of_waiting hj hletter hknown hopen
    refine .waiting j ?_
    rw [waitingFor_snoc hwaiting, if_pos rfl]
    exact sublist_snoc hj

end Moves

/-- The books stay as they are. -/
theorem Ahead.of_eq (hahead : Ahead h a b) (hwaiting : h'.waiting = h.waiting)
    (hheld : h'.held = h.held) (hserved : h'.served = h.served) : Ahead h' a b := by
  have hsame (i : Nat) : h'.waitingFor i = h.waitingFor i := by rw [waitingFor, hwaiting]; rfl
  cases hahead with
  | served order => exact .served (hserved ▸ order)
  | first done waits => exact .first (hserved ▸ done) (hserved ▸ waits)
  | waiting i order => exact .waiting i (hsame i ▸ order)
  | apart i waits held => exact .apart i (hsame i ▸ waits) (hheld ▸ held)
  | held order => exact .held (hheld ▸ order)

/-- Another message is put into an inbox. -/
theorem Ahead.snoc (hahead : Ahead h a b) {i k : Nat}
    (hwaiting : h'.waiting = h.waiting ++ [(i, k)]) (hheld : h'.held = h.held)
    (hserved : h'.served = h.served) : Ahead h' a b := by
  cases hahead with
  | served order => exact .served (hserved ▸ order)
  | first done waits => exact .first (hserved ▸ done) (hserved ▸ waits)
  | waiting j order => exact .waiting j (order.trans (waitingFor_sublist hwaiting j))
  | apart j waits held =>
      exact .apart j ((waitingFor_sublist hwaiting j).subset waits) (hheld ▸ held)
  | held order => exact .held (hheld ▸ order)

/-- The reaper puts the first message that it holds into an inbox. -/
theorem Ahead.place (hsound : Sound h) (hwants : ∃ message, h.Wants a (peer, message))
    (hahead : Ahead h a b) {i k : Nat} {held : List Nat}
    (hfirst : h.held = k :: held) (hwaiting : h'.waiting = h.waiting ++ [(i, k)])
    (hheld : h'.held = held) (hserved : h'.served = h.served)
    (hknown : k = b → h.directory.Knows peer i) (hopen : h.directory.Open i) : Ahead h' a b := by
  cases hahead with
  | served order => exact .served (hserved ▸ order)
  | first done waits => exact .first (hserved ▸ done) (hserved ▸ waits)
  | waiting j order => exact .waiting j (order.trans (waitingFor_sublist hwaiting j))
  | apart j waits there =>
      by_cases hkb : k = b
      · -- the second message is put behind the first, into the same inbox
        subst hkb
        exact hsound.ahead_of_put hwants hwaiting hserved (hknown rfl) hopen
          (hsound.not_served (.inr there)) (.inr (mem_waiting_iff.2 ⟨j, waits⟩))
      · rw [hfirst] at there
        refine .apart j ((waitingFor_sublist hwaiting j).subset waits) (hheld ▸ ?_)
        exact (List.mem_cons.1 there).resolve_left fun heq => hkb heq.symm
  | held order =>
      rw [hfirst] at order
      cases order with
      | cons _ rest => exact .held (hheld ▸ rest)
      | cons_cons _ rest =>
          refine .apart i ?_ (hheld ▸ List.singleton_sublist.1 rest)
          rw [waitingFor_snoc hwaiting, if_pos rfl]
          exact List.mem_append.2 (.inr (List.mem_singleton.2 rfl))

/-- When one message is handled, each message that was handled comes before each that was not. -/
theorem ahead_of_served {i k : Nat} (hserved : h'.served = h.served ++ [(i, k)])
    (ha : a ∈ h.served.map (·.2) ∨ a = k) (hb : b ∉ h.served.map (·.2)) (hab : a ≠ b) :
    Ahead h' a b := by
  have hdone : h'.served.map (·.2) = h.served.map (·.2) ++ [k] := by
    rw [hserved, List.map_append]
    rfl
  by_cases hkb : b = k
  · subst hkb
    refine .served ?_
    rw [hdone]
    exact sublist_snoc (ha.resolve_right hab)
  · refine .first ?_ ?_
    · rw [hdone, List.mem_append, List.mem_singleton]
      exact ha
    · rw [hdone, List.mem_append, List.mem_singleton]
      exact not_or.2 ⟨hb, hkb⟩

/-- A worker handles the first message of its inbox. -/
theorem Ahead.serve (hsound : Sound h) (hahead : Ahead h a b) {i k : Nat}
    {before after : List (Nat × Nat)} (hfirst : h.waiting = before ++ (i, k) :: after)
    (hskipped : ∀ pair ∈ before, pair.1 ≠ i) (hwaiting : h'.waiting = before ++ after)
    (hheld : h'.held = h.held) (hserved : h'.served = h.served ++ [(i, k)]) : Ahead h' a b := by
  have hbook (j : Nat) :
      h.waitingFor j = if j = i then k :: h'.waitingFor j else h'.waitingFor j := by
    rw [waitingFor, waitingFor, hfirst, hwaiting, ofWorker_first hskipped]
  cases hahead with
  | served order =>
      refine .served ?_
      rw [hserved, List.map_append]
      exact order.trans (List.sublist_append_left _ _)
  | first done waits =>
      exact ahead_of_served hserved (.inl done) waits fun heq => waits (heq ▸ done)
  | waiting j order =>
      have horder := order
      rw [hbook] at horder
      split at horder
      · cases horder with
        | cons _ rest => exact .waiting j rest
        | cons_cons _ rest =>
            -- the first of the two is handled
            have hb : b ∈ h.waitingFor j :=
              order.subset (List.mem_cons_of_mem _ (List.mem_singleton.2 rfl))
            have hnot := hsound.not_served (.inl (mem_waiting_iff.2 ⟨j, hb⟩))
            refine ahead_of_served hserved (.inr rfl) hnot ?_
            exact List.ne_of_not_mem_cons (List.nodup_cons.1
              ((hsound.nodup_waitingFor j).sublist order)).1
      · exact .waiting j horder
  | apart j waits there =>
      have hrest := waits
      rw [hbook] at hrest
      have hwaits := mem_waiting_iff.2 ⟨j, waits⟩
      have hab : a ≠ b := fun heq => hsound.not_held hwaits (heq ▸ there)
      by_cases hka : a = k
      · exact ahead_of_served hserved (.inr hka) (hsound.not_served (.inr there)) hab
      · split at hrest
        · exact .apart j ((List.mem_cons.1 hrest).resolve_left hka) (hheld ▸ there)
        · exact .apart j hrest (hheld ▸ there)
  | held order => exact .held (hheld ▸ order)

/-- A worker hands back its messages, in their order. -/
theorem Ahead.handBack (hahead : Ahead h a b) {i : Nat}
    (hwaiting : h'.waiting = h.waiting.filter (·.1 != i)) (hnone : h.held = [])
    (hheld : h'.held = h.waitingFor i) (hserved : h'.served = h.served) : Ahead h' a b := by
  cases hahead with
  | served order => exact .served (hserved ▸ order)
  | first done waits => exact .first (hserved ▸ done) (hserved ▸ waits)
  | waiting j order =>
      by_cases hji : j = i
      · exact .held (hheld ▸ hji ▸ order)
      · refine .waiting j ?_
        rw [waitingFor, hwaiting, ofWorker_filter, if_neg hji]
        exact order
  | apart j _ there =>
      rw [hnone] at there
      cases there
  | held order =>
      rw [hnone] at order
      cases order

/-- **Whatever happens, a message that is ahead of another stays ahead of it.** -/
theorem Happens.stays_ahead (hhappens : Happens h h') (hsound : Sound h)
    (hwantsA : ∃ message, h.Wants a (peer, message))
    (hwantsB : ∃ message, h.Wants b (peer, message)) (hahead : Ahead h a b) : Ahead h' a b := by
  cases hhappens with
  | nothing => exact hahead
  | come | still | visit | round => exact hahead.of_eq rfl rfl rfl
  | put => exact hahead.snoc rfl rfl rfl
  | @place k i held w p message rest plan first wants others known worker takes stage =>
      refine hahead.place hsound hwantsA first rfl rfl rfl ?_ ⟨w, worker, takes⟩
      rintro rfl
      obtain ⟨message, hletter⟩ := hwantsB
      obtain ⟨rfl, -⟩ := Prod.mk.inj (hletter.peer_eq wants)
      exact known
  | serve quiet kept letters handled first skipped bears =>
      exact hahead.serve hsound first skipped rfl rfl rfl
  | handBack onward kept fresh letters handled known stage none =>
      exact hahead.handBack rfl none rfl rfl

/-- **Whatever happens, a message comes to be ahead of a later one that does not overtake it.** -/
theorem Happens.ahead (hhappens : Happens h h') (hsound : Sound h) (ha : a ∈ h.handed)
    (hwantsA : ∃ message, h.Wants a (peer, message)) (hwantsB : ∃ message, h.Wants b (peer, message))
    (hahead : b ∈ h.handed → Ahead h a b) (hnot : ¬h'.Overtakes b a) (hb : b ∈ h'.handed) :
    Ahead h' a b := by
  by_cases hold : b ∈ h.handed
  · exact hhappens.stays_ahead hsound hwantsA hwantsB (hahead hold)
  cases hhappens with
  | nothing | come | still | visit | round | place | serve | handBack => exact absurd hb hold
  | @put k i client w there new known worker takes =>
      -- the second message is put into an inbox by this very step
      obtain rfl := List.mem_singleton.1 ((List.mem_append.1 hb).resolve_left hold)
      obtain ⟨message, hletter⟩ := hwantsB
      obtain ⟨rfl, -⟩ := Prod.mk.inj (hletter.peer_eq ⟨client, there, rfl⟩)
      have hnowhere : b ∉ h.served.map (·.2) ∧ b ∉ h.held :=
        ⟨fun hserved => new ((mem_handed_iff hsound).2 (.inl hserved)),
          fun hheld => new ((mem_handed_iff hsound).2 (.inr (.inr hheld)))⟩
      refine hsound.ahead_of_put hwantsA rfl rfl known ⟨w, worker, takes⟩ hnowhere.1 ?_
      rcases (mem_handed_iff hsound).1 ha with hserved | hwaits | hheld
      · exact .inl hserved
      · exact .inr hwaits
      · exact absurd ⟨hheld, hb, hnowhere.2⟩ hnot

/-- A message that overtakes another is ahead of it from then on. -/
theorem Overtakes.ahead (hovertakes : h.Overtakes b a) (hsound : Sound h) : Ahead h b a := by
  obtain ⟨hheld, hhanded, hnot⟩ := hovertakes
  rcases (mem_handed_iff hsound).1 hhanded with hserved | hwaits | hheld'
  · exact .first hserved (hsound.not_served (.inr hheld))
  · obtain ⟨i, hi⟩ := mem_waiting_iff.1 hwaits
    exact .apart i hi hheld
  · exact absurd hheld' hnot

/-- When the second of two messages was handled, the first was handled before it. -/
theorem Ahead.order (hahead : Ahead h a b) (hsound : Sound h) (hb : b ∈ h.served.map (·.2)) :
    [a, b].Sublist (h.served.map (·.2)) := by
  have hlast {l : List Nat} (order : [a, b].Sublist l) : b ∈ l :=
    order.subset (List.mem_cons_of_mem _ (List.mem_singleton.2 rfl))
  cases hahead with
  | served order => exact order
  | first _ waits => exact absurd hb waits
  | waiting i order => exact absurd hb (hsound.not_served (.inl (mem_waiting_iff.2 ⟨i, hlast order⟩)))
  | apart _ _ held => exact absurd hb (hsound.not_served (.inr held))
  | held order => exact absurd hb (hsound.not_served (.inr (hlast order)))

/-- Of two messages only one can be handled first. -/
theorem not_sublist_swap {l : List Nat} (honce : l.Nodup) (hab : [a, b].Sublist l) :
    ¬[b, a].Sublist l := by
  intro hba
  induction l with
  | nil => cases hab
  | cons k l ih =>
      obtain ⟨hk, honce⟩ := List.nodup_cons.1 honce
      have hlast {c d : Nat} (horder : [c, d].Sublist l) : d ∈ l :=
        horder.subset (List.mem_cons_of_mem _ (List.mem_singleton.2 rfl))
      cases hab with
      | cons _ hab =>
          cases hba with
          | cons _ hba => exact ih honce hab hba
          | cons_cons _ ha => exact hk (hlast hab)
      | cons_cons _ hb =>
          cases hba with
          | cons _ hba => exact hk (hlast hba)
          | cons_cons _ ha => exact hk (List.singleton_sublist.1 ha)

/-! ### Runs -/

variable [ProfileSession σ ρ τ] [DecidableEq τ] [Outlined ρ]

theorem Ahead.lasts (hsound : Sound h) (hwantsA : ∃ message, h.Wants a (peer, message))
    (hwantsB : ∃ message, h.Wants b (peer, message)) (hahead : Ahead h a b)
    (moves : List (Move ρ)) : Ahead (h.run moves) a b := by
  induction moves generalizing h with
  | nil => exact hahead
  | cons move moves ih =>
      have hhappens := hsound.happens move
      exact ih (hhappens.sound hsound) (hwantsA.imp fun _ => hhappens.wants)
        (hwantsB.imp fun _ => hhappens.wants) (hhappens.stays_ahead hsound hwantsA hwantsB hahead)

theorem Ahead.run (hsound : Sound h) (ha : a ∈ h.handed)
    (hwantsA : ∃ message, h.Wants a (peer, message)) (hwantsB : ∃ message, h.Wants b (peer, message))
    (hahead : b ∈ h.handed → Ahead h a b) (moves : List (Move ρ))
    (hnot : ∀ part, part <+: moves → ¬(h.run part).Overtakes b a) (hb : b ∈ (h.run moves).handed) :
    Ahead (h.run moves) a b := by
  induction moves generalizing h with
  | nil => exact hahead hb
  | cons move moves ih =>
      have hhappens := hsound.happens move
      have hrest (part : List (Move ρ)) (hpart : part <+: moves) :
          ¬((h.step move).run part).Overtakes b a :=
        hnot (move :: part) (List.cons_prefix_cons.2 ⟨rfl, hpart⟩)
      refine ih (hhappens.sound hsound) (hhappens.handed ha) ?_ ?_ ?_ hrest hb
      · exact hwantsA.imp fun _ => hhappens.wants
      · exact hwantsB.imp fun _ => hhappens.wants
      · exact hhappens.ahead hsound ha hwantsA hwantsB hahead (hrest [] List.nil_prefix)

theorem Sound.wants_run (hsound : Sound h) {k : Nat} (moves : List (Move ρ))
    (hwants : ∃ message, h.Wants k (peer, message)) :
    ∃ message, (h.run moves).Wants k (peer, message) := by
  induction moves generalizing h with
  | nil => exact hwants
  | cons move moves ih =>
      have hhappens := hsound.happens move
      exact ih (hhappens.sound hsound) (hwants.imp fun _ => hhappens.wants)

/-- **Messages for one device are handled in the order in which they were sent, unless the later one
overtakes the other.**  A client has put its message into an inbox before another comes in with a
message for the same device, and the message of the second is handled: that of the first was handled
before if and only if that of the second was at no time in an inbox, or handled, while the reaper
held that of the first. -/
theorem messages_in_order_iff (room : Nat) (newSession : Nat → σ) (before after : List (Move ρ))
    (message : Message ρ)
    (hhanded : a ∈ ((start room newSession : Hall σ ρ τ).run before).handed)
    (hpeer : ∃ message, ((start room newSession : Hall σ ρ τ).run before).Wants a (peer, message))
    (hlater : b = ((start room newSession : Hall σ ρ τ).run before).clients.length)
    (hserved : b ∈ ((start room newSession : Hall σ ρ τ).run
      (before ++ .arrive peer message :: after)).served.map (·.2)) :
    [a, b].Sublist (((start room newSession : Hall σ ρ τ).run
        (before ++ .arrive peer message :: after)).served.map (·.2)) ↔
      ∀ part, part <+: .arrive peer message :: after →
        ¬((start room newSession : Hall σ ρ τ).run (before ++ part)).Overtakes b a := by
  have hsound := sound_run (ρ := ρ) (τ := τ) room newSession before
  simp only [run_append] at hserved ⊢
  generalize (start room newSession : Hall σ ρ τ).run before = h at *
  have hcomes : Happens h (h.arrive peer message) := .come peer message
  have hsound' := hcomes.sound hsound
  -- the second client has only just come in
  have hnew : b ∉ h.handed := by
    intro hb
    obtain ⟨client, hclient, -⟩ := Option.bind_eq_some_iff.1 (hsound.told b hb)
    rw [List.getElem?_eq_none (Nat.le_of_eq hlater.symm)] at hclient
    cases hclient
  have hwantsA : ∃ message', (h.arrive peer message).Wants a (peer, message') :=
    hpeer.imp fun _ => hcomes.wants
  have hwantsB : ∃ message', (h.arrive peer message).Wants b (peer, message') :=
    ⟨message, _, hlater ▸ List.getElem?_concat_length .., rfl⟩
  have hlast := hsound'.run after
  constructor
  · intro horder part hpart hovertakes
    -- once it is overtaken, the message of the first client stays behind
    cases part with
    | nil => exact hnew hovertakes.2.1
    | cons move part =>
        obtain ⟨rfl, rest, rfl⟩ := List.cons_prefix_cons.1 hpart
        have hsound'' := hsound'.run part
        have hahead : Ahead ((h.arrive peer message).run (part ++ rest)) b a :=
          run_append (h.arrive peer message) part rest ▸
            (hovertakes.ahead hsound'').lasts hsound'' (hsound'.wants_run part hwantsB)
              (hsound'.wants_run part hwantsA) rest
        have ha := horder.subset (List.mem_cons_self ..)
        exact not_sublist_swap hlast.nodup_line.of_append_left horder (hahead.order hlast ha)
  · intro hnot
    have hahead : Ahead ((h.arrive peer message).run after) a b := by
      refine Ahead.run hsound' (hcomes.handed hhanded) hwantsA hwantsB (fun hb => absurd hb hnew)
        after (fun part hpart => ?_) ((mem_handed_iff hlast).2 (.inl hserved))
      exact hnot (.arrive peer message :: part) (List.cons_prefix_cons.2 ⟨rfl, hpart⟩)
    exact hahead.order hlast hserved

end AudioLink.Hall

namespace AudioLink.Stream

/-! ### A message that the reaper holds -/

/-- Nobody has come in yet; there is room for four items in each inbox. -/
def hall : Hall Stream Request Empty := .start 4 fun _ => start .standard

def loudspeaker : Address := ⟨[0, 0, 0, 0, 0, 2], rfl⟩

/-- The transport agrees to everything. -/
def agreeable : Surroundings := ⟨fun _ _ _ => true, .empty⟩

/-- While a client has a worker entered, the reaper asks the worker to retire; the request to connect
is put behind the question, and the worker hands it back. -/
def handedBack : List (Move Request) :=
  [.arrive loudspeaker .connect, .proceed 0, .reap, .goOn, .goOn, .proceed 0, .turn agreeable 0]

/-- The reaper takes the entry of the worker away and puts the request to connect into the inbox of a
new one. -/
def routedAnew : List (Move Request) := handedBack ++ [.goOn, .goOn, .goOn, .goOn]

/-- A request to disconnect is put behind the request to connect, and both are handled. -/
def followed : List (Move Request) :=
  [.proceed 1, .proceed 1, .proceed 1, .turn agreeable 1, .turn agreeable 1]

/-- A request to connect that the reaper routes before the request to disconnect comes is handled
first, since it is not overtaken. -/
theorem messages_in_order_routed :
    0 ∈ (hall.run routedAnew).handed ∧
      (∃ message, (hall.run routedAnew).Wants 0 (loudspeaker, message)) ∧
      1 = (hall.run routedAnew).clients.length ∧
      1 ∈ (hall.run (routedAnew ++ .arrive loudspeaker .disconnect :: followed)).served.map (·.2) ∧
      (∀ part, part <+: .arrive loudspeaker .disconnect :: followed →
        ¬(hall.run (routedAnew ++ part)).Overtakes 1 0) ∧
      [0, 1].Sublist ((hall.run
        (routedAnew ++ .arrive loudspeaker .disconnect :: followed)).served.map (·.2)) := by
  have hhanded : 0 ∈ (hall.run routedAnew).handed := by decide
  have hpeer : ∃ message, (hall.run routedAnew).Wants 0 (loudspeaker, message) :=
    ⟨.connect, _, rfl, rfl⟩
  have hserved : 1 ∈ (hall.run
      (routedAnew ++ .arrive loudspeaker .disconnect :: followed)).served.map (·.2) := by decide
  have hnot (part : List (Move Request))
      (hpart : part <+: .arrive loudspeaker .disconnect :: followed) :
      ¬(hall.run (routedAnew ++ part)).Overtakes 1 0 := by
    have hall_parts : ∀ part ∈ (.arrive loudspeaker .disconnect :: followed).inits,
        ¬(hall.run (routedAnew ++ part)).Overtakes 1 0 := by decide
    exact hall_parts part ((List.mem_inits _ _).2 hpart)
  have horder :=
    Hall.messages_in_order_iff 4 _ routedAnew followed .disconnect hhanded hpeer rfl hserved
  exact ⟨hhanded, hpeer, rfl, hserved, hnot, horder.2 hnot⟩

/-- The reaper still holds the request to connect when the request to disconnect comes.  Its client
finds the worker stopped, and has a new one entered. -/
def overtaken : List (Move Request) :=
  [.arrive loudspeaker .disconnect, .proceed 1, .proceed 1, .proceed 1, .proceed 1, .proceed 1,
    .proceed 1, .turn agreeable 1, .goOn, .goOn, .goOn, .goOn, .turn agreeable 1]

/-- The first client was told that all went well before the second came in, both messages are for one
device, and in the end nothing is under way.  Yet the second message is handled before the first: the
device, which was to be disconnected at last, is being connected. -/
theorem message_overtaken :
    (hall.run handedBack).result? 0 = some (.ok ()) ∧ (hall.run handedBack).clients.length = 1 ∧
      (hall.run (handedBack ++ overtaken)).result? 1 = some (.ok ()) ∧
      (hall.run (handedBack ++ overtaken)).AtRest ∧
      (hall.run (handedBack ++ overtaken)).served.map (·.2) = [1, 0] ∧
      ((hall.run (handedBack ++ overtaken)).directory.published? 1).map (·.link) =
        some .connecting := by
  refine ⟨rfl, rfl, rfl, ⟨fun i => ?_, ?_, rfl⟩, rfl, ?_⟩
  · match i with
    | 0 | 1 => rfl
    | _ + 2 => rfl
  · decide
  · let scene : Scene := hall.directory.scene agreeable loudspeaker
    let life := (Link.start loudspeaker (start .standard)).live
      [.hand scene .disconnect, .hand scene .connect]
    have hlife : ((hall.run (handedBack ++ overtaken)).directory.published? 1).map (·.link) =
        some life.1.state := rfl
    rw [hlife, show life = _ from Link.live_eq_get 1 rfl]
    rfl

end AudioLink.Stream

namespace AudioLink.Hall

/-! ### What needs no worker -/

variable {σ ρ τ : Type} {h : Hall σ ρ τ} {peer : Address} {message : Message ρ}

/-- A device without a worker is disconnected already, and hears of no report that does not concern
its link.  A client that comes in with such a message is told at its first operation that all went
well; no inbox, no book and no worker is touched. -/
theorem answered_unheeded (hunknown : h.directory.find? peer = none)
    (hmessage : message = .disconnect ∨
      ∃ event : Event, event.isLinkChange = false ∧ message = .event event) :
    let h' := (h.arrive peer message).proceed h.clients.length
    h'.result? h.clients.length = some (.ok ()) ∧ h'.directory = h.directory ∧
      h'.handed = h.handed ∧ h'.line = h.line := by
  have hplan : (Plan.ofMessage peer message : Plan σ ρ τ _) =
      .routeKnown peer message (.ok ()) := by
    rcases hmessage with rfl | ⟨event, hevent, rfl⟩
    · rfl
    · simp [Plan.ofMessage, Plan.deliver, hevent]
  have hclient : (h.arrive peer message).clients[h.clients.length]? =
      some ⟨peer, message, .routeKnown peer message (.ok ())⟩ := by
    rw [← hplan]
    exact List.getElem?_concat_length ..
  have hdone : (h.arrive peer message).proceed h.clients.length =
      { h with clients := h.clients ++ [⟨peer, message, .finished (.ok ())⟩] } := by
    rw [proceed, hclient]
    simp [Plan.routeKnown, Plan.advance, Plan.puts?, hunknown, arrive]
  rw [hdone]
  exact ⟨by simp [result?, Plan.result?], rfl, rfl, rfl⟩

end AudioLink.Hall
