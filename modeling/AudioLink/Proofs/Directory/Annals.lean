/-
**The annals of the workers.**

The directory writes down which messages were handled and what has left the links.  Here it is shown
that the books are true: every worker has lived a life of its own, from a new link on, the messages
in that life are those that it is said to have handled, and what has left the links of a device is
what has left them in the lives of its workers, one life after the other.

A life is made of impulses.  Only a worker that takes items is ever stirred, and it is the last that
its device has had; so what leaves its link comes after all that has left the others.

Main definitions:

* `AudioLink.Directory.workersOf` — the workers that a device has had;
* `AudioLink.Directory.Annals` — what every worker has lived through;
* `AudioLink.Directory.Unstirred`, `AudioLink.Directory.Stirred` — no link was stirred, or one was.

Main results:

* `AudioLink.Directory.turn_stirs`, `AudioLink.Directory.wake_stirs` — a turn and an alarm stir the
  link of one worker at most, by one impulse;
* `AudioLink.Directory.Annals.stirred` — the impulse is the next one in the life of the worker;
* `AudioLink.Hall.annals_step` — **whatever move is made, the annals go on**.
-/

import AudioLink.Proofs.Directory.Hall

set_option relaxedAutoImplicit false
set_option autoImplicit false

namespace AudioLink

variable {σ ρ τ : Type}

/-- The message of an impulse that is one. -/
def Impulse.message? : Impulse ρ → Option (Message ρ)
  | hand _ message => some message
  | wake _ => none

/-- Nothing but a message stirs the link of a worker in its turn. -/
theorem Worker.handle_of_not_message [ProfileSession σ ρ τ] [DecidableEq τ] [Outlined ρ]
    (scene : Scene) (rest : List (Item ρ)) (w : Worker σ ρ τ) {item : Item ρ}
    (hother : item.message? = none) :
    (w.handle scene item rest).worker.link = w.link ∧
      (w.handle scene item rest).effects = [] ∧ (w.handle scene item rest).handled = [] := by
  unfold handle
  split
  · cases hother
  · exact ⟨rfl, rfl, rfl⟩
  · split <;> exact ⟨rfl, rfl, rfl⟩
  · exact ⟨rfl, rfl, rfl⟩

namespace Directory

variable {d d' : Directory σ ρ τ} {peer : Address} {i : Nat}

/-! ### The workers of a device -/

/-- The workers that a device has had, the oldest first. -/
def workersOf (d : Directory σ ρ τ) (peer : Address) : List Nat := d.peers.idxsOf peer

theorem mem_workersOf : i ∈ d.workersOf peer ↔ d.Knows peer i := by
  rw [workersOf, List.idxsOf, List.mem_findIdxs_iff_exists_getElem_pos, Knows]
  simp [peers, List.getElem?_eq_some_iff]

/-- A new worker is the last of its device. -/
theorem workersOf_snoc {w : Worker σ ρ τ} (hworkers : d'.workers = d.workers ++ [w])
    (peer : Address) : d'.workersOf peer =
      d.workersOf peer ++ if w.link.peer = peer then [d.workers.length] else [] := by
  rw [workersOf, List.idxsOf, peers, hworkers, List.map_append, List.findIdxs_append]
  simp [workersOf, List.idxsOf, peers]

theorem workersOf_congr (hpeers : d'.peers = d.peers) (peer : Address) :
    d'.workersOf peer = d.workersOf peer := by
  rw [workersOf, workersOf, hpeers]

theorem knows_congr (hpeers : d'.peers = d.peers) : d'.Knows peer i ↔ d.Knows peer i := by
  rw [← mem_workersOf, workersOf_congr hpeers, mem_workersOf]

/-- The last worker that a device has had stands at the end. -/
theorem exists_workersOf_snoc (hknown : d.Knows peer i)
    (hlast : ∀ j, d.Knows peer j → j ≤ i) :
    ∃ former, d.workersOf peer = former ++ [i] ∧ i ∉ former := by
  obtain ⟨former, later, heq⟩ := List.append_of_mem (mem_workersOf.2 hknown)
  have hsorted : (d.workersOf peer).Pairwise (· < ·) := List.pairwise_findIdxs
  rw [heq] at hsorted
  obtain ⟨-, hlater, hformer⟩ := List.pairwise_append.1 hsorted
  have hnone : later = [] := by
    refine List.eq_nil_iff_forall_not_mem.2 fun j hj => ?_
    have hmem : j ∈ d.workersOf peer := heq ▸ List.mem_append_right _ (List.mem_cons_of_mem _ hj)
    exact Nat.not_lt.2 (hlast j (mem_workersOf.1 hmem)) (List.rel_of_pairwise_cons hlater hj)
  refine ⟨former, hnone ▸ heq, fun hmem => ?_⟩
  exact Nat.lt_irrefl i (hformer i hmem i (List.mem_cons_self ..))

/-! ### The annals -/

variable [ProfileSession σ ρ τ] [DecidableEq τ] [Outlined ρ]

/-- What every worker has lived through, by its number. -/
structure Annals (d : Directory σ ρ τ) (past : Nat → List (Impulse ρ)) : Prop where
  /-- The link of a worker is what its life has made of a new one. -/
  links : ∀ (i : Nat) (w : Worker σ ρ τ), d.workers[i]? = some w →
    w.link = ((Link.start w.link.peer (d.newSession i)).live (past i)).1
  /-- The messages that a worker has handled are those of its life, in their order. -/
  handled : ∀ i, d.handledBy i = (past i).filterMap Impulse.message?
  /-- What has left the links of a device is what has left them in the lives of its workers, one
  life after the other. -/
  log : ∀ peer, d.logOf peer = (d.workersOf peer).flatMap fun i =>
    ((Link.start peer (d.newSession i)).live (past i)).2
  /-- A worker that takes items is the last that its device has had. -/
  last : ∀ (peer : Address) (i j : Nat), d.Knows peer i → d.Open i → d.Knows peer j → j ≤ i
  /-- A worker that is still to come has lived through nothing. -/
  unborn : ∀ i, d.workers.length ≤ i → past i = []

theorem annals_start (room : Nat) (newSession : Nat → σ) :
    Annals (start room newSession : Directory σ ρ τ) fun _ => [] where
  links _ _ h := by simp [start] at h
  handled _ := rfl
  log _ := rfl
  last _ _ _ h := by simp [Knows, start] at h
  unborn _ _ := rfl

/-! ### No link is stirred -/

omit [ProfileSession σ ρ τ] [DecidableEq τ] [Outlined ρ]

/-- No link was stirred.  Workers may have come to a stop, and inboxes may have changed. -/
structure Unstirred (d d' : Directory σ ρ τ) : Prop where
  links : d'.workers.map (·.link) = d.workers.map (·.link)
  opens : ∀ i, d'.Open i → d.Open i
  newSession : d'.newSession = d.newSession
  log : d'.log = d.log
  handled : d'.handled = d.handled

theorem Unstirred.of_workers_eq (hworkers : d'.workers = d.workers)
    (hnew : d'.newSession = d.newSession) (hlog : d'.log = d.log)
    (hhandled : d'.handled = d.handled) : Unstirred d d' :=
  ⟨congrArg _ hworkers, fun i hopen => by rwa [Open, hworkers] at hopen, hnew, hlog, hhandled⟩

theorem Unstirred.trans {d'' : Directory σ ρ τ} (h : Unstirred d d') (h' : Unstirred d' d'') :
    Unstirred d d'' :=
  ⟨h'.links.trans h.links, fun i hopen => h.opens i (h'.opens i hopen),
    h'.newSession.trans h.newSession, h'.log.trans h.log, h'.handled.trans h.handled⟩

/-- A worker that is replaced by one with the same link is not stirred. -/
theorem Unstirred.of_replaced {w v : Worker σ ρ τ} (h : Replaced i w v d d')
    (hlink : v.link = w.link) (hnew : d'.newSession = d.newSession) (hlog : d'.log = d.log)
    (hhandled : d'.handled = d.handled) : Unstirred d d' where
  links := by
    refine List.ext_getElem? fun j => ?_
    rw [List.getElem?_map, List.getElem?_map]
    by_cases hj : j = i
    · rw [hj, h.same, h.was]
      exact congrArg some hlink
    · rw [h.other hj]
  opens j := by
    rintro ⟨u, hu, hopen⟩
    by_cases hj : j = i
    · subst hj
      cases h.same.symm.trans hu
      refine ⟨w, h.was, Bool.eq_false_iff.2 fun hclosed => ?_⟩
      cases (h.closed hclosed).symm.trans hopen
    · exact ⟨u, (h.other hj).symm.trans hu, hopen⟩
  newSession := hnew
  log := hlog
  handled := hhandled

theorem Unstirred.peers (h : Unstirred d d') : d'.peers = d.peers := by
  have hpeers := congrArg (List.map (·.peer)) h.links
  rwa [List.map_map, List.map_map] at hpeers

/-- Every worker was there before, with the same link. -/
theorem Unstirred.was (h : Unstirred d d') {w : Worker σ ρ τ} (hw : d'.workers[i]? = some w) :
    ∃ v, d.workers[i]? = some v ∧ v.link = w.link := by
  have hlink := congrArg (·[i]?) h.links
  rw [List.getElem?_map, List.getElem?_map, hw] at hlink
  exact Option.map_eq_some_iff.1 hlink.symm

/-- An item that is offered stirs no link. -/
theorem unstirred_offer (d : Directory σ ρ τ) (i : Nat) (item : Item ρ) :
    Unstirred d (d.offer i item).2 := by
  rcases d.offer_cases i item with
    ⟨w, hw, hopen, -, heq⟩ | ⟨w, -, -, -, heq⟩ | ⟨-, heq⟩
  · rw [heq]
    exact .of_replaced (replaced_push hw hopen item) rfl rfl rfl rfl
  · rw [heq]
    exact .of_workers_eq rfl rfl rfl rfl
  · rw [heq]
    exact .of_workers_eq rfl rfl rfl rfl

variable [ProfileSession σ ρ τ] [DecidableEq τ] [Outlined ρ] {past : Nat → List (Impulse ρ)}

/-- The annals stay as they are while no link is stirred. -/
theorem Annals.unstirred (h : d.Annals past) (hstill : Unstirred d d') : d'.Annals past := by
  have hpeers := hstill.peers
  refine ⟨fun i w hw => ?_, fun i => ?_, fun peer => ?_, fun peer i j hi hopen hj => ?_,
    fun i hi => ?_⟩
  · obtain ⟨v, hv, hsame⟩ := hstill.was hw
    have hlived := h.links i v hv
    rw [hsame] at hlived
    rw [hstill.newSession]
    exact hlived
  · rw [handledBy, hstill.handled]
    exact h.handled i
  · rw [logOf, hstill.log, workersOf_congr hpeers, hstill.newSession]
    exact h.log peer
  · exact h.last peer i j ((knows_congr hpeers).1 hi) (hstill.opens i hopen)
      ((knows_congr hpeers).1 hj)
  · exact h.unborn i (length_of_peers hpeers ▸ hi)

/-! ### A worker is entered -/

/-- A new worker has lived through nothing, and comes after all that its device has had. -/
theorem Annals.enlist (h : d.Annals past) (hkept : d.Kept) (peer : Address) :
    (d.enlist peer).2.Annals past := by
  rcases d.enlist_cases peer with ⟨i, -, heq⟩ | ⟨hnone, heq⟩
  · rw [heq]
    exact h
  have hunborn := h.unborn d.workers.length (Nat.le_refl _)
  -- a former worker of the device that still took items would have an entry
  have hclosed {i : Nat} (hknown : d.Knows peer i) : ¬d.Open i := by
    rintro ⟨w, hw, hopen⟩
    obtain ⟨v, hv, rfl⟩ := hknown
    cases hw.symm.trans hv
    exact not_mem_of_find? hnone i (hkept.listed i w hw hopen)
  rw [heq]
  refine ⟨fun i w hw => ?_, h.handled, fun other => ?_, fun other i j hi hopen hj => ?_,
    fun i hi => h.unborn i ?_⟩
  · rcases getElem?_snoc hw with hold | ⟨rfl, rfl⟩
    · exact h.links i w hold
    · rw [hunborn]
      rfl
  · rw [workersOf_snoc rfl, List.flatMap_append, ← h.log other]
    split
    · simp [hunborn, Link.live, logOf]
    · simp [logOf]
  · obtain ⟨w, hw, hopen⟩ := hopen
    obtain ⟨u, hu, hpeeru⟩ := hi
    obtain ⟨v, hv, hpeerv⟩ := hj
    cases hw.symm.trans hu
    -- the worker was there before, or it is the new one
    rcases getElem?_snoc hw with hold | ⟨rfl, -⟩
    · rcases getElem?_snoc hv with hv | ⟨-, rfl⟩
      · exact h.last other i j ⟨w, hold, hpeeru⟩ ⟨w, hold, hopen⟩ ⟨v, hv, hpeerv⟩
      · exact absurd ⟨w, hold, hopen⟩ (hclosed ⟨w, hold, hpeeru.trans hpeerv.symm⟩)
    · have hbound := (List.getElem?_eq_some_iff.1 hv).1
      rw [List.length_append, List.length_singleton] at hbound
      exact Nat.lt_succ_iff.1 hbound
  · rw [List.length_append] at hi
    exact Nat.le_trans (Nat.le_add_right _ _) hi

/-! ### A link is stirred -/

/-- The link of a worker was stirred by an impulse. -/
structure Stirred (i : Nat) (w v : Worker σ ρ τ) (impulse : Impulse ρ)
    (d d' : Directory σ ρ τ) : Prop extends Replaced i w v d d' where
  takes : w.closed = false
  link : v.link = (w.link.respond impulse).1
  newSession : d'.newSession = d.newSession
  log : ∀ peer, d'.logOf peer =
    d.logOf peer ++ if w.link.peer = peer then (w.link.respond impulse).2 else []
  handled : ∀ j, d'.handledBy j = d.handledBy j ++ if i = j then impulse.message?.toList else []

omit [ProfileSession σ ρ τ] [DecidableEq τ] [Outlined ρ] in
/-- One more impulse in the life of a worker changes nothing that is made of the lives of others. -/
theorem flatMap_update {α : Type} {workers : List Nat} (hnot : i ∉ workers)
    (f : Nat → List (Impulse ρ) → List α) (life : List (Impulse ρ)) :
    (workers.flatMap fun j => f j (Function.update past i life j)) =
      workers.flatMap fun j => f j (past j) := by
  refine List.flatMap_congr fun j hj => ?_
  rw [Function.update_of_ne]
  rintro rfl
  exact hnot hj

section Stirred

variable {w v : Worker σ ρ τ} {impulse : Impulse ρ} (h : d.Annals past)
  (hstirred : Stirred i w v impulse d d')

include h hstirred

/-- What leaves the link comes after all that has left the links of its device, since the worker is
the last that the device has had. -/
theorem Annals.log_stirred (peer : Address) : d'.logOf peer = (d.workersOf peer).flatMap fun j =>
    ((Link.start peer (d.newSession j)).live
      (Function.update past i (past i ++ [impulse]) j)).2 := by
  let leaves (j : Nat) (life : List (Impulse ρ)) : List Effect :=
    ((Link.start peer (d.newSession j)).live life).2
  rw [hstirred.log, h.log]
  split
  · next hpeer =>
      have hknown : d.Knows peer i := ⟨w, hstirred.was, hpeer⟩
      obtain ⟨former, heq, hformer⟩ := exists_workersOf_snoc hknown fun j hj =>
        h.last peer i j hknown ⟨w, hstirred.was, hstirred.takes⟩ hj
      have hlived := h.links i w hstirred.was
      rw [hpeer] at hlived
      rw [heq, List.flatMap_append, List.flatMap_append, flatMap_update hformer leaves,
        List.flatMap_singleton, List.flatMap_singleton, Function.update_self, Link.live_snoc,
        ← hlived, List.append_assoc]
  · next hpeer =>
      have hnot : i ∉ d.workersOf peer := by
        intro hmem
        obtain ⟨u, hu, hpeeru⟩ := mem_workersOf.1 hmem
        cases hstirred.was.symm.trans hu
        exact hpeer hpeeru
      rw [List.append_nil, flatMap_update hnot leaves]

/-- The impulse that stirred the link is the next one in the life of the worker. -/
theorem Annals.stirred : d'.Annals (Function.update past i (past i ++ [impulse])) := by
  have hpeers := hstirred.peers
  refine ⟨fun j u hu => ?_, fun j => ?_, fun peer => ?_, fun peer j k hj hopen hk => ?_,
    fun j hj => ?_⟩
  · rw [hstirred.newSession]
    by_cases hji : j = i
    · subst hji
      cases hstirred.same.symm.trans hu
      rw [Function.update_self, hstirred.peer, Link.live_snoc, ← h.links j w hstirred.was]
      exact hstirred.link
    · rw [Function.update_of_ne hji]
      exact h.links j u ((hstirred.other hji).symm.trans hu)
  · rw [hstirred.handled, h.handled]
    split
    · next hij =>
        rw [← hij, Function.update_self, List.filterMap_append]
        cases impulse <;> rfl
    · next hij => rw [Function.update_of_ne (Ne.symm hij), List.append_nil]
  · rw [workersOf_congr hpeers, hstirred.newSession]
    exact h.log_stirred hstirred peer
  · refine h.last peer j k ((knows_congr hpeers).1 hj) ?_ ((knows_congr hpeers).1 hk)
    obtain ⟨u, hu, hopen⟩ := hopen
    by_cases hji : j = i
    · exact hji ▸ ⟨w, hstirred.was, hstirred.takes⟩
    · exact ⟨u, (hstirred.other hji).symm.trans hu, hopen⟩
  · have hbound := (List.getElem?_eq_some_iff.1 hstirred.was).1
    rw [length_of_peers hpeers] at hj
    rw [Function.update_of_ne (Nat.ne_of_gt (Nat.lt_of_lt_of_le hbound hj))]
    exact h.unborn j hj

end Stirred

/-! ### Turns and alarms -/

/-- A worker that handles a message is stirred by it; one that replies is not stirred. -/
theorem turn_stirs (s : Surroundings) (hkept : d.Kept) (i : Nat) :
    Unstirred d (d.turn s i) ∨
      ∃ w v scene message, Stirred i w v (.hand scene message) d (d.turn s i) := by
  rcases d.turn_cases s i with ⟨-, heq⟩ | ⟨w, item, rest, hw, hinbox, heq⟩
  · rw [heq]
    exact .inl (.of_workers_eq rfl rfl rfl rfl)
  · obtain ⟨hopen, hreplaced⟩ := replaced_turn s hkept hw hinbox
    rw [heq]
    have hother (hnone : item.message? = none) :
        Unstirred d (d.enter i (w.handle (d.scene s w.link.peer) item rest)) := by
      obtain ⟨hlink, hlog, hhandled⟩ := w.handle_of_not_message (d.scene s w.link.peer) rest hnone
      refine .of_replaced hreplaced hlink rfl ?_ ?_
      · rw [enter, hlog]
        exact List.append_nil _
      · rw [enter, hhandled]
        exact List.append_nil _
    cases item with
    | message m =>
        refine .inr ⟨w, _, d.scene s w.link.peer, m, hreplaced, hopen, rfl, rfl, fun peer => ?_,
          fun j => ?_⟩
        · rw [logOf_enter, Worker.peer_handle]
          rfl
        · rw [handledBy_enter]
          rfl
    | question question ticket => exact .inl (hother rfl)
    | stop => exact .inl (hother rfl)

/-- An alarm stirs the link of the worker, if it is due. -/
theorem wake_stirs (s : Surroundings) (d : Directory σ ρ τ) (i : Nat) :
    Unstirred d (d.wake s i) ∨ ∃ w v scene, Stirred i w v (.wake scene) d (d.wake s i) := by
  rcases d.wake_cases s i with heq | ⟨w, hw, hopen, -, heq⟩
  · rw [heq]
    exact .inl (.of_workers_eq rfl rfl rfl rfl)
  · rw [heq]
    refine .inr ⟨w, _, d.scene s w.link.peer, replaced_wake s hw hopen, hopen, rfl, rfl,
      fun peer => ?_, fun j => ?_⟩
    · rw [logOf_enter, Worker.peer_wake]
      rfl
    · rw [handledBy_enter]
      rfl

end Directory

/-! ### Clients and the reaper -/

open Directory

/-- The next operation of a plan stirs no link; it may be that it enters a worker. -/
theorem Plan.advance_stirs {α : Type} {p q : Plan σ ρ τ α} {d d' : Directory σ ρ τ}
    (hadvance : p.advance d = some (q, d')) :
    Unstirred d d' ∨ ∃ peer, d' = (d.enlist peer).2 := by
  cases p with
  | finished a => cases hadvance
  | find peer next | findIn state next | clear next | forget peer worker next =>
      cases hadvance
      exact .inl (.of_workers_eq rfl rfl rfl rfl)
  | enlist peer next =>
      cases hadvance
      exact .inr ⟨peer, rfl⟩
  | send worker item next =>
      have hstill := d.unstirred_offer worker item
      rw [advance] at hadvance
      split at hadvance
      · next heq =>
          rw [heq] at hstill
          cases hadvance
          exact .inl hstill
      · next heq =>
          rw [heq] at hstill
          cases hadvance
          exact .inl hstill
      · cases hadvance
  | ask worker question next =>
      have hstill : Unstirred d (d.ask worker question).2 :=
        have hissued : Unstirred d { d with tickets := d.tickets + 1 } :=
          .of_workers_eq rfl rfl rfl rfl
        hissued.trans (unstirred_offer _ worker _)
      rw [advance] at hadvance
      split at hadvance
      · next heq =>
          rw [heq] at hstill
          cases hadvance
          exact .inl hstill
      · next heq =>
          rw [heq] at hstill
          cases hadvance
          exact .inl hstill
      · cases hadvance
  | await ticket next =>
      obtain ⟨reply, -, heq⟩ := Option.map_eq_some_iff.1 hadvance
      cases heq
      exact .inl (.of_workers_eq rfl rfl rfl rfl)

namespace Hall

variable {h : Hall σ ρ τ}

theorem directory_proceed (k : Nat) (h : Hall σ ρ τ) : (h.proceed k).directory = h.directory ∨
    ∃ (client : Client σ ρ τ) (plan : Plan σ ρ τ (Except Fault Unit)),
      client.plan.advance h.directory = some (plan, (h.proceed k).directory) := by
  rw [proceed]
  split
  · exact .inl rfl
  · next client _ =>
      split
      · exact .inl rfl
      · next plan d hadvance =>
          refine .inr ⟨client, plan, ?_⟩
          rw [hadvance]
          split <;> rfl

theorem directory_goOn (h : Hall σ ρ τ) : h.goOn.directory = h.directory ∨
    ∃ plan, h.reaper.advance h.directory = some (plan, h.goOn.directory) := by
  rw [goOn]
  split
  · exact .inl rfl
  · next plan d hadvance =>
      refine .inr ⟨plan, ?_⟩
      rw [hadvance]
      split <;> rfl

variable [ProfileSession σ ρ τ] [DecidableEq τ] [Outlined ρ]

theorem directory_turn (s : Surroundings) (i : Nat) (h : Hall σ ρ τ) :
    (h.turn s i).directory = h.directory.turn s i := by
  rw [turn]
  split
  · next hempty =>
      rcases h.directory.turn_cases s i with ⟨-, heq⟩ | ⟨w, item, rest, hw, hinbox, -⟩
      · exact heq.symm
      · rw [inbox_eq hw, hinbox] at hempty
        cases hempty
  · rfl
  · split <;> rfl

theorem annals_advance {α : Type} {p q : Plan σ ρ τ α} {d d' : Directory σ ρ τ} (hkept : d.Kept)
    (hannals : ∃ past, d.Annals past) (hadvance : p.advance d = some (q, d')) :
    ∃ past, d'.Annals past := by
  obtain ⟨past, hannals⟩ := hannals
  rcases Plan.advance_stirs hadvance with hstill | ⟨peer, rfl⟩
  · exact ⟨past, hannals.unstirred hstill⟩
  · exact ⟨past, hannals.enlist hkept peer⟩

/-- **Whatever move is made, the annals go on.** -/
theorem annals_step (hkept : h.directory.Kept) (hannals : ∃ past, h.directory.Annals past)
    (move : Move ρ) : ∃ past, (h.step move).directory.Annals past := by
  cases move with
  | arrive peer message => exact hannals
  | proceed client =>
      rcases h.directory_proceed client with heq | ⟨client, plan, hadvance⟩
      · rwa [step, heq]
      · exact annals_advance hkept hannals hadvance
  | reap =>
      rw [step, reap]
      split <;> exact hannals
  | goOn =>
      rcases h.directory_goOn with heq | ⟨plan, hadvance⟩
      · rwa [step, heq]
      · exact annals_advance hkept hannals hadvance
  | turn s worker =>
      obtain ⟨past, hannals⟩ := hannals
      rw [step, directory_turn]
      rcases turn_stirs s hkept worker with hstill | ⟨w, v, scene, message, hstirred⟩
      · exact ⟨past, hannals.unstirred hstill⟩
      · exact ⟨_, hannals.stirred hstirred⟩
  | wake s worker =>
      obtain ⟨past, hannals⟩ := hannals
      rcases wake_stirs s h.directory worker with hstill | ⟨w, v, scene, hstirred⟩
      · exact ⟨past, hannals.unstirred hstill⟩
      · exact ⟨_, hannals.stirred hstirred⟩
  | pass duration =>
      obtain ⟨past, hannals⟩ := hannals
      exact ⟨past, hannals.unstirred (.of_workers_eq rfl rfl rfl rfl)⟩

end Hall

end AudioLink
