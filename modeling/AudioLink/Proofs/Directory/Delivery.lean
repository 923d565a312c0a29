/-
**Every message is handled once.**

Clients come and go, workers take turns, and the reaper goes its rounds, in any order.  The books of
the hall say at any moment where each message is that was ever put into an inbox: it was handled, it
is in an inbox, or the reaper holds it.  A message is in one of these places only, and it moves from
one to the next: into an inbox, back to the reaper if the worker retires, and into an inbox again
until it is handled.  That it was handled means that the link of the worker has lived through it.

Main definitions:

* `AudioLink.Hall.Later` — what is known of clients and workers in one hall is known in the other;
* `AudioLink.Hall.Accounted` — every message is accounted for.

Main results:

* `AudioLink.Hall.Happens.sound`, `AudioLink.Hall.sound_run` — whatever happens, the hall stays
  sound;
* `AudioLink.Hall.annals_run` — every worker has lived through what it is said to have handled;
* `AudioLink.Hall.messages_accounted` — **no message is lost and none is handled twice**, however
  clients, workers and the reaper come between one another.
-/

import AudioLink.Proofs.Directory.Annals
import AudioLink.Proofs.Directory.Happenings

set_option relaxedAutoImplicit false
set_option autoImplicit false

namespace AudioLink.Hall

variable {σ ρ τ : Type} {h h' : Hall σ ρ τ}

/-! ### What is known stays known -/

/-- What is known of clients and workers in one hall is known in the other. -/
structure Later (h h' : Hall σ ρ τ) : Prop where
  wants : ∀ k letter, h.Wants k letter → h'.Wants k letter
  onward : Directory.Onward h.directory h'.directory

theorem Later.bears (hlater : Later h h') {i k : Nat} {message : Message ρ}
    (hbears : h.Bears i k message) : h'.Bears i k message := by
  obtain ⟨peer, hwants, hknows⟩ := hbears
  exact ⟨peer, hlater.wants k _ hwants, hlater.onward.knows _ _ hknows⟩

theorem Posted.later (hposted : Posted h) (hlater : Later h h')
    (hwaiting : h'.waiting = h.waiting) (hserved : h'.served = h.served)
    (hletters : ∀ i, h'.directory.letters i = h.directory.letters i)
    (hhandled : h'.directory.handled = h.directory.handled) : Posted h' where
  waiting i := by
    rw [waitingFor, hwaiting, hletters]
    exact (hposted.waiting i).imp fun _ _ => hlater.bears
  served := by
    rw [hserved, hhandled]
    exact hposted.served.imp fun _ _ hpair => ⟨hpair.1, hlater.bears hpair.2⟩

/-- A message was put into an inbox, and its client was written down. -/
theorem Posted.put (hposted : Posted h) (hlater : Later h h') {i k : Nat} {w : Worker σ ρ τ}
    {message : Message ρ} (hw : h.directory.workers[i]? = some w) (hopen : w.closed = false)
    (hdirectory : h'.directory = h.directory.push i w (.message message))
    (hwaiting : h'.waiting = h.waiting ++ [(i, k)]) (hserved : h'.served = h.served)
    (hbears : h'.Bears i k message) : Posted h' where
  waiting j := by
    have hold := (hposted.waiting j).imp fun _ _ => hlater.bears
    rw [waitingFor, hwaiting, ofWorker_append, ofWorker_single, hdirectory,
      Directory.letters_push hw hopen]
    by_cases hji : j = i
    · subst hji
      rw [if_pos rfl, if_pos rfl]
      exact List.rel_append hold (.cons hbears .nil)
    · rw [if_neg hji, if_neg hji, List.append_nil]
      exact hold
  served := by
    have hhandled : h'.directory.handled = h.directory.handled := by rw [hdirectory]; rfl
    rw [hserved, hhandled]
    exact hposted.served.imp fun _ _ hpair => ⟨hpair.1, hlater.bears hpair.2⟩

/-- One more message in an inbox is one more in the line. -/
theorem line_put {i k : Nat} (hserved : h'.served = h.served)
    (hwaiting : h'.waiting = h.waiting ++ [(i, k)]) (hheld : h'.held = h.held) :
    (h.line ++ [k]).Perm h'.line := by
  rw [line, line, hserved, hwaiting, hheld, List.map_append, ← List.append_assoc (h.served.map _),
    List.append_assoc _ h.held, List.append_assoc _ _ h.held]
  exact List.perm_append_comm.append_left _

/-- A message that was in an inbox and is handled stays in the line. -/
theorem line_serve {i k : Nat} {before after : List (Nat × Nat)}
    (hfirst : h.waiting = before ++ (i, k) :: after) (hserved : h'.served = h.served ++ [(i, k)])
    (hwaiting : h'.waiting = before ++ after) (hheld : h'.held = h.held) : h.line.Perm h'.line := by
  rw [line, line, hfirst, hserved, hwaiting, hheld]
  simp only [List.map_append, List.map_cons, List.map_nil]
  refine List.Perm.append_right h.held ?_
  rw [List.append_assoc]
  exact List.perm_middle.append_left _

/-- Messages that were in an inbox and are handed back stay in the line. -/
theorem line_handBack {i : Nat} (hnone : h.held = []) (hserved : h'.served = h.served)
    (hwaiting : h'.waiting = h.waiting.filter (·.1 != i)) (hheld : h'.held = h.waitingFor i) :
    h.line.Perm h'.line := by
  have hparted : (h.waiting.map (·.2)).Perm
      ((h.waiting.filter (·.1 != i)).map (·.2) ++ h.waitingFor i) := by
    rw [waitingFor, ofWorker, ← List.map_append]
    refine List.Perm.map _ (List.Perm.symm ?_)
    refine (List.perm_append_comm).trans ?_
    exact List.filter_append_perm (·.1 == i) h.waiting
  rw [line, line, hnone, hserved, hwaiting, hheld, List.append_nil, List.append_assoc]
  exact hparted.append_left _

/-- Whoever was there before another came is still there. -/
theorem getElem?_arrive (peer : Address) (message : Message ρ) {k : Nat} {client : Client σ ρ τ}
    (hclient : h.clients[k]? = some client) :
    (h.arrive peer message).clients[k]? = some client :=
  (List.getElem?_append_left (List.getElem?_eq_some_iff.1 hclient).1).trans hclient

theorem wants_arrive (peer : Address) (message : Message ρ) {k : Nat}
    {letter : Address × Message ρ} (hwants : h.Wants k letter) :
    (h.arrive peer message).Wants k letter := by
  obtain ⟨client, hclient, hletter⟩ := hwants
  exact ⟨client, getElem?_arrive peer message hclient, hletter⟩

section Clients

variable {k : Nat} {client : Client σ ρ τ} {plan : Plan σ ρ τ (Except Fault Unit)}
  (hclient : h.clients[k]? = some client)
  (hclients : h'.clients = h.clients.set k { client with plan := plan })

include hclient hclients

/-- The client has done an operation. -/
theorem getElem?_client : h'.clients[k]? = some { client with plan := plan } := by
  rw [hclients]
  exact List.getElem?_set_self (List.getElem?_eq_some_iff.1 hclient).1

omit hclient in
theorem getElem?_other {l : Nat} (hne : l ≠ k) : h'.clients[l]? = h.clients[l]? := by
  rw [hclients]
  exact List.getElem?_set_ne (Ne.symm hne)

/-- What a client has to say does not change while it goes about it. -/
theorem wants_of_client (l : Nat) (letter : Address × Message ρ) (hwants : h.Wants l letter) :
    h'.Wants l letter := by
  obtain ⟨other, hother, hletter⟩ := hwants
  by_cases hlk : l = k
  · subst hlk
    cases hclient.symm.trans hother
    exact ⟨_, getElem?_client hclient hclients, hletter⟩
  · exact ⟨other, (getElem?_other hclients hlk).trans hother, hletter⟩

omit hclient in
theorem routing_of_client (honward : Directory.Onward h.directory h'.directory)
    (hrouting : ∀ client ∈ h.clients,
      Plan.Routing h.directory client.peer client.message client.plan)
    (hplan : Plan.Routing h'.directory client.peer client.message plan) :
    ∀ client ∈ h'.clients, Plan.Routing h'.directory client.peer client.message client.plan := by
  intro other hother
  rw [hclients] at hother
  rcases List.mem_or_eq_of_mem_set hother with hold | rfl
  · exact (hrouting other hold).onward honward
  · exact hplan

omit hclient in
theorem result?_other {l : Nat} (hne : l ≠ k) : h'.result? l = h.result? l := by
  rw [result?, result?, getElem?_other hclients hne]

end Clients

/-! ### Whatever happens -/

theorem sound_start (room : Nat) (newSession : Nat → σ) :
    Sound (start room newSession : Hall σ ρ τ) where
  kept := Directory.kept_start room newSession
  fresh := nofun
  routing := nofun
  told := nofun
  posted := ⟨fun _ => .nil, .nil⟩
  round := ⟨[], ⟨none, none, .next [] (fun _ => 0) nofun, fun _ => rfl, nofun⟩, .nil⟩
  placed := .nil
  once := List.nodup_nil

namespace Sound

variable (hsound : Sound h)

include hsound

theorem come (peer : Address) (message : Message ρ) : Sound (h.arrive peer message) := by
  have hwants (k : Nat) (letter : Address × Message ρ) (hwants : h.Wants k letter) :
      (h.arrive peer message).Wants k letter := wants_arrive peer message hwants
  obtain ⟨carried, hround, hheld⟩ := hsound.round
  refine ⟨hsound.kept, hsound.fresh, ?_, ?_, ?_, ⟨carried, hround, hheld.imp hwants⟩,
    hsound.placed, hsound.once⟩
  · intro client hclient
    rcases List.mem_append.1 hclient with hold | hnew
    · exact hsound.routing client hold
    · obtain rfl := List.mem_singleton.1 hnew
      exact Plan.routing_ofMessage _ peer message
  · intro k hk
    obtain ⟨client, hclient, hresult⟩ := Option.bind_eq_some_iff.1 (hsound.told k hk)
    exact Option.bind_eq_some_iff.2 ⟨client, getElem?_arrive peer message hclient, hresult⟩
  · exact hsound.posted.later ⟨hwants, .of_workers_eq rfl⟩ rfl rfl (fun _ => rfl) rfl

theorem still {d : Directory σ ρ τ} (hstill : Directory.Still h.directory d) (hkept : d.Kept) :
    Sound { h with directory := d } := by
  obtain ⟨carried, hround, hheld⟩ := hsound.round
  exact ⟨hkept, hsound.fresh.still hstill,
    fun client hclient => (hsound.routing client hclient).onward hstill.toOnward, hsound.told,
    hsound.posted.later ⟨fun _ _ h => h, hstill.toOnward⟩ rfl rfl hstill.calm.letters hstill.handled,
    ⟨carried, hround.quiet hstill.quiet, hheld⟩, hsound.placed, hsound.once⟩

theorem visit {k : Nat} {client : Client σ ρ τ} {d : Directory σ ρ τ}
    {plan : Plan σ ρ τ (Except Fault Unit)} (hclient : h.clients[k]? = some client)
    (hnew : k ∉ h.handed) (hstill : Directory.Still h.directory d) (hkept : d.Kept)
    (hplan : Plan.Routing d client.peer client.message plan) :
    Sound { h with directory := d, clients := h.clients.set k { client with plan := plan } } := by
  have hwants : ∀ l letter, h.Wants l letter → Wants { h with
      directory := d, clients := h.clients.set k { client with plan := plan } } l letter :=
    wants_of_client hclient rfl
  obtain ⟨carried, hround, hheld⟩ := hsound.round
  refine ⟨hkept, hsound.fresh.still hstill,
    routing_of_client rfl hstill.toOnward hsound.routing hplan, fun l hl => ?_, ?_,
    ⟨carried, hround.quiet hstill.quiet, hheld.imp hwants⟩, hsound.placed, hsound.once⟩
  · have hne : l ≠ k := fun heq => hnew (heq ▸ hl)
    exact (result?_other rfl hne).trans (hsound.told l hl)
  · exact hsound.posted.later ⟨hwants, hstill.toOnward⟩ rfl rfl hstill.calm.letters hstill.handled

theorem put {k i : Nat} {client : Client σ ρ τ} {w : Worker σ ρ τ}
    (hclient : h.clients[k]? = some client) (hnew : k ∉ h.handed)
    (hknown : h.directory.Knows client.peer i) (hw : h.directory.workers[i]? = some w)
    (hopen : w.closed = false) :
    Sound { h with
      directory := h.directory.push i w (.message client.message)
      clients := h.clients.set k { client with plan := .finished (.ok ()) }
      handed := h.handed ++ [k]
      waiting := h.waiting ++ [(i, k)] } := by
  -- from here on the hall counts by its fields only
  generalize hafter : ({ h with
      directory := h.directory.push i w (.message client.message)
      clients := h.clients.set k { client with plan := .finished (.ok ()) }
      handed := h.handed ++ [k]
      waiting := h.waiting ++ [(i, k)] } : Hall σ ρ τ) = after
  have hclients : after.clients = h.clients.set k { client with plan := .finished (.ok ()) } :=
    hafter ▸ rfl
  have hdirectory : after.directory = h.directory.push i w (.message client.message) := hafter ▸ rfl
  have hself := getElem?_client hclient hclients
  have hwants := wants_of_client hclient hclients
  have hquiet : Directory.Quiet h.directory after.directory :=
    hdirectory ▸ Directory.quiet_push hw hopen client.message
  obtain ⟨carried, hround, hheld⟩ := hsound.round
  constructor
  · rw [hdirectory]
    exact hsound.kept.push hw hopen _
  · exact hsound.fresh.quiet hquiet
  · exact routing_of_client hclients hquiet.toOnward hsound.routing (.finished _)
  · intro l hl
    rw [← hafter] at hl
    rcases List.mem_append.1 hl with hold | hlast
    · rw [result?_other hclients fun heq => hnew (heq ▸ hold)]
      exact hsound.told l hold
    · obtain rfl := List.mem_singleton.1 hlast
      rw [result?, hself]
      rfl
  · exact hsound.posted.put ⟨hwants, hquiet.toOnward⟩ hw hopen hdirectory (hafter ▸ rfl)
      (hafter ▸ rfl) ⟨client.peer, ⟨_, hself, rfl⟩, hquiet.knows _ _ hknown⟩
  · subst hafter
    exact ⟨carried, hround.quiet hquiet, hheld.imp hwants⟩
  · subst hafter
    exact (hsound.placed.append_right [k]).trans (line_put rfl rfl rfl)
  · subst hafter
    exact List.nodup_append.2 ⟨hsound.once, List.nodup_singleton k,
      fun a ha b hb hab => hnew (List.mem_singleton.1 hb ▸ hab ▸ ha)⟩

theorem place {i k : Nat} {held : List Nat} {w : Worker σ ρ τ} {peer : Address}
    {message : Message ρ} {rest : List (Address × Message ρ)} {plan : Plan σ ρ τ Nat}
    (hheld : h.held = k :: held) (hwants : h.Wants k (peer, message))
    (hrest : List.Forall₂ h.Wants held rest) (hknown : h.directory.Knows peer i)
    (hw : h.directory.workers[i]? = some w) (hopen : w.closed = false)
    (hround : Plan.OnRound (h.directory.push i w (.message message)) plan rest) :
    Sound { h with
      directory := h.directory.push i w (.message message)
      reaper := plan
      waiting := h.waiting ++ [(i, k)]
      held := held } where
  kept := hsound.kept.push hw hopen _
  fresh := hsound.fresh
  routing client hclient := (hsound.routing client hclient).onward
    (Directory.quiet_push hw hopen message).toOnward
  told := hsound.told
  posted := by
    have hquiet := Directory.quiet_push hw hopen message
    exact hsound.posted.put ⟨fun _ _ h => h, hquiet.toOnward⟩ hw hopen rfl rfl rfl
      ⟨peer, hwants, hquiet.knows _ _ hknown⟩
  round := ⟨rest, hround, hrest⟩
  placed := by
    have heq : h.served.map (·.2) ++ (h.waiting ++ [(i, k)]).map (·.2) ++ held = h.line := by
      rw [line, hheld, List.map_append, ← List.append_assoc, List.append_assoc _ _ held]
      rfl
    rw [line, heq]
    exact hsound.placed
  once := hsound.once

theorem serve {i k : Nat} {message : Message ρ} {before after : List (Nat × Nat)}
    {d : Directory σ ρ τ} (hquiet : Directory.Quiet h.directory d) (hkept : d.Kept)
    (hletters : ∀ j, h.directory.letters j =
      if j = i then message :: d.letters j else d.letters j)
    (hhandled : d.handled = h.directory.handled ++ [(i, message)])
    (hfirst : h.waiting = before ++ (i, k) :: after) (hskipped : ∀ pair ∈ before, pair.1 ≠ i)
    (hbears : h.Bears i k message) :
    Sound { h with
      directory := d, waiting := before ++ after, served := h.served ++ [(i, k)] } := by
  have hlater : Later h { h with
      directory := d, waiting := before ++ after, served := h.served ++ [(i, k)] } :=
    ⟨fun _ _ h => h, hquiet.toOnward⟩
  obtain ⟨carried, hround, hheld⟩ := hsound.round
  refine ⟨hkept, hsound.fresh.quiet hquiet,
    fun client hclient => (hsound.routing client hclient).onward hquiet.toOnward, hsound.told,
    ⟨fun j => ?_, ?_⟩, ⟨carried, hround.quiet hquiet, hheld⟩, ?_, hsound.once⟩
  · have hold := (hsound.posted.waiting j).imp fun _ _ => hlater.bears
    rw [hletters, waitingFor, hfirst, ofWorker_first hskipped] at hold
    by_cases hji : j = i
    · rw [if_pos hji, if_pos hji] at hold
      exact (List.forall₂_cons.1 hold).2
    · rw [if_neg hji, if_neg hji] at hold
      exact hold
  · show List.Forall₂ _ (h.served ++ [(i, k)]) d.handled
    rw [hhandled]
    exact List.rel_append (hsound.posted.served.imp fun _ _ hp => ⟨hp.1, hlater.bears hp.2⟩)
      (.cons ⟨rfl, hlater.bears hbears⟩ .nil)
  · exact hsound.placed.trans (line_serve hfirst rfl rfl rfl)

theorem handBack {i : Nat} {peer : Address} {d : Directory σ ρ τ}
    (honward : Directory.Onward h.directory d) (hkept : d.Kept) (hfresh : Plan.Fresh d)
    (hletters : ∀ j, d.letters j = if j = i then [] else h.directory.letters j)
    (hhandled : d.handled = h.directory.handled) (hknown : h.directory.Knows peer i)
    (hstage : Plan.OnRound d h.reaper ((h.directory.letters i).map (peer, ·)))
    (hnone : h.held = []) :
    Sound { h with
      directory := d
      waiting := h.waiting.filter (·.1 != i)
      held := h.waitingFor i } := by
  have hlater : Later h { h with
      directory := d
      waiting := h.waiting.filter (·.1 != i)
      held := h.waitingFor i } := ⟨fun _ _ h => h, honward⟩
  refine ⟨hkept, hfresh, fun client hclient => (hsound.routing client hclient).onward honward,
    hsound.told, ⟨fun j => ?_, ?_⟩, ⟨_, hstage, ?_⟩, ?_, hsound.once⟩
  · show List.Forall₂ _ (ofWorker j (h.waiting.filter (·.1 != i))) (d.letters j)
    rw [ofWorker_filter, hletters]
    split
    · exact .nil
    · exact (hsound.posted.waiting j).imp fun _ _ => hlater.bears
  · exact hhandled ▸ hsound.posted.served.imp fun _ _ hp => ⟨hp.1, hlater.bears hp.2⟩
  · -- the messages that waited for the worker are for its device
    rw [List.forall₂_map_right_iff]
    refine (hsound.posted.waiting i).imp fun k message hbears => ?_
    obtain ⟨p, hwants, v, hv, hp⟩ := hbears
    obtain ⟨u, hu, hpeer⟩ := hknown
    cases hu.symm.trans hv
    exact hpeer ▸ hp ▸ hwants
  · exact hsound.placed.trans (line_handBack hnone rfl rfl rfl)

end Sound

/-- **Whatever happens, the hall stays sound.** -/
theorem Happens.sound (hhappens : Happens h h') (hsound : Sound h) : Sound h' := by
  cases hhappens with
  | nothing => exact hsound
  | come peer message => exact hsound.come peer message
  | still still kept => exact hsound.still still kept
  | visit there new still kept routing => exact hsound.visit there new still kept routing
  | put there new known worker takes => exact hsound.put there new known worker takes
  | round calm kept fresh stage held =>
      exact ⟨kept, fresh, fun client hclient =>
          (hsound.routing client hclient).onward calm.toOnward, hsound.told,
        hsound.posted.later ⟨fun _ _ h => h, calm.toOnward⟩ rfl rfl calm.letters calm.handled,
        ⟨_, stage, held⟩, hsound.placed, hsound.once⟩
  | place first wants others known worker takes stage =>
      exact hsound.place first wants others known worker takes stage
  | serve quiet kept letters handled first skipped bears =>
      exact hsound.serve quiet kept letters handled first skipped bears
  | handBack onward kept fresh letters handled known stage none =>
      exact hsound.handBack onward kept fresh letters handled known stage none

/-- Whoever has put its message into an inbox stays written down. -/
theorem Happens.handed (hhappens : Happens h h') {k : Nat} (hk : k ∈ h.handed) : k ∈ h'.handed := by
  cases hhappens with
  | put => exact List.mem_append_left _ hk
  | nothing | come | still | visit | round | place | serve | handBack => exact hk

/-- What a client has to say it keeps having to say. -/
theorem Happens.wants (hhappens : Happens h h') {k : Nat} {letter : Address × Message ρ}
    (hwants : h.Wants k letter) : h'.Wants k letter := by
  cases hhappens with
  | come peer message => exact wants_arrive peer message hwants
  | visit there => exact wants_of_client there rfl k letter hwants
  | put there => exact wants_of_client there rfl k letter hwants
  | nothing | still | round | place | serve | handBack => exact hwants

variable [ProfileSession σ ρ τ] [DecidableEq τ] [Outlined ρ]

theorem Sound.run (hsound : Sound h) (moves : List (Move ρ)) : Sound (h.run moves) :=
  run_induction (fun _ move hsound => (hsound.happens move).sound hsound) hsound moves

theorem sound_run (room : Nat) (newSession : Nat → σ) (moves : List (Move ρ)) :
    Sound ((start room newSession : Hall σ ρ τ).run moves) :=
  (sound_start room newSession).run moves

/-- Throughout, every worker has lived through what it is said to have handled. -/
theorem annals_run (room : Nat) (newSession : Nat → σ) (moves : List (Move ρ)) :
    ∃ past, ((start room newSession : Hall σ ρ τ).run moves).directory.Annals past := by
  -- that a new worker is the last of its device takes that the directory is kept
  have hstart : Sound (start room newSession : Hall σ ρ τ) ∧
      ∃ past, (start room newSession : Hall σ ρ τ).directory.Annals past :=
    ⟨sound_start room newSession, _, Directory.annals_start room newSession⟩
  refine (run_induction (P := fun h => Sound h ∧ ∃ past, h.directory.Annals past) ?_ hstart moves).2
  intro h move hboth
  obtain ⟨hsound, hannals⟩ := hboth
  exact ⟨(hsound.happens move).sound hsound, annals_step hsound.kept hannals move⟩

/-! ### Every message is accounted for -/

/-- Every message is accounted for. -/
structure Accounted (h : Hall σ ρ τ) : Prop where
  /-- The messages in an inbox are those of the clients that are written down for it, in their
  order, and the worker is one of the device that each of them is for. -/
  waiting : ∀ i, List.Forall₂ (h.Bears i) (h.waitingFor i) (h.directory.letters i)
  /-- The messages that were handled are those of the clients that are written down for that, in
  their order, and each was handled by a worker of the device that it is for. -/
  served : List.Forall₂ (fun (served : Nat × Nat) (handled : Nat × Message ρ) =>
    served.1 = handled.1 ∧ h.Bears served.1 served.2 handled.2) h.served h.directory.handled
  /-- No message is handled twice. -/
  once : (h.served.map (·.2)).Nodup
  /-- Only what was put into an inbox is handled. -/
  handed : ∀ served ∈ h.served, served.2 ∈ h.handed
  /-- Whoever put a message into an inbox was told that all went well. -/
  told : ∀ k ∈ h.handed, h.result? k = some (.ok ())
  /-- What is said to be handled was handled: every worker has lived through its messages, in their
  order, and its link and all that has left it are what came of them. -/
  lived : ∃ past, h.directory.Annals past
  /-- Once nothing is under way, every message that was put into an inbox was handled, and once
  only. -/
  complete : h.AtRest → ∀ k ∈ h.handed, (h.served.map (·.2)).count k = 1
  /-- A device never has two workers that take messages. -/
  single : ∀ (i j : Nat) (v w : Worker σ ρ τ), h.directory.workers[i]? = some v →
    h.directory.workers[j]? = some w → v.closed = false → w.closed = false →
    v.link.peer = w.link.peer → i = j
  /-- A worker that takes no more messages has none left to handle. -/
  stopped : ∀ (i : Nat) (w : Worker σ ρ τ), h.directory.workers[i]? = some w →
    w.closed = true → w.inbox = []

omit [ProfileSession σ ρ τ] [DecidableEq τ] [Outlined ρ] in
/-- Once nothing is under way, all that was put into an inbox was handled. -/
theorem Sound.handed_perm (hsound : Sound h) (hrest : h.AtRest) :
    h.handed.Perm (h.served.map (·.2)) := by
  have hwaiting : h.waiting = [] := by
    refine List.eq_nil_iff_forall_not_mem.2 fun pair hpair => ?_
    have hmem : pair.2 ∈ h.waitingFor pair.1 :=
      List.mem_map.2 ⟨pair, List.mem_filter.2 ⟨hpair, beq_self_eq_true _⟩, rfl⟩
    have hthere := hsound.posted.waiting pair.1
    rw [Directory.letters, hrest.inboxes pair.1] at hthere
    rw [List.forall₂_nil_right_iff.1 hthere] at hmem
    cases hmem
  have hheld : h.held = [] := by
    obtain ⟨carried, hround, hheld⟩ := hsound.round
    rw [hround.carried_of_finished hrest.reaper] at hheld
    exact List.forall₂_nil_right_iff.1 hheld
  have hplaced := hsound.placed
  rw [line, hwaiting, hheld, List.map_nil, List.append_nil, List.append_nil] at hplaced
  exact hplaced

/-- **No message is lost and none is handled twice**, however clients, workers and the reaper come
between one another: what was put into an inbox is handled once nothing is under way, by a worker
of the device that it is for. -/
theorem messages_accounted (room : Nat) (newSession : Nat → σ) (moves : List (Move ρ)) :
    Accounted ((start room newSession : Hall σ ρ τ).run moves) := by
  have hsound := sound_run room newSession moves
  have hannals := annals_run room newSession moves
  generalize (start room newSession : Hall σ ρ τ).run moves = h at hsound hannals
  have hline : (h.line).Nodup := hsound.placed.nodup_iff.1 hsound.once
  rw [line, List.append_assoc] at hline
  have honce := hline.of_append_left
  refine ⟨hsound.posted.waiting, hsound.posted.served, honce, fun served hserved => ?_, hsound.told,
    hannals, fun hrest k hk => ?_, fun i j v w hv hw hvopen hwopen hpeer => ?_,
    hsound.kept.emptied⟩
  · refine hsound.placed.mem_iff.2 (List.mem_append.2 (.inl (List.mem_append.2 (.inl ?_))))
    exact List.mem_map_of_mem hserved
  · exact List.count_eq_one_of_mem honce ((hsound.handed_perm hrest).mem_iff.1 hk)
  · exact hsound.kept.eq_of_open hv hw hvopen hwopen hpeer

end AudioLink.Hall
