/-
**The round of the reaper.**

The reaper asks one worker after another to retire.  A worker that agrees hands back what stood
behind the question; the reaper takes its entry away and routes the messages anew before it goes on.
Nobody else makes a worker stop, so while the reaper is at that, no entry leads to a worker that has
stopped, but the one of the worker that has just retired.  Therefore the messages it carries always
reach a worker.

Main definitions:

* `AudioLink.Plan.dismiss`, `AudioLink.Plan.onwards` — what the reaper does about a reply, and the
  rest of its round;
* `AudioLink.Plan.Reaping` — the stages of the round: which question is out, which worker has
  retired, and which messages the reaper carries;
* `AudioLink.Plan.OnRound` — the reaper is at some stage, and the directory is as it expects.

Main results:

* `AudioLink.Plan.bind_assoc`, `AudioLink.Plan.bind_retireAll_cons` — the round, one worker at a
  time;
* `AudioLink.Plan.OnRound.advance` — **the reaper goes from stage to stage, and puts what it carries
  into inboxes, in order and without loss**;
* `AudioLink.Plan.OnRound.answer` — a worker that is asked goes on, or hands all its messages to the
  reaper.
-/

import AudioLink.Proofs.Directory.Visits

set_option relaxedAutoImplicit false
set_option autoImplicit false

namespace AudioLink

variable {σ ρ τ : Type}

namespace Plan

variable {α β γ : Type} {d d' : Directory σ ρ τ}

/-! ### One plan after another -/

/-- It does not matter which of three plans are put together first. -/
theorem bind_assoc (p : Plan σ ρ τ α) (f : α → Plan σ ρ τ β) (g : β → Plan σ ρ τ γ) :
    (p.bind f).bind g = p.bind fun a => (f a).bind g := by
  induction p with
  | finished a => rfl
  | find peer next ih => exact congrArg (Plan.find peer) (funext ih)
  | findIn state next ih => exact congrArg (Plan.findIn state) (funext ih)
  | clear next ih => exact congrArg Plan.clear (funext ih)
  | enlist peer next ih => exact congrArg (Plan.enlist peer) (funext ih)
  | forget peer worker next ih => exact congrArg (Plan.forget peer worker) ih
  | send worker item next ih => exact congrArg (Plan.send worker item) (funext ih)
  | ask worker question next ih => exact congrArg (Plan.ask worker question) (funext ih)
  | await ticket next ih => exact congrArg (Plan.await ticket) (funext ih)

/-- A plan is what it is when nothing comes after it. -/
theorem bind_finished (p : Plan σ ρ τ α) : p.bind finished = p := by
  induction p with
  | finished a => rfl
  | find peer next ih => exact congrArg (Plan.find peer) (funext ih)
  | findIn state next ih => exact congrArg (Plan.findIn state) (funext ih)
  | clear next ih => exact congrArg Plan.clear (funext ih)
  | enlist peer next ih => exact congrArg (Plan.enlist peer) (funext ih)
  | forget peer worker next ih => exact congrArg (Plan.forget peer worker) ih
  | send worker item next ih => exact congrArg (Plan.send worker item) (funext ih)
  | ask worker question next ih => exact congrArg (Plan.ask worker question) (funext ih)
  | await ticket next ih => exact congrArg (Plan.await ticket) (funext ih)

/-- What the reaper does about a reply; whether the worker is gone. -/
def dismiss (peer : Address) (worker : Nat) : Reply σ ρ τ → Plan σ ρ τ Bool
  | .busy | .seen _ => finished false
  | .retired leftovers =>
      forget peer worker <| (routeAll peer leftovers).bind fun _ => finished true
  | .gone => forget peer worker <| finished true

theorem retire_eq (peer : Address) (worker : Nat) :
    retire peer worker = (ask worker .retirement (dismiss peer worker) : Plan σ ρ τ Bool) := by
  refine congrArg (ask worker .retirement) (funext fun reply => ?_)
  cases reply <;> rfl

/-- The rest of the round; `count` says how many workers are gone in all. -/
def onwards (entries : List (Address × Nat)) (count : Bool → Nat → Nat) (gone : Bool) :
    Plan σ ρ τ Nat :=
  (retireAll entries).bind fun n => finished (count gone n)

/-- The round: the first worker is asked, and then the others. -/
theorem bind_retireAll_cons (peer : Address) (worker : Nat) (entries : List (Address × Nat))
    (count : Nat → Nat) :
    ((retireAll ((peer, worker) :: entries)).bind fun n => finished (count n) :
        Plan σ ρ τ Nat) =
      ask worker .retirement fun reply => (dismiss peer worker reply).bind
        (onwards entries fun gone n => count (if gone then n + 1 else n)) := by
  rw [retireAll, bind_assoc, retire_eq]
  refine congrArg (ask worker .retirement) (funext fun reply => ?_)
  refine congrArg (dismiss peer worker reply).bind (funext fun gone => ?_)
  rw [bind_assoc]
  rfl

/-! ### Stages -/

/-- What the reaper does once a worker has handed back its messages. -/
def rehouse (peer : Address) (leftovers : List (Message ρ)) (entries : List (Address × Nat))
    (count : Bool → Nat → Nat) : Plan σ ρ τ Nat :=
  (routeAll peer leftovers).bind fun _ => onwards entries count true

theorem bind_dismiss_retired (peer : Address) (worker : Nat) (leftovers : List (Message ρ))
    (entries : List (Address × Nat)) (count : Bool → Nat → Nat) :
    ((dismiss peer worker (.retired leftovers)).bind (onwards entries count) :
        Plan σ ρ τ Nat) =
      forget peer worker (rehouse peer leftovers entries count) :=
  congrArg (forget peer worker) (bind_assoc _ _ _)

/-- The stages of the reaper: on the way, a question may be out to a worker, a worker may have
retired that still has its entry, and the reaper may carry messages. -/
inductive Reaping (d : Directory σ ρ τ) : Plan σ ρ τ Nat → Option (Nat × Nat) → Option Nat →
    List (Address × Message ρ) → Prop
  | setOut : Reaping d reap none none []
  /-- The next worker is to be asked, if there is one. -/
  | next (entries : List (Address × Nat)) (count : Nat → Nat)
      (known : ∀ entry ∈ entries, d.Knows entry.1 entry.2) :
      Reaping d ((retireAll entries).bind fun n => finished (count n)) none none []
  /-- The question is in the inbox. -/
  | asked (peer : Address) (i ticket : Nat) (entries : List (Address × Nat))
      (count : Bool → Nat → Nat) (known : ∀ entry ∈ entries, d.Knows entry.1 entry.2)
      (worker : d.Knows peer i) (given : ticket < d.tickets) (pending : d.reply? ticket = none) :
      Reaping d (await ticket fun reply => (dismiss peer i reply).bind (onwards entries count))
        (some (i, ticket)) none []
  /-- The worker goes on. -/
  | busy (peer : Address) (i ticket : Nat) (entries : List (Address × Nat))
      (count : Bool → Nat → Nat) (known : ∀ entry ∈ entries, d.Knows entry.1 entry.2)
      (reply : d.reply? ticket = some .busy) :
      Reaping d (await ticket fun reply => (dismiss peer i reply).bind (onwards entries count))
        none none []
  /-- The worker has retired. -/
  | retired (peer : Address) (i ticket : Nat) (leftovers : List (Message ρ))
      (entries : List (Address × Nat)) (count : Bool → Nat → Nat)
      (known : ∀ entry ∈ entries, d.Knows entry.1 entry.2) (worker : d.Knows peer i)
      (stopped : d.Stopped i) (reply : d.reply? ticket = some (.retired leftovers)) :
      Reaping d (await ticket fun reply => (dismiss peer i reply).bind (onwards entries count))
        none (some i) (leftovers.map (peer, ·))
  /-- The entry is to be taken away. -/
  | gone (peer : Address) (i : Nat) (leftovers : List (Message ρ))
      (entries : List (Address × Nat)) (count : Bool → Nat → Nat)
      (known : ∀ entry ∈ entries, d.Knows entry.1 entry.2) (worker : d.Knows peer i)
      (stopped : d.Stopped i) :
      Reaping d (forget peer i (rehouse peer leftovers entries count))
        none (some i) (leftovers.map (peer, ·))
  /-- The messages are to be routed. -/
  | routing (peer : Address) (leftovers : List (Message ρ)) (entries : List (Address × Nat))
      (count : Bool → Nat → Nat) (known : ∀ entry ∈ entries, d.Knows entry.1 entry.2) :
      Reaping d (rehouse peer leftovers entries count) none none (leftovers.map (peer, ·))
  /-- The next message is to be put into the inbox of a worker that takes it. -/
  | sending (peer : Address) (j : Nat) (message : Message ρ) (leftovers : List (Message ρ))
      (entries : List (Address × Nat)) (count : Bool → Nat → Nat)
      (known : ∀ entry ∈ entries, d.Knows entry.1 entry.2) (worker : d.Knows peer j)
      (takes : d.Open j) :
      Reaping d (send j (.message message) fun taken =>
          ((if taken then finished (.ok ()) else forget peer j (tryAgain peer message)).bind
            fun _ => routeAll peer leftovers).bind fun _ => onwards entries count true)
        none none ((peer, message) :: leftovers.map (peer, ·))

/-- What else than messages is in an inbox while a question is out. -/
def expected (asked : Option (Nat × Nat)) (j : Nat) : List (Item ρ) :=
  match asked with
  | none => []
  | some (i, ticket) => if j = i then [.question .retirement ticket] else []

/-- The reaper is at some stage, and carries some messages.  The only question in any inbox is its
own, and every entry leads to a worker that takes items, but the one of a worker that has just
retired. -/
def OnRound (d : Directory σ ρ τ) (plan : Plan σ ρ τ Nat) (carried : List (Address × Message ρ)) :
    Prop :=
  ∃ asked leaving, Reaping d plan asked leaving carried ∧
    (∀ j, d.others j = expected asked j) ∧
    ∀ entry ∈ d.entries, leaving ≠ some entry.2 → d.Open entry.2

/-- No ticket was used that was not given out. -/
def Fresh (d : Directory σ ρ τ) : Prop := ∀ reply ∈ d.replies, reply.1 < d.tickets

theorem Fresh.reply?_tickets (h : Fresh d) : d.reply? d.tickets = none := by
  refine Option.map_eq_none_iff.2 (List.find?_eq_none.2 fun reply hreply heq => ?_)
  exact absurd (eq_of_beq heq) (Nat.ne_of_lt (h reply hreply))

/-- The stage of the reaper does not change when others are at work. -/
theorem Reaping.quiet {plan : Plan σ ρ τ Nat} {asked : Option (Nat × Nat)} {leaving : Option Nat}
    {carried : List (Address × Message ρ)} (h : Reaping d plan asked leaving carried)
    (hquiet : Directory.Quiet d d') : Reaping d' plan asked leaving carried := by
  have hreply (ticket : Nat) : d'.reply? ticket = d.reply? ticket := by
    rw [Directory.reply?, Directory.reply?, hquiet.replies]
  have hknown {entries : List (Address × Nat)}
      (known : ∀ entry ∈ entries, d.Knows entry.1 entry.2) :
      ∀ entry ∈ entries, d'.Knows entry.1 entry.2 :=
    fun entry hentry => hquiet.knows _ _ (known entry hentry)
  cases h with
  | setOut => exact .setOut
  | next entries count known => exact .next entries count (hknown known)
  | asked peer i ticket entries count known worker given pending =>
      exact .asked peer i ticket entries count (hknown known) (hquiet.knows _ _ worker)
        (hquiet.tickets ▸ given) ((hreply ticket).trans pending)
  | busy peer i ticket entries count known reply =>
      exact .busy peer i ticket entries count (hknown known) ((hreply ticket).trans reply)
  | retired peer i ticket leftovers entries count known worker stopped reply =>
      exact .retired peer i ticket leftovers entries count (hknown known)
        (hquiet.knows _ _ worker) (hquiet.stopped _ stopped) ((hreply ticket).trans reply)
  | gone peer i leftovers entries count known worker stopped =>
      exact .gone peer i leftovers entries count (hknown known) (hquiet.knows _ _ worker)
        (hquiet.stopped _ stopped)
  | routing peer leftovers entries count known =>
      exact .routing peer leftovers entries count (hknown known)
  | sending peer j message leftovers entries count known worker takes =>
      exact .sending peer j message leftovers entries count (hknown known)
        (hquiet.knows _ _ worker) (hquiet.opens _ takes)

/-- The reaper does not notice when others are at work. -/
theorem OnRound.quiet {plan : Plan σ ρ τ Nat} {carried : List (Address × Message ρ)}
    (h : OnRound d plan carried) (hquiet : Directory.Quiet d d') : OnRound d' plan carried := by
  obtain ⟨asked, leaving, hstage, hothers, hentered⟩ := h
  refine ⟨asked, leaving, hstage.quiet hquiet, fun j => (hquiet.others j).trans (hothers j), ?_⟩
  intro entry hentry hne
  rcases hquiet.entries entry hentry with hold | hopen
  · exact hquiet.opens _ (hentered entry hold hne)
  · exact hopen

/-- When the reaper has finished, it carries nothing. -/
theorem OnRound.carried_of_finished {plan : Plan σ ρ τ Nat} {carried : List (Address × Message ρ)}
    (h : OnRound d plan carried) (hfinished : plan.result?.isSome = true) : carried = [] := by
  obtain ⟨asked, leaving, hstage, -, -⟩ := h
  cases hstage with
  | setOut | next | asked | busy => rfl
  | retired | gone | sending => cases hfinished
  | routing peer leftovers entries count known =>
      cases leftovers with
      | nil => rfl
      | cons message leftovers => cases hfinished

/-- A reaper that has finished sets out on its round. -/
theorem OnRound.setOut {plan : Plan σ ρ τ Nat} {carried : List (Address × Message ρ)}
    (h : OnRound d plan carried) (hfinished : plan.result?.isSome = true) :
    OnRound d reap carried := by
  have hcarried := h.carried_of_finished hfinished
  obtain ⟨asked, leaving, hstage, hothers, hentered⟩ := h
  have hnone : asked = none ∧ leaving = none := by
    cases hstage with
    | setOut | next | routing => exact ⟨rfl, rfl⟩
    | asked | busy | retired | gone | sending => cases hfinished
  obtain ⟨rfl, rfl⟩ := hnone
  subst hcarried
  exact ⟨none, none, .setOut, hothers, hentered⟩

/-! ### Operations of the reaper -/

/-- What becomes of an operation of the reaper: the messages are left alone; or the first of those
that it carries was put into the inbox of a worker of the device. -/
def GoesOn (d : Directory σ ρ τ) (carried : List (Address × Message ρ))
    (plan next : Plan σ ρ τ Nat) (d' : Directory σ ρ τ) : Prop :=
  (plan.puts? d = none ∧ Directory.Calm d d' ∧ d'.Kept ∧ Fresh d' ∧ OnRound d' next carried) ∨
    ∃ i w peer message rest, plan.puts? d = some i ∧ carried = (peer, message) :: rest ∧
      d.Knows peer i ∧ d.workers[i]? = some w ∧ w.closed = false ∧
      d' = d.push i w (.message message) ∧ OnRound d' next rest

section Operations

variable {entries : List (Address × Nat)} {peer : Address} {i : Nat}
  {leftovers : List (Message ρ)} {carried : List (Address × Message ρ)}
  {count : Bool → Nat → Nat} {plan next : Plan σ ρ τ Nat} {result : Directory σ ρ τ}

theorem Fresh.quiet (h : Fresh d) (hquiet : Directory.Quiet d d') : Fresh d' := by
  rwa [Fresh, hquiet.replies, hquiet.tickets]

theorem Fresh.still (h : Fresh d) (hstill : Directory.Still d d') : Fresh d' :=
  h.quiet hstill.quiet

theorem GoesOn.of_still (hstill : Directory.Still d d') (hkept : d'.Kept) (hfresh : Fresh d)
    (hputs : plan.puts? d = none) (hround : OnRound d' next carried) :
    GoesOn d carried plan next d' :=
  .inl ⟨hputs, hstill.calm, hkept, hfresh.still hstill, hround⟩

/-- A question that is to be put into an inbox is put there, or has to wait for room, or finds the
worker stopped.  A ticket was given out in any case but the second. -/
theorem advance_ask_cases {α : Type} (d : Directory σ ρ τ) (i : Nat) (question : Question)
    (next : Reply σ ρ τ → Plan σ ρ τ α) :
    (∃ w, d.workers[i]? = some w ∧ w.closed = false ∧ (ask i question next).advance d =
      some (await d.tickets next, ({ d with tickets := d.tickets + 1 } : Directory σ ρ τ).push i w
        (.question question d.tickets))) ∨
    (ask i question next).advance d = none ∨
    ¬d.Open i ∧ (ask i question next).advance d =
      some (next .gone, { d with tickets := d.tickets + 1 }) := by
  have hask : d.ask i question = Directory.offer { d with tickets := d.tickets + 1 } i
      (.question question d.tickets) := rfl
  rcases Directory.offer_cases { d with tickets := d.tickets + 1 } i
    (.question question d.tickets) with
    ⟨w, hw, hopen, -, heq⟩ | ⟨w, hw, hopen, -, heq⟩ | ⟨hclosed, heq⟩
  · exact .inl ⟨w, hw, hopen, by rw [advance, hask, heq]; rfl⟩
  · exact .inr (.inl (by rw [advance, hask, heq]))
  · exact .inr (.inr ⟨hclosed, by rw [advance, hask, heq]⟩)

/-- A ticket that was given out changes nothing for anybody. -/
theorem onward_issued : Directory.Onward d { d with tickets := d.tickets + 1 } := .of_workers_eq rfl

theorem kept_issued (hkept : d.Kept) :
    ({ d with tickets := d.tickets + 1 } : Directory σ ρ τ).Kept :=
  ⟨hkept.unique, hkept.known, hkept.listed, hkept.emptied⟩

theorem Fresh.issued (h : Fresh d) :
    Fresh ({ d with tickets := d.tickets + 1 } : Directory σ ρ τ) :=
  fun reply hreply => Nat.lt_succ_of_lt (h reply hreply)

/-- The question is in the inbox of the next worker. -/
theorem onRound_asked {w : Worker σ ρ τ} (hfresh : Fresh d)
    (known : ∀ entry ∈ entries, d.Knows entry.1 entry.2) (worker : d.Knows peer i)
    (hothers : ∀ j, d.others j = []) (hentered : ∀ entry ∈ d.entries, d.Open entry.2)
    (hw : d.workers[i]? = some w) (hopen : w.closed = false) :
    OnRound (({ d with tickets := d.tickets + 1 } : Directory σ ρ τ).push i w
        (.question .retirement d.tickets))
      (await d.tickets fun reply => (dismiss peer i reply).bind (onwards entries count)) [] := by
  have hreplaced := Directory.replaced_push (d := { d with tickets := d.tickets + 1 }) hw hopen
    (.question .retirement d.tickets)
  have honward : Directory.Onward d (({ d with tickets := d.tickets + 1 } :
      Directory σ ρ τ).push i w (.question .retirement d.tickets)) :=
    onward_issued.trans hreplaced.onward
  refine ⟨some (i, d.tickets), none, .asked peer i d.tickets entries count
    (fun e he => honward.knows _ _ (known e he)) (honward.knows _ _ worker) (Nat.lt_succ_self _)
    hfresh.reply?_tickets, fun j => ?_, fun entry hentry _ => ?_⟩
  · have hnone : (d.inbox j).filter (fun item => item.message?.isNone) = [] := hothers j
    have hinbox := Directory.inbox_push (d := { d with tickets := d.tickets + 1 }) hw hopen
      (.question .retirement d.tickets) j
    rw [Directory.others, hinbox, expected]
    split
    · rw [List.filter_append]
      exact congrArg (· ++ _) hnone
    · exact hnone
  · exact Directory.open_push (d := { d with tickets := d.tickets + 1 }) hw hopen _
      (hentered entry hentry)

/-- The next worker is asked; or it has stopped already. -/
theorem goesOn_ask (hkept : d.Kept) (hfresh : Fresh d)
    (known : ∀ entry ∈ entries, d.Knows entry.1 entry.2) (worker : d.Knows peer i)
    (hothers : ∀ j, d.others j = []) (hentered : ∀ entry ∈ d.entries, d.Open entry.2)
    (hadvance : (ask i .retirement fun reply =>
      (dismiss peer i reply).bind (onwards entries count)).advance d = some (next, result)) :
    GoesOn d [] (ask i .retirement fun reply => (dismiss peer i reply).bind (onwards entries count))
      next result := by
  rcases advance_ask_cases d i .retirement fun reply =>
      (dismiss peer i reply).bind (onwards entries count) with
    ⟨w, hw, hopen, heq⟩ | hnone | ⟨hclosed, heq⟩
  · obtain ⟨rfl, rfl⟩ := Prod.mk.inj (Option.some.inj (heq.symm.trans hadvance))
    have hreplaced := Directory.replaced_push (d := { d with tickets := d.tickets + 1 }) hw hopen
      (.question .retirement d.tickets)
    refine .inl ⟨rfl, ⟨onward_issued.trans hreplaced.onward, fun j => ?_, rfl⟩,
      hreplaced.kept (kept_issued hkept), hfresh.issued,
      onRound_asked hfresh known worker hothers hentered hw hopen⟩
    -- a question is no message
    rw [Directory.letters, Directory.inbox_push (d := { d with tickets := d.tickets + 1 }) hw hopen]
    split
    · rw [List.filterMap_append]
      exact List.append_nil _
    · rfl
  · cases hnone.symm.trans hadvance
  · obtain ⟨rfl, rfl⟩ := Prod.mk.inj (Option.some.inj (heq.symm.trans hadvance))
    exact .inl ⟨rfl, ⟨onward_issued, fun _ => rfl, rfl⟩, kept_issued hkept, hfresh.issued, none,
      some i, .gone peer i [] entries count known worker (stopped_of_not_open worker hclosed),
      hothers, fun entry hentry _ => hentered entry hentry⟩

/-- The reaper goes on to the next worker, if there is one. -/
theorem goesOn_next {count : Nat → Nat} (hkept : d.Kept) (hfresh : Fresh d)
    (known : ∀ entry ∈ entries, d.Knows entry.1 entry.2) (hothers : ∀ j, d.others j = [])
    (hentered : ∀ entry ∈ d.entries, d.Open entry.2)
    (hadvance : ((retireAll entries).bind fun n => finished (count n)).advance d =
      some (next, result)) :
    GoesOn d [] ((retireAll entries).bind fun n => finished (count n)) next result := by
  cases entries with
  | nil => cases hadvance
  | cons entry entries =>
      obtain ⟨peer, i⟩ := entry
      rw [bind_retireAll_cons] at hadvance ⊢
      exact goesOn_ask hkept hfresh (fun e he => known e (List.mem_cons_of_mem _ he))
        (known _ (List.mem_cons_self ..)) hothers hentered hadvance

/-- Where the entry of one worker was taken away, the others lead to workers that take items. -/
theorem open_of_mem_forget (hkept : d.Kept) (worker : d.Knows peer i)
    (hentered : ∀ entry ∈ d.entries, some i ≠ some entry.2 → d.Open entry.2) :
    ∀ entry ∈ (d.forget peer i).entries, d.Open entry.2 := by
  intro entry hentry
  obtain ⟨hold, hne⟩ := Directory.mem_entries_forget.1 hentry
  refine hentered entry hold fun heq => hne ?_
  -- an entry that leads to the worker is the entry of its device
  obtain ⟨w, hw, hpeer⟩ := worker
  obtain ⟨w', hw', hpeer'⟩ := hkept.known entry hold
  obtain rfl := Option.some.inj heq
  cases hw.symm.trans hw'
  exact Prod.ext (hpeer'.symm.trans hpeer) rfl

/-- For the next message a worker is looked up, or entered. -/
theorem onRound_enlisted (hkept : d.Kept) (message : Message ρ)
    (known : ∀ entry ∈ entries, d.Knows entry.1 entry.2) (hothers : ∀ j, d.others j = [])
    (hentered : ∀ entry ∈ d.entries, d.Open entry.2) :
    OnRound (d.enlist peer).2
      (send (d.enlist peer).1 (.message message) fun taken =>
        ((if taken then finished (.ok ())
            else forget peer (d.enlist peer).1 (tryAgain peer message)).bind
          fun _ => routeAll peer leftovers).bind fun _ => onwards entries count true)
      ((peer, message) :: leftovers.map (peer, ·)) := by
  have hstill := d.still_enlist peer
  refine ⟨none, none, .sending peer (d.enlist peer).1 message leftovers entries count
    (fun e he => hstill.knows _ _ (known e he)) (hkept.knows_enlist peer)
    (Directory.open_enlist hentered peer), fun j => (hstill.quiet.others j).trans (hothers j),
    fun entry hentry _ => ?_⟩
  rcases hstill.entries entry hentry with hold | hopen
  · exact hstill.opens _ (hentered entry hold)
  · exact hopen

/-- The message is put into the inbox of the worker, which takes it. -/
theorem goesOn_send {j : Nat} {message : Message ρ}
    (known : ∀ entry ∈ entries, d.Knows entry.1 entry.2) (worker : d.Knows peer j)
    (takes : d.Open j) (hothers : ∀ j, d.others j = [])
    (hentered : ∀ entry ∈ d.entries, d.Open entry.2)
    (hplan : plan = send j (.message message) fun taken =>
      ((if taken then finished (.ok ()) else forget peer j (tryAgain peer message)).bind
        fun _ => routeAll peer leftovers).bind fun _ => onwards entries count true)
    (hadvance : plan.advance d = some (next, result)) :
    GoesOn d ((peer, message) :: leftovers.map (peer, ·)) plan next result := by
  subst hplan
  rcases advance_send_cases d j message (fun taken =>
      ((if taken then .finished (.ok ()) else forget peer j (tryAgain peer message)).bind
        fun _ => routeAll peer leftovers).bind fun _ => onwards entries count true) with
    ⟨w, hw, hopen, hputs, heq⟩ | ⟨hnone, -⟩ | ⟨hclosed, -, -⟩
  · obtain ⟨rfl, rfl⟩ := Prod.mk.inj (Option.some.inj (heq.symm.trans hadvance))
    have hquiet := Directory.quiet_push hw hopen message
    exact .inr ⟨j, w, peer, message, leftovers.map (peer, ·), hputs, rfl, worker, hw, hopen,
      rfl, none, none, .routing peer leftovers entries count
        (fun e he => hquiet.knows _ _ (known e he)),
      fun j => (hquiet.others j).trans (hothers j),
      fun entry hentry _ => hquiet.opens _ (hentered entry hentry)⟩
  · cases hnone.symm.trans hadvance
  · exact absurd takes hclosed

/-- **The reaper goes from stage to stage.** -/
theorem OnRound.advance (hkept : d.Kept) (hfresh : Fresh d) (h : OnRound d plan carried)
    (hadvance : plan.advance d = some (next, result)) : GoesOn d carried plan next result := by
  obtain ⟨asked, leaving, hstage, hothers, hentered⟩ := h
  cases hstage with
  | setOut =>
      obtain ⟨rfl, rfl⟩ := Prod.mk.inj (Option.some.inj hadvance)
      have hknown : ∀ entry ∈ d.entriesIn .disconnected, d.Knows entry.1 entry.2 :=
        fun entry hentry => hkept.known entry (List.mem_filter.1 hentry).1
      refine .of_still (.refl d) hkept hfresh rfl ⟨none, none, ?_, hothers, hentered⟩
      rw [← bind_finished (retireAll _)]
      exact .next _ id hknown
  | next entries count known =>
      exact goesOn_next hkept hfresh known hothers (fun e he => hentered e he nofun) hadvance
  | asked peer i ticket entries count known worker given pending =>
      rw [Plan.advance, pending] at hadvance
      cases hadvance
  | busy peer i ticket entries count known reply =>
      rw [Plan.advance, reply] at hadvance
      obtain ⟨rfl, rfl⟩ := Prod.mk.inj (Option.some.inj hadvance)
      exact .of_still (.refl d) hkept hfresh rfl
        ⟨none, none, .next entries (count false) known, hothers, hentered⟩
  | retired peer i ticket leftovers entries count known worker stopped reply =>
      rw [Plan.advance, reply] at hadvance
      obtain ⟨rfl, rfl⟩ := Prod.mk.inj (Option.some.inj hadvance)
      rw [bind_dismiss_retired]
      exact .of_still (.refl d) hkept hfresh rfl
        ⟨none, some i, .gone peer i leftovers entries count known worker stopped, hothers, hentered⟩
  | gone peer i leftovers entries count known worker stopped =>
      obtain ⟨rfl, rfl⟩ := Prod.mk.inj (Option.some.inj hadvance)
      exact .of_still (d.still_forget peer i) (hkept.forget peer stopped) hfresh rfl
        ⟨none, none, .routing peer leftovers entries count known, hothers,
          fun entry hentry _ => open_of_mem_forget hkept worker hentered entry hentry⟩
  | routing peer leftovers entries count known =>
      cases leftovers with
      | nil =>
          have hopen := fun e he => hentered e he nofun
          exact goesOn_next hkept hfresh known hothers hopen hadvance
      | cons message leftovers =>
          obtain ⟨rfl, rfl⟩ := Prod.mk.inj (Option.some.inj hadvance)
          exact .of_still (d.still_enlist peer) (hkept.enlist peer) hfresh rfl
            (onRound_enlisted hkept message known hothers fun e he => hentered e he nofun)
  | sending peer j message leftovers entries count known worker takes =>
      exact goesOn_send known worker takes hothers (fun e he => hentered e he nofun) rfl hadvance

end Operations

/-! ### Turns of workers -/

section Turns

variable {i : Nat} {w : Worker σ ρ τ} {rest : List (Item ρ)}

theorem Fresh.enter (h : Fresh d) {turn : Turn σ ρ τ}
    (hreplies : ∀ reply ∈ turn.replies, reply.1 < d.tickets) : Fresh (d.enter i turn) := by
  intro reply hreply
  rcases List.mem_append.1 hreply with hold | hnew
  · exact h reply hold
  · exact hreplies reply hnew

/-- Nothing but messages is behind the question of the reaper, so nobody else gets a reply. -/
theorem replies_of_messages (link : Link σ ρ τ)
    (hmessages : rest.filter (fun item => item.message?.isNone) = []) :
    rest.filterMap (Item.replyOfRetired link) = [] := by
  refine List.filterMap_eq_nil_iff.2 fun item hitem => ?_
  have hmessage := List.filter_eq_nil_iff.1 hmessages item hitem
  cases item with
  | message m => rfl
  | question question ticket => exact absurd rfl hmessage
  | stop => exact absurd rfl hmessage

/-- The question of the reaper is in the inbox of a worker, and in no other. -/
structure Awaits (d : Directory σ ρ τ) (peer : Address) (i ticket : Nat)
    (entries : List (Address × Nat)) : Prop where
  known : ∀ entry ∈ entries, d.Knows entry.1 entry.2
  worker : d.Knows peer i
  given : ticket < d.tickets
  pending : d.reply? ticket = none
  others : ∀ j, d.others j = expected (some (i, ticket)) j
  entered : ∀ entry ∈ d.entries, d.Open entry.2

/-- The question of the reaper is the only item that is no message. -/
theorem OnRound.awaits {plan : Plan σ ρ τ Nat} {carried : List (Address × Message ρ)}
    {item : Item ρ} (h : OnRound d plan carried) (hw : d.workers[i]? = some w)
    (hinbox : w.inbox = item :: rest) (hother : item.message? = none) :
    carried = [] ∧ ∃ peer ticket entries count, item = .question .retirement ticket ∧
      rest.filter (fun item => item.message?.isNone) = [] ∧
      plan = (await ticket fun reply => (dismiss peer i reply).bind (onwards entries count)) ∧
      Awaits d peer i ticket entries := by
  obtain ⟨asked, leaving, hstage, hothers, hentered⟩ := h
  have hbehind : item :: rest.filter (fun item => item.message?.isNone) = expected asked i := by
    have hthere := hothers i
    rw [Directory.others, Directory.inbox_eq hw, hinbox,
      List.filter_cons_of_pos (by rw [hother]; rfl)] at hthere
    exact hthere
  cases hstage with
  | setOut | next | busy | retired | gone | routing | sending => cases hbehind
  | asked peer j ticket entries count known worker given pending =>
      have hij : i = j := by
        by_contra hne
        rw [expected, if_neg hne] at hbehind
        cases hbehind
      subst hij
      rw [expected, if_pos rfl] at hbehind
      obtain ⟨rfl, hmessages⟩ := List.cons.inj hbehind
      exact ⟨rfl, peer, ticket, entries, count, rfl, hmessages, rfl, known, worker, given, pending,
        hothers, fun entry hentry => hentered entry hentry (Option.some_ne_none _).symm⟩

/-- Once the worker has replied, no question is out any more. -/
theorem Awaits.replied {peer : Address} {ticket : Nat} {entries : List (Address × Nat)}
    {v : Worker σ ρ τ} {reply : Reply σ ρ τ} {result : Directory σ ρ τ}
    (h : Awaits d peer i ticket entries)
    (hresult : result = d.enter i ⟨v, [], [], [(ticket, reply)]⟩)
    (hreplaced : Directory.Replaced i w v d result)
    (hmessages : v.inbox.filter (fun item => item.message?.isNone) = []) :
    result.reply? ticket = some reply ∧ (∀ j, result.others j = expected none j) ∧
      ∀ entry ∈ result.entries, entry.2 ≠ i → result.Open entry.2 := by
  refine ⟨?_, fun j => ?_, fun entry hentry hne => ?_⟩
  · have hnone := Option.map_eq_none_iff.1 h.pending
    rw [hresult, Directory.reply?]
    show (List.find? _ (d.replies ++ _)).map _ = _
    rw [List.find?_append, hnone]
    simp
  · by_cases hji : j = i
    · subst hji
      rw [Directory.others, hreplaced.inbox_same]
      exact hmessages
    · have hthere := h.others j
      rw [expected, if_neg hji] at hthere
      rw [Directory.others, hreplaced.inbox_other hji]
      exact hthere
  · obtain ⟨v, hv, hvopen⟩ := h.entered entry (hreplaced.entries ▸ hentry)
    exact ⟨v, (hreplaced.other hne).trans hv, hvopen⟩

variable [ProfileSession σ ρ τ] [DecidableEq τ] [Outlined ρ]

/-- A worker with an idle link retires and hands back the messages in its inbox. -/
theorem handle_retires (scene : Scene) (ticket : Nat) (hidle : w.link.isIdle = true)
    (hmessages : rest.filter (fun item => item.message?.isNone) = []) :
    w.handle scene (.question .retirement ticket) rest =
      ⟨w.close, [], [], [(ticket, .retired (rest.filterMap Item.message?))]⟩ := by
  rw [Worker.handle, if_pos hidle, replies_of_messages w.link hmessages]

theorem handle_stays (scene : Scene) (ticket : Nat) (hbusy : w.link.isIdle = false) :
    w.handle scene (.question .retirement ticket) rest =
      ⟨Worker.publish { w with inbox := rest }, [], [], [(ticket, .busy)]⟩ := by
  rw [Worker.handle, if_neg (Bool.eq_false_iff.1 hbusy)]

/-- **A worker that is asked goes on, or hands all its messages to the reaper.** -/
theorem OnRound.answer {plan : Plan σ ρ τ Nat} {carried : List (Address × Message ρ)}
    {item : Item ρ} {scene : Scene} (hfresh : Fresh d)
    (h : OnRound d plan carried) (hw : d.workers[i]? = some w) (hinbox : w.inbox = item :: rest)
    (hother : item.message? = none) {result : Directory σ ρ τ}
    (hresult : result = d.enter i (w.handle scene item rest))
    (hreplaced : Directory.Replaced i w (w.handle scene item rest).worker d result)
    (hopen : w.closed = false) :
    carried = [] ∧ Fresh result ∧ result.handled = d.handled ∧
      (result.Open i ∧ result.letters i = d.letters i ∧ OnRound result plan [] ∨
        result.Stopped i ∧ result.letters i = [] ∧
          ∃ peer, d.Knows peer i ∧ OnRound result plan ((d.letters i).map (peer, ·))) := by
  obtain ⟨hcarried, peer, ticket, entries, count, rfl, hmessages, rfl, hawaits⟩ :=
    h.awaits hw hinbox hother
  have hletters : d.letters i = rest.filterMap Item.message? := by
    rw [Directory.letters, hreplaced.inbox_was, hinbox]
    rfl
  have hknown : ∀ entry ∈ entries, result.Knows entry.1 entry.2 :=
    fun entry hentry => hreplaced.onward.knows _ _ (hawaits.known entry hentry)
  have hfresh' (reply : Reply σ ρ τ) (v : Worker σ ρ τ) :
      Fresh (d.enter i ⟨v, [], [], [(ticket, reply)]⟩) := by
    refine hfresh.enter fun entry hentry => ?_
    rw [List.mem_singleton.1 hentry]
    exact hawaits.given
  refine ⟨hcarried, ?_⟩
  cases hidle : w.link.isIdle with
  | true =>
      rw [handle_retires scene ticket hidle hmessages] at hresult hreplaced
      have hstopped : result.Stopped i := ⟨_, hreplaced.same, rfl⟩
      obtain ⟨hreply, hothers, hentered⟩ := hawaits.replied hresult hreplaced rfl
      refine ⟨hresult ▸ hfresh' _ _, ?_, .inr ⟨hstopped, ?_, peer, hawaits.worker, ?_⟩⟩
      · rw [hresult]
        exact List.append_nil _
      · rw [Directory.letters, hreplaced.inbox_same]
        rfl
      · rw [hletters]
        exact ⟨none, some i, .retired peer i ticket _ entries count hknown
          (hreplaced.onward.knows _ _ hawaits.worker) hstopped hreply, hothers,
          fun entry hentry hne => hentered entry hentry fun heq => hne (congrArg some heq.symm)⟩
  | false =>
      rw [handle_stays scene ticket hidle] at hresult hreplaced
      have hopens : result.Open i := ⟨_, hreplaced.same, hopen⟩
      obtain ⟨hreply, hothers, hentered⟩ := hawaits.replied hresult hreplaced hmessages
      refine ⟨hresult ▸ hfresh' _ _, ?_, .inl ⟨hopens, ?_, ?_⟩⟩
      · rw [hresult]
        exact List.append_nil _
      · rw [hletters, Directory.letters, hreplaced.inbox_same]
        rfl
      · refine ⟨none, none, .busy peer i ticket entries count hknown hreply, hothers,
          fun entry hentry _ => ?_⟩
        by_cases hei : entry.2 = i
        · exact hei ▸ hopens
        · exact hentered entry hentry hei

end Turns

end Plan

end AudioLink
