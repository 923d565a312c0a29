/-
**What concerns one device.**

Of all that is in a directory, one device sees little: the clock, the link that its worker runs, and
what has left it.  What is done to the directory shows in this aspect in one way only, in whatever
order the workers do their work: a message for the device is handled, and then the link is woken
until none of its alarms is due; as time passes it is woken at each alarm; the reaper takes it away
if it is idle, and it goes when all workers are stopped.  What is done about other devices does not
show.

Main definitions:

* `AudioLink.Treatment` — how the transport and the user treat one device;
* `AudioLink.Treatment.Rouses`, `AudioLink.Treatment.Lasts` — a link is woken until nothing is due,
  and as often as it has to be while time passes;
* `AudioLink.Aspect`, `AudioLink.Directory.aspect` — what concerns one device;
* `AudioLink.Aspect.Follows` — what becomes of it.

Main results:

* `AudioLink.Directory.stir_for` — what workers do shows in the aspect of one device;
* `AudioLink.Directory.rouses_of_stirs`, `AudioLink.Directory.lasts_of_elapses` — when workers have
  done all there is to do, the link was woken until nothing was due;
* `AudioLink.Directory.Does.follows` — **whatever is done, and in whatever order, what becomes of the
  aspect is settled by the aspect**.
-/

import AudioLink.Proofs.Directory.Stopping

set_option relaxedAutoImplicit false
set_option autoImplicit false

namespace AudioLink

variable {σ ρ τ : Type}

/-! ### One device -/

/-- How one device is treated: how the transport answers in view of all that has left its link, and
what the user has said. -/
structure Treatment where
  transport : Transport
  preferences : Preferences

/-- Whether a link has to be woken. -/
def Link.isDue (link : Link σ ρ τ) (now : Instant) : Bool :=
  link.alarms.nextDeadline.any (· ≤ now)

theorem Link.isDue_eq_false_iff {link : Link σ ρ τ} {now : Instant} : link.isDue now = false ↔
    ∀ deadline, link.alarms.nextDeadline = some deadline → now < deadline := by
  rw [isDue]
  cases link.alarms.nextDeadline with
  | none => simp
  | some deadline => simp

namespace Treatment

/-- The surroundings treat a device like this. -/
structure Given (t : Treatment) (peer : Address) (s : Surroundings) : Prop where
  transport : s.transport peer = t.transport
  preferences : s.preferences = t.preferences

/-- The scene in which something is handled, after all that has left the link. -/
def scene (t : Treatment) (now : Instant) (log : List Effect) : Scene :=
  ⟨now, fun recent => t.transport (log ++ recent), t.preferences⟩

variable [ProfileSession σ ρ τ] [DecidableEq τ] [Outlined ρ]

/-- A link is handed a message; what leaves it comes after what has left it before. -/
def hand (t : Treatment) (now : Instant) (message : Message ρ) (life : Link σ ρ τ × List Effect) :
    Link σ ρ τ × List Effect :=
  let moment := life.1.process (t.scene now life.2) message
  (moment.1, life.2 ++ moment.2)

/-- A link is handed one message after another. -/
def handAll (t : Treatment) (now : Instant) (messages : List (Message ρ))
    (life : Link σ ρ τ × List Effect) : Link σ ρ τ × List Effect :=
  messages.foldl (fun life message => t.hand now message life) life

/-- A link is woken. -/
def rouse (t : Treatment) (now : Instant) (life : Link σ ρ τ × List Effect) :
    Link σ ρ τ × List Effect :=
  let moment := life.1.fireDue (t.scene now life.2)
  (moment.1, life.2 ++ moment.2)

/-- A link is woken until nothing is due. -/
inductive Rouses (t : Treatment) (now : Instant) :
    Link σ ρ τ × List Effect → Link σ ρ τ × List Effect → Prop
  | quiet {life : Link σ ρ τ × List Effect} (hquiet : life.1.isDue now = false) :
      Rouses t now life life
  | wake {life last : Link σ ρ τ × List Effect} (hdue : life.1.isDue now = true)
      (hrest : Rouses t now (t.rouse now life) last) : Rouses t now life last

/-- A link is woken at each of its alarms, up to an instant. -/
inductive Lasts (t : Treatment) (target : Instant) :
    Instant → Link σ ρ τ × List Effect → Link σ ρ τ × List Effect → Prop
  | quiet {now : Instant} {life : Link σ ρ τ × List Effect}
      (hquiet : life.1.isDue target = false) : Lasts t target now life life
  | alarm {now deadline : Instant} {life roused last : Link σ ρ τ × List Effect}
      (hnext : life.1.alarms.nextDeadline = some deadline) (hlater : now < deadline)
      (hwithin : deadline ≤ target) (hrouses : Rouses t deadline life roused)
      (hrest : Lasts t target deadline roused last) : Lasts t target now life last

variable {t : Treatment} {now : Instant} {life last : Link σ ρ τ × List Effect}

/-- A link of which nothing is due is not woken. -/
theorem Rouses.eq_of_quiet (h : Rouses t now life last) (hquiet : life.1.isDue now = false) :
    last = life := by
  cases h with
  | quiet => rfl
  | wake hdue _ => cases hquiet.symm.trans hdue

/-- As long as nothing is due, it does not matter from when on the alarms are waited for. -/
theorem Rouses.lasts {target earlier : Instant} {roused : Link σ ρ τ × List Effect}
    (h : Rouses t now life roused) (hrest : Lasts t target now roused last)
    (hquiet : ∀ deadline, life.1.alarms.nextDeadline = some deadline → now ≤ deadline)
    (hearlier : earlier < now) (hwithin : now ≤ target) : Lasts t target earlier life last := by
  cases h with
  | wake hdue hroused =>
      obtain ⟨deadline, hnext, hle⟩ := (Option.any_eq_true _ _).1 hdue
      obtain rfl := Nat.le_antisymm (of_decide_eq_true hle) (hquiet deadline hnext)
      exact .alarm hnext hearlier hwithin (.wake hdue hroused) hrest
  | quiet hidle =>
      cases hrest with
      | quiet hquiet => exact .quiet hquiet
      | alarm hnext hlater hwithin hrouses hrest =>
          exact .alarm hnext (Nat.lt_trans hearlier hlater) hwithin hrouses hrest

end Treatment

/-! ### The aspect of one device -/

/-- What concerns one device. -/
structure Aspect (σ ρ τ : Type) where
  now : Instant
  /-- How many workers there have been in all. -/
  count : Nat
  /-- The link that the worker of the device runs. -/
  link? : Option (Link σ ρ τ)
  /-- What has left the links to the device. -/
  log : List Effect

namespace Aspect

/-- The link to the device; a new one if there is none. -/
def link (newSession : Nat → σ) (peer : Address) (v : Aspect σ ρ τ) : Link σ ρ τ :=
  v.link?.getD (.start peer (newSession v.count))

/-- The aspect after the link has gone on. -/
def goOn (v : Aspect σ ρ τ) (now : Instant) (life : Link σ ρ τ × List Effect) : Aspect σ ρ τ :=
  ⟨now, if v.link?.isSome then v.count else v.count + 1, some life.1, life.2⟩

/-- The aspect after the worker was asked to retire. -/
def retired (v : Aspect σ ρ τ) : Aspect σ ρ τ := { v with link? := v.link?.filter (!·.isIdle) }

/-- What becomes of the aspect when something is done. -/
inductive Follows [ProfileSession σ ρ τ] [DecidableEq τ] [Outlined ρ] (t : Treatment)
    (newSession : Nat → σ) (peer : Address) (v : Aspect σ ρ τ) : Deed ρ → Aspect σ ρ τ → Prop
  /-- What concerns others does not show, except that there may be more workers. -/
  | foreign {other : Address} {message : Message ρ} {count : Nat} (hother : other ≠ peer)
      (hcount : v.count ≤ count) : Follows t newSession peer v (.call other message)
        { v with count := count }
  /-- The message does not make the device known. -/
  | unheeded {message : Message ρ} (hopens : message.opens = false) (hnone : v.link? = none) :
      Follows t newSession peer v (.call peer message) v
  | heeded {message : Message ρ} {life : Link σ ρ τ × List Effect}
      (hknown : message.opens = false → v.link?.isSome = true)
      (hrouses : t.Rouses v.now (t.hand v.now message (v.link newSession peer, v.log)) life) :
      Follows t newSession peer v (.call peer message) (v.goOn v.now life)
  | reaped : Follows t newSession peer v .reap v.retired
  | stopped : Follows t newSession peer v .stop { v with link? := none }
  | waited {duration : Duration} (hnone : v.link? = none) :
      Follows t newSession peer v (.pass duration) { v with now := v.now + duration }
  | lasted {duration : Duration} {link : Link σ ρ τ} {life : Link σ ρ τ × List Effect}
      (hlink : v.link? = some link)
      (hlasts : t.Lasts (v.now + duration) v.now (link, v.log) life) :
      Follows t newSession peer v (.pass duration) (v.goOn (v.now + duration) life)

/-- A link of which nothing is due after the message has but handled the message. -/
theorem Follows.eq_of_quiet [ProfileSession σ ρ τ] [DecidableEq τ] [Outlined ρ] {t : Treatment}
    {newSession : Nat → σ} {peer : Address} {message : Message ρ} {v w : Aspect σ ρ τ}
    (h : v.Follows t newSession peer (.call peer message) w)
    (hknown : message.opens = false → v.link?.isSome = true)
    (hquiet : (t.hand v.now message (v.link newSession peer, v.log)).1.isDue v.now = false) :
    w = v.goOn v.now (t.hand v.now message (v.link newSession peer, v.log)) := by
  cases h with
  | foreign hother => exact absurd rfl hother
  | unheeded hopens hnone =>
      have hsome := hknown hopens
      rw [hnone] at hsome
      cases hsome
  | heeded _ hrouses => rw [hrouses.eq_of_quiet hquiet]

end Aspect

namespace Directory

variable {d d' : Directory σ ρ τ} {peer : Address} {i : Nat} {v w : Worker σ ρ τ}

/-- The worker of a device itself. -/
def worker? (d : Directory σ ρ τ) (peer : Address) : Option (Worker σ ρ τ) :=
  (d.find? peer).bind fun i => d.workers[i]?

/-- What concerns one device. -/
def aspect (d : Directory σ ρ τ) (peer : Address) : Aspect σ ρ τ :=
  ⟨d.now, d.workers.length, (d.worker? peer).map (·.link), d.logOf peer⟩

/-- The scene of a worker is that of its device. -/
theorem scene_eq {t : Treatment} {s : Surroundings} (hgiven : t.Given peer s) :
    d.scene s peer = t.scene d.now (d.logOf peer) := by
  rw [scene, Treatment.scene, hgiven.transport, hgiven.preferences]

/-- A worker that takes items is the worker of its device. -/
theorem Kept.worker?_eq (h : d.Kept) (hw : d.workers[i]? = some w) (hopen : w.closed = false) :
    d.worker? w.link.peer = some w := by
  have hfound : d.find? w.link.peer = some i := (find?_eq_iff h).2 (h.listed i w hw hopen)
  rw [worker?, hfound]
  exact hw

/-- The worker of a device: there is none, or it takes items. -/
theorem InOrder.of_worker? (h : d.InOrder) (hworker : d.worker? peer = some w) :
    ∃ i, (peer, i) ∈ d.entries ∧ d.workers[i]? = some w ∧ w.link.peer = peer ∧
      w.closed = false := by
  obtain ⟨i, hfound, hw⟩ := Option.bind_eq_some_iff.1 hworker
  have hentry := mem_of_find? hfound
  obtain ⟨v, hv, hpeer, hopen⟩ := h.worker hentry
  cases hw.symm.trans hv
  exact ⟨i, hentry, hw, hpeer, hopen⟩

/-- When a worker is replaced, this shows for its device. -/
theorem Replaced.worker? (h : Replaced i w v d d') (horder : d.InOrder) (hopen : w.closed = false)
    (peer : Address) :
    d'.worker? peer = if w.link.peer = peer then some v else d.worker? peer := by
  have hfind : d'.find? peer = d.find? peer := by rw [find?, find?, h.entries]
  rw [Directory.worker?, Directory.worker?, hfind]
  split
  · next hpeer =>
      have hfound : d.find? peer = some i :=
        (find?_eq_iff horder.kept).2 (hpeer ▸ horder.kept.listed i w h.was hopen)
      rw [hfound]
      exact h.same
  · next hpeer =>
      cases hfound : d.find? peer with
      | none => rfl
      | some j =>
          refine h.other fun hji => hpeer ?_
          obtain ⟨u, hu, hupeer, -⟩ := horder.worker (mem_of_find? hfound)
          subst hji
          cases h.was.symm.trans hu
          exact hupeer

/-- Entering a worker shows for its device only. -/
theorem worker?_enlist_of_ne (h : d.Kept) {other : Address} (hother : other ≠ peer) :
    (d.enlist peer).2.worker? other = d.worker? other := by
  have hkept := h.enlist peer
  rcases d.enlist_cases peer with ⟨i, -, heq⟩ | ⟨-, heq⟩
  · rw [heq]
  · have hentries : (d.enlist peer).2.entries = placeEntry (peer, d.workers.length) d.entries := by
      rw [heq]
    have hfind : (d.enlist peer).2.find? other = d.find? other := by
      refine Option.ext fun j => ?_
      rw [find?_eq_iff hkept, find?_eq_iff h, hentries, (perm_placeEntry _ _).mem_iff,
        List.mem_cons]
      exact or_iff_right fun hsame => hother (congrArg Prod.fst hsame)
    rw [worker?, worker?, hfind]
    cases hfound : d.find? other with
    | none => rfl
    | some j =>
        obtain ⟨w, hw, -⟩ := h.known _ (mem_of_find? hfound)
        rw [heq]
        exact List.getElem?_append_left (List.getElem?_eq_some_iff.1 hw).1

/-- Whoever is entered is for the device. -/
theorem peers_enlist (other : Address) (hmem : other ∈ (d.enlist peer).2.peers) :
    other ∈ d.peers ∨ other = peer := by
  rcases d.enlist_cases peer with ⟨i, -, heq⟩ | ⟨-, heq⟩
  · rw [heq] at hmem
    exact .inl hmem
  · rw [heq, peers, List.map_append] at hmem
    exact (List.mem_append.1 hmem).imp_right fun hnew => List.mem_singleton.1 hnew

/-- The worker that is entered is that of the device, or a new one. -/
theorem worker?_enlist (h : d.AtRest) (peer : Address) :
    ∃ w, (d.enlist peer).2.workers[(d.enlist peer).1]? = some w ∧
      (d.enlist peer).2.worker? peer = some w ∧
      w.link = (d.aspect peer).link d.newSession peer ∧
      (d.enlist peer).2.workers.length =
        if (d.aspect peer).link?.isSome then d.workers.length else d.workers.length + 1 := by
  have hkept := (h.enlist peer).kept
  obtain ⟨w, hw, hpeer⟩ := h.kept.knows_enlist peer
  obtain ⟨v, hv, hopen⟩ := open_enlist h.entered peer
  cases hw.symm.trans hv
  refine ⟨w, hw, hpeer ▸ hkept.worker?_eq hw hopen, ?_⟩
  rcases d.enlist_cases peer with ⟨i, hfound, heq⟩ | ⟨hnone, heq⟩
  · rw [heq] at hw ⊢
    have hworker : d.worker? peer = some w := by
      rw [worker?, hfound]
      exact hw
    simp [aspect, Aspect.link, hworker]
  · rw [heq] at hw ⊢
    have hworker : d.worker? peer = none := by
      rw [worker?, hnone]
      rfl
    have hnew : w = .start (.start peer (d.newSession d.workers.length)) := by
      have hlast := List.getElem?_concat_length (l := d.workers)
        (a := (.start (.start peer (d.newSession d.workers.length)) : Worker σ ρ τ))
      exact Option.some.inj (hw.symm.trans hlast)
    simp [aspect, Aspect.link, hworker, hnew, Worker.start]

/-- Of the link of a settled worker nothing is due. -/
theorem Settled.quiet (h : d.Settled) (horder : d.InOrder) (hworker : d.worker? peer = some w) :
    w.link.isDue d.now = false := by
  obtain ⟨i, -, hw, -, hopen⟩ := horder.of_worker? hworker
  refine Link.isDue_eq_false_iff.2 fun deadline hdeadline => h.early i w hw deadline ?_
  rw [Worker.nextDeadline, hopen]
  exact hdeadline

theorem Settled.inbox_eq_nil (h : d.Settled) (horder : d.InOrder)
    (hworker : d.worker? peer = some w) : w.inbox = [] := by
  obtain ⟨i, -, hw, -⟩ := horder.of_worker? hworker
  exact (inbox_eq hw).symm.trans (h.emptied i)

/-! ### What workers do -/

section Stirring

variable [ProfileSession σ ρ τ] [DecidableEq τ] [Outlined ρ] {S : Surroundings → Prop}
  {t : Treatment}

/-- The worker of a device handles a message. -/
theorem hand_for {s : Surroundings} (h : d.InOrder) (hgiven : t.Given peer s)
    (hw : d.workers[i]? = some w) (hopen : w.closed = false) (hpeer : w.link.peer = peer)
    {message : Message ρ} {rest : List (Item ρ)} (hinbox : w.inbox = .message message :: rest) :
    ∃ v, (d.enter i (w.handle (d.scene s w.link.peer) (.message message) rest)).worker? peer =
        some v ∧ v.inbox = rest ∧
      (v.link, (d.enter i (w.handle (d.scene s w.link.peer) (.message message) rest)).logOf peer) =
        t.hand d.now message (w.link, d.logOf peer) := by
  have hreplaced := (replaced_turn s h.kept hw hinbox).2
  rw [hreplaced.worker? h hopen, if_pos hpeer, logOf_enter, Worker.peer_handle, if_pos hpeer, hpeer,
    scene_eq hgiven]
  exact ⟨_, rfl, rfl, rfl⟩

/-- The worker of a device serves an alarm. -/
theorem rouse_for {s : Surroundings} (h : d.InOrder) (hgiven : t.Given peer s)
    (hw : d.workers[i]? = some w) (hopen : w.closed = false) (hpeer : w.link.peer = peer) :
    ∃ v, (d.enter i (w.wake (d.scene s w.link.peer))).worker? peer = some v ∧ v.inbox = w.inbox ∧
      (v.link, (d.enter i (w.wake (d.scene s w.link.peer))).logOf peer) =
        t.rouse d.now (w.link, d.logOf peer) := by
  have hreplaced := replaced_wake s hw hopen
  rw [hreplaced.worker? h hopen, if_pos hpeer, logOf_enter, Worker.peer_wake, if_pos hpeer, hpeer,
    scene_eq hgiven]
  exact ⟨_, rfl, rfl, rfl⟩

/-- What workers do shows in the aspect of one device if its own worker handles a message, or serves
an alarm. -/
theorem stir_for (h : d.InOrder) (hgiven : ∀ s, S s → t.Given peer s) (hstir : Stir S d d') :
    d'.worker? peer = d.worker? peer ∧ d'.logOf peer = d.logOf peer ∨
      ∃ w v, d.worker? peer = some w ∧ d'.worker? peer = some v ∧
        ((∃ message, w.inbox = .message message :: v.inbox ∧
            (v.link, d'.logOf peer) = t.hand d.now message (w.link, d.logOf peer)) ∨
          w.link.isDue d.now = true ∧ v.inbox = w.inbox ∧
            (v.link, d'.logOf peer) = t.rouse d.now (w.link, d.logOf peer)) := by
  rcases stir_cases h hstir with rfl | ⟨s, i, w, hs, hw, hopen,
    ⟨message, rest, hinbox, rfl⟩ | ⟨hdue, rfl⟩⟩
  · exact .inl ⟨rfl, rfl⟩
  · by_cases hpeer : w.link.peer = peer
    · have hworker := h.kept.worker?_eq hw hopen
      obtain ⟨v, hv, hrest, hlife⟩ := hand_for h (hgiven s hs) hw hopen hpeer hinbox
      exact .inr ⟨w, v, hpeer ▸ hworker, hv, .inl ⟨message, hrest.symm ▸ hinbox, hlife⟩⟩
    · have hreplaced := (replaced_turn s h.kept hw hinbox).2
      rw [hreplaced.worker? h hopen, if_neg hpeer, logOf_enter, Worker.peer_handle, if_neg hpeer,
        List.append_nil]
      exact .inl ⟨rfl, rfl⟩
  · by_cases hpeer : w.link.peer = peer
    · have hworker := h.kept.worker?_eq hw hopen
      obtain ⟨v, hv, hrest, hlife⟩ := rouse_for h (hgiven s hs) hw hopen hpeer
      exact .inr ⟨w, v, hpeer ▸ hworker, hv, .inr ⟨hdue, hrest, hlife⟩⟩
    · have hreplaced := replaced_wake s hw hopen
      rw [hreplaced.worker? h hopen, if_neg hpeer, logOf_enter, Worker.peer_wake, if_neg hpeer,
        List.append_nil]
      exact .inl ⟨rfl, rfl⟩

/-- A device without a worker sees nothing of what workers do. -/
theorem worker?_of_stirs (h : d.InOrder) (hgiven : ∀ s, S s → t.Given peer s)
    (hstirs : Stirs S d d') (hnone : d.worker? peer = none) :
    d'.worker? peer = none ∧ d'.logOf peer = d.logOf peer := by
  induction hstirs with
  | refl => exact ⟨hnone, rfl⟩
  | tail hearlier hstir ih =>
      obtain ⟨hworker, hlog⟩ := ih
      rcases stir_for (h.stirs hearlier) hgiven hstir with ⟨hsame, hlog'⟩ | ⟨w, v, hw, -⟩
      · exact ⟨hsame.trans hworker, hlog'.trans hlog⟩
      · cases hworker.symm.trans hw

/-- **When workers have done all there is to do, the link of a device to whose worker nobody has sent
anything was woken until nothing was due.** -/
theorem rouses_of_stirs (h : d.InOrder) (hgiven : ∀ s, S s → t.Given peer s)
    (hstirs : Stirs S d d') (hsettled : d'.Settled) (hworker : d.worker? peer = some w)
    (hempty : w.inbox = []) :
    ∃ v, d'.worker? peer = some v ∧
      t.Rouses d.now (w.link, d.logOf peer) (v.link, d'.logOf peer) := by
  -- on what is still to be done, since it is the last directory that is settled
  induction hstirs using Relation.ReflTransGen.head_induction_on generalizing w with
  | refl => exact ⟨w, hworker, .quiet (hsettled.quiet h hworker)⟩
  | head hstir hrest ih =>
      have hnow := (hstir.frame h).now
      rcases stir_for h hgiven hstir with ⟨hsame, hlog⟩ | ⟨w', u, hw', hu, hacts⟩
      · obtain ⟨v, hv, hrouses⟩ := ih (h.stir hstir) (hsame.trans hworker) hempty
        rw [hnow, hlog] at hrouses
        exact ⟨v, hv, hrouses⟩
      · cases hworker.symm.trans hw'
        rcases hacts with ⟨message, hinbox, -⟩ | ⟨hdue, hinbox, hroused⟩
        · cases hempty.symm.trans hinbox
        · obtain ⟨v, hv, hrouses⟩ := ih (h.stir hstir) hu (hinbox.trans hempty)
          rw [hnow, hroused] at hrouses
          exact ⟨v, hv, .wake hdue hrouses⟩

/-- The same if somebody has sent a message: that is handled first. -/
theorem hands_of_stirs (h : d.InOrder) (hgiven : ∀ s, S s → t.Given peer s)
    (hstirs : Stirs S d d') (hsettled : d'.Settled) (hworker : d.worker? peer = some w)
    {message : Message ρ} (hinbox : w.inbox = [.message message])
    (hquiet : w.link.isDue d.now = false) :
    ∃ v, d'.worker? peer = some v ∧
      t.Rouses d.now (t.hand d.now message (w.link, d.logOf peer)) (v.link, d'.logOf peer) := by
  induction hstirs using Relation.ReflTransGen.head_induction_on with
  | refl => cases (hsettled.inbox_eq_nil h hworker).symm.trans hinbox
  | head hstir hrest ih =>
      have hnow := (hstir.frame h).now
      rcases stir_for h hgiven hstir with ⟨hsame, hlog⟩ | ⟨w', u, hw', hu, hacts⟩
      · obtain ⟨v, hv, hrouses⟩ := ih (h.stir hstir) (hsame.trans hworker) (hnow ▸ hquiet)
        rw [hnow, hlog] at hrouses
        exact ⟨v, hv, hrouses⟩
      · cases hworker.symm.trans hw'
        rcases hacts with ⟨message', hinbox', hhanded⟩ | ⟨hdue, -⟩
        · obtain ⟨heq, hempty⟩ := List.cons.inj (hinbox.symm.trans hinbox')
          obtain rfl := Item.message.inj heq
          obtain ⟨v, hv, hrouses⟩ :=
            rouses_of_stirs (h.stir hstir) hgiven hrest hsettled hu hempty.symm
          rw [hnow, hhanded] at hrouses
          exact ⟨v, hv, hrouses⟩
        · cases hquiet.symm.trans hdue

/-! ### While time passes -/

/-- As time passes, the directory stays in order, and workers neither come nor go. -/
theorem Elapses.inOrder {target : Instant} (helapses : Elapses S target d d') (h : d.InOrder) :
    d'.InOrder ∧ d'.now = target ∧ d'.peers = d.peers ∧ d'.newSession = d.newSession := by
  induction helapses with
  | arrived d hnow => exact ⟨h, hnow, rfl, rfl⟩
  | stir hstir hrest ih =>
      obtain ⟨horder, hnow, hpeers, hnew⟩ := ih (h.stir hstir)
      have hframe := hstir.frame h
      exact ⟨horder, hnow, hpeers.trans hframe.peers, hnew.trans hframe.newSession⟩
  | later instant hsettled hlater hwithin hquiet hrest ih => exact ih (h.of_eq rfl rfl rfl h.fresh)

/-- A device without a worker sees nothing but the clock. -/
theorem worker?_of_elapses {target : Instant} (h : d.InOrder)
    (hgiven : ∀ s, S s → t.Given peer s) (helapses : Elapses S target d d')
    (hnone : d.worker? peer = none) : d'.worker? peer = none ∧ d'.logOf peer = d.logOf peer := by
  induction helapses with
  | arrived d hnow => exact ⟨hnone, rfl⟩
  | stir hstir hrest ih =>
      obtain ⟨hworker, hlog⟩ := worker?_of_stirs h hgiven (.single hstir) hnone
      obtain ⟨hworker', hlog'⟩ := ih (h.stir hstir) hworker
      exact ⟨hworker', hlog'.trans hlog⟩
  | later instant hsettled hlater hwithin hquiet hrest ih =>
      exact ih (h.of_eq rfl rfl rfl h.fresh) hnone

/-- **As time passes, a link is woken at each of its alarms**, whatever other links are woken for. -/
theorem lasts_of_elapses {target : Instant} (h : d.InOrder)
    (hgiven : ∀ s, S s → t.Given peer s) (helapses : Elapses S target d d') (hsettled : d'.Settled)
    (hworker : d.worker? peer = some w) (hempty : w.inbox = []) :
    ∃ v roused, d'.worker? peer = some v ∧
      t.Rouses d.now (w.link, d.logOf peer) roused ∧
      t.Lasts target d.now roused (v.link, d'.logOf peer) := by
  induction helapses generalizing w with
  | arrived d hnow =>
      have hquiet := hsettled.quiet h hworker
      exact ⟨w, _, hworker, .quiet hquiet, .quiet (hnow ▸ hquiet)⟩
  | stir hstir hrest ih =>
      have hnow := (hstir.frame h).now
      rcases stir_for h hgiven hstir with ⟨hsame, hlog⟩ | ⟨w', u, hw', hu, hacts⟩
      · obtain ⟨v, roused, hv, hrouses, hlasts⟩ :=
          ih (h.stir hstir) hsettled (hsame.trans hworker) hempty
        rw [hnow, hlog] at hrouses
        exact ⟨v, roused, hv, hrouses, hnow ▸ hlasts⟩
      · cases hworker.symm.trans hw'
        rcases hacts with ⟨message, hinbox, -⟩ | ⟨hdue, hinbox, hroused⟩
        · cases hempty.symm.trans hinbox
        · obtain ⟨v, roused, hv, hrouses, hlasts⟩ :=
            ih (h.stir hstir) hsettled hu (hinbox.trans hempty)
          rw [hnow, hroused] at hrouses
          exact ⟨v, roused, hv, .wake hdue hrouses, hnow ▸ hlasts⟩
  | later instant hsettled' hlater hwithin hquiet hrest ih =>
      obtain ⟨v, roused, hv, hrouses, hlasts⟩ :=
        ih (h.of_eq rfl rfl rfl h.fresh) hsettled hworker hempty
      -- nothing was due before, and no alarm is passed by
      refine ⟨v, _, hv, .quiet (hsettled'.quiet h hworker), ?_⟩
      refine hrouses.lasts hlasts (fun deadline hdeadline => ?_) hlater hwithin
      obtain ⟨i, -, hw, -, hopen⟩ := h.of_worker? hworker
      refine hquiet i w hw deadline ?_
      rw [Worker.nextDeadline, hopen]
      exact hdeadline

end Stirring

end Directory

/-! ### The round of the reaper -/

namespace Directory

variable {d d' : Directory σ ρ τ} {peer : Address} {i : Nat} {w : Worker σ ρ τ}

/-- A worker that goes on as if nothing had happened shows nothing of it. -/
theorem aspect_of_eq (hworkers : d'.workers = d.workers) (hentries : d'.entries = d.entries)
    (hnow : d'.now = d.now) (hlog : d'.log = d.log) (peer : Address) :
    d'.aspect peer = d.aspect peer := by
  rw [aspect, aspect, worker?, worker?, find?, find?, logOf, logOf, hworkers, hentries, hnow, hlog]

/-- When a worker is dismissed, its device has none any more. -/
theorem worker?_dismissed (h : d.AtRest) (hentry : (peer, i) ∈ d.entries)
    (hw : d.workers[i]? = some w) (hidle : w.link.isIdle = true) (other : Address) :
    ((d.answered i w).forget peer i).worker? other =
      if other = peer then none else d.worker? other := by
  have hreplaced := replaced_answered hw hidle
  have hrest := h.dismiss hentry hreplaced rfl rfl (fresh_answered h)
  split
  · next heq =>
      subst heq
      rw [worker?, Option.bind_eq_none_iff]
      intro j hfound
      obtain ⟨hold, hne⟩ := mem_entries_forget.1 (mem_of_find? hfound)
      exact absurd (congrArg (Prod.mk other) (h.kept.entry_unique hold hentry)) hne
  · next hne =>
      have hfind : ((d.answered i w).forget peer i).find? other = d.find? other := by
        refine Option.ext fun j => ?_
        rw [find?_eq_iff hrest.kept, find?_eq_iff h.kept, mem_entries_forget]
        exact and_iff_left fun hsame => hne (congrArg Prod.fst hsame)
      rw [worker?, worker?, hfind]
      cases hfound : d.find? other with
      | none => rfl
      | some j =>
          refine hreplaced.other fun hji => hne ?_
          obtain ⟨v, hv, hvpeer, -⟩ := h.worker (mem_of_find? hfound)
          obtain ⟨u, hu, hupeer, -⟩ := h.worker hentry
          subst hji
          cases hu.symm.trans hv
          exact hvpeer.symm.trans hupeer

/-- The link of a worker that goes on is not idle. -/
theorem retired_of_busy (h : d.AtRest) (hentry : (peer, i) ∈ d.entries)
    (hw : d.workers[i]? = some w) (hbusy : w.link.isIdle = false) :
    (d.aspect peer).retired = d.aspect peer := by
  obtain ⟨u, hu, hpeer, hopen⟩ := h.worker hentry
  cases hw.symm.trans hu
  have hthere : d.worker? peer = some w := hpeer ▸ h.kept.worker?_eq hw hopen
  simp [Aspect.retired, aspect, hthere, hbusy, Option.filter]

/-- **A worker that is asked to retire is gone if its link is idle**; no other device sees anything
of it. -/
theorem aspect_asked (h : d.AtRest) (hentry : (peer, i) ∈ d.entries) (hw : d.workers[i]? = some w)
    (other : Address) :
    (d.asked peer i w).aspect other =
      if other = peer then (d.aspect other).retired else d.aspect other := by
  obtain ⟨u, hu, hpeer, hopen⟩ := h.worker hentry
  cases hw.symm.trans hu
  have hthere : d.worker? peer = some w := hpeer ▸ h.kept.worker?_eq hw hopen
  cases hidle : w.link.isIdle with
  | true =>
      have hcount : ((d.answered i w).forget peer i).workers.length = d.workers.length := by
        show (d.answered i w).workers.length = _
        rw [(replaced_answered hw hidle).workers, List.length_set]
      rw [asked, if_pos hidle, aspect, hcount, worker?_dismissed h hentry hw hidle]
      split
      · next heq =>
          subst heq
          simp [Aspect.retired, aspect, hthere, hidle, forget, answered, logOf, Option.filter]
      · rfl
  | false =>
      rw [asked, if_neg (Bool.eq_false_iff.1 hidle),
        aspect_of_eq (workers_answered_busy hw hidle) rfl rfl rfl]
      split
      · next heq =>
          subst heq
          exact (retired_of_busy h hentry hw hidle).symm
      · rfl

end Directory

namespace Plan.Done

variable [ProfileSession σ ρ τ] [DecidableEq τ] [Outlined ρ] {S : Surroundings → Prop}
  {d d' : Directory σ ρ τ}

/-- The workers that are asked retire if their links are idle; nobody else sees anything of it. -/
theorem retireAll {entries : List (Address × Nat)} {count : Nat → Nat} {n : Nat} (h : d.AtRest)
    (hmem : ∀ entry ∈ entries, entry ∈ d.entries) (hnodup : (entries.map (·.1)).Nodup)
    (hdone : ((Plan.retireAll entries).bind fun n => .finished (count n)).Done S d n d') :
    d'.AtRest ∧ d'.newSession = d.newSession ∧ d'.peers = d.peers ∧ ∀ peer, d'.aspect peer =
      if peer ∈ entries.map (·.1) then (d.aspect peer).retired else d.aspect peer := by
  induction entries generalizing d count with
  | nil =>
      obtain rfl := h.toSettled.stirs hdone.stirs.2
      exact ⟨h, rfl, rfl, fun peer => rfl⟩
  | cons entry entries ih =>
      obtain ⟨peer, i⟩ := entry
      have hentry := hmem _ (List.mem_cons_self ..)
      obtain ⟨w, hw, -, -⟩ := h.worker hentry
      obtain ⟨hothers, hnodup⟩ := List.nodup_cons.1 hnodup
      rw [bind_retireAll_cons] at hdone
      -- who comes later on the round is another device
      have hlater : ∀ e ∈ entries, e ∈ (d.asked peer i w).entries := fun e he =>
        Directory.mem_entries_asked (hmem e (List.mem_cons_of_mem _ he))
          (ne_of_mem_of_not_mem (List.mem_map_of_mem he) hothers)
      obtain ⟨hrested, hnew, hpeers, haspect⟩ :=
        ih (h.asked hentry hw) hlater hnodup (hdone.dismissed h hentry hw)
      refine ⟨hrested, hnew.trans Directory.newSession_asked,
        hpeers.trans (Directory.peers_asked hw), fun other => ?_⟩
      rw [haspect, Directory.aspect_asked h hentry hw, List.map_cons]
      by_cases hother : other = peer
      · subst hother
        rw [if_neg hothers, if_pos rfl, if_pos (List.mem_cons_self ..)]
      · rw [if_neg hother, if_congr (List.mem_cons.trans (or_iff_right hother)) rfl rfl]

/-- **The reaper takes away the links that are idle.** -/
theorem reap {n : Nat} (h : d.AtRest) (hdone : Plan.reap.Done S d n d') :
    d'.AtRest ∧ d'.newSession = d.newSession ∧ d'.peers = d.peers ∧
      ∀ peer, d'.aspect peer = (d.aspect peer).retired := by
  have hround := hdone.after h.toSettled rfl
  rw [← bind_finished (Plan.retireAll _)] at hround
  have hnodup : ((d.entriesIn .disconnected).map (·.1)).Nodup :=
    h.kept.unique.sublist (List.filter_sublist.map _)
  obtain ⟨hrested, hnew, hpeers, haspect⟩ :=
    retireAll h (fun _ he => (List.mem_filter.1 he).1) hnodup hround
  refine ⟨hrested, hnew, hpeers, fun peer => ?_⟩
  rw [haspect]
  split
  · rfl
  · next hother =>
      cases hworker : d.worker? peer with
      | none => simp [Aspect.retired, Directory.aspect, hworker]
      | some w =>
          -- who was not asked had published that the link was not disconnected
          obtain ⟨i, hentry, hw, -, -⟩ := h.of_worker? hworker
          refine (Directory.retired_of_busy h hentry hw ?_).symm
          refine Bool.eq_false_iff.2 fun hidle => hother ?_
          refine List.mem_map.2 ⟨(peer, i), List.mem_filter.2 ⟨hentry, ?_⟩, rfl⟩
          simp only [Link.isIdle, Bool.and_eq_true, beq_iff_eq] at hidle
          simp [Directory.published?, hw, h.published i w hw, Link.snapshot, hidle.1.1]

end Plan.Done

/-! ### Whatever is done -/

namespace Directory

variable [ProfileSession σ ρ τ] [DecidableEq τ] [Outlined ρ] {S : Surroundings → Prop}
  {t : Treatment} {d d' : Directory σ ρ τ} {peer : Address} {deed : Deed ρ}

/-- A message is put into the inbox of the worker of its device, in a directory at rest. -/
structure Sent (d : Directory σ ρ τ) (peer : Address) (message : Message ρ)
    (sent : Directory σ ρ τ) : Prop where
  order : sent.InOrder
  now : sent.now = d.now
  newSession : sent.newSession = d.newSession
  count : sent.workers.length =
    if (d.aspect peer).link?.isSome then d.workers.length else d.workers.length + 1
  peers : ∀ other ∈ sent.peers, other ∈ d.peers ∨ other = peer
  log : ∀ other, sent.logOf other = d.logOf other
  worker : ∃ w, sent.worker? peer = some w ∧ w.inbox = [.message message] ∧
    w.link = (d.aspect peer).link d.newSession peer ∧ w.link.isDue d.now = false
  others : ∀ other, other ≠ peer → sent.worker? other = d.worker? other

omit [ProfileSession σ ρ τ] [DecidableEq τ] [Outlined ρ] in
theorem sent_push (h : d.AtRest) (peer : Address) (message : Message ρ) {w : Worker σ ρ τ}
    (hw : (d.enlist peer).2.workers[(d.enlist peer).1]? = some w) (hopen : w.closed = false) :
    Sent d peer message ((d.enlist peer).2.push (d.enlist peer).1 w (.message message)) := by
  have hrest := h.enlist peer
  obtain ⟨v, hv, hworker, hlink, hcount⟩ := worker?_enlist h peer
  cases hw.symm.trans hv
  have hnow : (d.enlist peer).2.now = d.now := by rw [enlist_rest]
  have hlog : (d.enlist peer).2.log = d.log := by rw [enlist_rest]
  have hreplaced := replaced_push hw hopen (.message message)
  have hpushed := hreplaced.worker? hrest.toInOrder hopen
  obtain ⟨i, -, -, hpeer, -⟩ := hrest.of_worker? hworker
  refine ⟨hrest.push hw hopen message, hnow, by rw [enlist_rest]; rfl, ?_, fun other hmem => ?_,
    fun other => ?_, ?_, fun other hother => ?_⟩
  · exact List.length_set.trans hcount
  · exact peers_enlist other (hreplaced.peers ▸ hmem)
  · show ((d.enlist peer).2.log.filter (·.1 == other)).map (·.2) = d.logOf other
    rw [hlog]
    rfl
  · refine ⟨_, (hpushed peer).trans (if_pos hpeer), ?_, hlink, ?_⟩
    · rw [hrest.toSettled.inbox_eq_nil hrest.toInOrder hworker]
      rfl
    · have hquiet := hrest.toSettled.quiet hrest.toInOrder hworker
      rwa [hnow] at hquiet
  · refine (hpushed other).trans ?_
    rw [if_neg fun heq => hother (heq.symm.trans hpeer), worker?_enlist_of_ne h.kept hother]

omit [ProfileSession σ ρ τ] [DecidableEq τ] [Outlined ρ] in
/-- A device has an entry if it has a link, and only then. -/
theorem InOrder.find?_isSome (h : d.InOrder) :
    (d.find? peer).isSome = (d.aspect peer).link?.isSome := by
  cases hfound : d.find? peer with
  | none => simp [aspect, worker?, hfound]
  | some i =>
      obtain ⟨w, hw, -⟩ := h.worker (mem_of_find? hfound)
      simp [aspect, worker?, hfound, hw]

/-- When a message was sent to one device and workers have done all there is to do, no other device
sees anything of it. -/
theorem Sent.foreign {other : Address} {message : Message ρ} {sent : Directory σ ρ τ}
    (hsent : Sent d other message sent) (h : d.AtRest) (hgiven : ∀ s, S s → t.Given peer s)
    (hstirs : Stirs S sent d') (hsettled : d'.Settled) (hother : other ≠ peer) :
    d'.aspect peer = { d.aspect peer with count := d'.workers.length } := by
  have hnow := (hstirs.frame hsent.order).now.trans hsent.now
  have hsame := hsent.others peer (Ne.symm hother)
  cases hworker : d.worker? peer with
  | none =>
      obtain ⟨hnone, hlog⟩ :=
        worker?_of_stirs hsent.order hgiven hstirs (hsame.trans hworker)
      rw [aspect, aspect, hnow, hnone, hlog, hsent.log, hworker]
  | some w =>
      have hempty := h.toSettled.inbox_eq_nil h.toInOrder hworker
      have hquiet := h.toSettled.quiet h.toInOrder hworker
      obtain ⟨u, hu, hrouses⟩ := rouses_of_stirs hsent.order hgiven hstirs hsettled
        (hsame.trans hworker) hempty
      rw [hsent.now] at hrouses
      obtain ⟨hlink, hlog⟩ := Prod.mk.inj (hrouses.eq_of_quiet hquiet)
      rw [aspect, aspect, hnow, hu, hlog, hsent.log, hworker]
      simp [hlink]

/-- When a message was sent to a device and workers have done all there is to do, its link has
handled the message, and was woken until nothing was due. -/
theorem Sent.own {message : Message ρ} {sent : Directory σ ρ τ} (hsent : Sent d peer message sent)
    (hgiven : ∀ s, S s → t.Given peer s) (hstirs : Stirs S sent d') (hsettled : d'.Settled) :
    ∃ life, t.Rouses d.now
        (t.hand d.now message ((d.aspect peer).link d.newSession peer, d.logOf peer)) life ∧
      d'.aspect peer = (d.aspect peer).goOn d.now life := by
  obtain ⟨v, hv, hinbox, hlink, hquiet⟩ := hsent.worker
  rw [← hsent.now] at hquiet
  obtain ⟨u, hu, hrouses⟩ := hands_of_stirs hsent.order hgiven hstirs hsettled hv hinbox hquiet
  rw [hsent.now, hsent.log, hlink] at hrouses
  refine ⟨_, hrouses, ?_⟩
  have hframe := hstirs.frame hsent.order
  rw [aspect, hframe.now.trans hsent.now, (length_of_peers hframe.peers).trans hsent.count, hu]
  rfl

/-- As time passes, the link of a device is woken at each of its alarms. -/
theorem aspect_of_elapses (h : d.AtRest) (hgiven : ∀ s, S s → t.Given peer s)
    {duration : Duration} (helapses : Elapses S (d.now + duration) d d') (hsettled : d'.Settled) :
    (d.aspect peer).Follows t d.newSession peer (.pass duration) (d'.aspect peer) := by
  obtain ⟨-, hnow, hpeers, -⟩ := helapses.inOrder h.toInOrder
  have hcount := length_of_peers hpeers
  cases hworker : d.worker? peer with
  | none =>
      obtain ⟨hnone, hlog⟩ := worker?_of_elapses h.toInOrder hgiven helapses hworker
      have haspect : d'.aspect peer =
          { d.aspect peer with now := (d.aspect peer).now + duration } := by
        rw [aspect, aspect, hnow, hcount, hnone, hlog, hworker]
      rw [haspect]
      exact .waited (by rw [aspect, hworker]; rfl)
  | some w =>
      obtain ⟨u, roused, hu, hrouses, hlasts⟩ := lasts_of_elapses h.toInOrder hgiven helapses hsettled
        hworker (h.toSettled.inbox_eq_nil h.toInOrder hworker)
      obtain rfl := hrouses.eq_of_quiet (h.toSettled.quiet h.toInOrder hworker)
      have hlink : (d.aspect peer).link? = some w.link := by rw [aspect, hworker]; rfl
      have haspect : d'.aspect peer =
          (d.aspect peer).goOn ((d.aspect peer).now + duration) (u.link, d'.logOf peer) := by
        rw [Aspect.goOn, hlink, aspect, hnow, hcount, hu]
        rfl
      rw [haspect]
      exact .lasted hlink hlasts

omit [ProfileSession σ ρ τ] [DecidableEq τ] [Outlined ρ] in
/-- When all workers have stopped, no device has a link. -/
theorem Closing.aspect {untold : List Nat} (h : Closing d untold d') (peer : Address) :
    d'.aspect peer = { d.aspect peer with link? := none } := by
  have hcount := length_of_peers h.peers
  have hnone : d'.worker? peer = none := by
    rw [worker?, find?, h.rest]
    rfl
  have hlog : d'.logOf peer = d.logOf peer := by
    rw [logOf, logOf, h.rest]
  rw [Directory.aspect, Directory.aspect, h.now, hcount, hnone, hlog]
  rfl

/-- A message for a device shows in its aspect, and in no other. -/
theorem follows_call (h : d.AtRest) (hgiven : ∀ s, S s → t.Given peer s) {other : Address}
    {message : Message ρ} {result : Except Fault Unit}
    (hdone : (Plan.ofMessage other message).Done S d result d') (hsettled : d'.Settled) :
    d'.AtRest ∧ d'.newSession = d.newSession ∧
      (d.aspect peer).Follows t d.newSession peer (.call other message) (d'.aspect peer) ∧
      ∀ p ∈ d'.peers, p ∈ d.peers ∨ p = other := by
  rcases hdone.routed h with ⟨hopens, hnone, rfl⟩ | ⟨hknown, w, hw, hopen, hempty, hstirs⟩
  · refine ⟨h, rfl, ?_, fun _ => .inl⟩
    by_cases hother : other = peer
    · subst hother
      refine .unheeded hopens ?_
      rw [aspect, worker?, hnone]
      rfl
    · exact .foreign hother (Nat.le_refl _)
  · -- the message is in the inbox of a worker, which works it off
    have hsent := sent_push h other message hw hopen
    have hframe := hstirs.frame hsent.order
    refine ⟨⟨hsent.order.stirs hstirs, hsettled⟩, hframe.newSession.trans hsent.newSession, ?_,
      fun p hp => hsent.peers p (hframe.peers ▸ hp)⟩
    by_cases hother : other = peer
    · subst hother
      obtain ⟨life, hrouses, haspect⟩ := hsent.own hgiven hstirs hsettled
      rw [haspect]
      exact .heeded (fun hopens => h.find?_isSome.symm.trans (hknown hopens)) hrouses
    · rw [hsent.foreign h hgiven hstirs hsettled hother]
      refine .foreign hother ?_
      rw [length_of_peers hframe.peers, hsent.count]
      show d.workers.length ≤ _
      split
      · exact Nat.le_refl _
      · exact Nat.le_succ _

/-- **Whatever is done, and in whatever order workers do it, what becomes of the aspect of a device is
settled by the aspect.**  No worker is entered but for a device that somebody has a message for. -/
theorem Does.follows (h : d.AtRest) (hgiven : ∀ s, S s → t.Given peer s) (hdoes : Does S d deed d') :
    d'.AtRest ∧ d'.newSession = d.newSession ∧
      (d.aspect peer).Follows t d.newSession peer deed (d'.aspect peer) ∧
      ∀ other ∈ d'.peers, other ∈ d.peers ∨ ∃ message, deed = .call other message := by
  cases hdoes with
  | @call other message result _ hdone hsettled =>
      obtain ⟨hrested, hnew, hfollows, hpeers⟩ := follows_call h hgiven hdone hsettled
      refine ⟨hrested, hnew, hfollows, fun p hp => (hpeers p hp).imp_right fun heq => ?_⟩
      exact ⟨message, by rw [heq]⟩
  | reap hdone hsettled =>
      obtain ⟨hrested, hnew, hpeers, haspect⟩ := hdone.reap h
      refine ⟨hrested, hnew, ?_, fun other hother => .inl (hpeers ▸ hother)⟩
      rw [haspect]
      exact .reaped
  | stop hdone hsettled =>
      have hclosing := hdone.shutdown h
      refine ⟨hclosing.atRest h hsettled, by rw [hclosing.rest], ?_, fun other hother => ?_⟩
      · rw [hclosing.aspect]
        exact .stopped
      · exact .inl (hclosing.peers ▸ hother)
  | pass helapses hsettled =>
      obtain ⟨horder, -, hpeers, hnew⟩ := helapses.inOrder h.toInOrder
      exact ⟨⟨horder, hsettled⟩, hnew, aspect_of_elapses h hgiven helapses hsettled,
        fun other hother => .inl (hpeers ▸ hother)⟩

end Directory

end AudioLink
