/-
**What can be done.**

What is said of all that may come of something is worth little if nothing can come of it.  Idle workers
can always be retired, all workers can always be stopped, and a message can be dealt with in one turn
if nothing is due after it.  For the rest it is enough to look at a directory in which all workers are
for one device: there, whatever may become of the aspect of this device can be brought about, since
nobody else has anything to do.

Main definitions:

* `AudioLink.Directory.Alone` — all workers are for one device.

Main results:

* `AudioLink.Plan.Done.exists_reap`, `AudioLink.Plan.Done.exists_shutdown` — the idle workers, or all
  of them, can be brought to stop;
* `AudioLink.Directory.AtRest.exists_call`, `AudioLink.Directory.AtRest.exists_calls` — a message can
  be dealt with, and so can many;
* `AudioLink.Directory.Alone.exists_stirs`, `AudioLink.Directory.Alone.exists_elapses` — the one link
  can be woken until nothing is due, and as often as it has to be while time passes;
* `AudioLink.Directory.Alone.exists_does` — **what may become of the aspect of a device that is by
  itself can be brought about**.
-/

import AudioLink.Proofs.Directory.Aspects

set_option relaxedAutoImplicit false
set_option autoImplicit false

namespace AudioLink

variable {σ ρ τ α : Type} [ProfileSession σ ρ τ] [DecidableEq τ] [Outlined ρ]
  {S : Surroundings → Prop} {s : Surroundings} {d d' : Directory σ ρ τ} {peer : Address} {i : Nat}
  {w : Worker σ ρ τ}

/-! ### Workers that go -/

namespace Plan.Done

/-- While a client has to wait, workers may do something first. -/
theorem preceded {p : Plan σ ρ τ α} {a : α} {next : Directory σ ρ τ}
    (hstirs : Directory.Stirs S d next) (hdone : p.Done S next a d') : p.Done S d a d' := by
  induction hstirs using Relation.ReflTransGen.head_induction_on with
  | refl => exact hdone
  | head hstir _ ih => exact .stir hstir ih

/-- When a plan is finished, workers may still do something. -/
theorem of_stirs (a : α) (hstirs : Directory.Stirs S d d') :
    (Plan.finished a : Plan σ ρ τ α).Done S d a d' :=
  .preceded hstirs (.finished a d')

/-- When a plan has been carried out, workers may still do something. -/
theorem followed {p : Plan σ ρ τ α} {a : α} {next : Directory σ ρ τ} (hdone : p.Done S d a next)
    (hstirs : Directory.Stirs S next d') : p.Done S d a d' := by
  induction hdone with
  | finished a d => exact .of_stirs a hstirs
  | advance hadvance _ ih => exact .advance hadvance (ih hstirs)
  | stir hstir _ ih => exact .stir hstir (ih hstirs)

/-- A worker is asked to retire and replies at once, and the reaper goes on. -/
theorem dismiss {a : α} {next : Bool → Plan σ ρ τ α} (hs : S s) (hrest : d.AtRest)
    (hentry : (peer, i) ∈ d.entries) (hw : d.workers[i]? = some w)
    (h : (next w.link.isIdle).Done S (d.asked peer i w) a d') :
    (Plan.ask i .retirement fun reply => (Plan.dismiss peer i reply).bind next).Done S d a d' := by
  obtain ⟨v, hv, -, hopen⟩ := hrest.worker hentry
  cases hw.symm.trans hv
  have hempty : w.inbox = [] := (Directory.inbox_eq hw).symm.trans (hrest.emptied i)
  refine .advance (advance_ask hrest hw hopen _) (.stir (.turn s hs i) ?_)
  rw [Directory.turn_asked s hrest hw hopen hempty]
  refine .advance (advance_answered hrest _) ?_
  cases hidle : w.link.isIdle with
  | true =>
      rw [hidle] at h
      exact .advance (advance_dismiss hidle next) h
  | false =>
      rw [hidle, Directory.asked, hidle] at h
      rw [Directory.retirement, hidle]
      exact h

theorem exists_retireAll (hs : S s) {entries : List (Address × Nat)} (count : Nat → Nat)
    (hrest : d.AtRest) (hmem : ∀ entry ∈ entries, entry ∈ d.entries)
    (hnodup : (entries.map (·.1)).Nodup) :
    ∃ n d', ((Plan.retireAll entries).bind fun n => .finished (count n)).Done S d n d' ∧
      d'.Settled := by
  induction entries generalizing d count with
  | nil => exact ⟨count 0, d, .finished _ d, hrest.toSettled⟩
  | cons entry entries ih =>
      obtain ⟨peer, i⟩ := entry
      have hentry := hmem _ (List.mem_cons_self ..)
      obtain ⟨w, hw, -, -⟩ := hrest.worker hentry
      obtain ⟨hothers, hnodup⟩ := List.nodup_cons.1 hnodup
      have hlater : ∀ e ∈ entries, e ∈ (d.asked peer i w).entries := fun e he =>
        Directory.mem_entries_asked (hmem e (List.mem_cons_of_mem _ he))
          (ne_of_mem_of_not_mem (List.mem_map_of_mem he) hothers)
      obtain ⟨n, d', hdone, hsettled⟩ := ih _ (hrest.asked hentry hw) hlater hnodup
      refine ⟨n, d', ?_, hsettled⟩
      rw [bind_retireAll_cons]
      exact dismiss hs hrest hentry hw hdone

/-- The idle workers can always be retired. -/
theorem exists_reap (hs : S s) (hrest : d.AtRest) :
    ∃ n d', Plan.reap.Done S d n d' ∧ d'.Settled := by
  have hnodup : ((d.entriesIn .disconnected).map (·.1)).Nodup :=
    hrest.kept.unique.sublist (List.filter_sublist.map _)
  obtain ⟨n, d', hdone, hsettled⟩ := exists_retireAll hs id hrest
    (fun _ he => (List.mem_filter.1 he).1) hnodup
  refine ⟨n, d', .advance rfl ?_, hsettled⟩
  rw [← bind_finished (Plan.retireAll _)]
  exact hdone

theorem exists_stopAll (hs : S s) {entries : List (Address × Nat)} (hrest : d.AtRest)
    (h : Directory.Closing d (entries.map (·.2)) d') (hnodup : (entries.map (·.2)).Nodup)
    (hsettled : d'.Settled) : ∃ last, (Plan.stopAll entries).Done S d' () last ∧ last.Settled := by
  induction entries generalizing d' with
  | nil => exact ⟨d', .finished () d', hsettled⟩
  | cons entry entries ih =>
      obtain ⟨peer, i⟩ := entry
      obtain ⟨hnew, hnodup⟩ := List.nodup_cons.1 hnodup
      obtain ⟨w, hw, hadvance, hclosing⟩ :=
        advance_untold (fun _ => Plan.stopAll entries) hrest h hnew
      have htold : (d'.setWorker i w.told).workers[i]? = some w.told :=
        List.getElem?_set_self (List.getElem?_eq_some_iff.1 hw).1
      -- the worker stops as soon as it is told to
      have hstir : Directory.Stir S (d'.setWorker i w.told)
          ((d'.setWorker i w.told).setWorker i w.close) :=
        Directory.Closing.turn_told s htold ▸ .turn s hs i
      have hreplaced : Directory.Replaced i w w.close d'
          ((d'.setWorker i w.told).setWorker i w.close) :=
        ⟨hw, List.set_set .., rfl, rfl, fun _ => rfl, fun _ => rfl⟩
      obtain ⟨last, hdone, hlast⟩ :=
        ih (hclosing.stir hrest hstir) hnodup (hsettled.close hreplaced rfl)
      refine ⟨last, ?_, hlast⟩
      rw [stopAll_cons]
      exact .advance hadvance (.stir hstir hdone)

/-- All workers can always be stopped. -/
theorem exists_shutdown (hs : S s) (hrest : d.AtRest) :
    ∃ d', Plan.shutdown.Done S d () d' ∧ d'.Settled := by
  obtain ⟨d', hdone, hsettled⟩ := exists_stopAll hs hrest (Directory.closing_clear hrest)
    hrest.nodup_workers (hrest.toSettled.of_eq rfl rfl)
  exact ⟨d', .advance rfl hdone, hsettled⟩

end Plan.Done

/-! ### A message for a device -/

namespace Plan.Done

/-- A message for a device can be put into the inbox of its worker. -/
theorem of_route {message : Message ρ} (hrest : d.AtRest)
    (hw : (d.enlist peer).2.workers[(d.enlist peer).1]? = some w) (hopen : w.closed = false)
    (hstirs : Directory.Stirs S
      ((d.enlist peer).2.push (d.enlist peer).1 w (.message message)) d') :
    (Plan.route peer message).Done S d (.ok ()) d' := by
  have hrest' := hrest.enlist peer
  have hempty : w.inbox = [] := (Directory.inbox_eq hw).symm.trans (hrest'.emptied _)
  exact .advance rfl (.advance (advance_send_of_empty hw hopen hempty hrest'.roomy _ _)
    (of_stirs _ hstirs))

/-- A message for a device is dealt with like that unless it is for a device that is not known, and
does not make it known. -/
theorem of_ofMessage {message : Message ρ} {result : Except Fault Unit}
    (hknown : message.opens = false → (d.find? peer).isSome = true)
    (hdone : (Plan.route peer message).Done S d result d') :
    (Plan.ofMessage peer message).Done S d result d' := by
  rcases ofMessage_eq (σ := σ) (τ := τ) peer message with ⟨-, heq⟩ | ⟨hopens, otherwise, heq⟩
  · rw [heq]
    exact hdone
  · rw [heq]
    refine .advance rfl ?_
    obtain ⟨i, hi⟩ := Option.isSome_iff_exists.1 (hknown hopens)
    rw [hi]
    exact hdone

/-- A message that does not make a device known is not put anywhere if the device is not. -/
theorem of_unknown {message : Message ρ} (hopens : message.opens = false)
    (hnone : d.find? peer = none) : ∃ result, (Plan.ofMessage peer message).Done S d result d := by
  rcases ofMessage_eq (σ := σ) (τ := τ) peer message with ⟨hopens', -⟩ | ⟨-, otherwise, heq⟩
  · cases hopens.symm.trans hopens'
  · refine ⟨otherwise, ?_⟩
    rw [heq]
    refine .advance rfl ?_
    rw [hnone]
    exact .finished otherwise d

end Plan.Done

namespace Directory

section Settled

omit [ProfileSession σ ρ τ] [DecidableEq τ] [Outlined ρ]

/-- When no worker of a device has anything to do, nobody has. -/
theorem InOrder.settled (h : d.InOrder) (hidle : ∀ other w, d.worker? other = some w →
    w.inbox = [] ∧ w.link.isDue d.now = false) : d.Settled := by
  refine settled_iff.2 fun w hw => ?_
  obtain ⟨i, hi⟩ := List.mem_iff_getElem?.1 hw
  cases hclosed : w.closed with
  | true =>
      refine ⟨h.kept.emptied i w hi hclosed, fun deadline hdeadline => ?_⟩
      rw [Worker.nextDeadline, hclosed] at hdeadline
      cases hdeadline
  | false =>
      obtain ⟨hempty, hquiet⟩ := hidle _ w (h.kept.worker?_eq hi hclosed)
      refine ⟨hempty, fun deadline hdeadline => ?_⟩
      rw [Worker.nextDeadline, hclosed] at hdeadline
      exact Link.isDue_eq_false_iff.1 hquiet deadline hdeadline

theorem InOrder.quietUntil (h : d.InOrder) {instant : Instant}
    (hquiet : ∀ other w, d.worker? other = some w → ∀ deadline,
      w.link.alarms.nextDeadline = some deadline → instant ≤ deadline) : d.QuietUntil instant := by
  intro i w hw deadline hdeadline
  cases hclosed : w.closed with
  | true =>
      rw [Worker.nextDeadline, hclosed] at hdeadline
      cases hdeadline
  | false =>
      rw [Worker.nextDeadline, hclosed] at hdeadline
      exact hquiet _ w (h.kept.worker?_eq hw hclosed) deadline hdeadline

end Settled

variable {t : Treatment} {message : Message ρ} {sent : Directory σ ρ τ}

/-- The worker to which a message was sent can handle it. -/
theorem Sent.exists_turn (hsent : Sent d peer message sent) (hs : S s) (hgiven : t.Given peer s) :
    ∃ next v, Stir S sent next ∧ next.worker? peer = some v ∧ v.inbox = [] ∧
      (v.link, next.logOf peer) = t.hand d.now message
        ((d.aspect peer).link d.newSession peer, d.logOf peer) ∧
      ∀ other, other ≠ peer → next.worker? other = d.worker? other := by
  have h := hsent.order
  obtain ⟨w, hworker, hinbox, hlink, -⟩ := hsent.worker
  obtain ⟨i, -, hw, hpeer, hopen⟩ := h.of_worker? hworker
  have hturn := turn_eq s hw hinbox
  obtain ⟨v, hv, hempty, hlife⟩ := hand_for h hgiven hw hopen hpeer hinbox
  refine ⟨_, v, hturn ▸ .turn s hs i, hv, hempty, ?_, fun other hother => ?_⟩
  · rw [← hsent.now, ← hsent.log, ← hlink]
    exact hlife
  · have hreplaced := (replaced_turn s h.kept hw hinbox).2
    rw [hreplaced.worker? h hopen, if_neg fun heq => hother (heq.symm.trans hpeer)]
    exact hsent.others other hother

/-- A message after which nothing is due is dealt with in one turn of the worker, whatever other
devices there are. -/
theorem AtRest.exists_call (hs : S s) (hgiven : t.Given peer s) (h : d.AtRest)
    (message : Message ρ)
    (hknown : message.opens = false → (d.aspect peer).link?.isSome = true)
    (hquiet : (t.hand d.now message
      ((d.aspect peer).link d.newSession peer, d.logOf peer)).1.isDue d.now = false) :
    ∃ d', Does S d (.call peer message) d' := by
  obtain ⟨w, hw, hopen⟩ := open_enlist h.entered peer
  have hsent := sent_push h peer message hw hopen
  obtain ⟨next, v, hstir, hv, hempty, hlife, hothers⟩ := hsent.exists_turn hs hgiven
  have hnow : next.now = d.now := (hstir.frame hsent.order).now.trans hsent.now
  have hsettled : next.Settled := by
    refine (hsent.order.stir hstir).settled fun other u hu => ?_
    rw [hnow]
    by_cases hother : other = peer
    · subst hother
      cases hv.symm.trans hu
      rw [← hlife] at hquiet
      exact ⟨hempty, hquiet⟩
    · rw [hothers other hother] at hu
      exact ⟨h.toSettled.inbox_eq_nil h.toInOrder hu, h.toSettled.quiet h.toInOrder hu⟩
  have hfound : message.opens = false → (d.find? peer).isSome = true :=
    fun hopens => h.find?_isSome.trans (hknown hopens)
  exact ⟨next, .call (.of_ofMessage hfound (.of_route h hw hopen (.single hstir))) hsettled⟩

/-- Messages after each of which nothing is due are dealt with one after another. -/
theorem AtRest.exists_calls (hs : S s) (hgiven : ∀ s, S s → t.Given peer s)
    (messages : List (Message ρ)) (h : d.AtRest)
    (hknown : ∀ message ∈ messages.head?, message.opens = false →
      (d.aspect peer).link?.isSome = true)
    (hquiet : ∀ part, part <+: messages → part ≠ [] →
      (t.handAll d.now part ((d.aspect peer).link d.newSession peer, d.logOf peer)).1.isDue d.now =
        false) :
    ∃ d', Runs S d (messages.map (.call peer)) d' ∧ d'.AtRest := by
  induction messages generalizing d with
  | nil => exact ⟨d, .nil d, h⟩
  | cons message messages ih =>
      have hfirst := hquiet [message] (List.prefix_append [message] messages) (List.cons_ne_nil _ _)
      obtain ⟨next, hdoes⟩ := h.exists_call hs (hgiven s hs) message (hknown message rfl) hfirst
      obtain ⟨hnext, hnew, hfollows, -⟩ := hdoes.follows h hgiven
      have haspect := hfollows.eq_of_quiet (hknown message rfl) hfirst
      have hnow : next.now = d.now := congrArg Aspect.now haspect
      have hlog : next.logOf peer = _ := congrArg Aspect.log haspect
      obtain ⟨d', hruns, hrest⟩ := ih hnext (fun _ _ _ => by rw [haspect]; rfl)
        fun part hpart _ => by
          rw [hnow, hlog, haspect]
          exact hquiet (message :: part) (List.cons_prefix_cons.2 ⟨rfl, hpart⟩) (List.cons_ne_nil _ _)
      exact ⟨d', .cons hdoes hruns, hrest⟩

end Directory

/-! ### A device that is by itself -/

namespace Directory

variable {t : Treatment} {message : Message ρ} {sent : Directory σ ρ τ}

/-- All workers are for one device. -/
def Alone (peer : Address) (d : Directory σ ρ τ) : Prop := ∀ other ∈ d.peers, other = peer

namespace Alone

section Workers

omit [ProfileSession σ ρ τ] [DecidableEq τ] [Outlined ρ]

theorem eq_of_worker? (halone : Alone peer d) (h : d.InOrder) {other : Address}
    (hworker : d.worker? other = some w) : other = peer := by
  obtain ⟨i, -, hw, rfl, -⟩ := h.of_worker? hworker
  exact halone _ (List.mem_map_of_mem (List.mem_of_getElem? hw))

/-- When the one worker has nothing to do, nobody has. -/
theorem settled (halone : Alone peer d) (h : d.InOrder)
    (hidle : ∀ w, d.worker? peer = some w → w.inbox = [] ∧ w.link.isDue d.now = false) :
    d.Settled := by
  refine h.settled fun other w hw => ?_
  obtain rfl := halone.eq_of_worker? h hw
  exact hidle w hw

theorem quietUntil (halone : Alone peer d) (h : d.InOrder) {instant : Instant}
    (hquiet : ∀ w, d.worker? peer = some w → ∀ deadline,
      w.link.alarms.nextDeadline = some deadline → instant ≤ deadline) : d.QuietUntil instant := by
  refine h.quietUntil fun other w hw => ?_
  obtain rfl := halone.eq_of_worker? h hw
  exact hquiet w hw

end Workers

variable {now : Instant} {life last : Link σ ρ τ × List Effect}

/-- The one link can be woken until nothing is due. -/
theorem exists_stirs (hs : S s) (hgiven : ∀ s, S s → t.Given peer s) (halone : Alone peer d)
    (h : d.InOrder) (hrouses : t.Rouses now life last) (hnow : d.now = now)
    (hworker : d.worker? peer = some w) (hempty : w.inbox = [])
    (hlife : (w.link, d.logOf peer) = life) :
    ∃ d' v, Stirs S d d' ∧ d'.Settled ∧ d'.worker? peer = some v ∧ v.inbox = [] ∧
      (v.link, d'.logOf peer) = last := by
  induction hrouses generalizing d w with
  | quiet hquiet =>
      subst hnow hlife
      refine ⟨d, w, .refl, halone.settled h fun v hv => ?_, hworker, hempty, rfl⟩
      cases hworker.symm.trans hv
      exact ⟨hempty, hquiet⟩
  | wake hdue hrest ih =>
      subst hnow hlife
      obtain ⟨i, -, hw, hpeer, hopen⟩ := h.of_worker? hworker
      have hwake : d.wake s i = d.enter i (w.wake (d.scene s w.link.peer)) := by
        rw [wake, hw]
        refine if_pos ?_
        rw [Worker.nextDeadline, hopen]
        exact hdue
      have hstir : Stir S d (d.enter i (w.wake (d.scene s w.link.peer))) := hwake ▸ .wake s hs i
      have hframe := hstir.frame h
      obtain ⟨v, hv, hinbox, hlife⟩ := rouse_for h (hgiven s hs) hw hopen hpeer
      obtain ⟨d', u, hstirs, hafter⟩ := ih (fun p hp => halone p (hframe.peers ▸ hp)) (h.stir hstir)
        hframe.now hv (hinbox.trans hempty) hlife
      exact ⟨d', u, .head hstir hstirs, hafter⟩

/-- The one link can handle a message, and then be woken until nothing is due. -/
theorem exists_handled (hs : S s) (hgiven : ∀ s, S s → t.Given peer s)
    (hsent : Sent d peer message sent) (halone : Alone peer sent)
    (hrouses : t.Rouses d.now
      (t.hand d.now message ((d.aspect peer).link d.newSession peer, d.logOf peer)) last) :
    ∃ d', Stirs S sent d' ∧ d'.Settled := by
  obtain ⟨next, v, hstir, hv, hempty, hlife, -⟩ := hsent.exists_turn hs (hgiven s hs)
  have hframe := hstir.frame hsent.order
  obtain ⟨d', u, hstirs, hsettled, -⟩ :=
    exists_stirs hs hgiven (fun p hp => halone p (hframe.peers ▸ hp)) (hsent.order.stir hstir)
      hrouses (hframe.now.trans hsent.now) hv hempty hlife
  exact ⟨d', .head hstir hstirs, hsettled⟩

end Alone

/-- While time passes, workers may do something first. -/
theorem Elapses.of_stirs {target : Instant} {next : Directory σ ρ τ} (hstirs : Stirs S d next)
    (hrest : Elapses S target next d') : Elapses S target d d' := by
  induction hstirs using Relation.ReflTransGen.head_induction_on with
  | refl => exact hrest
  | head hstir _ ih => exact .stir hstir ih

/-- When no alarm comes before an instant, time can pass up to it at once. -/
theorem Alone.exists_pass {target : Instant} (halone : Alone peer d) (h : d.AtRest)
    (hwithin : d.now ≤ target)
    (hquiet : ∀ w, d.worker? peer = some w → w.link.isDue target = false) :
    ∃ d', Elapses S target d d' ∧ d'.Settled := by
  rcases Nat.eq_or_lt_of_le hwithin with hnow | hlater
  · exact ⟨d, .arrived d hnow, h.toSettled⟩
  · have huntil : d.QuietUntil target := halone.quietUntil h.toInOrder fun w hw deadline hnext =>
      Nat.le_of_lt (Link.isDue_eq_false_iff.1 (hquiet w hw) deadline hnext)
    refine ⟨{ d with now := target },
      .later target h.toSettled hlater (Nat.le_refl _) huntil (.arrived _ rfl), ?_⟩
    have halone' : Alone peer ({ d with now := target } : Directory σ ρ τ) := halone
    exact halone'.settled (h.toInOrder.of_eq rfl rfl rfl h.fresh) fun w hw =>
      ⟨h.toSettled.inbox_eq_nil h.toInOrder hw, hquiet w hw⟩

/-- The one link can be woken at each of its alarms while time passes. -/
theorem Alone.exists_elapses {now target : Instant}
    {life last : Link σ ρ τ × List Effect} (hs : S s) (hgiven : ∀ s, S s → t.Given peer s)
    (halone : Alone peer d) (h : d.AtRest) (hlasts : t.Lasts target now life last)
    (hnow : d.now = now) (hwithin : now ≤ target) (hworker : d.worker? peer = some w)
    (hlife : (w.link, d.logOf peer) = life) : ∃ d', Elapses S target d d' ∧ d'.Settled := by
  induction hlasts generalizing d w with
  | quiet hquiet =>
      subst hnow hlife
      refine halone.exists_pass h hwithin fun v hv => ?_
      cases hworker.symm.trans hv
      exact hquiet
  | @alarm now deadline life roused last hnext hlater hbefore hrouses hrest ih =>
      subst hnow hlife
      have huntil : d.QuietUntil deadline := halone.quietUntil h.toInOrder fun v hv other hother => by
        cases hworker.symm.trans hv
        exact Nat.le_of_eq (Option.some.inj (hnext.symm.trans hother))
      have horder : ({ d with now := deadline } : Directory σ ρ τ).InOrder :=
        h.toInOrder.of_eq rfl rfl rfl h.fresh
      have halone' : Alone peer ({ d with now := deadline } : Directory σ ρ τ) := halone
      obtain ⟨next, v, hstirs, hsettled, hv, -, hroused⟩ := halone'.exists_stirs hs hgiven horder
        hrouses rfl hworker (h.toSettled.inbox_eq_nil h.toInOrder hworker) rfl
      have hframe := hstirs.frame horder
      -- from this alarm on the rest of the time passes in the same way
      obtain ⟨d', helapses, hlast⟩ := ih (fun p hp => halone p (hframe.peers ▸ hp))
        ⟨horder.stirs hstirs, hsettled⟩ hframe.now hbefore hv hroused
      exact ⟨d', .later deadline h.toSettled hlater hbefore huntil (.of_stirs hstirs helapses), hlast⟩

/-- **What may become of the aspect of a device that is by itself can be brought about.** -/
theorem Alone.exists_does {deed : Deed ρ} {v : Aspect σ ρ τ} (hs : S s)
    (hgiven : ∀ s, S s → t.Given peer s) (halone : Alone peer d) (h : d.AtRest)
    (hfollows : (d.aspect peer).Follows t d.newSession peer deed v)
    (hconcerns : deed.concerns peer = true) : ∃ d', Does S d deed d' := by
  cases hfollows with
  | foreign hother => exact absurd (beq_iff_eq.1 hconcerns) hother
  | unheeded hopens hnone =>
      have hfound : d.find? peer = none := by
        rw [← Option.isNone_iff_eq_none, ← Option.not_isSome, h.find?_isSome, hnone]
        rfl
      obtain ⟨result, hdone⟩ := Plan.Done.of_unknown (S := S) hopens hfound
      exact ⟨d, .call hdone h.toSettled⟩
  | @heeded message life hknown hrouses =>
      -- the message goes to the worker of the device, a new one if need be
      obtain ⟨w, hw, hopen⟩ := open_enlist h.entered peer
      have hsent := sent_push h peer message hw hopen
      have halone' : Alone peer ((d.enlist peer).2.push (d.enlist peer).1 w (.message message)) :=
        fun other hother => (hsent.peers other hother).elim (halone other) id
      obtain ⟨d', hstirs, hsettled⟩ := halone'.exists_handled hs hgiven hsent hrouses
      have hfound : message.opens = false → (d.find? peer).isSome = true :=
        fun hopens => h.find?_isSome.trans (hknown hopens)
      exact ⟨d', .call (.of_ofMessage hfound (.of_route h hw hopen hstirs)) hsettled⟩
  | reaped =>
      obtain ⟨count, d', hdone, hsettled⟩ := Plan.Done.exists_reap hs h
      exact ⟨d', .reap hdone hsettled⟩
  | stopped =>
      obtain ⟨d', hdone, hsettled⟩ := Plan.Done.exists_shutdown hs h
      exact ⟨d', .stop hdone hsettled⟩
  | @waited duration hnone =>
      obtain ⟨d', helapses, hsettled⟩ :=
        halone.exists_pass (S := S) h (Nat.le_add_right d.now duration) fun w hw => by
          rw [aspect, hw] at hnone
          cases hnone
      exact ⟨d', .pass helapses hsettled⟩
  | @lasted duration link life hlink hlasts =>
      obtain ⟨w, hw, rfl⟩ := Option.map_eq_some_iff.1 hlink
      obtain ⟨d', helapses, hsettled⟩ := halone.exists_elapses hs hgiven h hlasts rfl
        (Nat.le_add_right d.now duration) hw rfl
      exact ⟨d', .pass helapses hsettled⟩

end Directory

end AudioLink
