/-
**Aspects that are alike.**

What concerns a device in one directory may be alike to what concerns it in another: it is the same
time, there is a link in both or in neither, the links are twins, and what has left them is alike.
Whatever becomes of one may become of the other then, and nothing else but what is alike again.  The
handles of calls are given out by the workers, and a worker of one directory has its counterpart in
the other under another number.

Main definitions:

* `AudioLink.CallHandle.Issued` — handles that were given out by workers that are paired;
* `AudioLink.Treatment.HeedsCalls` — the transport answers in view of what it was asked for the
  device, and of nothing else;
* `AudioLink.Nameless` — a profile for which the number of its worker means nothing;
* `AudioLink.Aspect.Alike` — two aspects that are alike.

Main results:

* `AudioLink.Treatment.Rouses.alike`, `AudioLink.Treatment.Lasts.alike` — twins are woken alike;
* `AudioLink.Aspect.Alike.follows` — **what becomes of aspects that are alike is alike**.
-/

import AudioLink.Proofs.Directory.Aspects
import AudioLink.Proofs.Likeness.Profiles

set_option relaxedAutoImplicit false
set_option autoImplicit false

namespace AudioLink

variable {σ ρ τ : Type} {pairs : CallHandle → CallHandle → Prop}

/-! ### Handles -/

/-- Handles of the same number that were given out by workers that are paired. -/
def CallHandle.Issued (workers : Nat → Nat → Prop) (a b : CallHandle) : Prop :=
  workers a.issuer b.issuer ∧ a.serial = b.serial

theorem CallHandle.biUnique_issued {workers : Nat → Nat → Prop} (h : Relator.BiUnique workers) :
    Relator.BiUnique (Issued workers) := by
  constructor
  · rintro ⟨i, n⟩ ⟨j, m⟩ c ⟨hi, hn⟩ ⟨hj, hm⟩
    exact congrArg₂ CallHandle.mk (h.1 hi hj) (hn.trans hm.symm)
  · rintro a ⟨i, n⟩ ⟨j, m⟩ ⟨hi, hn⟩ ⟨hj, hm⟩
    exact congrArg₂ CallHandle.mk (h.2 hi hj) (hn.symm.trans hm)

/-- The pairing of workers when another two are paired. -/
def pairedWith (workers : Nat → Nat → Prop) (i j : Nat) (a b : Nat) : Prop :=
  workers a b ∨ a = i ∧ b = j

/-- Two workers that are new on either side may be paired. -/
theorem biUnique_pairedWith {workers : Nat → Nat → Prop} (h : Relator.BiUnique workers) {i j : Nat}
    (hnew : ∀ a b, workers a b → a < i ∧ b < j) : Relator.BiUnique (pairedWith workers i j) := by
  constructor
  · rintro a a' b (hab | ⟨rfl, rfl⟩) (hab' | ⟨rfl, hb⟩)
    · exact h.1 hab hab'
    · exact absurd hb (Nat.ne_of_lt (hnew _ _ hab).2)
    · exact absurd rfl (Nat.ne_of_lt (hnew _ _ hab').2)
    · rfl
  · rintro a b b' (hab | ⟨rfl, rfl⟩) (hab' | ⟨ha, rfl⟩)
    · exact h.2 hab hab'
    · exact absurd ha (Nat.ne_of_lt (hnew _ _ hab).1)
    · exact absurd rfl (Nat.ne_of_lt (hnew _ _ hab').1)
    · rfl

/-- What is alike stays alike when more handles are paired. -/
theorem Effect.Alike.mono {more : CallHandle → CallHandle → Prop}
    (hmore : ∀ a b, pairs a b → more a b) {effect twin : Effect} (h : effect.Alike pairs twin) :
    effect.Alike more twin := by
  unfold Effect.Alike at h
  split at h
  · obtain ⟨handle, hpair, heq⟩ := h
    exact ⟨handle, hmore _ _ hpair, heq⟩
  · next hother =>
      unfold Effect.Alike
      split
      · exact (hother _ _ rfl rfl).elim
      · exact h

/-! ### One device -/

/-- What leaves two links that are alike asks the same of the transport. -/
theorem calls_eq_of_alike {log twin : List Effect}
    (h : List.Forall₂ (Effect.Alike pairs) log twin) :
    log.filterMap Effect.call? = twin.filterMap Effect.call? := by
  induction h with
  | nil => rfl
  | @cons effect other log twin halike _ ih =>
      have hcall : effect.call? = other.call? := by
        unfold Effect.Alike at halike
        split at halike
        · rfl
        · rw [halike]
      rw [List.filterMap_cons, List.filterMap_cons, hcall, ih]

/-- Two links that are twins, and what has left them is alike. -/
structure Link.LifeAlike (pairs : CallHandle → CallHandle → Prop) (Like : Prop → σ → σ → Prop)
    (life twin : Link σ ρ τ × List Effect) : Prop where
  link : Twins Like life.1 twin.1
  log : List.Forall₂ (Effect.Alike pairs) life.2 twin.2

namespace Treatment

variable {t : Treatment}

/-- The transport answers in view of what it was asked for the device, and how it has answered, and
of nothing else. -/
def HeedsCalls (t : Treatment) : Prop :=
  ∀ log twin : List Effect, log.filterMap Effect.call? = twin.filterMap Effect.call? →
    t.transport log = t.transport twin

/-- Where what has left two links is alike, so are the scenes. -/
theorem HeedsCalls.scene (h : t.HeedsCalls) (now : Instant) {log twin : List Effect}
    (hlog : List.Forall₂ (Effect.Alike pairs) log twin) :
    (t.scene now log).Alike pairs (t.scene now twin) :=
  ⟨rfl, rfl, fun _ _ hrecent => h _ _ (calls_eq_of_alike (List.rel_append hlog hrecent))⟩

variable [ProfileSession σ ρ τ] [DecidableEq τ] [Outlined ρ] {Like : Prop → σ → σ → Prop}
  (himpartial : Impartial (ρ := ρ) (τ := τ) pairs Like) (hheeds : t.HeedsCalls)
  {now : Instant} {life last twin : Link σ ρ τ × List Effect}

include himpartial hheeds

/-- Twins make the same of a message. -/
theorem hand_alike (h : Link.LifeAlike pairs Like life twin) (message : Message ρ) :
    Link.LifeAlike pairs Like (t.hand now message life) (t.hand now message twin) := by
  obtain ⟨hlink, hlog⟩ := h.link.process himpartial (hheeds.scene now h.log) message
  exact ⟨hlink, List.rel_append h.log hlog⟩

theorem handAll_alike (messages : List (Message ρ)) (h : Link.LifeAlike pairs Like life twin) :
    Link.LifeAlike pairs Like (t.handAll now messages life) (t.handAll now messages twin) := by
  induction messages generalizing life twin with
  | nil => exact h
  | cons message messages ih => exact ih (hand_alike himpartial hheeds h message)

theorem rouse_alike (h : Link.LifeAlike pairs Like life twin) :
    Link.LifeAlike pairs Like (t.rouse now life) (t.rouse now twin) := by
  obtain ⟨hlink, hlog⟩ := h.link.fireDue himpartial (hheeds.scene now h.log)
  exact ⟨hlink, List.rel_append h.log hlog⟩

/-- **Twins are woken alike**, until nothing is due. -/
theorem Rouses.alike (hrouses : t.Rouses now life last) :
    ∀ twin, Link.LifeAlike pairs Like life twin →
      (∃ twinLast, t.Rouses now twin twinLast) ∧
        ∀ twinLast, t.Rouses now twin twinLast → Link.LifeAlike pairs Like last twinLast := by
  induction hrouses with
  | @quiet life hquiet =>
      intro twin h
      have hsame : twin.1.isDue now = false := by rwa [Link.isDue, h.link.alarms]
      refine ⟨⟨twin, .quiet hsame⟩, fun twinLast hlast => ?_⟩
      rw [hlast.eq_of_quiet hsame]
      exact h
  | @wake life last hdue hrest ih =>
      intro twin h
      have hsame : twin.1.isDue now = true := by rwa [Link.isDue, h.link.alarms]
      obtain ⟨⟨twinLast, hlast⟩, hall⟩ := ih _ (rouse_alike himpartial hheeds h)
      refine ⟨⟨twinLast, .wake hsame hlast⟩, fun other hother => ?_⟩
      cases hother with
      | quiet hquiet => cases hquiet.symm.trans hsame
      | wake _ hrest => exact hall other hrest

/-- **Twins are woken at the same alarms**, and alike. -/
theorem Lasts.alike {target : Instant} (hlasts : t.Lasts target now life last) :
    ∀ twin, Link.LifeAlike pairs Like life twin →
      (∃ twinLast, t.Lasts target now twin twinLast) ∧
        ∀ twinLast, t.Lasts target now twin twinLast →
          Link.LifeAlike pairs Like last twinLast := by
  induction hlasts with
  | @quiet now life hquiet =>
      intro twin h
      have hsame : twin.1.isDue target = false := by rwa [Link.isDue, h.link.alarms]
      refine ⟨⟨twin, .quiet hsame⟩, fun twinLast hlast => ?_⟩
      cases hlast with
      | quiet => exact h
      | alarm hnext _ hwithin =>
          exact absurd hwithin (Nat.not_le.2 (Link.isDue_eq_false_iff.1 hsame _ hnext))
  | @alarm now deadline life roused last hnext hlater hwithin hrouses hrest ih =>
      intro twin h
      have hsame : twin.1.alarms.nextDeadline = some deadline := by rw [h.link.alarms, hnext]
      obtain ⟨⟨twinRoused, hroused⟩, hall⟩ := hrouses.alike himpartial hheeds twin h
      obtain ⟨⟨twinLast, hlast⟩, -⟩ := ih twinRoused (hall _ hroused)
      refine ⟨⟨twinLast, .alarm hsame hlater hwithin hroused hlast⟩, fun other hother => ?_⟩
      cases hother with
      | quiet hquiet => exact absurd hwithin (Nat.not_le.2 (Link.isDue_eq_false_iff.1 hquiet _ hsame))
      | alarm hnext' _ _ hrouses' hrest' =>
          obtain rfl := Option.some.inj (hsame.symm.trans hnext')
          exact (ih _ (hall _ hrouses')).2 other hrest'

end Treatment

/-! ### Profiles -/

/-- For the profile the number of its worker means nothing, but for the handles that are given
out. -/
structure Nameless [ProfileSession σ ρ τ] (newSession : Nat → σ)
    (Like : (CallHandle → CallHandle → Prop) → Prop → σ → σ → Prop) : Prop where
  impartial : ∀ pairs, Relator.BiUnique pairs → Impartial (ρ := ρ) (τ := τ) pairs (Like pairs)
  begun : ∀ pairs i j, (∀ n, pairs ⟨i, n⟩ ⟨j, n⟩) → Like pairs False (newSession i) (newSession j)

theorem Stream.nameless (settings : StreamSettings) :
    Nameless (fun _ => start settings) fun _ _ => Alike where
  impartial _ _ := impartial
  begun _ _ _ _ := .refl _

theorem Handsfree.nameless (settings : HandsfreeSettings) :
    Nameless (start settings) Alike where
  impartial _ hpairs := impartial hpairs
  begun pairs i j hissued := by
    refine ⟨.empty, .start j settings.outgoingTimeout, .none, rfl, ⟨.nil, .nil, rfl, fun n => ?_⟩,
      nofun, rfl⟩
    show pairs ⟨i, 0 + n⟩ ⟨j, 0 + n⟩
    rw [Nat.zero_add]
    exact hissued n

/-! ### Aspects -/

namespace Aspect

/-- Two aspects that are alike, if workers are paired like this. -/
structure Alike (Like : (CallHandle → CallHandle → Prop) → Prop → σ → σ → Prop)
    (workers : Nat → Nat → Prop) (v twin : Aspect σ ρ τ) : Prop where
  now : twin.now = v.now
  counted : ∀ i j, workers i j → i < v.count ∧ j < twin.count
  link? : Option.Rel (Link.Twins (Like (CallHandle.Issued workers))) v.link? twin.link?
  log : List.Forall₂ (Effect.Alike (CallHandle.Issued workers)) v.log twin.log

variable {Like : (CallHandle → CallHandle → Prop) → Prop → σ → σ → Prop}
  {workers : Nat → Nat → Prop} {v w twin : Aspect σ ρ τ} {t : Treatment} {newSession : Nat → σ}
  {peer : Address} {deed : Deed ρ}

namespace Alike

/-- It does not matter how many workers there are for others. -/
theorem of_count_le (h : Alike Like workers v twin) {count : Nat} (hcount : v.count ≤ count) :
    Alike Like workers { v with count := count } twin :=
  { h with counted := fun i j hij => (h.counted i j hij).imp_left (Nat.lt_of_lt_of_le · hcount) }

/-- There is a link in both or in neither. -/
theorem cases (h : Alike Like workers v twin) :
    v.link? = none ∧ twin.link? = none ∨ ∃ link other, v.link? = some link ∧
      twin.link? = some other ∧ Link.Twins (Like (CallHandle.Issued workers)) link other := by
  obtain ⟨now, count, link?, log⟩ := v
  obtain ⟨now', count', twin?, log'⟩ := twin
  obtain ⟨-, -, hlink, -⟩ := h
  cases hlink with
  | none => exact .inl ⟨rfl, rfl⟩
  | some htwins => exact .inr ⟨_, _, rfl, rfl, htwins⟩

theorem isSome_eq (h : Alike Like workers v twin) : twin.link?.isSome = v.link?.isSome := by
  rcases h.cases with ⟨hnone, hother⟩ | ⟨link, other, hlink, hother, -⟩
  · rw [hnone, hother]
  · rw [hlink, hother]
    rfl

theorem eq_none (h : Alike Like workers v twin) (hnone : v.link? = none) : twin.link? = none := by
  rw [← Option.isNone_iff_eq_none, ← Option.not_isSome, h.isSome_eq, hnone]
  rfl

/-- Where there are links they are alike, and else new links are; the workers that start with them
may be paired. -/
theorem goesOn [ProfileSession σ ρ τ] (hnameless : Nameless (ρ := ρ) (τ := τ) newSession Like)
    (hworkers : Relator.BiUnique workers) (h : Alike Like workers v twin) (peer : Address) :
    ∃ more, Relator.BiUnique more ∧
      Link.LifeAlike (CallHandle.Issued more) (Like (CallHandle.Issued more))
        (v.link newSession peer, v.log) (twin.link newSession peer, twin.log) ∧
      ∀ now life twinLife, Link.LifeAlike (CallHandle.Issued more) (Like (CallHandle.Issued more))
        life twinLife → Alike Like more (v.goOn now life) (twin.goOn now twinLife) := by
  rcases h.cases with ⟨hnone, hother⟩ | ⟨link, other, hlink, hother, htwins⟩
  · have hmore : ∀ a b, CallHandle.Issued workers a b →
        CallHandle.Issued (pairedWith workers v.count twin.count) a b :=
      fun a b hissued => ⟨.inl hissued.1, hissued.2⟩
    have hbi := biUnique_pairedWith hworkers h.counted
    have hbegun := hnameless.begun (CallHandle.Issued (pairedWith workers v.count twin.count))
      v.count twin.count fun n => ⟨.inr ⟨rfl, rfl⟩, rfl⟩
    refine ⟨_, hbi, ⟨?_, h.log.imp fun _ _ => .mono hmore⟩, fun now life twinLife hlife => ?_⟩
    · rw [link, link, hnone, hother]
      exact Link.twins_start (hnameless.impartial _ (CallHandle.biUnique_issued hbi)) hbegun peer
    · refine ⟨rfl, ?_, .some hlife.link, hlife.log⟩
      rw [goOn, goOn, hnone, hother]
      rintro i j (hij | ⟨rfl, rfl⟩)
      · exact (h.counted i j hij).imp Nat.lt_succ_of_lt Nat.lt_succ_of_lt
      · exact ⟨Nat.lt_succ_self _, Nat.lt_succ_self _⟩
  · refine ⟨workers, hworkers, ⟨?_, h.log⟩, fun now life twinLife hlife => ?_⟩
    · rw [Aspect.link, Aspect.link, hlink, hother]
      exact htwins
    · refine ⟨rfl, ?_, .some hlife.link, hlife.log⟩
      rw [goOn, goOn, hlink, hother]
      exact h.counted

variable [ProfileSession σ ρ τ] [DecidableEq τ] [Outlined ρ]
  (hnameless : Nameless (ρ := ρ) (τ := τ) newSession Like) (hheeds : t.HeedsCalls)
  (hworkers : Relator.BiUnique workers) (h : Alike Like workers v twin)

include hnameless hheeds hworkers h

/-- A message that is handled in one is handled in the other. -/
theorem heeded {message : Message ρ} {life : Link σ ρ τ × List Effect}
    (hknown : message.opens = false → v.link?.isSome = true)
    (hrouses : t.Rouses v.now (t.hand v.now message (v.link newSession peer, v.log)) life) :
    (∃ last, twin.Follows t newSession peer (.call peer message) last) ∧
      ∀ last, twin.Follows t newSession peer (.call peer message) last →
        ∃ more, Relator.BiUnique more ∧ Alike Like more (v.goOn v.now life) last := by
  obtain ⟨more, hbi, hlinks, hgoesOn⟩ := h.goesOn hnameless hworkers peer
  have himpartial := hnameless.impartial _ (CallHandle.biUnique_issued hbi)
  obtain ⟨⟨twinLife, hroused⟩, hall⟩ := hrouses.alike himpartial hheeds _
    (Treatment.hand_alike himpartial hheeds hlinks message)
  rw [← h.now] at hroused hall
  have hsame : message.opens = false → twin.link?.isSome = true :=
    fun hopens => h.isSome_eq.trans (hknown hopens)
  refine ⟨⟨_, .heeded hsame hroused⟩, fun last hlast => ?_⟩
  cases hlast with
  | foreign hother => exact absurd rfl hother
  | unheeded hopens hnone =>
      have hsome := hsame hopens
      rw [hnone] at hsome
      cases hsome
  | heeded _ hroused' =>
      rw [h.now]
      exact ⟨more, hbi, hgoesOn _ _ _ (hall _ hroused')⟩

/-- While time passes the links are woken alike. -/
theorem lasted {duration : Duration} {link : Link σ ρ τ} {life : Link σ ρ τ × List Effect}
    (hlink : v.link? = some link) (hlasts : t.Lasts (v.now + duration) v.now (link, v.log) life) :
    (∃ last, twin.Follows t newSession peer (.pass duration) last) ∧
      ∀ last, twin.Follows t newSession peer (.pass duration) last →
        ∃ more, Relator.BiUnique more ∧
          Alike Like more (v.goOn (v.now + duration) life) last := by
  obtain ⟨other, hother⟩ := Option.isSome_iff_exists.1
    (h.isSome_eq.trans (Option.isSome_iff_exists.2 ⟨link, hlink⟩))
  obtain ⟨more, hbi, hlinks, hgoesOn⟩ := h.goesOn hnameless hworkers peer
  have himpartial := hnameless.impartial _ (CallHandle.biUnique_issued hbi)
  rw [Aspect.link, Aspect.link, hlink, hother] at hlinks
  obtain ⟨⟨twinLife, hlasted⟩, hall⟩ := hlasts.alike himpartial hheeds _ hlinks
  rw [← h.now] at hlasted hall
  refine ⟨⟨_, .lasted hother hlasted⟩, fun last hlast => ?_⟩
  cases hlast with
  | waited hnone => cases hnone.symm.trans hother
  | lasted hother' hlasted' =>
      cases hother.symm.trans hother'
      rw [h.now] at hall hlasted' ⊢
      exact ⟨more, hbi, hgoesOn _ _ _ (hall _ hlasted')⟩

/-- **What becomes of aspects that are alike is alike**: whatever becomes of one, something becomes
of the other, and nothing but what is alike to it. -/
theorem follows (hfollows : v.Follows t newSession peer deed w)
    (hconcerns : deed.concerns peer = true) :
    (∃ last, twin.Follows t newSession peer deed last) ∧
      ∀ last, twin.Follows t newSession peer deed last →
        ∃ more, Relator.BiUnique more ∧ Alike Like more w last := by
  cases hfollows with
  | foreign hother => exact absurd (beq_iff_eq.1 hconcerns) hother
  | unheeded hopens hnone =>
      have hsame := h.eq_none hnone
      refine ⟨⟨_, .unheeded hopens hsame⟩, fun last hlast => ?_⟩
      cases hlast with
      | foreign hother => exact absurd rfl hother
      | unheeded => exact ⟨workers, hworkers, h⟩
      | heeded hknown =>
          have hsome := hknown hopens
          rw [hsame] at hsome
          cases hsome
  | heeded hknown hrouses => exact h.heeded hnameless hheeds hworkers hknown hrouses
  | reaped =>
      refine ⟨⟨_, .reaped⟩, fun last hlast => ?_⟩
      cases hlast
      refine ⟨workers, hworkers, h.now, h.counted, ?_, h.log⟩
      -- twins are idle at the same time
      rw [retired, retired]
      rcases h.cases with ⟨hnone, hother⟩ | ⟨link, other, hlink, hother, htwins⟩
      · rw [hnone, hother]
        exact .none
      · rw [hlink, hother, Option.filter_some, Option.filter_some, htwins.isIdle]
        split
        · exact .some htwins
        · exact .none
  | stopped =>
      refine ⟨⟨_, .stopped⟩, fun last hlast => ?_⟩
      cases hlast
      exact ⟨workers, hworkers, h.now, h.counted, .none, h.log⟩
  | @waited duration hnone =>
      have hsame := h.eq_none hnone
      refine ⟨⟨_, .waited hsame⟩, fun last hlast => ?_⟩
      cases hlast with
      | waited => exact ⟨workers, hworkers, congrArg (· + duration) h.now, h.counted, h.link?, h.log⟩
      | lasted hlink => cases hsame.symm.trans hlink
  | lasted hlink hlasts => exact h.lasted hnameless hheeds hworkers hlink hlasts

end Alike

end Aspect

end AudioLink
