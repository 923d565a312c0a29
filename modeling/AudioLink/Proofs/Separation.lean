/-
**Devices do not disturb each other.**

All devices share a directory, a clock and a reaper.  Yet what is done about one shows nowhere in what
leaves the link to another: that is the same as if nothing had been done about any other device, and
only the idle links had been retired, all workers stopped, and time passed as before.  For this the
preferences have to stay as they are, and the transport has to answer for a device in view of what it
was asked for this device only; for other devices it may answer as it likes.

The handles of calls may be others, since they are given out by workers, and workers are numbered in
the order in which they are entered.

Main results:

* `AudioLink.Directory.Runs.alike` — from aspects that are alike on, both with and without what is
  done about others, the aspects stay alike;
* `AudioLink.Directory.peers_apart` — **what leaves the link to a device is the same without what is
  done about others**, whichever profile the links have.
-/

import AudioLink.Proofs.Directory.Feasible
import AudioLink.Proofs.Directory.Order
import AudioLink.Proofs.Likeness.Aspects
import AudioLink.Proofs.Link.Rounds
import AudioLink.Settings.Validation

set_option relaxedAutoImplicit false
set_option autoImplicit false

namespace AudioLink

variable {σ ρ τ : Type} [ProfileSession σ ρ τ] [DecidableEq τ] [Outlined ρ]
  {S : Surroundings → Prop} {s : Surroundings} {t : Treatment} {newSession : Nat → σ}
  {Like : (CallHandle → CallHandle → Prop) → Prop → σ → σ → Prop} {peer : Address}
  {deed : Deed ρ}

/-- What is done about others does not show in the aspect of a device. -/
theorem Aspect.Follows.of_foreign {v w : Aspect σ ρ τ}
    (hfollows : v.Follows t newSession peer deed w) (hforeign : deed.concerns peer = false) :
    ∃ count, v.count ≤ count ∧ w = { v with count := count } := by
  cases hfollows with
  | foreign hother hcount => exact ⟨_, hcount, rfl⟩
  | unheeded | heeded => exact absurd (beq_self_eq_true peer) (Bool.eq_false_iff.1 hforeign)
  | reaped | stopped | waited | lasted => cases hforeign

namespace Directory

variable {d d' twin twin' : Directory σ ρ τ} {deeds : List (Deed ρ)}

/-- A device stays by itself if only things are done that concern it. -/
theorem Does.alone (hdoes : Does S d deed d') (h : d.AtRest) (hgiven : ∀ s, S s → t.Given peer s)
    (hconcerns : deed.concerns peer = true) (halone : Alone peer d) : Alone peer d' := by
  intro other hother
  obtain ⟨-, -, -, hpeers⟩ := hdoes.follows h hgiven
  rcases hpeers other hother with hold | ⟨message, rfl⟩
  · exact halone other hold
  · exact beq_iff_eq.1 hconcerns

/-- **Aspects that are alike stay alike**, when things are done about others in one directory, and
nothing is done about others in the other. -/
theorem Runs.alike (hs : S s) (hgiven : ∀ s, S s → t.Given peer s)
    (hnameless : Nameless (ρ := ρ) (τ := τ) newSession Like) (hheeds : t.HeedsCalls)
    {workers : Nat → Nat → Prop} (hworkers : Relator.BiUnique workers) (h : d.AtRest)
    (htwin : twin.AtRest) (halone : Alone peer twin) (hnew : d.newSession = newSession)
    (htwinNew : twin.newSession = newSession)
    (halike : (d.aspect peer).Alike Like workers (twin.aspect peer))
    (hruns : Runs S d deeds d') :
    (∃ twin', Runs S twin (deeds.filter (·.concerns peer)) twin') ∧
      ∀ twin', Runs S twin (deeds.filter (·.concerns peer)) twin' →
        ∃ more, Relator.BiUnique more ∧
          (d'.aspect peer).Alike Like more (twin'.aspect peer) := by
  induction hruns generalizing twin workers with
  | nil d =>
      refine ⟨⟨twin, .nil twin⟩, fun twin' hruns' => ?_⟩
      cases hruns'
      exact ⟨workers, hworkers, halike⟩
  | @cons d next d' deed deeds hdoes hruns ih =>
      obtain ⟨hnext, hsame, hfollows, -⟩ := hdoes.follows h hgiven
      cases hconcerns : deed.concerns peer with
      | false =>
          rw [List.filter_cons_of_neg (Bool.eq_false_iff.1 hconcerns)]
          obtain ⟨count, hcount, haspect⟩ := hfollows.of_foreign hconcerns
          refine ih hworkers hnext htwin halone (hsame.trans hnew) htwinNew ?_
          rw [haspect]
          exact halike.of_count_le hcount
      | true =>
          rw [List.filter_cons_of_pos hconcerns]
          rw [hnew] at hfollows
          obtain ⟨⟨v, hv⟩, hall⟩ := halike.follows hnameless hheeds hworkers hfollows hconcerns
          -- whatever is done in the twin, all that comes later is alike
          have hlater : ∀ {after}, Does S twin deed after →
              (∃ twin', Runs S after (deeds.filter (·.concerns peer)) twin') ∧
                ∀ twin', Runs S after (deeds.filter (·.concerns peer)) twin' →
                  ∃ more, Relator.BiUnique more ∧
                    (d'.aspect peer).Alike Like more (twin'.aspect peer) := by
            intro after hdoes'
            obtain ⟨hafter, hsame', hfollows', -⟩ := hdoes'.follows htwin hgiven
            rw [htwinNew] at hfollows'
            obtain ⟨more, hmore, halike'⟩ := hall _ hfollows'
            exact ih hmore hnext hafter (hdoes'.alone htwin hgiven hconcerns halone)
              (hsame.trans hnew) (hsame'.trans htwinNew) halike'
          rw [← htwinNew] at hv
          obtain ⟨after, hafter⟩ := halone.exists_does hs hgiven htwin hv hconcerns
          obtain ⟨twin', hruns'⟩ := (hlater hafter).1
          refine ⟨⟨twin', .cons hafter hruns'⟩, fun last hlast => ?_⟩
          cases hlast with
          | cons hdoes' hruns' => exact (hlater hdoes').2 last hruns'

/-- Whatever is done, what leaves the link to a device is the same as if only that had been done that
concerns the device, but for the handles of calls.  And that can be done too. -/
def Apart (peer : Address) (t : Treatment) (d : Directory σ ρ τ) : Prop :=
  ∀ deeds d', Runs (t.Given peer) d deeds d' →
    (∃ alone, Runs (t.Given peer) d (deeds.filter (·.concerns peer)) alone) ∧
      ∀ alone, Runs (t.Given peer) d (deeds.filter (·.concerns peer)) alone →
        ∃ pairs, Relator.BiUnique pairs ∧
          List.Forall₂ (Effect.Alike pairs) (d'.logOf peer) (alone.logOf peer)

/-- For a profile to which the numbers of workers mean nothing, no device is disturbed by others. -/
theorem apart_start (hnameless : Nameless (ρ := ρ) (τ := τ) newSession Like)
    (hheeds : t.HeedsCalls) (peer : Address) (room : Nat) :
    Apart peer t (start room newSession : Directory σ ρ τ) := by
  intro deeds d' hruns
  have hrest := atRest_start (ρ := ρ) (τ := τ) room newSession
  have halone : Alone peer (start room newSession : Directory σ ρ τ) := nofun
  have hnone : Relator.BiUnique fun _ _ : Nat => False := ⟨nofun, nofun⟩
  have halike : ((start room newSession : Directory σ ρ τ).aspect peer).Alike Like
      (fun _ _ => False) ((start room newSession).aspect peer) :=
    ⟨rfl, nofun, .none, .nil⟩
  have hgiven : t.Given peer ⟨fun _ => t.transport, t.preferences⟩ := ⟨rfl, rfl⟩
  obtain ⟨hexists, hall⟩ := hruns.alike hgiven (fun _ hs => hs) hnameless hheeds hnone hrest hrest
    halone rfl rfl halike
  refine ⟨hexists, fun alone halone' => ?_⟩
  obtain ⟨workers, hworkers, halike'⟩ := hall alone halone'
  exact ⟨_, CallHandle.biUnique_issued hworkers, halike'.log⟩

/-- **Devices do not disturb each other.**  Whatever is done about any devices, and in whatever order
workers do it, what leaves the link to one of them is the same as if nothing had been done about the
others; provided that the preferences stay as they are, and that the transport answers for the device
in view of what it was asked for the device, and of nothing else. -/
theorem peers_apart (peer : Address) (t : Treatment) (hheeds : t.HeedsCalls) (room : Nat) :
    (∀ settings : StreamSettings, Apart peer t
      (start room fun _ => Stream.start settings : Directory Stream Stream.Request Empty)) ∧
    ∀ settings : HandsfreeSettings, Apart peer t
      (start room (Handsfree.start settings) :
        Directory Handsfree Handsfree.Request Handsfree.AlarmKind) :=
  ⟨fun settings => apart_start (Stream.nameless settings) hheeds peer room,
    fun settings => apart_start (Handsfree.nameless settings) hheeds peer room⟩

end Directory

/-! ### Two devices -/

namespace Treatment

/-- The transport agrees to everything, and the user has said nothing. -/
def agreed : Treatment := ⟨fun _ _ => true, .empty⟩

/-- What has left a link is nothing to a transport that agrees to everything. -/
theorem handAll_agreed (now : Instant) (messages : List (Message ρ)) (link : Link σ ρ τ)
    (log : List Effect) : (agreed.handAll now messages (link, log)).1 =
      (link.live (messages.map (.hand (agreed.scene now [])))).1 := by
  induction messages generalizing link log with
  | nil => rfl
  | cons message messages ih => exact ih _ _

/-- When a new link has to be woken does not depend on its worker. -/
theorem isDue_handAll_start {t : Treatment}
    (hnameless : Nameless (ρ := ρ) (τ := τ) newSession Like) (hheeds : t.HeedsCalls) (i j : Nat)
    (peer : Address) (now : Instant) (messages : List (Message ρ)) (instant : Instant) :
    (t.handAll now messages ((.start peer (newSession i) : Link σ ρ τ), [])).1.isDue instant =
      (t.handAll now messages ((.start peer (newSession j) : Link σ ρ τ), [])).1.isDue instant := by
  have hworkers : Relator.BiUnique (pairedWith (fun _ _ => False) j i) :=
    biUnique_pairedWith ⟨nofun, nofun⟩ nofun
  have himpartial := hnameless.impartial _ (CallHandle.biUnique_issued hworkers)
  have hbegun := hnameless.begun (CallHandle.Issued (pairedWith (fun _ _ => False) j i)) j i
    fun _ => ⟨.inr ⟨rfl, rfl⟩, rfl⟩
  have halike : Link.LifeAlike (CallHandle.Issued (pairedWith (fun _ _ => False) j i)) _
      ((.start peer (newSession j) : Link σ ρ τ), []) (.start peer (newSession i), []) :=
    ⟨Link.twins_start himpartial hbegun peer, .nil⟩
  rw [Link.isDue, Link.isDue, (handAll_alike himpartial hheeds messages halike).link.alarms]

end Treatment

namespace Handsfree

open Treatment (agreed)

def phone : Address := ⟨[0, 0, 0, 0, 0, 3], rfl⟩

def tablet : Address := ⟨[0, 0, 0, 0, 0, 4], rfl⟩

/-- The phone is connected and introduced, and a number is dialled. -/
def talk : List (Message Request) :=
  [.connect, .event (.linkChanged .connected ⟨Capabilities.enhancedCallStatus, 0⟩),
    .event (.commandResult .ok none), .request (.dial "5551")]

/-- Another device is wanted to be connected before; the reaper comes by afterwards, and all workers
are stopped. -/
def evening : List (Deed Request) :=
  .call tablet .connect :: (talk.map (.call phone) ++ [.reap, .stop])

/-- No alarm goes off while a number is dialled. -/
theorem isDue_talk {peer : Address} (hpeer : peer = phone ∨ peer = tablet)
    (part : List (Message Request)) (hpart : part <+: talk) :
    (agreed.handAll 0 part (.start peer (start Settings.standard.handsfree 0), [])).1.isDue 0 =
      false := by
  have hparts : part = [] ∨ part = talk.take 1 ∨ part = talk.take 2 ∨ part = talk.take 3 ∨
      part = talk := by
    simpa [talk] using (List.mem_inits part talk).2 hpart
  rw [Treatment.handAll_agreed]
  rcases hpeer with rfl | rfl <;> rcases hparts with rfl | rfl | rfl | rfl | rfl
  all_goals
    rw [Link.live_eq_get 2 rfl]
    decide

theorem exists_evening (room : Nat) : ∃ d, Directory.Runs (agreed.Given phone)
    (.start room (start Settings.standard.handsfree)) evening d := by
  have hagreed (peer : Address) : agreed.Given peer ⟨fun _ => agreed.transport, .empty⟩ := ⟨rfl, rfl⟩
  have hrest := Directory.atRest_start (ρ := Request) (τ := AlarmKind) room
    (start Settings.standard.handsfree)
  obtain ⟨d₁, hfirst⟩ := hrest.exists_call (hagreed phone) (hagreed tablet) .connect nofun
    (isDue_talk (.inr rfl) [.connect] ⟨_, rfl⟩)
  obtain ⟨hrest₁, hnew, hfollows, -⟩ := hfirst.follows hrest fun _ hs => hs
  -- the phone still sees nothing but the clock
  obtain ⟨count, -, haspect⟩ := hfollows.of_foreign rfl
  have hnow : d₁.now = 0 := congrArg Aspect.now haspect
  have hlog : d₁.logOf phone = [] := congrArg Aspect.log haspect
  obtain ⟨d₂, hsecond, hrest₂⟩ := hrest₁.exists_calls (hagreed phone) (fun _ hs => hs) talk
    (fun message hmessage hopens => by cases hmessage; cases hopens) fun part hpart _ => by
      rw [hnow, hlog, haspect, hnew]
      exact (Treatment.isDue_handAll_start (nameless _) (fun _ _ _ => rfl) count 0 phone 0 part
        0).trans (isDue_talk (.inl rfl) part hpart)
  obtain ⟨n, d₃, hreaped, hsettled₃⟩ := Plan.Done.exists_reap (hagreed phone) hrest₂
  have hthird : Directory.Does _ d₂ .reap d₃ := .reap hreaped hsettled₃
  have hrest₃ := (hthird.follows hrest₂ fun _ hs => hs).1
  obtain ⟨d₄, hstopped, hsettled₄⟩ := Plan.Done.exists_shutdown (hagreed phone) hrest₃
  exact ⟨d₄, .cons hfirst (hsecond.append (.cons hthird (.cons (.stop hstopped hsettled₄) (.nil d₄))))⟩

/-- What is said of the phone that the tablet does not disturb. -/
theorem peers_apart_evening :
    agreed.HeedsCalls ∧
    ∃ d, Directory.Runs (agreed.Given phone) (.start 4 (start Settings.standard.handsfree)) evening d ∧
      (∃ alone, Directory.Runs (agreed.Given phone) (.start 4 (start Settings.standard.handsfree))
        (talk.map (.call phone) ++ [.reap, .stop]) alone) ∧
      ∀ alone, Directory.Runs (agreed.Given phone) (.start 4 (start Settings.standard.handsfree))
          (talk.map (.call phone) ++ [.reap, .stop]) alone →
        ∃ pairs, Relator.BiUnique pairs ∧
          List.Forall₂ (Effect.Alike pairs) (d.logOf phone) (alone.logOf phone) := by
  have hheeds : agreed.HeedsCalls := fun _ _ _ => rfl
  obtain ⟨d, hruns⟩ := exists_evening 4
  exact ⟨hheeds, d, hruns,
    (Directory.peers_apart phone agreed hheeds 4).2 Settings.standard.handsfree evening d hruns⟩

end Handsfree

end AudioLink
