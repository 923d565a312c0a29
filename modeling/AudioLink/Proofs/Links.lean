/-
**What can be relied on with either profile.**

Whatever is done to a link from its beginning, whatever the clock, the transport and the preferences
are each time, four things hold.  Who listens to it can follow it.  A transient state lasts no
longer than the settings allow.  While it is disconnected it keeps nothing and sends nothing.  And
it opens only when it was told to, or for a device that is let in.

For each of these a profile has to do its part, and both do.  What is left to show here is that
neither profile ever changes its settings, so that its patience stays what it was.

Main results:

* `AudioLink.Stream.patient`, `AudioLink.Handsfree.patient` — both profiles are patient;
* `AudioLink.links_chronicled` — **a listener is told of every change, and of nothing else**;
* `AudioLink.links_limited` — **transient states are limited**, if the settings are usable;
* `AudioLink.links_clean` — **a link that is disconnected is clean and silent**;
* `AudioLink.links_guarded` — **a link opens only on request, or to who is let in**.
-/

import AudioLink.Proofs.Forgetting
import AudioLink.Proofs.Handsfree.Indicators
import AudioLink.Proofs.Link.Entrance
import AudioLink.Proofs.Link.Expiry
import AudioLink.Proofs.Link.Rounds
import AudioLink.Settings.Validation

set_option relaxedAutoImplicit false
set_option autoImplicit false

namespace AudioLink

/-! ### Patience -/

namespace Stream

/-- Streaming never changes its settings. -/
theorem patient : Patient Stream where
  sparing := sparing
  discreet := discreet
  consulted patience := by
    have hacts : Acts fun desk => desk.session.settings.connectTimeout = patience :=
      { note := fun f haside _ desk h => (congrArg _ (haside.settings desk.session)).trans h
        announce := fun _ _ _ h => h
        issue := fun _ _ _ h => h }
    refine hacts.profile ?_ fun _ _ h => h
    intro outcome code view desk h
    rw [yields_onCommandResult]
    split
    · exact h
    · exact h
  onLinkUp _ _ := rfl

end Stream

namespace Handsfree

/-- Nor does handsfree. -/
theorem patient : Patient Handsfree where
  sparing := sparing
  discreet := discreet
  consulted patience := by
    have hacts : Acts fun desk => desk.session.settings.connectTimeout = patience :=
      { note := fun f haside _ desk h => (congrArg _ (haside.settings desk.session)).trans h
        announce := fun _ _ _ _ h => h
        dropAudio := fun _ _ h => h
        issue := fun _ _ _ _ h => h
        queryCalls := upholds_queryCalls (fun _ _ h => h) fun _ _ h => h
        record := fun _ _ _ _ h => h
        enter := fun _ _ _ _ _ _ h => h
        order := fun _ _ _ h => h
        abandonDial := by
          intro view desk h
          rw [yields_abandonDial]
          exact h
        strike := fun _ _ h => h }
    refine hacts.profile ?_ ?_
    · intro view desk h
      rw [yields_finishQuery]
      split
      · exact h
      · exact h
    · intro view desk h
      rw [yields_onDisconnected]
      exact h
  onLinkUp _ _ := rfl

end Handsfree

/-! ### Both profiles -/

/-- **A listener can follow the link of either profile.**  Every change of the link and of its audio
begins where the last one that was announced has ended, and changes something; only a connected link
speaks of its audio; and after every impulse the link stands as was announced last. -/
theorem links_chronicled (peer : Address) :
    (∀ (settings : StreamSettings) (impulses : List (Impulse Stream.Request)),
      let life := (Link.start peer (Stream.start settings)).live impulses
      Chronicle life.2 life.1.standing) ∧
    (∀ (settings : HandsfreeSettings) (issuer : Nat) (impulses : List (Impulse Handsfree.Request)),
      let life := (Link.start peer (Handsfree.start settings issuer)).live impulses
      Chronicle life.2 life.1.standing) :=
  ⟨fun _ impulses => Link.chronicle_live Stream.reserved peer _ impulses,
    fun _ _ impulses => Link.chronicle_live Handsfree.reserved peer _ impulses⟩

/-- **With usable settings, the transient states of either profile are limited.** -/
theorem links_limited (settings : Settings) (husable : settings.validate = .ok ()) (peer : Address)
    (issuer : Nat) :
    Link.Limited settings.stream.connectTimeout (Link.start peer (Stream.start settings.stream)) ∧
      Link.Limited settings.handsfree.connectTimeout
        (Link.start peer (Handsfree.start settings.handsfree issuer)) := by
  obtain ⟨hstream, hhandsfree⟩ := Settings.connectTimeout_pos husable
  exact ⟨Link.limited_start Stream.patient Stream.reserved peer rfl hstream,
    Link.limited_start Handsfree.patient Handsfree.reserved peer rfl hhandsfree⟩

namespace Handsfree

/-- The user asks to connect, and the gateway never answers. -/
def unanswered : List (Impulse Request) := [.hand (obliging 5) .connect]

/-- With the default settings, which are usable, the link to a gateway that never answers has an
alarm armed for ten seconds after it was told to connect, and gives up then. -/
theorem links_limited_unanswered :
    Settings.standard.validate = .ok () ∧ (fresh.live unanswered).1.state = .connecting ∧
      (fresh.live unanswered).1.alarms.deadlineOf .connect = some (Duration.ofSeconds 10 5) ∧
      GivenUp .connecting
        [.call .disconnect true, .notice (.requestFailed (.timeout "connect" (.ofSeconds 10 0)))]
        ((fresh.live unanswered).1.respond (.wake (obliging (Duration.ofSeconds 10 5)))).2 := by
  have hlimited := (links_limited .standard rfl fresh.peer 0).2
  have hstate : (fresh.live unanswered).1.state = .connecting := by
    rw [Link.live_eq_get 1 rfl]
    rfl
  have hexpiry : fresh.enteredAt unanswered + Settings.standard.handsfree.connectTimeout =
      Duration.ofSeconds 10 5 := by
    rw [Link.enteredAt, Link.keep_eq_get 1 rfl]
    rfl
  refine ⟨rfl, hstate, ?_, ?_⟩
  · rw [← hexpiry]
    exact hlimited.connecting unanswered hstate
  · exact hlimited.connectExpired unanswered (obliging _) hstate (Nat.le_of_eq hexpiry)

end Handsfree

/-- **While it is disconnected, a link of either profile keeps nothing and sends nothing.** -/
theorem links_clean (peer : Address) :
    (∀ settings : StreamSettings,
      Link.Clean Stream.Blank (Link.start peer (Stream.start settings))) ∧
    (∀ (settings : HandsfreeSettings) (issuer : Nat),
      Link.Clean Handsfree.Blank (Link.start peer (Handsfree.start settings issuer))) :=
  ⟨fun settings => Link.clean_start Stream.reserved Stream.forgets peer
      (Stream.blank_start settings),
    fun settings issuer => Link.clean_start Handsfree.reserved Handsfree.forgets peer
      (Handsfree.blank_start settings issuer)⟩

/-- **The link of either profile opens only on request, or to a device that is let in**, and sends
away any other. -/
theorem links_guarded (peer : Address) :
    (∀ (settings : StreamSettings) (impulses : List (Impulse Stream.Request)),
      ((Link.start peer (Stream.start settings)).live impulses).1.Guarded) ∧
    (∀ (settings : HandsfreeSettings) (issuer : Nat) (impulses : List (Impulse Handsfree.Request)),
      ((Link.start peer (Handsfree.start settings issuer)).live impulses).1.Guarded) :=
  ⟨fun _ impulses => Link.guarded_live Stream.reserved Stream.careful peer _ impulses,
    fun _ _ impulses => Link.guarded_live Handsfree.reserved Handsfree.careful peer _ impulses⟩

end AudioLink
