/-
**Connecting again after a request to disconnect.**

A user who asks to disconnect does not expect the link to come up again by itself.  It may do so all
the same: a request to connect that came at a bad moment waits for the next stable state, and a
request to disconnect that comes later does not take it back.  When the link then drops out, the
older request is taken up, and the transport is asked to connect.  This is the only way in which a
link connects again, and whenever a request waits as the link drops out, it does.

Main results:

* `AudioLink.connects_after_disconnect_iff` — **after a request to disconnect, a link asks to
  connect by itself exactly when it drops out while an older request waits**;
* `AudioLink.Handsfree.reconnects_after_disconnect` — a link that connects again.
-/

import AudioLink.Proofs.Handsfree.Indicators
import AudioLink.Proofs.Link.Recall

set_option relaxedAutoImplicit false
set_option autoImplicit false

namespace AudioLink

open Link (Connects Recalls)

/-- **Connecting again after a request to disconnect.**  A link of either profile that is handed a
request to disconnect, and from then on no request to connect, asks the transport to connect exactly
if it drops out while an older request to connect waits. -/
theorem connects_after_disconnect_iff (peer : Address) :
    (∀ (settings : StreamSettings) (past later : List (Impulse Stream.Request)) (scene : Scene),
      (∀ impulse ∈ later, impulse.isConnect = false) →
      let link := ((Link.start peer (Stream.start settings)).live past).1
      Connects (link.live (.hand scene .disconnect :: later)).2 ↔
        ∃ before impulse, before ++ [impulse] <+: .hand scene .disconnect :: later ∧
          Recalls (link.live before).1 impulse) ∧
    (∀ (settings : HandsfreeSettings) (issuer : Nat)
      (past later : List (Impulse Handsfree.Request)) (scene : Scene),
      (∀ impulse ∈ later, impulse.isConnect = false) →
      let link := ((Link.start peer (Handsfree.start settings issuer)).live past).1
      Connects (link.live (.hand scene .disconnect :: later)).2 ↔
        ∃ before impulse, before ++ [impulse] <+: .hand scene .disconnect :: later ∧
          Recalls (link.live before).1 impulse) := by
  constructor
  · intro settings past later scene hlater link
    have hrest : link.AtRest := Link.atRest_live Stream.careful rfl (Link.bounded_start peer _) past
    exact Link.connects_live_iff Stream.discreet Stream.careful hrest
      (List.forall_mem_cons.2 ⟨rfl, hlater⟩)
  · intro settings issuer past later scene hlater link
    have hrest : link.AtRest :=
      Link.atRest_live Handsfree.careful rfl (Link.bounded_start peer _) past
    exact Link.connects_live_iff Handsfree.discreet Handsfree.careful hrest
      (List.forall_mem_cons.2 ⟨rfl, hlater⟩)

namespace Handsfree

/-- The user asks twice to connect; the second time, the link is connecting already. -/
def impatience : List (Impulse Request) :=
  [.hand (obliging 0) .connect, .hand (obliging 1) .connect]

/-- The user asks to disconnect, and the device does so. -/
def cancellation : List (Impulse Request) :=
  [.hand (obliging 2) .disconnect, .hand (obliging 3) (.event .linkDown)]

theorem live_impatience :
    fresh.live impatience = (Link.liveFor 1 fresh impatience).get rfl :=
  Link.live_eq_get 1 rfl

/-- What is said of a link that is cancelled after it was asked twice to connect. -/
theorem connects_after_disconnect_iff_impatience :
    (∀ impulse ∈ cancellation.tail, impulse.isConnect = false) ∧
      (Connects ((fresh.live impatience).1.live cancellation).2 ↔
        ∃ before impulse, before ++ [impulse] <+: cancellation ∧
          Recalls ((fresh.live impatience).1.live before).1 impulse) := by
  have htold : ∀ impulse ∈ cancellation.tail, impulse.isConnect = false := by
    intro impulse himpulse
    rw [List.mem_singleton.1 himpulse]
    rfl
  exact ⟨htold, (connects_after_disconnect_iff _).2 _ _ impatience cancellation.tail _ htold⟩

/-- After the request to disconnect the link is not told to connect again; but the second request to
connect still waits, and when the device has disconnected, the transport is asked to connect. -/
theorem reconnects_after_disconnect :
    (∀ impulse ∈ cancellation, impulse.isConnect = false) ∧
      Connects ((fresh.live impatience).1.live cancellation).2 := by
  constructor
  · decide
  · rw [live_impatience, Link.live_eq_get 2 rfl]
    decide

end Handsfree

end AudioLink
