/-
**Commands of earlier connections.**

The commands that wait for an answer are dropped when a link comes to be disconnected.  But a link
can come to be connected again without that: while it is being disconnected on request, the device
may report that it connects anew, and if it is admitted the link is connected.  What was pending is
still pending then, and the first answers on the new connection are taken for answers to commands
that were sent on the old one.

Main results:

* `AudioLink.earlier_commands_separated` — **a command of an earlier connection is pending exactly
  until it has its answer or the link comes to be disconnected**, and as long as one is, the next
  answer is taken for that of such a command;
* `AudioLink.Handsfree.earlier_command_pending` — a link that is connected again and takes an answer
  for that of an earlier command.
-/

import AudioLink.Proofs.Attribution
import AudioLink.Proofs.Handsfree.Indicators

set_option relaxedAutoImplicit false
set_option autoImplicit false

namespace AudioLink

/-- **Commands of earlier connections.**  At any time in the life of a link of either profile,
nothing is pending that was taken before the link ceased to be connected last, exactly if those of
these commands that were taken since the link came to be disconnected last have all been answered;
and otherwise the next answer is taken for that of one of them. -/
theorem earlier_commands_separated (peer : Address) :
    (∀ (settings : StreamSettings) (impulses : List (Impulse Stream.Request)),
      let start := Link.start peer (Stream.start settings)
      (start.live impulses).1.Separated (start.keepBook impulses .blank)) ∧
    (∀ (settings : HandsfreeSettings) (issuer : Nat) (impulses : List (Impulse Handsfree.Request)),
      let start := Link.start peer (Handsfree.start settings issuer)
      (start.live impulses).1.Separated (start.keepBook impulses .blank)) := by
  constructor
  · intro settings impulses start
    have hblank : AgreesWith .blank (Stream.start settings) := Ledger.agrees_blank
    exact Stream.accountable.separated_live (Link.between_start peer _) hblank Book.tidy_blank
      impulses
  · intro settings issuer impulses start
    have hblank : AgreesWith .blank (Handsfree.start settings issuer) := Ledger.agrees_blank
    exact Handsfree.accountable.separated_live (Link.between_start peer _) hblank Book.tidy_blank
      impulses

namespace Handsfree

/-- A gateway is connected and its number is learnt; a tone is sent, and before it is answered the
user asks to disconnect. -/
def parting : List (Impulse Request) :=
  [.hand (welcoming 0) .connect,
    .hand (welcoming 1) (.event (.linkChanged .connected ⟨Capabilities.enhancedCallStatus, 0⟩)),
    .hand (welcoming 2) (.event (.commandResult .ok none)),
    .hand (welcoming 3) (.request (.sendTone '5')),
    .hand (welcoming 4) .disconnect]

/-- The gateway does not disconnect but connects anew. -/
def comeback : Impulse Request :=
  .hand (welcoming 5) (.event (.linkChanged .connected ⟨Capabilities.enhancedCallStatus, 0⟩))

/-- The link has ceased to be connected, and is connected again; but the tone that was sent on the
earlier connection is still pending, and owns the next answer. -/
theorem earlier_command_pending :
    (fresh.live parting).1.state = .disconnecting ∧
      (fresh.live (parting ++ [comeback])).1.state = .connected ∧
      (fresh.live (parting ++ [comeback])).1.session.ledger.front? = some (.sendTone '5') ∧
      ¬(fresh.live (parting ++ [comeback])).1.Isolated
        (fresh.keepBook (parting ++ [comeback]) .blank) := by
  rw [Link.live_eq_get 1 rfl, Link.live_eq_get 1 rfl, Link.keepBook_eq_get 1 rfl]
  refine ⟨rfl, rfl, rfl, ?_⟩
  rw [Link.Isolated]
  decide

end Handsfree

end AudioLink
