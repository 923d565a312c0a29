/-
**The roster of a link.**

Whatever a link is told and whenever it is woken, the survey of its profile is only ever changed in
the ways in which surveys arise.  So what is true of every survey that can arise is true of the
roster of a link at any moment of its life.

Main results:

* `AudioLink.Handsfree.arises_live` — the survey of a link is one that can arise;
* `AudioLink.Handsfree.roster_coherent` — **the roster of a link is coherent throughout its life**;
* `AudioLink.Handsfree.respond_answer` — what an answer makes of the survey, and which calls it
  announces.
-/

import AudioLink.Proofs.Call.Conference
import AudioLink.Proofs.Handsfree.Announcements
import AudioLink.Proofs.Link.Errands

set_option relaxedAutoImplicit false
set_option autoImplicit false

namespace AudioLink.Handsfree

/-! ### The life of a link -/

variable (settings : HandsfreeSettings) (issuer : Nat) (peer : Address)
  (impulses : List (Impulse Request))

/-- The survey of a link is one that can arise, at any moment of its life. -/
theorem arises_live : ∃ heard, Survey.Arises issuer settings.outgoingTimeout
    ((Link.start peer (start settings issuer)).live impulses).1.session.survey heard := by
  have hidle : (Link.start peer (start settings issuer) : Link Handsfree Request AlarmKind).queue =
      [] := rfl
  have hstart : Tells issuer settings.outgoingTimeout (start settings issuer) [] :=
    ⟨⟨[], .start⟩, .start issuer settings.outgoingTimeout⟩
  exact (Link.Lasting.live (J := Tells issuer settings.outgoingTimeout) hidle
    (fun _ => lasting_tells) hstart impulses).1

/-- **The roster of a link is coherent throughout its life**: its calls are told apart by index and
by handle, a call dialled here is as it was dialled, and the calls of a conference are the active
ones, if there are several. -/
theorem roster_coherent :
    ((Link.start peer (start settings issuer)).live impulses).1.session.roster.Coherent := by
  obtain ⟨heard, harises⟩ := arises_live settings issuer peer impulses
  exact harises.coherent

/-! ### Answers -/

/-- What the answer to the oldest pending order makes of the survey and announces, if it does not
drop the audio, is what is left and announced once it is handled. -/
theorem respond_answer {link : Link Handsfree Request AlarmKind} {order : Order} {scene : Scene}
    {outcome : Outcome} {code : Option Nat} {survey : Survey} {changed : List Call}
    (hqueue : link.queue = []) (hup : link.state ≠ .disconnected)
    (hfront : link.session.ledger.front? = some order)
    (hwork : (onAnswer order outcome code).Yields (Step.view scene link)
      (struck (Step.desk ⟨link, []⟩)) fun _ desk =>
        desk.drops = 0 ∧ desk.session.survey = survey ∧ changes desk.log = changed) :
    let after := link.respond (.hand scene (.event (.commandResult outcome code)))
    after.1.session.survey = survey ∧ changes after.2 = changed := by
  intro after
  -- that it was refused may be told afterwards, but this is no report about a call
  exact Link.respond_event (P := fun progress : Progress Handsfree Request AlarmKind =>
      progress.link.session.survey = survey ∧ changes progress.log = changed)
    hqueue hup rfl ((yields_onCommandResult_of_front hfront).2 hwork)
    fun _ _ h => ⟨h.1, (changes_snoc rfl _).trans h.2⟩

end AudioLink.Handsfree
