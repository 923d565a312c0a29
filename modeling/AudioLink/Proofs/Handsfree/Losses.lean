/-
**The end of a list of calls.**

The gateway ends the list of its calls with the answer to the question for it.  Whether the answer
says that all went well or that the list could not be read makes no difference: the pass takes what
was recorded for the whole list.  So an answer that tells of a failure takes away every call that
was not listed before the list broke off.

Main results:

* `AudioLink.Handsfree.respond_listEnd` — what the end of a list leaves, and what is announced;
* `AudioLink.Handsfree.listEnd_lossless_iff` — **no call is lost exactly when the pass does not give
  up and what was recorded covers the calls**, whatever the answer says;
* `AudioLink.Handsfree.call_lost_on_failure` — a call that is lost because the list could not be
  read.
-/

import AudioLink.Proofs.Call.Losses
import AudioLink.Proofs.Handsfree.Attendance
import AudioLink.Proofs.Handsfree.Roster
import AudioLink.Proofs.Link.Errands

set_option relaxedAutoImplicit false
set_option autoImplicit false

namespace AudioLink.Handsfree

variable {link : Link Handsfree Request AlarmKind}

/-- The answer to the question for the list of calls leaves what a pass leaves, and announces what
the pass announces. -/
theorem respond_listEnd (hqueue : link.queue = []) (hup : link.state ≠ .disconnected)
    (hfront : link.session.ledger.front? = some .queryCalls) (scene : Scene) (outcome : Outcome)
    (code : Option Nat) :
    let after := link.respond (.hand scene (.event (.commandResult outcome code)))
    let pass := link.session.survey.complete scene.now
    after.1.session.survey = pass.2 ∧ changes after.2 = pass.1.changed := by
  intro after pass
  refine respond_answer hqueue hup hfront ?_
  show finishQuery.Yields (Step.view scene link) (struck (Step.desk ⟨link, []⟩)) _
  rw [yields_finishQuery]
  split
  · refine ⟨rfl, rfl, ?_⟩
    -- the order to hang up on a stuck call announces nothing
    exact (changes_announcements _ _).trans (congrArg (· ++ _) (changes_snoc rfl []))
  · exact ⟨rfl, rfl, changes_announcements [] _⟩

/-- **What the end of a list takes away.**  At any moment in the life of a link, when the oldest
pending order is the question for the list of calls, the next answer loses no call and announces
none that has a number as ended exactly when the pass does not give up and the entries recorded so
far cover the calls; what the answer says does not matter. -/
theorem listEnd_lossless_iff (settings : HandsfreeSettings) (issuer : Nat) (peer : Address)
    (impulses : List (Impulse Request)) (scene : Scene) (outcome : Outcome) (code : Option Nat)
    (hup : ((Link.start peer (start settings issuer)).live impulses).1.state ≠ .disconnected)
    (hfront : ((Link.start peer (start settings issuer)).live impulses).1.session.ledger.front? =
      some .queryCalls) :
    let link := ((Link.start peer (start settings issuer)).live impulses).1
    let after := link.respond (.hand scene (.event (.commandResult outcome code)))
    link.session.roster.Lossless after.1.session.roster (changes after.2) ↔
      link.session.survey.stuckAge scene.now = none ∧ link.session.survey.Covers := by
  intro link after
  obtain ⟨heard, harises⟩ := arises_live settings issuer peer impulses
  obtain ⟨hsurvey, hchanges⟩ :=
    respond_listEnd (Link.queue_live rfl impulses) hup hfront scene outcome code
  show link.session.survey.roster.Lossless after.1.session.survey.roster (changes after.2) ↔ _
  rw [hsurvey, hchanges]
  exact Survey.lossless_complete_iff harises scene.now

/-! ### A list that cannot be read -/

/-- A gateway has listed an active call, and it is time to ask about it again. -/
def recheck : List (Impulse Request) := introduction ++ listing ++ [.wake (obliging due)]

/-- The call is listed once more. -/
def relisting : List (Impulse Request) :=
  recheck ++ [.hand (obliging due) (.event (.callListed ⟨1, .incoming, .active, false, "5551"⟩))]

/-- When the list breaks off after the call was listed once more, the call is not lost. -/
theorem listEnd_lossless_iff_relisting :
    let link := (fresh.live relisting).1
    let after := link.respond (.hand (obliging due) (.event (.commandResult .error none)))
    (link.state ≠ .disconnected ∧ link.session.ledger.front? = some .queryCalls) ∧
      link.session.roster.Lossless after.1.session.roster (changes after.2) := by
  have hlive : fresh.live relisting = (Link.liveFor 1 fresh relisting).get rfl :=
    Link.live_eq_get 1 rfl
  have hup : (fresh.live relisting).1.state ≠ .disconnected := by
    rw [hlive]
    decide
  have hfront : (fresh.live relisting).1.session.ledger.front? = some .queryCalls := by
    rw [hlive]
    rfl
  refine ⟨⟨hup, hfront⟩, (listEnd_lossless_iff _ _ _ _ _ _ _ hup hfront).2 ?_⟩
  show (fresh.live relisting).1.session.survey.stuckAge due = none ∧
    (fresh.live relisting).1.session.survey.Covers
  rw [hlive]
  exact ⟨rfl, by decide, by decide⟩

/-- When the list cannot be read at all, the call is lost, although the question has failed and the
gateway has said nothing about the call. -/
theorem call_lost_on_failure :
    let link := (fresh.live recheck).1
    let after := link.respond (.hand (obliging due) (.event (.commandResult .error none)))
    link.state = .connected ∧ link.session.ledger.front? = some .queryCalls ∧
      Outcome.error.isOk = false ∧
      ¬link.session.roster.Lossless after.1.session.roster (changes after.2) := by
  have hlive : fresh.live recheck = (Link.liveFor 1 fresh recheck).get rfl :=
    Link.live_eq_get 1 rfl
  dsimp only
  rw [hlive, Link.respond_eq_get 1 rfl]
  refine ⟨rfl, rfl, rfl, fun hlossless => ?_⟩
  obtain ⟨heir, hheir, -⟩ := hlossless.kept
    ⟨.peer 1, ⟨0, 0⟩, .active, "5551", false, .incoming, 4⟩ (by decide)
  exact absurd hheir List.not_mem_nil

end AudioLink.Handsfree
