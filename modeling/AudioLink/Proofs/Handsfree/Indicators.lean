/-
**What becomes of a call indicator.**

A call indicator says that something about the calls of the gateway has changed.  It leads to the
question for the list of calls, at once or later; and it is kept until then, unless a list of calls
that is already on its way ends first and leaves no calls to ask about.  That list may be older
than the indicator, and with the polling the indicator is gone.

Main definitions:

* `AudioLink.Handsfree.Kept` — the alarm of the next question is armed until the question is put or
  the link has ceased to be connected;
* `AudioLink.Handsfree.Undisturbed` — until then no impulse ends polling.

Main results:

* `AudioLink.Handsfree.indicator_kept_iff` — **an indicator is kept exactly as long as no impulse
  ends polling**;
* `AudioLink.Handsfree.indicator_lost` — an indicator that is lost.
-/

import AudioLink.Proofs.Handsfree.Polling
import AudioLink.Proofs.Link.Rounds
import AudioLink.Settings.Validation
import Mathlib.Data.List.Induction

set_option relaxedAutoImplicit false
set_option autoImplicit false

namespace AudioLink.Handsfree

/-! ### The life of a link after an indicator -/

section Life

variable {link : Link Handsfree Request AlarmKind} {log : List Effect}
  {impulses : List (Impulse Request)}

/-- The question is kept throughout a life in which no impulse ends polling before the question is
settled. -/
theorem waits_live (hqueue : link.queue = []) (hwaits : Settled log ∨ Waits link)
    (hgoes : ∀ later impulse, later ++ [impulse] <+: impulses → Waits (link.live later).1 →
      ¬Settled (log ++ (link.live (later ++ [impulse])).2) →
      ¬EndsPolling (link.live later).1 impulse)
    {later : List (Impulse Request)} (hlater : later <+: impulses) :
    Settled (log ++ (link.live later).2) ∨ Waits (link.live later).1 := by
  induction later using List.reverseRecOn with
  | nil =>
      rw [Link.live, List.append_nil]
      exact hwaits
  | append_singleton later impulse ih =>
      -- once it is settled it stays so; up to then it was still to be put before this impulse too
      by_cases hsettled : Settled (log ++ (link.live (later ++ [impulse])).2)
      · exact .inl hsettled
      · rw [Link.live_snoc, ← List.append_assoc, settled_append, not_or] at hsettled
        have hwaiting := (ih ((List.prefix_append _ _).trans hlater)).resolve_left hsettled.1
        have hends : ¬EndsPolling (link.live later).1 impulse := by
          refine hgoes later impulse hlater hwaiting ?_
          rw [Link.live_snoc, ← List.append_assoc, settled_append, not_or]
          exact hsettled
        have hnext := awaits_respond (Link.queue_live hqueue later) hwaiting hends
        rw [Link.live_snoc]
        exact .inr (hnext.resolve_left hsettled.2)

/-- An indicator of a connected link leads to the question, or arms the alarm of the next one. -/
theorem awaits_indicator (hqueue : link.queue = []) (hconnected : link.state = .connected)
    (scene : Scene) (kind : CallIndicator) (value : Nat) :
    Awaits ⟨(link.respond (.hand scene (.event (.callIndicator kind value)))).1,
      (link.respond (.hand scene (.event (.callIndicator kind value)))).2⟩ := by
  refine Link.respond_hand (P := Awaits) hqueue ?_ fun _ _ _ => yields_handle_awaits
  refine Link.yields_handle ?_ fun after fault h => h.imp_left (persists_settled _ _)
  refine (Link.yields_onErrand_event ?_ rfl).2 ?_
  · rw [hconnected]
    decide
  · refine yields_consult_awaits hconnected ?_ (.inr ?_)
    · rw [hqueue]
      nofun
    · exact yields_queryCalls_polls _ _

/-- After what was told, the alarm of the next question is armed at every moment of a life until the
list of calls was asked for or the link has ceased to be connected. -/
def Kept (told : Link Handsfree Request AlarmKind × List Effect)
    (impulses : List (Impulse Request)) : Prop :=
  ∀ later, later <+: impulses → ¬Settled (told.2 ++ (told.1.live later).2) →
    Armed (told.1.live later).1.alarms

/-- After what was told, no impulse of a life ends polling until the list of calls was asked for or
the link has ceased to be connected. -/
def Undisturbed (told : Link Handsfree Request AlarmKind × List Effect)
    (impulses : List (Impulse Request)) : Prop :=
  ∀ later impulse, later ++ [impulse] <+: impulses →
    ¬Settled (told.2 ++ (told.1.live (later ++ [impulse])).2) →
    ¬EndsPolling (told.1.live later).1 impulse

/-- What was told is kept exactly as long as it is undisturbed. -/
theorem kept_iff_undisturbed {told : Link Handsfree Request AlarmKind × List Effect}
    (hqueue : told.1.queue = []) (hwaits : Awaits ⟨told.1, told.2⟩) :
    Kept told impulses ↔ Undisturbed told impulses := by
  constructor
  · intro hkept
    -- an impulse can only be said to end polling while the question is still to be put; that it is
    -- follows from what was shown of the impulses before
    have hcancelled {later : List (Impulse Request)} {impulse : Impulse Request}
        (hupto : later ++ [impulse] <+: impulses) (hwaiting : Waits (told.1.live later).1)
        (hopen : ¬Settled (told.2 ++ (told.1.live (later ++ [impulse])).2)) :
        ¬EndsPolling (told.1.live later).1 impulse := by
      intro hends
      have harmed := hkept _ hupto hopen
      rw [Link.live_snoc] at harmed
      exact not_armed_of_endsPolling (Link.queue_live hqueue later) hwaiting.connected hends harmed
    intro later impulse hupto hopen
    refine hcancelled hupto ?_ hopen
    have hbefore := waits_live hqueue hwaits (fun _ _ => hcancelled)
      ((List.prefix_append later [impulse]).trans hupto)
    refine hbefore.resolve_left fun hsettled => hopen ?_
    rw [Link.live_snoc, ← List.append_assoc]
    exact persists_settled _ _ hsettled
  · intro hgoes later hlater hopen
    have hwaiting := waits_live hqueue hwaits
      (fun later impulse hupto _ => hgoes later impulse hupto) hlater
    exact (hwaiting.resolve_left hopen).armed (Link.queue_live hqueue later)

/-- **What becomes of an indicator.**  An indicator that a connected link was told of is kept until
the list of calls was asked for or the link has ceased to be connected, exactly when until then no
impulse ends polling. -/
theorem indicator_kept_iff (settings : HandsfreeSettings) (issuer : Nat) (peer : Address)
    (past impulses : List (Impulse Request)) (scene : Scene) (kind : CallIndicator) (value : Nat)
    (hconnected : ((Link.start peer (start settings issuer)).live past).1.state = .connected) :
    let told := ((Link.start peer (start settings issuer)).live past).1.respond
      (.hand scene (.event (.callIndicator kind value)))
    Kept told impulses ↔ Undisturbed told impulses := by
  have hidle : ((Link.start peer (start settings issuer)).live past).1.queue = [] :=
    Link.queue_live rfl past
  exact kept_iff_undisturbed (Link.queue_respond hidle _)
    (awaits_indicator hidle hconnected scene kind value)

end Life

/-! ### An indicator that is lost -/

/-- A scene in which the transport takes everything. -/
def obliging (now : Instant) : Scene := ⟨now, fun _ _ => true, .empty⟩

/-- A scene in which the transport takes everything and every device is wanted. -/
def welcoming (now : Instant) : Scene :=
  ⟨now, fun _ _ => true, { Preferences.empty with priority := fun _ => .on }⟩

/-- A link with the default settings on which nothing has happened. -/
def fresh : Link Handsfree Request AlarmKind :=
  Link.start ⟨[0, 0, 0, 0, 0, 1], rfl⟩ (start Settings.standard.handsfree 0)

/-- A gateway is connected, its number is learnt, and it is asked for the list of its calls. -/
def introduction : List (Impulse Request) :=
  [.hand (obliging 0) .connect,
    .hand (obliging 1) (.event (.linkChanged .connected ⟨Capabilities.enhancedCallStatus, 0⟩)),
    .hand (obliging 2) (.event (.commandResult .ok none)),
    .hand (obliging 3) (.event (.callIndicator .callSetup 1))]

/-- Another indicator comes while the list is on its way. -/
def interrupted : Link Handsfree Request AlarmKind × List Effect :=
  (fresh.live introduction).1.respond (.hand (obliging 4) (.event (.callIndicator .callSetup 0)))

theorem live_introduction :
    fresh.live introduction = (Link.liveFor 3 fresh introduction).get rfl :=
  Link.live_eq_get 3 rfl

theorem state_introduction : (fresh.live introduction).1.state = .connected := by
  rw [live_introduction]
  rfl

/-- As long as the list does not end, the indicator is kept. -/
theorem indicator_kept_iff_interrupted :
    (fresh.live introduction).1.state = .connected ∧
      (Kept interrupted [.hand (obliging 5) .connect] ↔
        Undisturbed interrupted [.hand (obliging 5) .connect]) :=
  ⟨state_introduction, indicator_kept_iff _ _ _ _ _ _ _ _ state_introduction⟩

/-- When the list ends without calls, the indicator is lost, although the settings are usable and
the transport takes everything. -/
theorem indicator_lost :
    Settings.standard.problem? = none ∧ (fresh.live introduction).1.state = .connected ∧
      ¬Kept interrupted [.hand (obliging 5) (.event (.commandResult .ok none))] := by
  refine ⟨rfl, state_introduction, fun hkept => ?_⟩
  have hlast := hkept _ (List.prefix_refl _)
  rw [interrupted, live_introduction, Link.respond_eq_get 1 rfl, Link.live_eq_get 1 rfl] at hlast
  exact absurd (hlast (by decide)) (by decide)

end AudioLink.Handsfree
