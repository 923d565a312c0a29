/-
**What most of the profile's work leaves alone.**

What the settings are, what the gateway is able to do, whether the sound of calls may come here and
whether it does: all this is touched on very few occasions, which are about nothing else.  On all
others it stays as it is, the audio is not dropped, and nothing leaves the link but orders and
reports that are not about the sound.  The orders that control the calls are rarer still.  So a
property of what has left the link has to be looked at on the occasions only that it is about.

Main definitions:

* `AudioLink.Handsfree.Untouched` — the profile was left alone, and what has left the link satisfies
  some property;
* `AudioLink.Handsfree.Tolerant`, `AudioLink.Handsfree.Permits` — a property of what has left the
  link that no report and no order spoils, the orders to control the calls apart or included.

Main results:

* `AudioLink.Handsfree.upholds_onRequest_untouched`,
  `AudioLink.Handsfree.upholds_onEvent_untouched`,
  `AudioLink.Handsfree.upholds_onConnected_untouched`,
  `AudioLink.Handsfree.upholds_queryCalls_untouched` — **what each occasion leaves alone**;
* `AudioLink.Handsfree.profile_said` — no occasion at all is about the settings or about what the
  gateway is able to do.
-/

import AudioLink.Proofs.Profiles

set_option relaxedAutoImplicit false
set_option autoImplicit false

namespace AudioLink.Handsfree

/-- Since the desk was as it was at the `start`, nothing was done about the settings of the profile,
about what the gateway is able to do or about the sound of calls, and what has left the link
satisfies `K`. -/
structure Untouched (K : List Effect → Prop) (start desk : Desk Handsfree AlarmKind) : Prop where
  log : K desk.log
  settings : desk.session.settings = start.session.settings
  capabilities : desk.session.capabilities = start.session.capabilities
  routeAllowed : desk.session.routeAllowed = start.session.routeAllowed
  routed : desk.session.routed = start.session.routed
  drops : desk.drops = start.drops

theorem Untouched.refl {K : List Effect → Prop} {desk : Desk Handsfree AlarmKind}
    (h : K desk.log) : Untouched K desk desk :=
  ⟨h, rfl, rfl, rfl, rfl, rfl⟩

/-- No report spoils `K`, unless it is about the sound of calls, and no order, unless it controls
the calls. -/
structure Tolerant (K : List Effect → Prop) : Prop where
  report : ∀ log report, (∀ update, report ≠ .audioRoute update) → K log →
    K (log ++ [.notice (.report report)])
  order : ∀ log (order : Order) accepted, order.isControl = false → K log →
    K (log ++ [.call (.command order.command) accepted])

/-- No order that controls the calls spoils `K`. -/
def Permits (K : List Effect → Prop) : Prop :=
  ∀ log (order : Order) accepted, order.isControl = true → K log →
    K (log ++ [.call (.command order.command) accepted])

/-- Nothing is asked of what has left the link. -/
theorem tolerant_any : Tolerant fun _ => True := ⟨fun _ _ _ _ => trivial, fun _ _ _ _ _ => trivial⟩

theorem permits_any : Permits fun _ => True := fun _ _ _ _ _ => trivial

section Acts

variable {K : List Effect → Prop} {start desk : Desk Handsfree AlarmKind}

/-- A profile that was left alone is left alone by what happens to the rest of it. -/
theorem Untouched.next (h : Untouched K start desk) {f : Handsfree → Handsfree} (hf : Remark f)
    {log : List Effect} (hlog : K log) :
    Untouched K start { desk with session := f desk.session, log := log } where
  log := hlog
  settings := (hf.settings _).trans h.settings
  capabilities := (hf.capabilities _).trans h.capabilities
  routeAllowed := (hf.routeAllowed _).trans h.routeAllowed
  routed := (hf.routed _).trans h.routed
  drops := h.drops

theorem upholds_issue_untouched {order : Order}
    (horder : ∀ log accepted, K log → K (log ++ [.call (.command order.command) accepted])) :
    Work.Upholds (Untouched K start) (issue order) := by
  intro view desk h
  rw [yields_issue]
  exact ⟨horder _ _ h.log, h.settings, h.capabilities, h.routeAllowed, h.routed, h.drops⟩

variable (hK : Tolerant K)

include hK

theorem Tolerant.announced {log : List Effect} (calls : List Call) (h : K log) :
    K (log ++ calls.map announcement) :=
  Handsfree.announced
    (fun log call => hK.report log (.callChanged call) fun _ => Report.noConfusion) calls h

theorem Tolerant.upholds_issue {order : Order} (hother : order.isControl = false) :
    Work.Upholds (Untouched K start) (issue order) :=
  upholds_issue_untouched fun log accepted => hK.order log order accepted hother

theorem minor_untouched : Minor (Untouched K start) where
  note _ hf := fun _ _ h => h.next hf h.log
  announce report _ hother := fun _ desk h =>
    ⟨hK.report desk.log report hother h.log, h.settings, h.capabilities, h.routeAllowed, h.routed,
      h.drops⟩
  issue _ _ hother := hK.upholds_issue hother
  record _ _ := fun _ _ h =>
    ⟨h.log, h.settings, h.capabilities, h.routeAllowed, h.routed, h.drops⟩
  abandonDial := by
    intro view desk h
    rw [yields_abandonDial]
    exact ⟨hK.announced _ h.log, h.settings, h.capabilities, h.routeAllowed, h.routed, h.drops⟩

theorem upholds_queryCalls_untouched : Work.Upholds (Untouched K start) queryCalls := by
  refine upholds_queryCalls (fun desk _ h => ?_) fun view desk h => ?_
  · exact ⟨h.log, h.settings, h.capabilities, h.routeAllowed, h.routed, h.drops⟩
  · refine hK.upholds_issue rfl view (asking desk view.now) ?_
    exact ⟨h.log, h.settings, h.capabilities, h.routeAllowed, h.routed, h.drops⟩

theorem upholds_dial_untouched (number : String) :
    Work.Upholds (Untouched K start) (dial number) := by
  refine upholds_dial ?_ (fun _ => hK.upholds_issue rfl) (upholds_queryCalls_untouched hK)
    (minor_untouched hK).abandonDial number
  intro desk number now call survey _ h
  exact ⟨hK.announced [call] h.log, h.settings, h.capabilities, h.routeAllowed, h.routed, h.drops⟩

theorem upholds_finishQuery_untouched (hpermits : Permits K) :
    Work.Upholds (Untouched K start) finishQuery := by
  intro view desk h
  rw [yields_finishQuery]
  split
  · rw [yields_issueQuietly]
    exact ⟨hK.announced _ (hpermits _ (.terminate .hangUp) _ rfl h.log), h.settings,
      h.capabilities, h.routeAllowed, h.routed, h.drops⟩
  · exact ⟨hK.announced _ h.log, h.settings, h.capabilities, h.routeAllowed, h.routed, h.drops⟩

theorem upholds_onAcceptResult_untouched (hpermits : Permits K) (action : CallControl)
    (mode : AcceptMode) (retried : Bool) (outcome : Outcome) (code : Option Nat) :
    Work.Upholds (Untouched K start) (onAcceptResult action mode retried outcome code) := by
  refine .ite (fun _ => .pure _) fun _ => .bind .session fun t => ?_
  cases retryFor t action retried with
  | some alternative =>
      exact upholds_issue_untouched fun log accepted => hpermits log _ accepted rfl
  | none =>
      refine .bind ((minor_untouched hK).upholds_surface outcome code) fun _ => ?_
      exact .ite (fun _ => .pure _) fun _ => .pure _

/-! ### Occasions -/

/-- A request to let the sound of calls come here apart, no request touches anything. -/
theorem upholds_onRequest_untouched {request : Request}
    (hpermits : request.isControl = true → Permits K)
    (hallow : ∀ allowed, request ≠ .allowAudioRoute allowed) :
    Work.Upholds (Untouched K start) (onRequest request) := by
  refine (minor_untouched hK).upholds_onRequest request
    (fun number _ => upholds_dial_untouched hK number)
    (fun _ => upholds_queryCalls_untouched hK) (fun hcontrol => ?_)
    fun allowed heq => absurd heq (hallow allowed)
  refine upholds_onRequest_control (fun order horder => ?_) hcontrol
  exact upholds_issue_untouched fun log accepted => hpermits hcontrol log order accepted horder

/-- No answer touches anything. -/
theorem upholds_onAnswer_untouched (hpermits : Permits K) (order : Order) (outcome : Outcome)
    (code : Option Nat) : Work.Upholds (Untouched K start) (onAnswer order outcome code) :=
  (minor_untouched hK).upholds_onAnswer order outcome code
    (fun _ => upholds_finishQuery_untouched hK hpermits) fun action mode retried _ =>
      upholds_onAcceptResult_untouched hK hpermits action mode retried outcome code

/-- No event touches anything; only an answer may let out an order that controls the calls. -/
theorem upholds_onEvent_untouched {event : Event}
    (hpermits : ∀ outcome code, event = .commandResult outcome code → Permits K) :
    Work.Upholds (Untouched K start) (onEvent event) := by
  refine (minor_untouched hK).upholds_onEvent event (fun _ _ _ => upholds_queryCalls_untouched hK)
    fun outcome code heq => ?_
  refine upholds_onCommandResult (fun _ _ h => ?_) fun order => ?_
  · exact ⟨h.log, h.settings, h.capabilities, h.routeAllowed, h.routed, h.drops⟩
  · exact upholds_onAnswer_untouched hK (hpermits outcome code heq) order outcome code

theorem upholds_onConnected_untouched : Work.Upholds (Untouched K start) onConnected :=
  (minor_untouched hK).upholds_onConnected

end Acts

/-! ### What is said -/

/-- **Nothing that the profile does is about the settings, or about what the gateway is able to
do.** -/
theorem profile_said {K : List Effect → Prop}
    (hK : ∀ log effect, Effect.IsProfile effect → K log → K (log ++ [effect]))
    (J : HandsfreeSettings → Capabilities → Prop) :
    ProfileUpholds Handsfree fun desk =>
      J desk.session.settings desk.session.capabilities ∧ K desk.log := by
  have hreport (log : List Effect) (report : Report) (h : K log) :
      K (log ++ [.notice (.report report)]) :=
    hK _ _ (.report report) h
  have horder (log : List Effect) (order : Order) (accepted : Bool) (h : K log) :
      K (log ++ [.call (.command order.command) accepted]) :=
    ordered hK order accepted h
  have htolerant : Tolerant K :=
    ⟨fun log report _ => hreport log report, fun log order accepted _ => horder log order accepted⟩
  have hpermits : Permits K := fun log order accepted _ => horder log order accepted
  -- what leaves the settings and the abilities alone keeps what is said of them
  have huntouched {α : Type} {work : Work Handsfree AlarmKind α}
      (hwork : ∀ start, Work.Upholds (Untouched K start) work) :
      Work.Upholds (fun desk =>
        J desk.session.settings desk.session.capabilities ∧ K desk.log) work := by
    intro view desk h
    refine Work.yields_mono (hwork desk view desk (.refl h.2)) ?_
    intro _ after hafter
    refine ⟨?_, hafter.log⟩
    rw [hafter.settings, hafter.capabilities]
    exact h.1
  refine ⟨?_, ?_, ?_, ?_, ?_, ?_⟩
  · exact huntouched fun _ => upholds_onConnected_untouched htolerant
  · intro view desk h
    refine yields_onDisconnected.2 ⟨h.1, htolerant.announced _ h.2⟩
  · exact upholds_onAudio (fun _ _ _ h => h) (fun _ _ _ h => ⟨h.1, hreport _ _ h.2⟩)
      fun _ _ h => h
  · exact fun event => huntouched fun _ => upholds_onEvent_untouched htolerant fun _ _ _ => hpermits
  · intro request
    by_cases hsaid : ∃ allowed, request = .allowAudioRoute allowed
    · obtain ⟨allowed, rfl⟩ := hsaid
      exact fun view desk h => yields_onRequest_allow.2 h
    · exact huntouched fun _ => upholds_onRequest_untouched htolerant (fun _ => hpermits)
        fun allowed heq => hsaid ⟨allowed, heq⟩
  · intro kind
    cases kind with
    | poll => exact huntouched fun _ => upholds_queryCalls_untouched htolerant

end AudioLink.Handsfree
