/-
**What both profiles leave alone.**

A link arms alarms of its own, which bound its transient states.  A profile that reached for one of
them could leave the link waiting for ever, or take it down in a stable state.  Neither profile
does: streaming arms nothing at all, and handsfree nothing but the alarm of its next question.  So
the links of both are at rest after every impulse.  Nor does either of them ask for a connection or
announce a change of the link; what they let out are commands to the device, and reports, and when
the link drops out, reports only.

Main results:

* `AudioLink.Stream.sparing`, `AudioLink.Handsfree.sparing` — both profiles are content with alarms
  of their own, and so leave those of the link alone;
* `AudioLink.Stream.discreet`, `AudioLink.Handsfree.discreet` — both let out nothing but what is
  their own;
* `AudioLink.Stream.reserved`, `AudioLink.Handsfree.reserved` — both send no more commands when the
  link drops out;
* `AudioLink.links_atRest` — **the link of either profile is at rest after every impulse**.
-/

import AudioLink.Proofs.Handsfree.Acts
import AudioLink.Proofs.Link.Chronicle
import AudioLink.Proofs.Link.Rest
import AudioLink.Proofs.Stream.Acts

set_option relaxedAutoImplicit false
set_option autoImplicit false

namespace AudioLink

/-! ### Streaming -/

namespace Stream

/-- No order is about the link. -/
theorem Order.command_not_own (order : Order) : ¬Link.IsOwn (.command order.command) := by
  cases order <;> nofun

/-- Streaming arms nothing and strikes nothing out. -/
theorem sparing : Sparing Stream := by
  intro K _ _
  have hacts : Acts fun desk => K desk.alarms :=
    { note := fun _ _ _ _ h => h
      announce := fun _ _ _ h => h
      issue := fun _ _ _ h => h }
  refine hacts.profile ?_ fun _ _ h => h
  intro outcome code view desk h
  rw [yields_onCommandResult]
  split
  · exact h
  · exact h

theorem careful : Careful Stream := sparing.careful

/-- Streaming announces what changes, and sends what it is asked to. -/
theorem discreet : Discreet Stream := by
  intro J hJ
  have hreported (log : List Effect) (report : Report) (h : J log) :
      J (log ++ [.notice (.report report)]) :=
    hJ _ _ (.report report) h
  have hacts : Acts fun desk => J desk.log :=
    { note := fun _ _ _ _ h => h
      announce := fun report _ desk h => hreported desk.log report h
      issue := fun order _ desk h => hJ _ _ (.command _ _ order.command_not_own) h }
  refine hacts.profile ?_ fun _ _ h => h
  intro outcome code view desk h
  rw [yields_onCommandResult]
  split
  · exact hreported desk.log _ h
  · exact h

/-- When the link drops out, streaming says nothing at all. -/
theorem reserved : Reserved Stream where
  discreet := discreet
  onDisconnected _ _ := fun _ _ h => h

end Stream

/-! ### Handsfree -/

namespace Handsfree

/-- No order is about the link. -/
theorem Order.command_not_own (order : Order) : ¬Link.IsOwn (.command order.command) := by
  cases order <;> nofun

section Alarms

variable {K : Alarms (AudioLink.AlarmKind AlarmKind) → Prop}
  (hschedule : ∀ alarms kind deadline, K alarms → K (alarms.schedule (.session kind) deadline))
  (hcancel : ∀ alarms kind, K alarms → K (alarms.cancel (.session kind)))

include hschedule hcancel

/-- No act of the profile touches an alarm but that of the next question. -/
theorem acts_alarms : Acts fun desk => K desk.alarms where
  note _ _ := fun _ _ h => h
  announce _ _ := fun _ _ h => h
  dropAudio := fun _ _ h => h
  issue _ _ := fun _ _ h => h
  queryCalls :=
    upholds_queryCalls (fun _ _ h => hschedule _ _ _ (hcancel _ .poll h))
      fun _ _ h => hcancel _ .poll h
  record _ _ := fun _ _ h => h
  enter _ _ _ _ _ _ h := h
  order _ := fun _ _ h => h
  abandonDial := by
    intro view desk h
    rw [yields_abandonDial]
    exact h
  strike := fun _ _ h => h

/-- The end of a list of calls touches no alarm but that of the next question. -/
theorem upholds_finishQuery_alarms :
    Work.Upholds (fun desk => K desk.alarms) finishQuery := by
  intro view desk h
  rw [yields_finishQuery]
  split
  · exact hcancel _ _ h
  · show K (polling desk.alarms _ _)
    rw [polling]
    split
    · split
      · exact h
      · exact hschedule _ _ _ h
    · exact hcancel _ _ h

end Alarms

/-- Handsfree arms and strikes out the alarm of its next question only. -/
theorem sparing : Sparing Handsfree := by
  intro K hschedule hcancel
  refine (acts_alarms hschedule hcancel).profile (upholds_finishQuery_alarms hschedule hcancel) ?_
  intro view desk h
  rw [yields_onDisconnected]
  exact h

theorem careful : Careful Handsfree := sparing.careful

section Log

variable {J : List Effect → Prop}

/-- What announcing a call does not spoil is not spoilt when several calls are announced. -/
theorem announced (hJ : ∀ log call, J log → J (log ++ [announcement call]))
    {log : List Effect} (calls : List Call) (h : J log) : J (log ++ calls.map announcement) := by
  induction calls generalizing log with
  | nil => rwa [List.map_nil, List.append_nil]
  | cons call calls ih =>
      rw [List.map_cons, List.append_cons]
      exact ih (hJ _ _ h)

variable (hJ : ∀ log effect, Effect.IsProfile effect → J log → J (log ++ [effect]))

include hJ

theorem ordered {log : List Effect} (order : Order) (accepted : Bool) (h : J log) :
    J (log ++ [.call (.command order.command) accepted]) :=
  hJ _ _ (.command _ _ order.command_not_own) h

/-- Every act lets out orders and reports only. -/
theorem acts_log : Acts fun desk => J desk.log where
  note _ _ := fun _ _ h => h
  announce report _ := fun _ _ h => hJ _ _ (.report report) h
  dropAudio := fun _ _ h => h
  issue order _ := fun _ _ h => ordered hJ order _ h
  queryCalls := upholds_queryCalls (fun _ _ h => h) fun _ _ h => ordered hJ .queryCalls _ h
  record _ _ := fun _ _ h => h
  enter _ _ _ call _ _ h := announced (fun _ call => hJ _ _ (.report (.callChanged call))) [call] h
  order number := fun _ _ h => ordered hJ (.dial number) _ h
  abandonDial := by
    intro view desk h
    rw [yields_abandonDial]
    exact announced (fun _ call => hJ _ _ (.report (.callChanged call))) _ h
  strike := fun _ _ h => h

/-- The end of a list of calls lets out an order and reports only. -/
theorem upholds_finishQuery_log : Work.Upholds (fun desk => J desk.log) finishQuery := by
  have hreported (log : List Effect) (call : Call) (h : J log) : J (log ++ [announcement call]) :=
    hJ _ _ (.report (.callChanged call)) h
  intro view desk h
  rw [yields_finishQuery]
  split
  · exact announced hreported _ (ordered hJ (.terminate .hangUp) _ h)
  · exact announced hreported _ h

end Log

/-- Handsfree announces what it learns, and sends what it is asked to or needs itself. -/
theorem discreet : Discreet Handsfree := by
  intro J hJ
  refine (acts_log hJ).profile (upholds_finishQuery_log hJ) ?_
  intro view desk h
  rw [yields_onDisconnected]
  exact announced (fun _ call => hJ _ _ (.report (.callChanged call))) _ h

/-- When the link drops out, handsfree announces that the calls have ended, and that is all. -/
theorem reserved : Reserved Handsfree where
  discreet := discreet
  onDisconnected J hJ := by
    intro view desk h
    refine yields_onDisconnected.2 ?_
    exact announced (fun _ call => hJ _ (.callChanged call)) _ h

end Handsfree

/-! ### Links at rest -/

/-- **The link of either profile is at rest after every impulse**, whatever the settings, and
whatever the clock, the transport and the preferences were each time. -/
theorem links_atRest (peer : Address) :
    (∀ (settings : StreamSettings) (impulses : List (Impulse Stream.Request)),
      ((Link.start peer (Stream.start settings)).live impulses).1.AtRest) ∧
    (∀ (settings : HandsfreeSettings) (issuer : Nat) (impulses : List (Impulse Handsfree.Request)),
      ((Link.start peer (Handsfree.start settings issuer)).live impulses).1.AtRest) := by
  constructor
  · intro settings impulses
    exact Link.atRest_live Stream.careful rfl (Link.bounded_start peer _) impulses
  · intro settings issuer impulses
    exact Link.atRest_live Handsfree.careful rfl (Link.bounded_start peer _) impulses

end AudioLink
