/-
**Which lists of codecs leave a streaming link.**

A streaming link hands two kinds of lists to the device: the configuration that a user asks for, and
the part of its table that a switch of the optional codecs is about.  A switch may come at any time
in the life of a link, with whatever priorities are set by then, and nothing but a switch touches
the table.  So the table is always as the last one that was not declined has left it, and no list is
ever handed over that is of neither kind.

Main definitions:

* `AudioLink.Stream.Order.IsProper` — an order with a list of either kind;
* `AudioLink.Stream.carryOut` — a switch as it is carried out at the desk;
* `AudioLink.Stream.Assigned` — how the table stands, and which lists have left the link.

Main results:

* `AudioLink.Stream.yields_carryOut` — what a switch leaves behind;
* `AudioLink.Stream.upholds_assigned` — **nothing that happens to the profile spoils it**;
* `AudioLink.Stream.assigned_live` — **so it is throughout the life of a link**.
-/

import AudioLink.Proofs.Codec.Switching
import AudioLink.Proofs.Link.Lasting
import AudioLink.Proofs.Stream.Acts

set_option relaxedAutoImplicit false
set_option autoImplicit false

namespace AudioLink

/-- What is sent on a request for a configuration is that configuration and nothing else. -/
theorem CodecConfig.eq_of_decision_eq_apply {wanted : CodecConfig} {status : Option CodecStatus}
    {configs : List CodecConfig} (h : wanted.decision status = .apply configs) :
    configs = [wanted] := by
  cases status with
  | none => cases h
  | some status =>
      rw [decision] at h
      split at h
      · cases h
      · split at h
        · cases h
        · split at h
          · cases h
          · exact (Decision.apply.inj h).symm

namespace Stream

/-! ### Orders -/

/-- An order with a list that the device may be handed: the configuration that a user asks for, or
the part of a table that the switch is about which has built it. -/
inductive Order.IsProper : Order → Prop
  | preferCodec (config : CodecConfig) : IsProper (.preferCodec [config])
  | enableOptional {table : CodecTable} {switch : CodecTable.Switch} {configs : List CodecConfig}
      (hon : switch.on = true) (hreflects : table.Reflects switch)
      (hsends : table.Sends switch configs) : IsProper (.enableOptional configs)
  | disableOptional {table : CodecTable} {switch : CodecTable.Switch} {configs : List CodecConfig}
      (hoff : switch.on = false) (hreflects : table.Reflects switch)
      (hsends : table.Sends switch configs) : IsProper (.disableOptional configs)

/-- The table is as a switch has left it, or was never touched, and every list that was handed to
the transport is that of a proper order. -/
structure Assigned (s : Stream) (log : List Effect) : Prop where
  table : ∃ last, s.table.Stands last
  lists : ∀ configs accepted, .call (.command (.preferCodecs configs)) accepted ∈ log →
    ∃ order : Order, order.IsProper ∧ order.command = .preferCodecs configs

section Assigned

variable {past log : List Effect} {s : Stream} {effect : Effect} {order : Order}

/-- What leaves the link next is the list of a proper order, if it is a list at all. -/
theorem Assigned.snoc (h : Assigned s (past ++ log))
    (heffect : ∀ configs accepted, effect = .call (.command (.preferCodecs configs)) accepted →
      ∃ order : Order, order.IsProper ∧ order.command = .preferCodecs configs) :
    Assigned s (past ++ (log ++ [effect])) where
  table := h.table
  lists configs accepted hmem := by
    rw [← List.append_assoc] at hmem
    rcases List.mem_append.1 hmem with hmem | hmem
    · exact h.lists configs accepted hmem
    · exact heffect configs accepted (List.mem_singleton.1 hmem).symm

/-- What has left the link is not about the table. -/
theorem Assigned.note (h : Assigned s log) {f : Stream → Stream}
    (htable : (f s).table = s.table) : Assigned (f s) log where
  table := by
    rw [htable]
    exact h.table
  lists := h.lists

end Assigned

/-! ### Work at the desk -/

/-- What is assigned, in view of all that had left the link before the profile was consulted. -/
def AssignedAt (past : List Effect) (desk : Desk Stream Empty) : Prop :=
  Assigned desk.session (past ++ desk.log)

/-- A switch is carried out: the table is kept, and the list is ordered unless it was declined. -/
def carryOut (order : List CodecConfig → Order) (answer : Option (List CodecConfig) × CodecTable) :
    Work Stream Empty Verdict := do
  Work.update fun s => { s with table := answer.2 }
  match answer.1 with
  | some configs => issue (order configs)
  | none => return .ok ()

section Work

variable {past : List Effect} {view : View} {desk : Desk Stream Empty}

/-- To switch the optional codecs on is to carry out the switch that the user has in mind. -/
theorem yields_enableOptional {post : Verdict → Desk Stream Empty → Prop} :
    enableOptional.Yields view desk post ↔
      (carryOut .enableOptional (desk.session.table.answer
        ⟨true, view.preferences.codecs, desk.session.current⟩)).Yields view desk post := Iff.rfl

/-- So it is to switch them off. -/
theorem yields_disableOptional {post : Verdict → Desk Stream Empty → Prop} :
    disableOptional.Yields view desk post ↔
      (carryOut .disableOptional (desk.session.table.answer
        ⟨false, view.preferences.codecs, desk.session.current⟩)).Yields view desk post := Iff.rfl

theorem upholds_announce_assigned (report : Report) :
    Work.Upholds (AssignedAt past) (Work.announce report) :=
  fun _ _ h => h.snoc nofun

theorem upholds_update_assigned {f : Stream → Stream} (htable : ∀ s, (f s).table = s.table) :
    Work.Upholds (AssignedAt past) (Work.update f) :=
  fun _ desk h => h.note (htable desk.session)

/-- A proper order may be issued. -/
theorem upholds_issue_assigned {order : Order} (hproper : order.IsProper) :
    Work.Upholds (AssignedAt past) (issue order) := by
  intro view desk h
  rw [yields_issue]
  have hsent : Assigned desk.session (past ++ (desk.log ++ [.call (.command order.command)
      (view.transport desk.log (.command order.command))])) := by
    refine h.snoc fun configs accepted heq => ⟨order, hproper, ?_⟩
    exact Outgoing.command.inj (Effect.call.inj heq).1
  exact ⟨hsent.table, hsent.lists⟩

/-- **A switch leaves the table as it should be**, and orders a proper list if it is not
declined. -/
theorem yields_carryOut {order : List CodecConfig → Order} {switch : CodecTable.Switch}
    (hproper : ∀ table configs, CodecTable.Reflects table switch → table.Sends switch configs →
      (order configs).IsProper) (h : AssignedAt past desk) :
    (carryOut order (desk.session.table.answer switch)).Yields view desk
      fun _ after => AssignedAt past after := by
  rcases CodecTable.answer_cases desk.session.table switch with
    ⟨-, hdeclined⟩ | ⟨-, configs, hsent, hsends⟩
  · rw [hdeclined]
    exact h
  · rw [hsent]
    have hreflects := CodecTable.reflects_ofPriorities switch
    refine upholds_issue_assigned (hproper _ configs hreflects hsends) view _ ?_
    exact ⟨⟨some switch, hreflects⟩, h.lists⟩

theorem upholds_onRequest_assigned (request : Request) :
    Work.Upholds (AssignedAt past) (ProfileSession.onRequest (σ := Stream) request) := by
  cases request with
  | preferCodec config =>
      refine .bind .session fun s => ?_
      cases hdecision : config.decision s.status with
      | apply configs =>
          obtain rfl := CodecConfig.eq_of_decision_eq_apply hdecision
          exact upholds_issue_assigned (.preferCodec config)
      | unchanged | incomplete | notSelectable => exact .pure _
  | enableOptional =>
      intro view desk h
      exact yields_enableOptional.2 (yields_carryOut (fun _ _ => .enableOptional rfl) h)
  | disableOptional =>
      intro view desk h
      exact yields_disableOptional.2 (yields_carryOut (fun _ _ => .disableOptional rfl) h)

theorem upholds_onCommandResult_assigned (outcome : Outcome) (code : Option Nat) :
    Work.Upholds (AssignedAt past) (onCommandResult outcome code) := by
  intro view desk h
  have hstruck : AssignedAt past (struck desk) := ⟨h.table, h.lists⟩
  rw [yields_onCommandResult]
  split
  · exact hstruck.snoc nofun
  · exact hstruck

/-- **Nothing that happens to the profile spoils what is assigned.** -/
theorem upholds_assigned : ProfileUpholds Stream (AssignedAt past) where
  onConnected :=
    .bind (upholds_update_assigned fun _ => rfl) fun _ => upholds_announce_assigned _
  onDisconnected := upholds_update_assigned fun _ => rfl
  onAudioChanged _ current _ := upholds_onAudio upholds_announce_assigned
    (fun _ => upholds_update_assigned fun _ => rfl) current
  onEvent event := upholds_onEvent event
    (fun status _ => upholds_onCodecChanged upholds_announce_assigned
      (fun _ => upholds_update_assigned fun _ => rfl) status)
    fun outcome code _ => upholds_onCommandResult_assigned outcome code
  onRequest := upholds_onRequest_assigned
  onAlarm kind := nomatch kind

end Work

/-! ### The life of a link -/

/-- Nor does anything else that a link does. -/
theorem lasting_assigned (past : List Effect) :
    Link.Lasting (ρ := Request) (τ := Empty) fun s log => Assigned s (past ++ log) where
  asked s log request accepted hown h := by
    refine h.snoc fun configs _ heq => ?_
    cases hown <;> cases heq
  linkChanged _ _ _ _ h := h.snoc nofun
  audioChanged _ _ _ _ _ h := h.snoc nofun
  failed _ _ _ h := h.snoc nofun
  onLinkUp _ _ _ h := h
  consulted := upholds_assigned

/-- **What is assigned throughout the life of a streaming link.**  Whatever happens to it, its table
is as a switch has left it, if it was ever touched, and every list that it has handed to the
transport is a configuration that was asked for, or the part of such a table that a switch is
about. -/
theorem assigned_live (peer : Address) (settings : StreamSettings)
    (impulses : List (Impulse Request)) :
    Assigned ((Link.start peer (start settings)).live impulses).1.session
      ((Link.start peer (start settings)).live impulses).2 := by
  have hstart : Assigned (start settings) [] := ⟨⟨none, rfl⟩, nofun⟩
  exact Link.Lasting.live rfl lasting_assigned hstart impulses

end Stream

end AudioLink
