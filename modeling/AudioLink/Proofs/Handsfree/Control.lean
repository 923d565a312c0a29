/-
**The control of the calls.**

To end an active call, to take a member of a conference aside and to join two calls cannot be
undone, and most of it takes a gateway that is able to do so.  So it matters that the gateway is
told to do such a thing only when the calls and its abilities bear it out: at the moment the action
is handed over, not just at the moment the user asked for it.

The link keeps what a gateway has announced of its abilities, even while there is no connection.
Whoever watches the link knows it from the report that has brought about the connection there is.

Main definitions:

* `AudioLink.Handsfree.keepAbilities` — what the gateway has announced that it is able to do;
* `AudioLink.CallControl.ability?` — what a gateway needs to be able to do for an action;
* `AudioLink.Handsfree.Justified` — the calls and the abilities bear out an action.

Main results:

* `AudioLink.Handsfree.capabilities_live` — while the link is connected, the profile goes by what
  the gateway has announced for this connection;
* `AudioLink.Handsfree.Request.choice_justified` — what is chosen on request is borne out;
* `AudioLink.Handsfree.control_justified` — **so is every action that is handed over**.
-/

import AudioLink.Proofs.Handsfree.Handing
import AudioLink.Proofs.Handsfree.Roster
import AudioLink.Proofs.Renewal

set_option relaxedAutoImplicit false
set_option autoImplicit false

namespace AudioLink

/-- Whether an effect is the announcement that the link is connected. -/
def isConnection : Effect → Bool
  | .notice (.linkChanged _ .connected) => true
  | _ => false

namespace Handsfree

/-! ### What the gateway is able to do -/

/-- What the gateway has announced that it is able to do: an impulse that brings about a connection
says so. -/
def noteAbilities (_ : Link Handsfree Request AlarmKind) (impulse : Impulse Request)
    (log : List Effect) (abilities : Capabilities) : Capabilities :=
  match impulse with
  | .hand _ (.event (.linkChanged _ announced)) =>
      if log.any isConnection then announced else abilities
  | _ => abilities

/-- What the gateway has announced in the course of a life. -/
def keepAbilities (link : Link Handsfree Request AlarmKind) (impulses : List (Impulse Request)) :
    Capabilities :=
  link.keep noteAbilities impulses .none

/-- While the link is connected, the profile knows what was announced: something new, if it came to
be connected in the meantime, or else what was known before. -/
def Informed (announced known : Capabilities) (progress : Progress Handsfree Request AlarmKind) :
    Prop :=
  progress.link.state = .connected →
    progress.link.session.capabilities =
      if progress.log.any isConnection then announced else known

section Informed

variable {announced known : Capabilities} {scene : Scene}
  {progress : Progress Handsfree Request AlarmKind}

/-- The profile neither changes what it knows of the gateway nor announces a connection. -/
theorem profile_informed (capabilities : Capabilities) (connects : Bool) :
    ProfileUpholds Handsfree fun desk =>
      desk.session.capabilities = capabilities ∧ desk.log.any isConnection = connects := by
  refine profile_said (K := fun log => log.any isConnection = connects) ?_
    fun _ stored => stored = capabilities
  rintro log effect (⟨command, accepted, -⟩ | report) h
  · rw [List.any_append, h]
    exact Bool.or_false _
  · rw [List.any_append, h]
    exact Bool.or_false _

theorem calm_informed (capabilities : Capabilities) (connects : Bool) :
    Link.Calm (ρ := Request) (τ := AlarmKind) fun (s : Handsfree) log =>
      s.capabilities = capabilities ∧ log.any isConnection = connects where
  audioChanged _ _ _ _ _ h := ⟨h.1, by rw [List.any_append, h.2]; exact Bool.or_false _⟩
  onAudioChanged := (profile_informed capabilities connects).onAudioChanged
  onConnected := (profile_informed capabilities connects).onConnected

theorem Informed.aside (h : Informed announced known progress) {effect : Effect}
    (hother : isConnection effect = false) :
    Informed announced known ⟨progress.link, progress.log ++ [effect]⟩ := by
  intro hconnected
  rw [h hconnected, List.any_append, List.any_cons, hother, List.any_nil, Bool.or_false,
    Bool.or_false]

/-- Whatever keeps what the profile knows, and announces no connection, leaves it informed. -/
theorem informed_consult {α : Type} {work : Work Handsfree AlarmKind α}
    (hwork : ∀ capabilities connects, Work.Upholds
      (fun desk => desk.session.capabilities = capabilities ∧
        desk.log.any isConnection = connects) work)
    (h : Informed announced known progress) :
    (Step.consult work : Step Handsfree Request AlarmKind α).Yields scene progress fun _ after =>
      Informed announced known after := by
  have hafter := hwork progress.link.session.capabilities (progress.log.any isConnection)
    (Step.view scene progress.link) (Step.desk progress) ⟨rfl, rfl⟩
  rw [Step.yields_consult]
  refine Work.yields_mono hafter ?_
  rintro _ desk ⟨hcapabilities, hconnects⟩ hconnected
  show desk.session.capabilities = if desk.log.any isConnection then announced else known
  rw [hcapabilities, hconnects]
  exact h hconnected

theorem turning_informed : Link.Turning (Informed announced known) where
  slight f hf := by
    intro scene progress h hconnected
    show (f progress.link).session.capabilities = _
    rw [hf.session]
    exact h ((hf.state _).symm.trans hconnected)
  audioChanged _ _ _ := fun _ _ h => h.aside rfl
  onAudioChanged previous current wideband := fun _ _ h => informed_consult
    (fun capabilities connects => (profile_informed capabilities connects).onAudioChanged _ _ _) h

/-- When the link comes to be connected, the profile has just heard what the gateway is able to
do. -/
theorem yields_transition_connected
    (hannounced : progress.link.session.capabilities = announced)
    (h : Informed announced known progress) :
    (Link.transition .connected : Step Handsfree Request AlarmKind Unit).Yields scene progress
      fun _ after => Informed announced known after := by
  by_cases hsame : progress.link.state = .connected
  · rw [Link.yields_transition_of_eq hsame]
    exact h
  · rw [Link.yields_transition_of_ne hsame]
    refine Step.yields_mono ((calm_informed announced _).upholds_leave _ scene progress
      ⟨hannounced, rfl⟩) ?_
    rintro _ left ⟨hleft, -⟩
    have hentered : Step.Upholds (Link.AtLink fun (s : Handsfree) log =>
        s.capabilities = announced ∧ log.any isConnection = true)
        (Link.enter .connected >>= fun _ =>
          if LinkState.connected.isStable then Link.replayDeferred else pure () :
          Step Handsfree Request AlarmKind Unit) := by
      refine .bind ((calm_informed announced true).upholds_enter .connected nofun) fun _ => ?_
      exact .ite (fun _ => Link.upholds_change fun _ => rfl) fun _ => .pure _
    refine Step.yields_mono (hentered scene _ ⟨hleft, ?_⟩) ?_
    · rw [List.any_append]
      exact Bool.or_true _
    · rintro _ after ⟨hcapabilities, hconnects⟩ -
      rw [hcapabilities, hconnects]
      rfl

theorem yields_transition_unconnected {next : LinkState} (hnext : next ≠ .connected) :
    (Link.transition next : Step Handsfree Request AlarmKind Unit).Yields scene progress
      fun _ after => Informed announced known after :=
  Step.yields_mono Link.yields_transition_state fun _ _ hstate hconnected =>
    absurd (hstate.symm.trans hconnected) hnext

/-- Whatever a message brings about, the profile is informed, if a message that says that the link
is connected says as well what the gateway is able to do. -/
theorem conduct_informed {message : Message Request}
    (hmessage : ∀ capabilities, message = .event (.linkChanged .connected capabilities) →
      capabilities = announced) :
    Link.Conduct scene message (Informed announced known) (Informed announced known)
      (Informed announced known) where
  introduce _ _ hstate _ := fun hconnected => absurd hconnected hstate
  ask _ _ _ h := h.aside rfl
  unasked _ h := h
  rise next progress hreports _ h := by
    by_cases hnext : next = .connected
    · subst hnext
      obtain ⟨capabilities, htold, hsession⟩ := hreports.told
      obtain ⟨s, hsession⟩ := hsession rfl
      refine yields_transition_connected ?_ h
      rw [hsession]
      exact hmessage capabilities htold
    · exact yields_transition_unconnected hnext
  transition next _ hup _ := by
    refine yields_transition_unconnected fun hnext => ?_
    obtain ⟨-, hconnecting, -⟩ := hup (by rw [hnext]; rfl)
    cases hnext.symm.trans hconnecting
  setAudio audio wideband progress _ _ h :=
    turning_informed.upholds_setAudio audio wideband scene progress h
  defer _ _ _ h := h
  stay _ h := h
  request request _ _ _ h := informed_consult
    (fun capabilities connects => (profile_informed capabilities connects).onRequest request) h
  event event _ _ _ h := informed_consult
    (fun capabilities connects => (profile_informed capabilities connects).onEvent event) h

theorem yields_handle_informed {errand : Errand Request AlarmKind}
    (herrand : ∀ capabilities,
      errand = .message (.event (.linkChanged .connected capabilities)) → capabilities = announced)
    (h : Informed announced known progress) :
    (Link.handle errand : Step Handsfree Request AlarmKind Unit).Yields scene progress
      fun _ after => Informed announced known after := by
  refine Link.yields_handle ?_ fun _ _ h => h.aside rfl
  cases errand with
  | message message =>
      refine (conduct_informed fun capabilities heq => ?_).yields_onMessage h
      exact herrand capabilities (congrArg Errand.message heq)
  | alarm kind =>
      have hdown (after : Progress Handsfree Request AlarmKind)
          (h : Informed announced known after) :
          (Link.giveUp : Step Handsfree Request AlarmKind Unit).Yields scene after fun _ last =>
            Informed announced known last := h
      refine Link.yields_onAlarm h (fun _ _ => hdown _ (h.aside rfl)) (fun _ _ => hdown _ h) ?_
      exact fun own _ _ => informed_consult
        (fun capabilities connects => (profile_informed capabilities connects).onAlarm own) h

/-- What a link makes for itself never says that the link is connected. -/
theorem yields_incidental_informed {errand : Errand Request AlarmKind}
    (own : Link.Incidental errand) (h : Informed announced known progress) :
    (Link.handle errand : Step Handsfree Request AlarmKind Unit).Yields scene progress
      fun _ after => Informed announced known after := by
  refine yields_handle_informed (fun capabilities heq => ?_) h
  cases own <;> cases heq

variable {link : Link Handsfree Request AlarmKind}

/-- A message that says what the gateway is able to do leaves the profile informed of it. -/
theorem informed_hand (hlink : Link.Between link) {message : Message Request}
    (hmessage : ∀ capabilities, message = .event (.linkChanged .connected capabilities) →
      capabilities = announced)
    (h : link.state = .connected → link.session.capabilities = known) :
    Informed announced known
      ⟨(link.respond (.hand scene message)).1, (link.respond (.hand scene message)).2⟩ := by
  refine Link.respond_hand_own hlink (yields_handle_informed (fun capabilities heq => ?_) h)
    fun _ _ _ h _ own => yields_incidental_informed own h
  exact hmessage capabilities (Errand.message.inj heq)

theorem informed_wake (hlink : Link.Between link)
    (h : link.state = .connected → link.session.capabilities = known) :
    Informed announced known
      ⟨(link.respond (.wake scene)).1, (link.respond (.wake scene)).2⟩ :=
  Link.respond_wake_own hlink h (fun _ _ _ h _ _ => yields_handle_informed nofun h)
    fun _ _ _ h _ own => yields_incidental_informed own h

/-- **An impulse leaves the profile of a connected link informed.** -/
theorem informed_respond (hlink : Link.Between link) (impulse : Impulse Request)
    (h : link.state = .connected → link.session.capabilities = known)
    (hconnected : (link.respond impulse).1.state = .connected) :
    (link.respond impulse).1.session.capabilities =
      noteAbilities link impulse (link.respond impulse).2 known := by
  unfold noteAbilities
  split
  · next scene report announced =>
      refine informed_hand hlink (fun capabilities heq => ?_) h hconnected
      cases heq
      rfl
  · next hother =>
      -- whatever was announced in the meantime, it was nothing new
      have hknown : Informed known known
          ⟨(link.respond impulse).1, (link.respond impulse).2⟩ := by
        cases impulse with
        | wake scene => exact informed_wake hlink h
        | hand scene message =>
            refine informed_hand hlink (fun capabilities heq => ?_) h
            exact absurd (congrArg (Impulse.hand scene) heq) (hother scene _ capabilities)
      exact (hknown hconnected).trans (ite_self known)

end Informed

section Life

variable (settings : HandsfreeSettings) (issuer : Nat) (peer : Address)
  (impulses : List (Impulse Request))

/-- **While the link is connected, the profile goes by what the gateway has announced for this
connection.** -/
theorem capabilities_live
    (hconnected : ((Link.start peer (start settings issuer)).live impulses).1.state = .connected) :
    ((Link.start peer (start settings issuer)).live impulses).1.session.capabilities =
      keepAbilities (Link.start peer (start settings issuer)) impulses := by
  have hlived : Link.Between ((Link.start peer (start settings issuer)).live impulses).1 ∧
      (((Link.start peer (start settings issuer)).live impulses).1.state = .connected →
        ((Link.start peer (start settings issuer)).live impulses).1.session.capabilities =
          keepAbilities (Link.start peer (start settings issuer)) impulses) := by
    refine Link.keep_induction (P := fun (link : Link Handsfree Request AlarmKind) abilities =>
      Link.Between link ∧ (link.state = .connected → link.session.capabilities = abilities))
      ?_ ?_ impulses
    · rintro link impulse abilities ⟨hlink, hknown⟩
      exact ⟨Link.between_respond hlink impulse, informed_respond hlink impulse hknown⟩
    · exact ⟨Link.between_start peer (start settings issuer), nofun⟩
  exact hlived.2 hconnected

end Life

/-! ### What bears out an action -/

end Handsfree

/-- What a gateway needs to be able to do for an action. -/
def CallControl.ability? : CallControl → Option UInt32
  | releaseSpecific _ => some Capabilities.releaseSpecific
  | privateConsultation _ => some Capabilities.privateConsultation
  | explicitTransfer => some Capabilities.mergeAndDetach
  | _ => none

/-- The alternatives to ways of accepting a call that a policy names. -/
def AcceptRetry.alternatives (policy : AcceptRetry) : List CallControl :=
  policy.incoming.toList ++ policy.waiting.toList

/-- What a policy falls back on is one of the alternatives it names. -/
theorem AcceptRetry.mem_alternatives {policy : AcceptRetry} {refused action : CallControl}
    {r : Roster} (h : policy.fallback refused r = some action) : action ∈ policy.alternatives := by
  obtain ⟨h, -⟩ := Option.filter_eq_some_iff.1 h
  rw [alternatives, List.mem_append]
  split at h
  · split at h
    · exact .inl (Option.mem_toList.2 h)
    · cases h
  · split at h
    · exact .inr (Option.mem_toList.2 h)
    · cases h
  · cases h

namespace Roster

variable {r : Roster} {mode : AcceptMode} {action : CallControl}

/-- A call of a roster is active. -/
def HasActive (r : Roster) (number : Nat) : Prop :=
  ∃ call, r.get? (.peer number) = some call ∧ call.state = .active

/-- To accept a call takes no special ability, and releases the active calls only if that is what
the user wants. -/
theorem acceptWith_plain (h : r.acceptWith mode = some action) :
    action.ability? = none ∧ (action = .releaseActiveAcceptOther → mode = .terminate) := by
  obtain ⟨call, -, h⟩ := Option.bind_eq_some_iff.1 h
  split at h <;> (try split at h) <;> (try split at h) <;> cases h <;> simp [CallControl.ability?]

/-- Nor does to reject one. -/
theorem reject_plain (h : r.reject = some action) :
    action.ability? = none ∧ action ≠ .releaseActiveAcceptOther := by
  obtain ⟨call, -, h⟩ := Option.bind_eq_some_iff.1 h
  split at h <;> cases h <;> exact ⟨rfl, nofun⟩

/-- Nor does to put one on hold. -/
theorem hold_plain (h : r.hold = some action) :
    action.ability? = none ∧ action ≠ .releaseActiveAcceptOther := by
  rw [hold] at h
  split at h
  · cases h
    decide
  · split at h
    · cases h
      decide
    · cases h

/-- The ongoing call is ended by hanging up. -/
theorem terminate_none (h : r.terminate none = some action) : action = .hangUp := by
  obtain ⟨-, -, h⟩ := Option.map_eq_some_iff.1 h
  exact h.symm

/-- Only an active call of a conference is taken aside. -/
theorem privateMode_eq_some {number : Nat} (h : r.privateMode number = some action) :
    action = .privateConsultation number ∧ ∃ call, r.get? (.peer number) = some call ∧
      call.state = .active ∧ call.multiparty = true := by
  obtain ⟨call, hcall, h⟩ := Option.bind_eq_some_iff.1 h
  split at h
  · next hstate =>
      cases h
      exact ⟨rfl, call, hcall, hstate⟩
  · cases h

theorem transfer_eq_some (h : r.transfer = some action) :
    action = .explicitTransfer ∧ 2 ≤ r.size := by
  rw [transfer] at h
  split at h
  · next hsize =>
      cases h
      exact ⟨rfl, hsize⟩
  · cases h

end Roster

namespace Handsfree

/-- The calls and the abilities of the gateway bear out an action. -/
structure Justified (abilities : Capabilities) (r : Roster) (impulse : Impulse Request)
    (action : CallControl) : Prop where
  /-- The active calls are released only for one that the user accepts in their place, or if there
  are none. -/
  active : action = .releaseActiveAcceptOther →
    (∃ scene, impulse = .hand scene (.request (.accept .terminate))) ∨ r.hasState .active = false
  /-- The gateway has announced that it is able to do such a thing. -/
  able : ∀ flags, action.ability? = some flags → abilities.supportsCallHold flags = true
  /-- Only an active call is released by its number. -/
  released : ∀ number, action = .releaseSpecific number → r.HasActive number
  /-- Only an active call is taken aside, and only from another one. -/
  parted : ∀ number, action = .privateConsultation number → r.HasActive number ∧
    ∃ other ∈ r.calls, other.index ≠ .peer number ∧ other.state = .active
  /-- Only if there are two calls they are joined. -/
  joined : action = .explicitTransfer → 2 ≤ r.size

section Justified

variable {abilities : Capabilities} {r : Roster} {impulse : Impulse Request} {action : CallControl}

/-- What takes no special ability is borne out, unless it releases the active calls. -/
theorem Justified.plain (hplain : action.ability? = none)
    (hactive : action = .releaseActiveAcceptOther →
      (∃ scene, impulse = .hand scene (.request (.accept .terminate))) ∨
        r.hasState .active = false) : Justified abilities r impulse action where
  active := hactive
  able flags hflags := nomatch hplain.symm.trans hflags
  released number heq := by
    subst heq
    cases hplain
  parted number heq := by
    subst heq
    cases hplain
  joined heq := by
    subst heq
    cases hplain

theorem Justified.terminate {number : Nat}
    (hable : abilities.supportsCallHold Capabilities.releaseSpecific = true)
    (h : r.terminate (some number) = some action) : Justified abilities r impulse action := by
  obtain ⟨rfl, hactive⟩ := Roster.terminate_some_iff.1 h
  refine ⟨nofun, fun flags hflags => ?_, fun other heq => ?_, nofun, nofun⟩
  · exact Option.some.inj hflags ▸ hable
  · cases heq
    exact hactive

theorem Justified.privateMode {number : Nat} (hconferring : r.Conferring)
    (hable : abilities.supportsCallHold Capabilities.privateConsultation = true)
    (h : r.privateMode number = some action) : Justified abilities r impulse action := by
  obtain ⟨rfl, call, hfound, hstate, hmember⟩ := Roster.privateMode_eq_some h
  refine ⟨nofun, fun flags hflags => ?_, nofun, fun aside heq => ?_, nofun⟩
  · exact Option.some.inj hflags ▸ hable
  · cases heq
    have hmem := Roster.mem_of_get? hfound
    have hother := Roster.exists_other hmem ((hconferring call hmem).1 hmember).2
    rw [Roster.index_of_get? hfound] at hother
    exact ⟨⟨call, hfound, hstate⟩, hother⟩

theorem Justified.transfer
    (hable : abilities.supportsCallHold Capabilities.mergeAndDetach = true)
    (h : r.transfer = some action) : Justified abilities r impulse action := by
  obtain ⟨rfl, hsize⟩ := Roster.transfer_eq_some h
  refine ⟨nofun, fun flags hflags => ?_, nofun, nofun, fun _ => hsize⟩
  exact Option.some.inj hflags ▸ hable

/-- **What is chosen on request is borne out** by the calls and by what the profile knows of the
gateway. -/
theorem Request.choice_justified {s : Handsfree} (hconferring : s.roster.Conferring)
    {request : Request} {order : Order} (hchoice : request.choice s = .ok order)
    (horder : order.command = .call action) (scene : Scene) :
    Justified s.capabilities s.roster (.hand scene (.request request)) action := by
  cases request with
  | accept mode =>
      obtain ⟨action, hchosen, rfl⟩ := orderFor_eq_ok hchoice
      cases horder
      obtain ⟨hplain, hmode⟩ := Roster.acceptWith_plain hchosen
      exact .plain hplain fun heq => .inl ⟨scene, hmode heq ▸ rfl⟩
  | reject =>
      obtain ⟨action, hchosen, rfl⟩ := orderFor_eq_ok hchoice
      cases horder
      obtain ⟨hplain, hother⟩ := Roster.reject_plain hchosen
      exact .plain hplain fun heq => absurd heq hother
  | hold =>
      obtain ⟨action, hchosen, rfl⟩ := orderFor_eq_ok hchoice
      cases horder
      obtain ⟨hplain, hother⟩ := Roster.hold_plain hchosen
      exact .plain hplain fun heq => absurd heq hother
  | terminate number =>
      cases number with
      | none =>
          obtain ⟨action, hchosen, rfl⟩ := orderFor_eq_ok hchoice
          cases horder
          cases Roster.terminate_none hchosen
          exact .plain rfl nofun
      | some number =>
          obtain ⟨hable, hchoice⟩ := enabling_eq_ok hchoice
          obtain ⟨action, hchosen, rfl⟩ := orderFor_eq_ok hchoice
          cases horder
          exact .terminate hable hchosen
  | privateMode number =>
      obtain ⟨hable, hchoice⟩ := enabling_eq_ok hchoice
      obtain ⟨action, hchosen, rfl⟩ := orderFor_eq_ok hchoice
      obtain ⟨rfl, -⟩ := Roster.privateMode_eq_some hchosen
      cases horder
      exact .privateMode hconferring hable hchosen
  | transfer =>
      obtain ⟨hable, hchoice⟩ := enabling_eq_ok hchoice
      obtain ⟨action, hchosen, rfl⟩ := orderFor_eq_ok hchoice
      obtain ⟨rfl, -⟩ := Roster.transfer_eq_some hchosen
      cases horder
      exact .transfer hable hchosen
  | _ => cases hchoice

/-- Another way to accept a call that takes no special ability is borne out, as no call is active
then. -/
theorem retry_justified {s : Handsfree} {refused : CallControl} {retried : Bool}
    (hplain : ∀ action ∈ s.settings.acceptRetry.alternatives, action.ability? = none)
    (hretry : retryFor s refused retried = some action) :
    Justified abilities s.roster impulse action := by
  have hidle := (retryFor_eq_some hretry).2.1
  refine .plain (hplain action ?_) fun _ => .inr hidle
  rw [retryFor] at hretry
  split at hretry
  · cases hretry
  · exact AcceptRetry.mem_alternatives hretry

end Justified

/-! ### The life of a link -/

/-- When an impulse hands over an action, it does so before anything else, and the calls and the
abilities of the gateway bear the action out.  The calls are afterwards as they were, unless they
were hung up on. -/
def ControlsJustly (link : Link Handsfree Request AlarmKind) (abilities : Capabilities)
    (impulse : Impulse Request) : Prop :=
  ∀ earlier action accepted later,
    (link.respond impulse).2 = earlier ++ .call (.command (.call action)) accepted :: later →
      earlier = [] ∧ Justified abilities link.session.roster impulse action ∧
        ((link.respond impulse).1.session.roster = link.session.roster ∨ action = .hangUp)

/-- What is handed over at an impulse is borne out, if the profile of a connected link knows what
the gateway is able to do, and other ways to accept a call take no special ability. -/
theorem Handing.justified {link after : Link Handsfree Request AlarmKind}
    {impulse : Impulse Request} {log : List Effect} (h : Handing link impulse after log)
    {abilities : Capabilities} (hconferring : link.session.roster.Conferring)
    (hknown : link.state = .connected → link.session.capabilities = abilities)
    (hplain : ∀ action ∈ link.session.settings.acceptRetry.alternatives, action.ability? = none)
    {earlier later : List Effect} {action : CallControl} {accepted : Bool}
    (hlog : log = earlier ++ .call (.command (.call action)) accepted :: later) :
    earlier = [] ∧ Justified abilities link.session.roster impulse action ∧
      (after.session.roster = link.session.roster ∨ action = .hangUp) := by
  cases h with
  | nothing uncontrolled => exact absurd hlog uncontrolled.not_split
  | @request scene request _ order _ _ connected control chosen roster uncontrolled =>
      obtain ⟨hfirst, horder⟩ := uncontrolled.split hlog
      have hjustified := request.choice_justified hconferring chosen horder scene
      rw [hknown connected] at hjustified
      exact ⟨hfirst, hjustified, .inl roster⟩
  | retry chosen roster uncontrolled =>
      obtain ⟨hfirst, horder⟩ := uncontrolled.split hlog
      cases horder
      exact ⟨hfirst, retry_justified hplain chosen, .inl roster⟩
  | stuck uncontrolled =>
      obtain ⟨hfirst, horder⟩ := uncontrolled.split hlog
      cases horder
      exact ⟨hfirst, .plain rfl nofun, .inr rfl⟩

/-- **Every action that is handed over is borne out** by the calls there are and by what the gateway
has announced for this connection, if the settings name no other way to accept a call that takes a
special ability. -/
theorem control_justified (settings : HandsfreeSettings) (issuer : Nat) (peer : Address)
    (hplain : ∀ action ∈ settings.acceptRetry.alternatives, action.ability? = none)
    (impulses : List (Impulse Request)) (impulse : Impulse Request) :
    ControlsJustly ((Link.start peer (start settings issuer)).live impulses).1
      (keepAbilities (Link.start peer (start settings issuer)) impulses) impulse := by
  have hlink := Link.between_live (Link.between_start peer (start settings issuer)) impulses
  have hsettings := (settings_live peer settings issuer impulses).1
  intro earlier action accepted later hlog
  refine (handing_respond hlink impulse).justified ?_ ?_ ?_ hlog
  · exact (roster_coherent settings issuer peer impulses).conference
  · exact capabilities_live settings issuer peer impulses
  · rw [hsettings]
    exact hplain

/-- A gateway that can take a member of a conference aside is connected, and lists two active
calls. -/
def conference : List (Impulse Request) :=
  [.hand (obliging 0) .connect,
    .hand (obliging 1) (.event (.linkChanged .connected
      ⟨Capabilities.enhancedCallStatus, Capabilities.privateConsultation⟩)),
    .hand (obliging 2) (.event (.commandResult .ok none)),
    .hand (obliging 3) (.request .queryCalls),
    .hand (obliging 4) (.event (.callListed ⟨1, .incoming, .active, true, "5551"⟩)),
    .hand (obliging 5) (.event (.callListed ⟨2, .incoming, .active, true, "5552"⟩)),
    .hand (obliging 6) (.event (.commandResult .ok none))]

/-- When a member of that conference is taken aside, there is another one, and the gateway has said
that it can do this. -/
theorem control_justified_conference :
    let aside := Impulse.hand (obliging 7) (.request (.privateMode 1))
    (∀ action ∈ Settings.standard.handsfree.acceptRetry.alternatives, action.ability? = none) ∧
      ((fresh.live conference).1.respond aside).2 =
        [.call (.command (.call (.privateConsultation 1))) true] ∧
      Justified (keepAbilities fresh conference) (fresh.live conference).1.session.roster aside
        (.privateConsultation 1) := by
  intro aside
  have hplain : ∀ action ∈ Settings.standard.handsfree.acceptRetry.alternatives,
      action.ability? = none := by decide
  have hlog : ((fresh.live conference).1.respond aside).2 =
      [.call (.command (.call (.privateConsultation 1))) true] := by
    have hlive : fresh.live conference = (Link.liveFor 1 fresh conference).get rfl :=
      Link.live_eq_get 1 rfl
    rw [hlive, Link.respond_eq_get 1 rfl]
    rfl
  obtain ⟨-, hjustified, -⟩ := control_justified Settings.standard.handsfree 0 _ hplain conference
    aside [] (.privateConsultation 1) true [] hlog
  exact ⟨hplain, hlog, hjustified⟩

end Handsfree

end AudioLink
