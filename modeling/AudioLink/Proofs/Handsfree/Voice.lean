/-
**Who has the last word on voice recognition.**

To switch voice recognition means to order it from the gateway; the profile takes it to be switched
when the order is answered.  As long as nothing but success is answered, the last of the orders that
are pending decides what it will be in the end.  But whether a request becomes an order is decided by
what voice recognition is at present, and not by what it will be: a request for what is the case
already becomes no order at all.  So when the user changes his mind before the answer has come, he is
not heard, and the earlier request has the last word.

Main definitions:

* `AudioLink.Handsfree.Request.voice` — the request to switch voice recognition;
* `AudioLink.Handsfree.Knobs.heading` — what voice recognition will be when all is answered;
* `AudioLink.Handsfree.sparesVoice`, `AudioLink.Handsfree.RunsDown` — nothing else becomes of voice
  recognition until everything is answered.

Main results:

* `AudioLink.Handsfree.heading_live` — what voice recognition will be stays as it is;
* `AudioLink.Handsfree.respond_voice` — what a request makes of it;
* `AudioLink.Handsfree.voice_followed_iff` — **when the last request has the last word**;
* `AudioLink.Handsfree.voice_overridden` — a request that does not have it.
-/

import AudioLink.Proofs.Handsfree.Indicators
import AudioLink.Proofs.Handsfree.Knobs
import AudioLink.Proofs.Link.Replay

set_option relaxedAutoImplicit false
set_option autoImplicit false

namespace AudioLink.Handsfree

/-- The request to switch voice recognition on or off. -/
def Request.voice : Bool → Request
  | true => startVoiceRecognition
  | false => stopVoiceRecognition

/-- The order to switch voice recognition on or off. -/
def Order.voice : Bool → Order
  | true => startVoiceRecognition
  | false => stopVoiceRecognition

theorem onRequest_voice (active : Bool) : onRequest (.voice active) = setVoiceRecognition active := by
  cases active with
  | true => rfl
  | false => rfl

theorem Order.voice?_voice (active : Bool) : (voice active).voice? = some active := by
  cases active with
  | true => rfl
  | false => rfl

/-! ### What voice recognition will be -/

/-- What voice recognition will be when all orders that are pending have been answered with
success: as the last of them says, and otherwise as it is. -/
def Knobs.heading (k : Knobs) : Bool := k.orders.getLast?.getD k.voice

/-- Success is what was expected. -/
theorem Knobs.Answered.heading {k next : Knobs} (h : k.Answered true next) :
    next.heading = k.heading := by
  cases h with
  | other => rfl
  | voice oldest =>
      rw [Knobs.heading, Knobs.heading, oldest, List.getLast?_cons]
      rfl

theorem heading_setEcho (s : Handsfree) (echo : Bool) (channel : VolumeChannel) :
    (knobs (setEcho s echo channel)).heading = (knobs s).heading := by
  cases channel with
  | speaker => rfl
  | microphone => rfl

/-- Once it is ordered, voice recognition will be as it is ordered. -/
theorem heading_issue (s : Handsfree) (active : Bool) (now : Instant) :
    (knobs { s with ledger := (s.ledger.issue (.voice active) now true).2 }).heading = active := by
  rw [knobs_issue, if_pos rfl, Order.voice?_voice, Knobs.heading, Option.toList_some,
    List.getLast?_concat]
  rfl

/-- When nothing is pending, voice recognition is what it will be. -/
theorem heading_of_pending {s : Handsfree} (h : s.ledger.pending = []) :
    (knobs s).heading = s.voiceRecognition := by
  rw [Knobs.heading, knobs, Ledger.actions, h]
  rfl

/-! ### Work at the desk -/

theorem minds_setEcho_heading (echo : Bool) (channel : VolumeChannel) :
    Minds Knobs.heading (Work.update (setEcho · echo channel)) := by
  intro value view desk h
  show (knobs (setEcho desk.session echo channel)).heading = value
  rw [heading_setEcho]
  exact h

/-- **No request is about voice recognition but to switch it.** -/
theorem minds_onRequest_heading {request : Request}
    (hother : ∀ active, request ≠ .voice active) : Minds Knobs.heading (onRequest request) := by
  intro value
  have hvolume (channel : VolumeChannel) (level : Nat) :
      Work.Upholds (fun desk => (knobs desk.session).heading = value) (setVolume channel level) := by
    refine .ite (fun _ => .pure _) fun _ => .bind .session fun s => ?_
    refine .ite (fun _ => ?_) fun _ => minds_issue rfl value
    exact .bind (minds_setEcho_heading false channel value) fun _ => .pure _
  by_cases hturns : request.turns = true
  · cases request with
    | startVoiceRecognition => exact absurd rfl (hother true)
    | stopVoiceRecognition => exact absurd rfl (hother false)
    | setSpeakerVolume level => exact hvolume .speaker level
    | setMicrophoneVolume level => exact hvolume .microphone level
    | _ => cases hturns
  · exact minds_onRequest (Bool.eq_false_iff.2 hturns) value

/-- **No event is about voice recognition but that it was switched**, and that an order has failed. -/
theorem minds_onEvent_heading {event : Event} (hother : ∀ active, event ≠ .voiceRecognition active)
    (hok : ∀ outcome code, event = .commandResult outcome code → outcome.isOk = true) :
    Minds Knobs.heading (onEvent event) := by
  intro value
  by_cases hturns : event.turns = true
  · cases event with
    | volumeChanged channel level =>
        refine .bind (minds_setEcho_heading true channel value) fun _ => ?_
        exact .bind (minds_announce _ value) fun _ => .pure _
    | voiceRecognition active => exact absurd rfl (hother active)
    | commandResult outcome code =>
        intro view desk h
        refine Work.yields_mono yields_onCommandResult_knobs ?_
        intro _ after hanswered
        rw [hok outcome code rfl] at hanswered
        exact hanswered.heading.trans h
    | _ => cases hturns
  · exact minds_onEvent (Bool.eq_false_iff.2 hturns) value

/-- A request to switch voice recognition becomes an order, unless it is switched like that
already. -/
theorem yields_setVoiceRecognition {active : Bool} {view : View} {desk : Desk Handsfree AlarmKind}
    {post : Verdict → Desk Handsfree AlarmKind → Prop}
    (hable : desk.session.capabilities.hasFeature Capabilities.voiceRecognition = true) :
    (setVoiceRecognition active).Yields view desk post ↔
      if desk.session.voiceRecognition = active then post (.ok ()) desk
      else (issue (.voice active)).Yields view desk post := by
  rw [setVoiceRecognition, Work.yields_bind, Work.yields_session, hable, if_neg nofun,
    Work.yields_ite]
  cases active with
  | true => rfl
  | false => rfl

/-! ### Impulses -/

section Impulses

variable {scene : Scene} {link : Link Handsfree Request AlarmKind}

/-- **What a request makes of voice recognition**, when the transport takes the order. -/
theorem respond_voice {active : Bool} (hqueue : link.queue = []) (hconnected : link.state = .connected)
    (hable : link.session.capabilities.hasFeature Capabilities.voiceRecognition = true)
    (htaken : ∀ log command, scene.transport log (.command command) = true) :
    (knobs (link.respond (.hand scene (.request (.voice active)))).1.session).heading =
      if link.session.voiceRecognition = active then (knobs link.session).heading else active := by
  refine Link.respond_request
    (P := fun after => (knobs after.link.session).heading =
      if link.session.voiceRecognition = active then (knobs link.session).heading else active)
    hqueue hconnected ?_
  show (onRequest (.voice active)).Yields _ _ _
  rw [onRequest_voice, yields_setVoiceRecognition hable]
  split
  · next hsame => exact ⟨rfl, (if_pos hsame).symm⟩
  · next hother =>
      have hother : ¬link.session.voiceRecognition = active := hother
      rw [yields_issue]
      refine ⟨rfl, ?_⟩
      show (knobs { link.session with ledger := (link.session.ledger.issue (.voice active) scene.now
        (scene.transport [] (.command _))).2 }).heading = _
      rw [if_neg hother, htaken, heading_issue]

/-- An impulse is not about voice recognition: nobody switches it, and no order fails. -/
def sparesVoice : Impulse Request → Bool
  | .hand _ (.event (.commandResult outcome _)) => outcome.isOk
  | .hand _ (.event (.voiceRecognition _)) => false
  | .hand _ (.request .startVoiceRecognition) => false
  | .hand _ (.request .stopVoiceRecognition) => false
  | _ => true

/-- An impulse that is not about voice recognition leaves it what it will be, if the link is still
connected. -/
theorem heading_respond (hlink : Link.Between link) {impulse : Impulse Request}
    (hspares : sparesVoice impulse = true)
    (hconnected : (link.respond impulse).1.state = .connected) :
    (knobs (link.respond impulse).1.session).heading = (knobs link.session).heading := by
  have hread : (knobs (link.respond impulse).1.session).heading =
      if Link.DropsOut (link.respond impulse).2 then Knobs.free.heading
      else (knobs link.session).heading := by
    refine read_respond hlink (fun scene request told _ => ?_) fun scene event told _ => ?_
    · subst told
      refine minds_onRequest_heading ?_
      rintro active rfl
      cases active with
      | true | false => cases hspares
    · subst told
      refine minds_onEvent_heading ?_ ?_
      · rintro active rfl
        cases hspares
      · rintro outcome code rfl
        exact hspares
  rw [hread, if_neg (Link.not_dropsOut_respond discreet hlink impulse hconnected)]

end Impulses

/-! ### The life of a link -/

/-- From here on nothing is about voice recognition, and the link stays connected, until everything
is answered. -/
structure RunsDown (link : Link Handsfree Request AlarmKind) (impulses : List (Impulse Request)) :
    Prop where
  spares : ∀ impulse ∈ impulses, sparesVoice impulse = true
  connected : ∀ before, before <+: impulses → (link.live before).1.state = .connected
  answered : (link.live impulses).1.session.ledger.pending = []

section Life

/-- What voice recognition will be stays as it is. -/
theorem heading_live {link : Link Handsfree Request AlarmKind} (hlink : Link.Between link)
    {impulses : List (Impulse Request)}
    (hspares : ∀ impulse ∈ impulses, sparesVoice impulse = true)
    (hconnected : ∀ before, before <+: impulses → (link.live before).1.state = .connected) :
    (knobs (link.live impulses).1.session).heading = (knobs link.session).heading := by
  induction impulses generalizing link with
  | nil => rfl
  | cons impulse rest ih =>
      have hnext := hconnected [impulse] (List.cons_prefix_cons.2 ⟨rfl, List.nil_prefix⟩)
      rw [Link.live]
      refine (ih (Link.between_respond hlink impulse)
        (fun other hother => hspares other (List.mem_cons_of_mem _ hother)) ?_).trans ?_
      · exact fun before hbefore => hconnected (impulse :: before)
          (List.cons_prefix_cons.2 ⟨rfl, hbefore⟩)
      · exact heading_respond hlink (hspares impulse (List.mem_cons_self ..)) hnext

/-- **When the last request has the last word on voice recognition.**  The link is connected to a
gateway that has it, and the transport takes the order.  Then nobody else switches it, and when
everything is answered, with success, it is what was asked for; unless at the time of the request it
was already so, while the last order to switch it that was still pending was the opposite one. -/
theorem voice_followed_iff (settings : HandsfreeSettings) (issuer : Nat) (peer : Address)
    (past later : List (Impulse Request)) (scene : Scene) (active : Bool)
    (hconnected : ((Link.start peer (start settings issuer)).live past).1.state = .connected)
    (hable : ((Link.start peer (start settings issuer)).live past).1.session.capabilities.hasFeature
      Capabilities.voiceRecognition = true)
    (htaken : ∀ log command, scene.transport log (.command command) = true)
    (hlater : RunsDown (((Link.start peer (start settings issuer)).live past).1.respond
      (.hand scene (.request (.voice active)))).1 later) :
    let link := ((Link.start peer (start settings issuer)).live past).1
    let asked := (link.respond (.hand scene (.request (.voice active)))).1
    (asked.live later).1.session.voiceRecognition = active ↔
      ¬(link.session.voiceRecognition = active ∧
        (knobs link.session).orders.getLast? = some !active) := by
  intro link asked
  have hlink : Link.Between link := Link.between_live (Link.between_start peer _) past
  have hasked : Link.Between asked := Link.between_respond hlink _
  rw [← heading_of_pending hlater.answered, heading_live hasked hlater.spares hlater.connected,
    respond_voice hlink.queue hconnected hable htaken]
  split
  · next hsame =>
      have hvoice : (knobs link.session).voice = active := hsame
      rw [Knobs.heading, hvoice]
      cases (knobs link.session).orders.getLast? with
      | none => exact ⟨fun _ h => (nomatch h.2), fun _ => rfl⟩
      | some last =>
          rw [Option.getD_some, and_iff_right hsame, Option.some.injEq, Bool.eq_not]
          exact Decidable.not_not.symm
  · next hother => exact ⟨fun _ h => hother h.1, fun _ => rfl⟩

end Life

/-- A gateway with voice recognition is connected. -/
def attentive : List (Impulse Request) :=
  [.hand (obliging 0) .connect,
    .hand (obliging 1) (.event (.linkChanged .connected
      ⟨Capabilities.enhancedCallStatus ||| Capabilities.voiceRecognition, 0⟩)),
    .hand (obliging 2) (.event (.commandResult .ok none))]

/-- An answer is the last impulse. -/
theorem runsDown_answer {link : Link Handsfree Request AlarmKind} {impulse : Impulse Request}
    (hspares : sparesVoice impulse = true) (hconnected : link.state = .connected)
    (hnext : (link.live [impulse]).1.state = .connected)
    (hanswered : (link.live [impulse]).1.session.ledger.pending = []) :
    RunsDown link [impulse] := by
  refine ⟨fun other hother => ?_, fun before hbefore => ?_, hanswered⟩
  · rw [List.mem_singleton.1 hother]
    exact hspares
  · rcases List.prefix_cons_iff.1 hbefore with rfl | ⟨rest, rfl, hrest⟩
    · exact hconnected
    · rw [List.prefix_nil.1 hrest]
      exact hnext

/-- The user asks for voice recognition once, and the gateway agrees. -/
theorem voice_followed_iff_agreed :
    let link := (fresh.live attentive).1
    let asked := (link.respond (.hand (obliging 3) (.request (.voice true)))).1
    let later : List (Impulse Request) := [.hand (obliging 4) (.event (.commandResult .ok none))]
    link.state = .connected ∧
      link.session.capabilities.hasFeature Capabilities.voiceRecognition = true ∧
      RunsDown asked later ∧
      ((asked.live later).1.session.voiceRecognition = true ↔
        ¬(link.session.voiceRecognition = true ∧
          (knobs link.session).orders.getLast? = some !true)) := by
  intro link asked later
  have hlink : link = ((Link.liveFor 1 fresh attentive).get rfl).1 :=
    congrArg Prod.fst (Link.live_eq_get 1 rfl)
  have hconnected : link.state = .connected := by
    rw [hlink]
    rfl
  have hable : link.session.capabilities.hasFeature Capabilities.voiceRecognition = true := by
    rw [hlink]
    decide
  have hlater : RunsDown asked later := by
    have hasked : asked = ((Link.respondFor 1 ((Link.liveFor 1 fresh attentive).get rfl).1
        (.hand (obliging 3) (.request (.voice true)))).get rfl).link := by
      show (link.respond _).1 = _
      rw [hlink]
      exact congrArg Prod.fst (Link.respond_eq_get 1 rfl)
    rw [hasked]
    refine runsDown_answer rfl rfl ?_ ?_
    · rw [Link.live_eq_get 1 rfl]
      rfl
    · rw [Link.live_eq_get 1 rfl]
      rfl
  exact ⟨hconnected, hable, hlater,
    voice_followed_iff _ _ _ attentive later (obliging 3) true hconnected hable (fun _ _ => rfl)
      hlater⟩

/-- The user asks for voice recognition, and changes his mind before the gateway has answered.  In
the end nothing is pending, the last request was to switch voice recognition off, and it is on,
although the transport takes everything and the gateway agrees to everything. -/
theorem voice_overridden :
    let link := (fresh.live
      (attentive ++ [.hand (obliging 3) (.request .startVoiceRecognition)])).1
    let asked := (link.respond (.hand (obliging 4) (.request .stopVoiceRecognition))).1
    let later : List (Impulse Request) := [.hand (obliging 5) (.event (.commandResult .ok none))]
    Settings.standard.problem? = none ∧ link.state = .connected ∧
      link.session.capabilities.hasFeature Capabilities.voiceRecognition = true ∧
      RunsDown asked later ∧ (asked.live later).1.session.voiceRecognition = true := by
  intro link asked later
  have hlink : link = ((Link.liveFor 1 fresh
      (attentive ++ [.hand (obliging 3) (.request .startVoiceRecognition)])).get rfl).1 :=
    congrArg Prod.fst (Link.live_eq_get 1 rfl)
  have hasked : asked = link := by
    show (link.respond _).1 = link
    rw [hlink, Link.respond_eq_get 1 rfl]
    rfl
  rw [hasked, hlink]
  refine ⟨rfl, rfl, by decide, runsDown_answer rfl rfl ?_ ?_, ?_⟩
  · rw [Link.live_eq_get 1 rfl]
    rfl
  · rw [Link.live_eq_get 1 rfl]
    rfl
  · rw [Link.live_eq_get 1 rfl]
    rfl

end AudioLink.Handsfree
