/-
**Volumes that are taken for echoes.**

When the gateway has set a volume, the platform follows and asks for the same volume in turn.  This
is not sent back: of a volume that the gateway has set, the next that the user asks for on that
channel is taken for the echo, and swallowed.  At which level is not looked at.  So when the platform
does not ask for the volume that the gateway has set, it is a change that the user has made that is
lost; and when it asks twice, the second time is sent after all.

What the gateway has set last, and whether anyone has asked for a volume since, is known to whoever
hears what a link is handed; it tells exactly which volumes are sent.

Main definitions:

* `AudioLink.Handsfree.Request.setVolume` — the request to set the volume of a channel;
* `AudioLink.Handsfree.Volume`, `AudioLink.Handsfree.lastVolume` — the record of a channel;
* `AudioLink.Handsfree.Volume.isOpen` — the volume that the gateway has set is not answered yet.

Main results:

* `AudioLink.Handsfree.respond_setVolume` — what a request to set a volume brings about;
* `AudioLink.Handsfree.echoes_live` — **the next volume counts as an echo exactly if the one that the
  gateway has set is not answered yet**;
* `AudioLink.Handsfree.volume_handed_iff` — **which volumes are sent**;
* `AudioLink.Handsfree.volume_swallowed` — a volume that is lost, although it is no echo.
-/

import AudioLink.Proofs.Handsfree.Indicators
import AudioLink.Proofs.Handsfree.Knobs

set_option relaxedAutoImplicit false
set_option autoImplicit false

namespace AudioLink.Handsfree

/-- The request to set the volume of a channel. -/
def Request.setVolume : VolumeChannel → Nat → Request
  | .speaker, level => setSpeakerVolume level
  | .microphone, level => setMicrophoneVolume level

/-- The volume that a request asks for. -/
def Request.volume? : Request → Option (VolumeChannel × Nat)
  | setSpeakerVolume level => some (.speaker, level)
  | setMicrophoneVolume level => some (.microphone, level)
  | _ => none

theorem Request.volume?_eq_some {request : Request} {channel : VolumeChannel} {level : Nat} :
    request.volume? = some (channel, level) ↔ request = .setVolume channel level := by
  constructor
  · intro h
    unfold volume? at h
    split at h
    · cases h
      rfl
    · cases h
      rfl
    · cases h
  · rintro rfl
    cases channel with
    | speaker => rfl
    | microphone => rfl

theorem onRequest_setVolume (channel : VolumeChannel) (level : Nat) :
    onRequest (.setVolume channel level) = setVolume channel level := by
  cases channel with
  | speaker => rfl
  | microphone => rfl

/-! ### The record of a channel -/

/-- What someone knows of a channel who hears what a link is handed: the level that the gateway has
set last, and whether a volume was asked for since. -/
structure Volume where
  heard : Option Nat
  answered : Bool
  deriving DecidableEq, Repr

namespace Volume

/-- The gateway has not set the volume yet. -/
def unknown : Volume := ⟨none, false⟩

/-- The gateway has set the volume, and none was asked for since. -/
def isOpen (known : Volume) : Bool := known.heard.isSome && !known.answered

/-- The level that an impulse tells of, if the link takes notice of it. -/
def told? (channel : VolumeChannel) (link : Link Handsfree Request AlarmKind) :
    Impulse Request → Option Nat
  | .hand _ (.event (.volumeChanged other level)) =>
      if other = channel ∧ link.state ≠ .disconnected then some level else none
  | _ => none

/-- Whether an impulse asks for a volume that is not too high, of a link that hears it. -/
def isAsked (channel : VolumeChannel) (link : Link Handsfree Request AlarmKind) :
    Impulse Request → Bool
  | .hand _ (.request request) =>
      link.state == .connected &&
        request.volume?.any fun asked => asked.1 == channel && decide (asked.2 ≤ maxVolume)
  | _ => false

/-- The record after an impulse.  Once the link has dropped out, nothing counts any more. -/
def note (channel : VolumeChannel) (link : Link Handsfree Request AlarmKind)
    (impulse : Impulse Request) (log : List Effect) (known : Volume) : Volume :=
  match told? channel link impulse with
  | some level => ⟨some level, false⟩
  | none =>
      if isAsked channel link impulse then { known with answered := true }
      else if Link.DropsOut log then unknown
      else known

theorem told?_eq_some {channel : VolumeChannel} {link : Link Handsfree Request AlarmKind}
    {impulse : Impulse Request} {level : Nat} :
    told? channel link impulse = some level ↔ link.state ≠ .disconnected ∧
      ∃ scene, impulse = .hand scene (.event (.volumeChanged channel level)) := by
  constructor
  · intro h
    unfold told? at h
    split at h
    · split at h
      · next hheard =>
          obtain ⟨rfl, hup⟩ := hheard
          cases h
          exact ⟨hup, _, rfl⟩
      · cases h
    · cases h
  · rintro ⟨hup, scene, rfl⟩
    exact if_pos ⟨rfl, hup⟩

theorem isAsked_iff {channel : VolumeChannel} {link : Link Handsfree Request AlarmKind}
    {impulse : Impulse Request} :
    isAsked channel link impulse = true ↔ link.state = .connected ∧ ∃ scene, ∃ level ≤ maxVolume,
      impulse = .hand scene (.request (.setVolume channel level)) := by
  constructor
  · intro h
    unfold isAsked at h
    split at h
    · next scene request =>
        rw [Bool.and_eq_true, beq_iff_eq, Option.any_eq_true] at h
        obtain ⟨hconnected, ⟨other, level⟩, hasked, hvalid⟩ := h
        rw [Bool.and_eq_true, beq_iff_eq, decide_eq_true_iff] at hvalid
        obtain ⟨rfl, hvalid⟩ := hvalid
        exact ⟨hconnected, scene, level, hvalid, by rw [Request.volume?_eq_some.1 hasked]⟩
    · cases h
  · rintro ⟨hconnected, scene, level, hvalid, rfl⟩
    rw [isAsked, hconnected, Request.volume?_eq_some.2 rfl]
    simp [hvalid]

end Volume

/-- The record of a channel in the course of a life. -/
def lastVolume (channel : VolumeChannel) (link : Link Handsfree Request AlarmKind)
    (impulses : List (Impulse Request)) : Volume :=
  link.keep (Volume.note channel) impulses .unknown

/-! ### Work at the desk -/

/-- Whether the next volume of a channel counts as an echo. -/
def Knobs.echo (channel : VolumeChannel) (k : Knobs) : Bool :=
  match channel with
  | .speaker => k.speaker
  | .microphone => k.microphone

theorem echo_knobs (s : Handsfree) (channel : VolumeChannel) :
    (knobs s).echo channel = echoes s channel := by
  cases channel with
  | speaker => rfl
  | microphone => rfl

/-- No answer is about an echo. -/
theorem Knobs.Answered.echo {ok : Bool} {k next : Knobs} (h : k.Answered ok next)
    {channel : VolumeChannel} : next.echo channel = k.echo channel := by
  cases h with
  | other => rfl
  | voice => rfl

theorem echoes_setEcho (s : Handsfree) (echo : Bool) (channel other : VolumeChannel) :
    echoes (setEcho s echo other) channel = if other = channel then echo else echoes s channel := by
  cases channel <;> cases other <;> rfl

section Work

variable {channel : VolumeChannel} {view : View} {desk : Desk Handsfree AlarmKind}

/-- A volume that is not too high is sent, unless it is taken for an echo. -/
theorem yields_setVolume {level : Nat} {post : Verdict → Desk Handsfree AlarmKind → Prop}
    (hvalid : level ≤ maxVolume) :
    (setVolume channel level).Yields view desk post ↔
      if echoes desk.session channel then
        post (.ok ()) { desk with session := setEcho desk.session false channel }
      else (issue (.setVolume channel level)).Yields view desk post := by
  rw [setVolume, if_neg (Nat.not_lt.2 hvalid), Work.yields_bind, Work.yields_session,
    Work.yields_ite]
  rfl

/-- No order is about an echo. -/
theorem minds_issue_echo (order : Order) : Minds (Knobs.echo channel) (issue order) := by
  intro value view desk h
  rw [yields_issue]
  show (knobs { desk.session with ledger := _ }).echo channel = value
  rw [knobs_issue]
  exact h

theorem minds_setEcho {other : VolumeChannel} (hother : other ≠ channel) (echo : Bool) :
    Minds (Knobs.echo channel) (Work.update (setEcho · echo other)) := by
  intro value view desk h
  show (knobs (setEcho desk.session echo other)).echo channel = value
  rw [echo_knobs, echoes_setEcho, if_neg hother, ← echo_knobs]
  exact h

/-- **No request is about the echo of a channel but to set its volume**, to one that is not too
high. -/
theorem minds_onRequest_echo {request : Request}
    (hother : ∀ level, request = .setVolume channel level → maxVolume < level) :
    Minds (Knobs.echo channel) (onRequest request) := by
  intro value
  have hvoice (active : Bool) :
      Work.Upholds (fun desk => (knobs desk.session).echo channel = value)
        (setVoiceRecognition active) :=
    .bind .session fun s => .ite (fun _ => .pure _) fun _ =>
      .ite (fun _ => .pure _) fun _ => minds_issue_echo _ value
  have hvolume (other : VolumeChannel) (level : Nat) (hsaid : request = .setVolume other level) :
      Work.Upholds (fun desk => (knobs desk.session).echo channel = value)
        (setVolume other level) := by
    refine .ite (fun _ => .pure _) fun hvalid => .bind .session fun s => ?_
    have hne : other ≠ channel := by
      rintro rfl
      exact hvalid (hother level hsaid)
    refine .ite (fun _ => ?_) fun _ => minds_issue_echo _ value
    exact .bind (minds_setEcho hne false value) fun _ => .pure _
  by_cases hturns : request.turns = true
  · cases request with
    | startVoiceRecognition => exact hvoice true
    | stopVoiceRecognition => exact hvoice false
    | setSpeakerVolume level => exact hvolume .speaker level rfl
    | setMicrophoneVolume level => exact hvolume .microphone level rfl
    | _ => cases hturns
  · exact minds_onRequest (Bool.eq_false_iff.2 hturns) value

/-- **No event is about the echo of a channel but that its volume was changed.** -/
theorem minds_onEvent_echo {event : Event}
    (hother : ∀ level, event ≠ .volumeChanged channel level) :
    Minds (Knobs.echo channel) (onEvent event) := by
  intro value
  by_cases hturns : event.turns = true
  · cases event with
    | volumeChanged other level =>
        have hne : other ≠ channel := by
          rintro rfl
          exact hother level rfl
        refine .bind (minds_setEcho hne true value) fun _ => ?_
        exact .bind (minds_announce _ value) fun _ => .pure _
    | voiceRecognition active =>
        refine .bind (fun _ _ h => h) fun _ => .bind (minds_announce _ value) fun _ => .pure _
    | commandResult outcome code =>
        intro view desk h
        refine Work.yields_mono yields_onCommandResult_knobs ?_
        intro _ after hanswered
        exact hanswered.echo.trans h
    | _ => cases hturns
  · exact minds_onEvent (Bool.eq_false_iff.2 hturns) value

end Work

/-! ### Impulses -/

section Impulses

variable {channel : VolumeChannel} {scene : Scene} {link : Link Handsfree Request AlarmKind}

/-- **What a request to set a volume brings about.**  It is sent unless it is taken for an echo, and
the next one is not. -/
theorem respond_setVolume {level : Nat} (hqueue : link.queue = [])
    (hconnected : link.state = .connected) (hvalid : level ≤ maxVolume) :
    let next := link.respond (.hand scene (.request (.setVolume channel level)))
    echoes next.1.session channel = false ∧
      ((∃ accepted, .call (.command (.setVolume channel level)) accepted ∈ next.2) ↔
        echoes link.session channel = false) := by
  refine Link.respond_request
    (P := fun after => echoes after.link.session channel = false ∧
      ((∃ accepted, .call (.command (.setVolume channel level)) accepted ∈ after.log) ↔
        echoes link.session channel = false)) hqueue hconnected ?_
  show (onRequest (.setVolume channel level)).Yields _ _ _
  rw [onRequest_setVolume, yields_setVolume hvalid]
  split
  · next hecho =>
      refine ⟨rfl, (echoes_setEcho ..).trans (if_pos rfl), ?_⟩
      have hecho : echoes link.session channel = true := hecho
      rw [hecho]
      exact ⟨nofun, nofun⟩
  · next hecho =>
      have hecho : echoes link.session channel = false := Bool.eq_false_iff.2 hecho
      rw [yields_issue]
      exact ⟨rfl, hecho, fun _ => hecho, fun _ =>
        ⟨scene.transport [] (.command (.setVolume channel level)), List.mem_cons_self ..⟩⟩

/-- When the gateway has set a volume, the next one counts as an echo. -/
theorem respond_volumeChanged {level : Nat} (hqueue : link.queue = [])
    (hup : link.state ≠ .disconnected) :
    echoes (link.respond (.hand scene (.event (.volumeChanged channel level)))).1.session channel =
      true :=
  Link.respond_event_told (P := fun after => echoes after.link.session channel = true) hqueue hup
    rfl ⟨rfl, (echoes_setEcho ..).trans (if_pos rfl)⟩

/-- The next volume counts as an echo exactly if the gateway has set one that is not answered. -/
theorem echoes_respond (hlink : Link.Between link) (impulse : Impulse Request) {known : Volume}
    (h : echoes link.session channel = known.isOpen) :
    echoes (link.respond impulse).1.session channel =
      (Volume.note channel link impulse (link.respond impulse).2 known).isOpen := by
  rw [Volume.note]
  cases htold : Volume.told? channel link impulse with
  | some level =>
      obtain ⟨hup, scene, rfl⟩ := Volume.told?_eq_some.1 htold
      exact respond_volumeChanged hlink.queue hup
  | none =>
      -- what the gateway has set is answered by a valid request of the user
      by_cases hasked : Volume.isAsked channel link impulse = true
      · obtain ⟨hconnected, scene, level, hvalid, rfl⟩ := Volume.isAsked_iff.1 hasked
        rw [if_pos hasked, (respond_setVolume hlink.queue hconnected hvalid).1, Volume.isOpen]
        exact (Bool.and_false _).symm
      · -- nothing else turns the knob, except that a link that drops out frees it
        have hread : (knobs (link.respond impulse).1.session).echo channel =
            if Link.DropsOut (link.respond impulse).2 then Knobs.free.echo channel
            else (knobs link.session).echo channel := by
          refine read_respond hlink (fun scene request heq hconnected => ?_)
            fun scene event heq hup => ?_
          · refine minds_onRequest_echo fun level hrequest =>
              Nat.lt_of_not_le fun hvalid => hasked ?_
            exact Volume.isAsked_iff.2 ⟨hconnected, scene, level, hvalid, hrequest ▸ heq⟩
          · refine minds_onEvent_echo fun level hevent => ?_
            cases htold.symm.trans (Volume.told?_eq_some.2 ⟨hup, scene, hevent ▸ heq⟩)
        rw [if_neg hasked, ← echo_knobs, hread, echo_knobs, h]
        split
        · cases channel with
          | speaker => rfl
          | microphone => rfl
        · rfl

end Impulses

/-! ### The life of a link -/

section Life

variable (settings : HandsfreeSettings) (issuer : Nat) (peer : Address)
  (past : List (Impulse Request)) (channel : VolumeChannel)

/-- **The next volume counts as an echo exactly if the one that the gateway has set is not answered
yet**, throughout the life of a link. -/
theorem echoes_live :
    let link : Link Handsfree Request AlarmKind := Link.start peer (start settings issuer)
    echoes (link.live past).1.session channel = (lastVolume channel link past).isOpen :=
  (Link.keep_induction (P := fun link (known : Volume) => Link.Between link ∧
      echoes link.session channel = known.isOpen)
    (fun _ impulse _ h => ⟨Link.between_respond h.1 impulse, echoes_respond h.1 impulse h.2⟩)
    ⟨Link.between_start peer _, by cases channel with | speaker => rfl | microphone => rfl⟩ past).2

/-- **Which volumes are sent.**  A volume that is not too high, asked for while the link is
connected, is handed to the transport exactly if the gateway has not set the volume of that channel
since the link was last disconnected, or if one was asked for after it had. -/
theorem volume_handed_iff (scene : Scene) (level : Nat) (hvalid : level ≤ maxVolume)
    (hconnected : ((Link.start peer (start settings issuer)).live past).1.state = .connected) :
    let link : Link Handsfree Request AlarmKind := Link.start peer (start settings issuer)
    let known := lastVolume channel link past
    let said := ((link.live past).1.respond
      (.hand scene (.request (.setVolume channel level)))).2
    (∃ accepted, .call (.command (.setVolume channel level)) accepted ∈ said) ↔
      known.heard = none ∨ known.answered = true := by
  intro link known said
  have hsent : (∃ accepted, .call (.command (.setVolume channel level)) accepted ∈ said) ↔
      echoes (link.live past).1.session channel = false :=
    (respond_setVolume (Link.queue_live rfl past) hconnected hvalid).2
  rw [hsent, echoes_live, Volume.isOpen, Bool.and_eq_false_iff, Option.isSome_eq_false_iff,
    Option.isNone_iff_eq_none, Bool.not_eq_false']

end Life

/-- A gateway is connected, and sets the volume of its speaker. -/
def turnedUp : List (Impulse Request) :=
  [.hand (obliging 0) .connect,
    .hand (obliging 1) (.event (.linkChanged .connected ⟨Capabilities.enhancedCallStatus, 0⟩)),
    .hand (obliging 2) (.event (.commandResult .ok none)),
    .hand (obliging 3) (.event (.volumeChanged .speaker 7))]

theorem live_turnedUp : fresh.live turnedUp = (Link.liveFor 1 fresh turnedUp).get rfl :=
  Link.live_eq_get 1 rfl

/-- The microphone is another channel, so that its volume is sent. -/
theorem volume_handed_iff_microphone :
    let known := lastVolume .microphone fresh turnedUp
    let said := ((fresh.live turnedUp).1.respond
      (.hand (obliging 4) (.request (.setMicrophoneVolume 9)))).2
    9 ≤ maxVolume ∧ (fresh.live turnedUp).1.state = .connected ∧ known.heard = none ∧
      ((∃ accepted, .call (.command (.setVolume .microphone 9)) accepted ∈ said) ↔
        known.heard = none ∨ known.answered = true) := by
  have hconnected : (fresh.live turnedUp).1.state = .connected := by
    rw [live_turnedUp]
    rfl
  have hknown : lastVolume .microphone fresh turnedUp = .unknown := Link.keep_eq_get 1 rfl
  exact ⟨by decide, hconnected, congrArg Volume.heard hknown,
    volume_handed_iff _ _ _ turnedUp .microphone (obliging 4) 9 (by decide) hconnected⟩

/-- The gateway has set the volume of its speaker to 7, and the user asks for 9.  Nothing is handed
to the transport, although the transport would take it. -/
theorem volume_swallowed :
    let known := lastVolume .speaker fresh turnedUp
    let said := ((fresh.live turnedUp).1.respond
      (.hand (obliging 4) (.request (.setSpeakerVolume 9)))).2
    Settings.standard.problem? = none ∧ (fresh.live turnedUp).1.state = .connected ∧
      9 ≤ maxVolume ∧ known.heard = some 7 ∧ said = [] := by
  intro known said
  have hknown : known = ⟨some 7, false⟩ := Link.keep_eq_get 1 rfl
  rw [hknown]
  refine ⟨rfl, ?_, by decide, rfl, ?_⟩
  · rw [live_turnedUp]
    rfl
  · show ((fresh.live turnedUp).1.respond _).2 = []
    rw [live_turnedUp, Link.respond_eq_get 1 rfl]
    rfl

end AudioLink.Handsfree
