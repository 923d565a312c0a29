/-
**The way of the sound of calls.**

While the audio of a gateway is on, the sound of its calls may come here, and the platform is told
at which rate.  Whether it may is up to the user, who can change his mind in the middle of a call;
the audio may be dropped, or come to carry speech of another kind, at any time.  However this goes,
what the platform is told is well bracketed: the way of the sound is closed only when it is open, it
is open only while the audio is on, and it is closed before the link is announced to be connected no
longer.  It is opened only while the user allows it, and at the rate of the speech.

To allow it again does not open it: it is opened when the audio is announced, and at no other time.
So whoever allows it again while the audio is on may be left without the sound, or with the sound at
the wrong rate.  A record is kept of when the sound was announced while it was allowed; it tells
exactly when this happens.

Main definitions:

* `AudioLink.lastRoute`, `AudioLink.inEffect` — what the platform was told last, and the rate at
  which the sound comes here after that;
* `AudioLink.Handsfree.RouteFits` — what is announced next goes on from there;
* `AudioLink.Handsfree.WellBracketed` — the sound of a life goes its way as described;
* `AudioLink.Handsfree.Hearing`, `AudioLink.Handsfree.keepHearing` — the record of a life;
* `AudioLink.Handsfree.Attuned`, `AudioLink.Handsfree.Routes` — a profile, and a link in the middle of
  a step, agrees with the record.

Main results:

* `AudioLink.Handsfree.yields_onAudio_attuned`, `AudioLink.Handsfree.sounding_attuned` — the audio and
  the state of the link may change;
* `AudioLink.Handsfree.routes_live` — the record is right throughout the life of a link;
* `AudioLink.Handsfree.routing_bracketed` — **the way of the sound is well bracketed**;
* `AudioLink.Handsfree.routed_at_rate_iff` — **the sound comes here at the right rate exactly if its
  kind was announced while it was allowed**, and so as long as it is always allowed
  (`AudioLink.Handsfree.routed_while_allowed`);
* `AudioLink.Handsfree.allowed_unrouted` — a user who allows it again and hears nothing.
-/

import AudioLink.Proofs.Handsfree.Indicators
import AudioLink.Proofs.Handsfree.Untouched
import AudioLink.Proofs.Link.Sounding

set_option relaxedAutoImplicit false
set_option autoImplicit false

namespace AudioLink

/-! ### What the platform is told -/

/-- The rate at which the sound of calls comes here, once the platform was told this. -/
def RouteUpdate.rate? : RouteUpdate → Option Nat
  | callsEnabled rate => some rate
  | callsDisabled | streamReconfigured _ => none

/-- What leaves the link is heard by the platform. -/
def routeHeard (last : Option RouteUpdate) : Effect → Option RouteUpdate
  | .notice (.report (.audioRoute update)) => some update
  | _ => last

/-- What the platform was told last. -/
def lastRoute (log : List Effect) : Option RouteUpdate := log.foldl routeHeard none

/-- The rate at which the sound of calls comes here, if it does. -/
def inEffect (log : List Effect) : Option Nat := (lastRoute log).bind RouteUpdate.rate?

theorem lastRoute_snoc (log : List Effect) (effect : Effect) :
    lastRoute (log ++ [effect]) = routeHeard (lastRoute log) effect := by
  rw [lastRoute, List.foldl_append]
  rfl

theorem inEffect_route (log : List Effect) (update : RouteUpdate) :
    inEffect (log ++ [.notice (.report (.audioRoute update))]) = update.rate? := by
  rw [inEffect, lastRoute_snoc]
  rfl

theorem inEffect_eq_some {log : List Effect} {rate : Nat} :
    inEffect log = some rate ↔ lastRoute log = some (.callsEnabled rate) := by
  rw [inEffect]
  cases lastRoute log with
  | none => exact ⟨nofun, nofun⟩
  | some update =>
      cases update with
      | callsEnabled other => simp [RouteUpdate.rate?]
      | callsDisabled => exact ⟨nofun, nofun⟩
      | streamReconfigured config => exact ⟨nofun, nofun⟩

namespace Handsfree

/-- What is announced next goes on from what was announced before.  The way of the sound is opened
when the audio is on, at the rate of its speech; it is closed only when it is open; and it is not
open when the link is announced to be connected no longer. -/
def RouteFits (earlier : List Effect) : Effect → Prop
  | .notice (.report (.audioRoute (.callsEnabled rate))) =>
      (Told.after earlier).audio = .on ∧
        ∃ wideband, (Told.after earlier).wideband = some wideband ∧ rate = rateOf wideband
  | .notice (.report (.audioRoute .callsDisabled)) => ∃ rate, inEffect earlier = some rate
  | .notice (.report (.audioRoute (.streamReconfigured _))) => False
  | .notice (.linkChanged .connected _) => inEffect earlier = none
  | _ => True

/-! ### The record of the sound -/

/-- What someone knows of the sound of calls who hears what a link is handed, and sees what leaves
it. -/
structure Hearing where
  /-- Whether the user allows the sound to come here. -/
  allowed : Bool
  /-- The kind of speech that was last announced while the sound was allowed, since the audio is
  on. -/
  heard : Option Bool
  deriving DecidableEq, Repr

namespace Hearing

/-- What leaves the link is noted. -/
def note (hearing : Hearing) : Effect → Hearing
  | .notice (.audioChanged _ current wideband) =>
      if current = .on then
        if hearing.allowed then { hearing with heard := wideband } else hearing
      else { hearing with heard := none }
  | _ => hearing

/-- What the user says is noted; a link that is not connected does not hear him. -/
def told (hearing : Hearing) (link : Link Handsfree Request AlarmKind) :
    Impulse Request → Hearing
  | .hand _ (.request (.allowAudioRoute allowed)) =>
      if link.state = .connected then { hearing with allowed := allowed } else hearing
  | _ => hearing

theorem foldl_note_snoc (hearing : Hearing) (log : List Effect) (effect : Effect) :
    (log ++ [effect]).foldl note hearing = (log.foldl note hearing).note effect := by
  rw [List.foldl_append]
  rfl

/-- Whatever leaves the link, the user has not said anything new. -/
theorem allowed_foldl (hearing : Hearing) (log : List Effect) :
    (log.foldl note hearing).allowed = hearing.allowed := by
  induction log generalizing hearing with
  | nil => rfl
  | cons effect log ih =>
      refine (ih _).trans ?_
      unfold note
      split
      · split
        · split
          · rfl
          · rfl
        · rfl
      · rfl

end Hearing

/-- The record after an impulse. -/
def noteHearing (link : Link Handsfree Request AlarmKind) (impulse : Impulse Request)
    (log : List Effect) (hearing : Hearing) : Hearing :=
  log.foldl Hearing.note (hearing.told link impulse)

/-- The record of a life; at first the settings say whether the sound is allowed. -/
def keepHearing (link : Link Handsfree Request AlarmKind) (impulses : List (Impulse Request)) :
    Hearing :=
  link.keep noteHearing impulses ⟨link.session.settings.audioRouteAllowed, none⟩

/-! ### Logs -/

/-- Whether an effect is about the way of the sound, or about what it depends on. -/
def isSound : Effect → Bool
  | .notice (.linkChanged _ _) | .notice (.audioChanged _ _ _)
  | .notice (.report (.audioRoute _)) => true
  | _ => false

/-- What has left the link is well bracketed and agrees with the record, and the profile knows
whether the sound comes here.  While that was not allowed, it was not announced either. -/
structure Bracketed (hearing : Hearing) (past : List Effect) (routed : Bool) (log : List Effect) :
    Prop where
  fits : Throughout RouteFits (past ++ log)
  rate : inEffect (past ++ log) = (log.foldl Hearing.note hearing).heard.map rateOf
  routed : routed = (inEffect (past ++ log)).isSome
  silent : hearing.allowed = false → ∀ rate, opening rate ∉ log

section Logs

variable {hearing : Hearing} {past log : List Effect} {routed : Bool} {effect : Effect}

/-- What leaves the link next fits, leaves things as they are, and does not open the way of the
sound. -/
theorem Bracketed.snoc (h : Bracketed hearing past routed log)
    (hfits : RouteFits (past ++ log) effect) (hroute : ∀ last, routeHeard last effect = last)
    (hnote : ((log.foldl Hearing.note hearing).note effect).heard =
      (log.foldl Hearing.note hearing).heard)
    (hopening : ∀ rate, opening rate ≠ effect) :
    Bracketed hearing past routed (log ++ [effect]) := by
  have heffect : inEffect (past ++ (log ++ [effect])) = inEffect (past ++ log) := by
    rw [← List.append_assoc, inEffect, lastRoute_snoc, hroute]
    rfl
  refine ⟨?_, ?_, heffect ▸ h.routed, fun hdenied rate hmem => ?_⟩
  · rw [← List.append_assoc]
    exact throughout_snoc.2 ⟨h.fits, hfits⟩
  · rw [heffect, Hearing.foldl_note_snoc, hnote]
    exact h.rate
  · rcases List.mem_append.1 hmem with hmem | hmem
    · exact h.silent hdenied rate hmem
    · exact hopening rate (List.mem_singleton.1 hmem)

/-- What is not about the sound leaves its way as it is. -/
theorem Bracketed.aside (h : Bracketed hearing past routed log) (hother : isSound effect = false) :
    Bracketed hearing past routed (log ++ [effect]) := by
  refine h.snoc ?_ (fun last => ?_) ?_ fun rate heq => ?_
  · unfold RouteFits
    split
    · cases hother
    · cases hother
    · cases hother
    · cases hother
    · trivial
  · unfold routeHeard
    split
    · cases hother
    · rfl
  · unfold Hearing.note
    split
    · cases hother
    · rfl
  · subst heq
    cases hother

/-- No order is about the sound, nor is a report that is not about its way. -/
theorem Bracketed.tolerant : Tolerant (Bracketed hearing past routed) where
  report log report hother h := by
    refine h.aside ?_
    cases report with
    | audioRoute update => exact absurd rfl (hother update)
    | _ => rfl
  order _ _ _ _ h := h.aside rfl

theorem Bracketed.permits : Permits (Bracketed hearing past routed) :=
  fun _ _ _ _ h => h.aside rfl

/-- When the sound does not come here, the link may be announced to be in another state. -/
theorem Bracketed.linkChanged (h : Bracketed hearing past false log) (previous next : LinkState) :
    Bracketed hearing past false (log ++ [.notice (.linkChanged previous next)]) := by
  refine h.snoc ?_ (fun _ => rfl) rfl nofun
  cases previous with
  | connected =>
      show inEffect (past ++ log) = none
      exact Option.isSome_eq_false_iff.1 h.routed.symm |> Option.isNone_iff_eq_none.1
  | _ => trivial

/-- While the sound is not allowed, it is of no matter that the audio is on. -/
theorem Bracketed.ignored (h : Bracketed hearing past routed log)
    (hdenied : hearing.allowed = false) (previous : AudioState) (wideband : Option Bool) :
    Bracketed hearing past routed (log ++ [.notice (.audioChanged previous .on wideband)]) := by
  refine h.snoc trivial (fun _ => rfl) ?_ nofun
  rw [Hearing.note, if_pos rfl, Hearing.allowed_foldl, hdenied]
  rfl

/-- When the sound does not come here, it is of no matter that the audio is not on. -/
theorem Bracketed.shut (h : Bracketed hearing past false log) (previous : AudioState)
    {current : AudioState} (hoff : current ≠ .on) (wideband : Option Bool) :
    Bracketed hearing past false (log ++ [.notice (.audioChanged previous current wideband)]) := by
  refine h.snoc trivial (fun _ => rfl) ?_ nofun
  have hnone : (log.foldl Hearing.note hearing).heard = none := by
    have hrate := h.routed
    rw [h.rate, Option.isSome_map] at hrate
    exact Option.isNone_iff_eq_none.1 (Option.isSome_eq_false_iff.1 hrate.symm)
  rw [Hearing.note, if_neg hoff, hnone]

/-- When the audio is on and its sound is allowed, the way is opened at the rate of its speech. -/
theorem Bracketed.open (h : Bracketed hearing past routed log) (hallowed : hearing.allowed = true)
    (previous : AudioState) (wideband : Bool) :
    Bracketed hearing past true (log ++ [.notice (.audioChanged previous .on (some wideband))] ++
      [opening (rateOf wideband)]) := by
  have heffect : inEffect (past ++ (log ++ [.notice (.audioChanged previous .on (some wideband))] ++
      [opening (rateOf wideband)])) = some (rateOf wideband) := by
    rw [← List.append_assoc]
    exact inEffect_route _ (.callsEnabled (rateOf wideband))
  refine ⟨?_, ?_, by rw [heffect]; rfl, fun hdenied => ?_⟩
  · rw [← List.append_assoc, ← List.append_assoc]
    refine throughout_snoc.2 ⟨throughout_snoc.2 ⟨h.fits, trivial⟩, ?_⟩
    refine ⟨?_, wideband, ?_, rfl⟩
    · rw [Told.after_snoc]
      rfl
    · rw [Told.after_snoc]
      rfl
  · rw [heffect, Hearing.foldl_note_snoc, Hearing.foldl_note_snoc]
    simp only [Hearing.note, opening, if_true, Hearing.allowed_foldl, hallowed, Option.map_some]
  · rw [hallowed] at hdenied
    cases hdenied

/-- When the audio is no longer on, the way of its sound is closed. -/
theorem Bracketed.close (h : Bracketed hearing past true log) (previous : AudioState)
    {current : AudioState} (hoff : current ≠ .on) (wideband : Option Bool) :
    Bracketed hearing past false (log ++ [.notice (.audioChanged previous current wideband)] ++
      [.notice (.report (.audioRoute .callsDisabled))]) := by
  have heffect : inEffect (past ++ (log ++ [.notice (.audioChanged previous current wideband)] ++
      [.notice (.report (.audioRoute .callsDisabled))])) = none := by
    rw [← List.append_assoc]
    exact inEffect_route _ .callsDisabled
  obtain ⟨rate, hrate⟩ := Option.isSome_iff_exists.1 h.routed.symm
  refine ⟨?_, ?_, by rw [heffect]; rfl, fun hdenied rate hmem => ?_⟩
  · rw [← List.append_assoc, ← List.append_assoc]
    refine throughout_snoc.2 ⟨throughout_snoc.2 ⟨h.fits, trivial⟩, rate, ?_⟩
    rw [inEffect, lastRoute_snoc]
    exact hrate
  · rw [heffect, Hearing.foldl_note_snoc, Hearing.foldl_note_snoc]
    simp only [Hearing.note]
    rw [if_neg hoff]
    rfl
  · simp only [List.mem_append, List.mem_singleton] at hmem
    rcases hmem with (hmem | hmem) | hmem
    · exact h.silent hdenied rate hmem
    · cases hmem
    · cases hmem

end Logs

/-! ### Moves -/

/-- A link in the middle of a step agrees with the record.  The sound comes here only while the
audio is on, and the audio is not off only while the link is connected. -/
structure Routes (hearing : Hearing) (past : List Effect)
    (progress : Progress Handsfree Request AlarmKind) : Prop where
  bracketed : Bracketed hearing past progress.link.session.routed progress.log
  allowed : progress.link.session.routeAllowed = hearing.allowed
  on : progress.link.session.routed = true → progress.link.audio = .on
  up : progress.link.audio ≠ .off → progress.link.state = .connected

/-- The profile agrees with the record, and the sound comes here only while the audio is on. -/
structure Attuned (hearing : Hearing) (past : List Effect) (s : Handsfree) (audio : AudioState)
    (log : List Effect) : Prop where
  bracketed : Bracketed hearing past s.routed log
  allowed : s.routeAllowed = hearing.allowed
  on : s.routed = true → audio = .on

section Moves

variable {hearing : Hearing} {past : List Effect}
  {progress : Progress Handsfree Request AlarmKind}

/-- A link in the middle of a step agrees with the record when its profile does. -/
theorem routes_iff_sounds :
    Routes hearing past progress ↔ Link.Sounds (Attuned hearing past) progress :=
  ⟨fun h => ⟨⟨h.bracketed, h.allowed, h.on⟩, h.up⟩,
    fun h => ⟨h.sound.bracketed, h.sound.allowed, h.sound.on, h.up⟩⟩

/-- What is not about the sound leaves the link. -/
theorem Routes.aside (h : Routes hearing past progress) {effect : Effect}
    (hother : isSound effect = false) :
    Routes hearing past { progress with log := progress.log ++ [effect] } :=
  ⟨h.bracketed.aside hother, h.allowed, h.on, h.up⟩

/-- Without audio the sound does not come here. -/
theorem Attuned.silent {s : Handsfree} {audio : AudioState} {log : List Effect}
    (h : Attuned hearing past s audio log) (hsilent : audio ≠ .on) : s.routed = false :=
  Bool.eq_false_iff.2 fun hrouted => hsilent (h.on hrouted)

/-- Work that leaves the profile alone keeps to the record. -/
theorem upholds_attuned {α : Type} {work : Work Handsfree AlarmKind α}
    (hwork : ∀ start : Desk Handsfree AlarmKind,
      Work.Upholds (Untouched (Bracketed hearing past start.session.routed) start) work)
    (audio : AudioState) :
    Work.Upholds (fun desk => Attuned hearing past desk.session audio desk.log) work := by
  intro view desk h
  refine Work.yields_mono (hwork desk view desk (.refl h.bracketed)) ?_
  intro _ after hafter
  refine ⟨?_, hafter.routeAllowed.trans h.allowed, fun hrouted => ?_⟩
  · rw [hafter.routed]
    exact hafter.log
  · exact h.on (hafter.routed.symm.trans hrouted)

/-- **The profile keeps to the record when the audio changes.** -/
theorem yields_onAudio_attuned {previous current : AudioState} {wideband : Bool} {view : View}
    {desk : Desk Handsfree AlarmKind} (h : Attuned hearing past desk.session previous desk.log) :
    (onAudio previous current wideband).Yields view
      { desk with log := desk.log ++ [Link.audioNotice previous current wideband] }
      fun _ after => Attuned hearing past after.session current after.log := by
  refine yields_onAudio.2 ?_
  split
  · next hon =>
      subst hon
      split
      · next hallowed =>
          have hheard : hearing.allowed = true := h.allowed.symm.trans hallowed
          exact ⟨h.bracketed.open hheard _ _, h.allowed, fun _ => rfl⟩
      · next hdenied =>
          have hunheard : hearing.allowed = false :=
            h.allowed.symm.trans (Bool.eq_false_iff.2 hdenied)
          exact ⟨h.bracketed.ignored hunheard _ _, h.allowed, fun _ => rfl⟩
  · next hoff =>
      split
      · next hrouted =>
          have hbracketed := h.bracketed
          rw [show desk.session.routed = true from hrouted.2] at hbracketed
          exact ⟨hbracketed.close _ hoff _, h.allowed, fun hno => absurd hno Bool.false_ne_true⟩
      · next hunrouted =>
          have hsilent : desk.session.routed = false :=
            Bool.eq_false_iff.2 fun hrouted => hunrouted ⟨h.on hrouted, hrouted⟩
          have hbracketed := h.bracketed
          rw [hsilent] at hbracketed
          refine ⟨?_, h.allowed, fun hrouted => ?_⟩
          · show Bracketed hearing past desk.session.routed _
            rw [hsilent]
            exact hbracketed.shut _ hoff _
          · exact absurd (hsilent.symm.trans hrouted) Bool.false_ne_true

/-- **The profile keeps to the record when the audio and the state of the link change.**  By the time
when the state changes, the way of the sound is closed. -/
theorem sounding_attuned :
    Link.Sounding (ρ := Request) (τ := AlarmKind) (Attuned hearing past) where
  asked _ _ _ _ _ _ h := ⟨h.bracketed.aside rfl, h.allowed, h.on⟩
  failed _ _ _ _ h := ⟨h.bracketed.aside rfl, h.allowed, h.on⟩
  linkChanged s log previous current h := by
    have hsilent : s.routed = false := h.silent nofun
    have hbracketed := h.bracketed
    rw [hsilent] at hbracketed
    refine ⟨?_, h.allowed, h.on⟩
    rw [hsilent]
    exact hbracketed.linkChanged _ _
  onLinkUp _ _ _ _ h := ⟨h.bracketed, h.allowed, h.on⟩
  onAudioChanged _ _ _ _ _ h := yields_onAudio_attuned h
  onConnected := upholds_attuned (fun _ => upholds_onConnected_untouched Bracketed.tolerant) .off
  onDisconnected := by
    intro view desk h
    have hsilent : desk.session.routed = false := h.silent nofun
    have hbracketed := h.bracketed
    rw [hsilent] at hbracketed
    refine yields_onDisconnected.2 ?_
    exact ⟨Bracketed.tolerant.announced _ hbracketed, h.allowed,
      fun hno => absurd hno Bool.false_ne_true⟩

/-! ### Errands -/

/-- **Whatever the errand, the link keeps to the record**, unless the user says whether the sound is
allowed. -/
theorem upholds_handle_attuned {errand : Errand Request AlarmKind}
    (hother : ∀ allowed, errand ≠ .message (.request (.allowAudioRoute allowed))) :
    Step.Upholds (Link.Sounds (Attuned hearing past))
      (Link.handle errand : Step Handsfree Request AlarmKind Unit) := by
  refine sounding_attuned.upholds_handle errand (fun request htold => ?_) (fun event _ => ?_)
    fun kind => ?_
  · refine upholds_attuned fun _ => upholds_onRequest_untouched Bracketed.tolerant ?_ ?_
    · exact fun _ => Bracketed.permits
    · rintro allowed rfl
      exact hother allowed htold
  · exact upholds_attuned fun _ =>
      upholds_onEvent_untouched Bracketed.tolerant fun _ _ _ => Bracketed.permits
  · cases kind with
    | poll => exact upholds_attuned fun _ => upholds_queryCalls_untouched Bracketed.tolerant

end Moves

/-! ### Impulses -/

section Impulses

variable {hearing : Hearing} {past : List Effect} {scene : Scene}
  {link : Link Handsfree Request AlarmKind} {allowed : Bool}

/-- What has left the link belongs to the past, and is in the record. -/
theorem Routes.rebase {log : List Effect} (h : Routes hearing past ⟨link, log⟩) :
    Routes (log.foldl Hearing.note hearing) (past ++ log) ⟨link, []⟩ where
  bracketed := by
    refine ⟨?_, ?_, ?_, fun _ _ => nofun⟩
    · rw [List.append_nil]
      exact h.bracketed.fits
    · rw [List.append_nil]
      exact h.bracketed.rate
    · rw [List.append_nil]
      exact h.bracketed.routed
  allowed := by
    rw [Hearing.allowed_foldl]
    exact h.allowed
  on := h.on
  up := h.up

/-- The user has his say, and all that is left to do is that the audio be dropped. -/
structure Heeded (hearing : Hearing) (past : List Effect)
    (progress : Progress Handsfree Request AlarmKind) : Prop
    extends Routes hearing past progress where
  unopened : ∀ rate, opening rate ∉ progress.log
  drops : ∀ errand ∈ progress.link.queue, errand = .message .disconnectAudio

/-- A connected link does as it is told about the sound; any other tells that it needs to be
connected. -/
theorem yields_handle_allow (hqueue : link.queue = []) (h : Routes hearing past ⟨link, []⟩) :
    (Link.handle (.message (.request (.allowAudioRoute allowed))) :
      Step Handsfree Request AlarmKind Unit).Yields scene ⟨link, []⟩ fun _ after =>
        Heeded (hearing.told link (.hand scene (.request (.allowAudioRoute allowed)))) past
          after := by
  rw [Link.yields_handle_iff]
  by_cases hconnected : link.state = .connected
  · rw [Link.yields_onErrand_request hconnected, Step.yields_consult, Hearing.told,
      if_pos hconnected]
    have htold : Routes { hearing with allowed := allowed } past
        ⟨{ link with session := { link.session with routeAllowed := allowed } }, []⟩ :=
      ⟨⟨h.bracketed.fits, h.bracketed.rate, h.bracketed.routed, fun _ _ => nofun⟩, rfl, h.on,
        h.up⟩
    refine yields_onRequest_allow.2 ⟨⟨htold.bracketed, rfl, htold.on, htold.up⟩, fun _ => nofun, ?_⟩
    intro errand herrand
    rcases List.mem_append.1 herrand with herrand | herrand
    · rw [show link.queue = [] from hqueue] at herrand
      cases herrand
    · exact (List.mem_replicate.1 herrand).2
  · rw [Link.yields_onErrand_request_unheard hconnected, Hearing.told, if_neg hconnected]
    refine ⟨h.aside rfl, fun rate hmem => ?_, fun errand herrand => ?_⟩
    · cases List.mem_singleton.1 hmem
    · rw [show link.queue = [] from hqueue] at herrand
      cases herrand

/-- Once the user has had his say, the way of the sound is not opened. -/
theorem respond_allow (hqueue : link.queue = []) (h : Routes hearing past ⟨link, []⟩) :
    Heeded (hearing.told link (.hand scene (.request (.allowAudioRoute allowed)))) past
      ⟨(link.respond (.hand scene (.request (.allowAudioRoute allowed)))).1,
        (link.respond (.hand scene (.request (.allowAudioRoute allowed)))).2⟩ := by
  refine Link.respond_hand hqueue (yields_handle_allow hqueue h) ?_
  intro progress errand rest hheeded hcons
  obtain rfl : errand = .message .disconnectAudio := hheeded.drops errand (by simp [hcons])
  -- what is left in the queue drops the audio: that keeps to the record
  have hsteps : (Link.handle (.message .disconnectAudio) :
      Step Handsfree Request AlarmKind Unit).Yields scene
        ⟨{ progress.link with queue := rest }, progress.log⟩ fun _ after =>
          Routes (hearing.told link (.hand scene (.request (.allowAudioRoute allowed)))) past
            after := by
    have hupheld : Step.Upholds
        (Link.Sounds (Attuned
          (hearing.told link (.hand scene (.request (.allowAudioRoute allowed)))) past))
        (Link.handle (.message .disconnectAudio) : Step Handsfree Request AlarmKind Unit) :=
      upholds_handle_attuned nofun
    refine Step.yields_mono (hupheld scene _ ?_) fun _ _ => routes_iff_sounds.2
    exact ⟨⟨hheeded.bracketed, hheeded.allowed, hheeded.on⟩, hheeded.up⟩
  have hsnoc {log : List Effect} {effect : Effect} (hother : ∀ rate, opening rate ≠ effect)
      (hlog : ∀ rate, opening rate ∉ log) (rate : Nat) : opening rate ∉ log ++ [effect] := by
    intro hmem
    rcases List.mem_append.1 hmem with hmem | hmem
    · exact hlog rate hmem
    · exact hother rate (List.mem_singleton.1 hmem)
  -- and it opens no way for the sound
  have hquiet : Step.Leads
      (fun after : Progress Handsfree Request AlarmKind =>
        (∀ rate, opening rate ∉ after.log) ∧ after.link.queue = rest)
      (fun after => (∀ rate, opening rate ∉ after.log) ∧ after.link.queue = rest)
      (Link.onDisconnectAudio : Step Handsfree Request AlarmKind Verdict) :=
    Link.leads_onDisconnectAudio (fun _ _ h => ⟨hsnoc nofun h.1, h.2⟩) fun _ h => h
  have hdropped : (Link.handle (.message .disconnectAudio) :
      Step Handsfree Request AlarmKind Unit).Yields scene
        ⟨{ progress.link with queue := rest }, progress.log⟩ fun _ after =>
          (∀ rate, opening rate ∉ after.log) ∧ after.link.queue = rest :=
    Link.yields_handle (hquiet scene _ ⟨hheeded.unopened, rfl⟩)
      fun _ _ h => ⟨hsnoc nofun h.1, h.2⟩
  refine Step.yields_mono (Step.yields_and.2 ⟨hsteps, hdropped⟩) ?_
  rintro _ after ⟨hroutes, hunopened, hrest⟩
  refine ⟨hroutes, hunopened, fun other hother => hheeded.drops other ?_⟩
  rw [hcons, ← hrest]
  exact List.mem_cons_of_mem _ hother

/-- When the user says nothing about the sound, the record is as it was. -/
theorem Hearing.told_other {impulse : Impulse Request}
    (hother : ∀ scene allowed, impulse ≠ .hand scene (.request (.allowAudioRoute allowed))) :
    hearing.told link impulse = hearing := by
  unfold told
  split
  · next scene allowed => exact absurd rfl (hother scene allowed)
  · rfl

/-- **Whatever the impulse, the link keeps to the record.** -/
theorem respond_routes (hlink : Link.Between link) (impulse : Impulse Request)
    (h : Routes hearing past ⟨link, []⟩) :
    Routes (hearing.told link impulse) past
      ⟨(link.respond impulse).1, (link.respond impulse).2⟩ := by
  by_cases hsaid : ∃ scene allowed, impulse = .hand scene (.request (.allowAudioRoute allowed))
  · obtain ⟨scene, allowed, rfl⟩ := hsaid
    exact (respond_allow hlink.queue h).toRoutes
  · have hother : ∀ scene allowed, impulse ≠ .hand scene (.request (.allowAudioRoute allowed)) :=
      fun scene allowed heq => hsaid ⟨scene, allowed, heq⟩
    rw [Hearing.told_other hother]
    refine routes_iff_sounds.2 (Link.respond_sounds hlink impulse (routes_iff_sounds.1 h) ?_ ?_ ?_)
    · rintro scene message rfl
      refine upholds_handle_attuned (fun allowed heq => ?_) scene _ (routes_iff_sounds.1 h)
      exact hother scene allowed (congrArg (Impulse.hand scene) (Errand.message.inj heq))
    · intro errand own
      refine upholds_handle_attuned ?_
      cases own <;> nofun
    · exact fun _ => upholds_handle_attuned nofun

end Impulses

/-! ### The life of a link -/

section Life

variable (settings : HandsfreeSettings) (issuer : Nat) (peer : Address)
  (impulses : List (Impulse Request))

/-- **The record is right throughout the life of a link.** -/
theorem routes_live :
    let link : Link Handsfree Request AlarmKind := Link.start peer (start settings issuer)
    Routes (keepHearing link impulses) (link.live impulses).2 ⟨(link.live impulses).1, []⟩ := by
  intro link
  induction impulses using List.reverseRecOn with
  | nil =>
      exact ⟨⟨throughout_nil _, rfl, rfl, fun _ _ => nofun⟩, rfl, nofun, fun hon => absurd rfl hon⟩
  | append_singleton before impulse ih =>
      rw [Link.live_snoc, keepHearing, Link.keep_snoc]
      have hlink := Link.between_live (Link.between_start peer (start settings issuer)) before
      exact (respond_routes hlink impulse ih).rebase

/-- The way of the sound in the life of a link. -/
structure WellBracketed (link : Link Handsfree Request AlarmKind)
    (impulses : List (Impulse Request)) : Prop where
  /-- Everything that was announced went on from what was announced before. -/
  fits : Throughout RouteFits (link.live impulses).2
  /-- What was announced is how the link stands. -/
  told : Told.after (link.live impulses).2 = (link.live impulses).1.standing
  /-- The sound comes here only while the audio is on. -/
  on : ∀ rate, inEffect (link.live impulses).2 = some rate → (link.live impulses).1.audio = .on
  /-- The way of the sound is opened only while the sound is allowed. -/
  allowed : ∀ impulse rate, opening rate ∈ ((link.live impulses).1.respond impulse).2 →
    (link.live impulses).1.session.routeAllowed = true ∧
      ((link.live impulses).1.respond impulse).1.session.routeAllowed = true

/-- **The way of the sound is well bracketed.**  It is closed only when it is open.  It is open only
while the audio is on, and closed before the link is announced to be connected no longer.  It is
opened only while the sound is allowed, and at the rate of the speech. -/
theorem routing_bracketed : WellBracketed (Link.start peer (start settings issuer)) impulses := by
  have hlive := routes_live settings issuer peer impulses
  have hlink := Link.between_live (Link.between_start peer (start settings issuer)) impulses
  refine ⟨?_, (Link.chronicle_live reserved peer _ impulses).after, fun rate hrate => ?_, ?_⟩
  · have hfits := hlive.bracketed.fits
    rwa [List.append_nil] at hfits
  · have hrouted := hlive.bracketed.routed
    rw [List.append_nil, hrate] at hrouted
    exact hlive.on hrouted
  · intro impulse rate hopening
    have hnext := respond_routes hlink impulse hlive
    have htold : (Hearing.told (keepHearing (Link.start peer (start settings issuer)) impulses)
        ((Link.start peer (start settings issuer)).live impulses).1 impulse).allowed = true :=
      Bool.eq_false_imp_eq_true.1 fun hdenied =>
        absurd hopening (hnext.bracketed.silent hdenied rate)
    refine ⟨?_, hnext.allowed.trans htold⟩
    by_cases hsaid : ∃ scene allowed, impulse = .hand scene (.request (.allowAudioRoute allowed))
    · obtain ⟨scene, allowed, rfl⟩ := hsaid
      exact absurd hopening ((respond_allow hlink.queue hlive).unopened rate)
    · rw [Hearing.told_other fun scene allowed heq => hsaid ⟨scene, allowed, heq⟩] at htold
      exact hlive.allowed.trans htold

/-! ### The right rate -/

/-- **When the sound comes here at the right rate.**  The record tells whether the sound is allowed;
and the platform was told last that the sound comes here at the rate of the speech of the audio,
exactly when the speech that was last announced while the sound was allowed, since the audio is on,
is of the kind that it is now. -/
theorem routed_at_rate_iff :
    let link : Link Handsfree Request AlarmKind := Link.start peer (start settings issuer)
    let life := link.live impulses
    (keepHearing link impulses).allowed = life.1.session.routeAllowed ∧
      (lastRoute life.2 = some (.callsEnabled (rateOf life.1.wideband)) ↔
        (keepHearing link impulses).heard = some life.1.wideband) := by
  intro link life
  have hlive := routes_live settings issuer peer impulses
  have hrate := hlive.bracketed.rate
  rw [List.append_nil, List.foldl_nil] at hrate
  refine ⟨hlive.allowed.symm, ?_⟩
  rw [← inEffect_eq_some, hrate, Option.map_eq_some_iff]
  constructor
  · rintro ⟨wideband, hheard, hsame⟩
    rw [hheard, rateOf_inj.1 hsame]
  · intro hheard
    exact ⟨_, hheard, rfl⟩

/-- As long as the sound is allowed, the record says of the audio what a listener is told of it. -/
theorem heard_foldl {hearing : Hearing} {past log : List Effect}
    (hallowed : hearing.allowed = true) (hheard : hearing.heard = (Told.after past).wideband)
    (hfits : Throughout (fun earlier effect => (Told.after earlier).Fits effect) (past ++ log)) :
    (log.foldl Hearing.note hearing).heard = (Told.after (past ++ log)).wideband := by
  induction log using List.reverseRecOn with
  | nil =>
      rw [List.append_nil]
      exact hheard
  | append_singleton log effect ih =>
      rw [← List.append_assoc] at hfits ⊢
      obtain ⟨hbefore, hlast⟩ := throughout_snoc.1 hfits
      rw [Hearing.foldl_note_snoc, Told.after_snoc]
      cases effect with
      | call request accepted => exact ih hbefore
      | notice notice =>
          cases notice with
          | audioChanged previous current wideband =>
              show (if current = .on then if (log.foldl Hearing.note hearing).allowed then _ else _
                else _ : Hearing).heard = wideband
              rw [Hearing.allowed_foldl, hallowed]
              -- no rate is told of audio that is off
              by_cases hon : current = .on
              · rw [if_pos hon]
                rfl
              · rw [if_neg hon]
                cases wideband with
                | none => rfl
                | some wideband => exact absurd (hlast.2.2.1.1 rfl) hon
          | linkChanged previous current => exact ih hbefore
          | requestFailed fault => exact ih hbefore
          | report report => exact ih hbefore

/-- As long as the sound was always allowed, the record says of the audio what a listener is told
of it. -/
theorem heard_of_allowed
    (hallowed : ∀ before, before <+: impulses →
      ((Link.start peer (start settings issuer)).live before).1.session.routeAllowed = true) :
    (keepHearing (Link.start peer (start settings issuer)) impulses).heard =
      (Told.after ((Link.start peer (start settings issuer)).live impulses).2).wideband := by
  induction impulses using List.reverseRecOn with
  | nil => rfl
  | append_singleton before impulse ih =>
      have hbefore := ih fun earlier hearlier =>
        hallowed earlier (hearlier.trans (List.prefix_append before [impulse]))
      have hfits := (Link.chronicle_live reserved peer (start settings issuer)
        (before ++ [impulse])).fits
      have hnow := hallowed _ (List.prefix_refl _)
      have hlink := Link.between_live (Link.between_start peer (start settings issuer)) before
      have hnext := respond_routes hlink impulse (routes_live settings issuer peer before)
      rw [Link.live_snoc] at hfits hnow ⊢
      rw [keepHearing, Link.keep_snoc]
      refine heard_foldl (hnext.allowed.symm.trans hnow) (Eq.trans ?_ hbefore) hfits
      unfold Hearing.told
      split
      · split
        · rfl
        · rfl
      · rfl

/-- While the sound was always allowed and the audio is on, the sound comes here at the right
rate. -/
theorem routed_while_allowed
    (hallowed : ∀ before, before <+: impulses →
      ((Link.start peer (start settings issuer)).live before).1.session.routeAllowed = true)
    (hon : ((Link.start peer (start settings issuer)).live impulses).1.audio = .on) :
    lastRoute ((Link.start peer (start settings issuer)).live impulses).2 =
      some (.callsEnabled
        (rateOf ((Link.start peer (start settings issuer)).live impulses).1.wideband)) := by
  have hlive := routes_live settings issuer peer impulses
  have hrate := hlive.bracketed.rate
  have htold := (Link.chronicle_live reserved peer (start settings issuer) impulses).after
  rw [List.append_nil, List.foldl_nil, heard_of_allowed settings issuer peer impulses hallowed,
    htold, Link.standing, if_pos hon] at hrate
  exact inEffect_eq_some.1 hrate

end Life

/-- A gateway is connected.  The user does not want to hear its calls, the gateway turns the audio
on all the same, and before it has dropped the audio again the user changes his mind. -/
def changeOfMind : List (Impulse Request) :=
  [.hand (obliging 0) .connect,
    .hand (obliging 1) (.event (.linkChanged .connected ⟨Capabilities.enhancedCallStatus, 0⟩)),
    .hand (obliging 2) (.event (.commandResult .ok none)),
    .hand (obliging 3) (.request (.allowAudioRoute false)),
    .hand (obliging 4) (.event (.audioChanged .connected)),
    .hand (obliging 5) (.request (.allowAudioRoute true))]

/-- The sound is allowed and the audio of a connected link is on, but the platform was never told
that the sound comes here. -/
theorem allowed_unrouted :
    let life := fresh.live changeOfMind
    Settings.standard.problem? = none ∧ life.1.state = .connected ∧ life.1.audio = .on ∧
      life.1.session.routeAllowed = true ∧ lastRoute life.2 = none := by
  intro life
  have hlife : life = (Link.liveFor 3 fresh changeOfMind).get rfl := Link.live_eq_get 3 rfl
  rw [hlife]
  exact ⟨rfl, rfl, rfl, rfl, rfl⟩

end Handsfree

end AudioLink
