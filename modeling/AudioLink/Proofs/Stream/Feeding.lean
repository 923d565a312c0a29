/-
**What is told of a stream.**

A streaming link tells the platform how its media path is fed, and tells everyone whether the stream
plays.  It tells neither more often than there is something new: each time the profile compares what
it hears with what it has noted last.  So what was told last has to be how things stand, through all
changes of the codec and of the audio, and through the end of the link, which is not told.

Main definitions:

* `AudioLink.Stream.reconfigurations` — the configurations for which the media path was set up anew;
* `AudioLink.Stream.lastPlaying` — what was told last of the stream;
* `AudioLink.Stream.sinceUnknown` — what has left the link since its codec was last unknown;
* `AudioLink.Stream.Fed` — the media path is fed as the codec in use wants it;
* `AudioLink.Stream.Current` — that, and what was told of the stream is so.

Main results:

* `AudioLink.Stream.fed_codecChanged` — a change of the codec leaves the media path fed as it wants;
* `AudioLink.Stream.sounding_current` — the audio and the state of the link may change;
* `AudioLink.Stream.current_respond` — **whatever the impulse, what was told is how things stand**;
* `AudioLink.Stream.observers_current` — **so it is throughout the life of a link, and nothing is
  told twice**.
-/

import AudioLink.Proofs.Link.Sounding
import AudioLink.Proofs.Stream.Acts
import Mathlib.Data.List.Chain

set_option relaxedAutoImplicit false
set_option autoImplicit false

namespace AudioLink

/-! ### Feeding -/

namespace CodecConfig

variable {a b c : CodecConfig}

theorem sameFeeding_iff :
    a.sameFeeding b = true ↔ a.rate = b.rate ∧ a.depth = b.depth ∧ a.channels = b.channels := by
  rw [sameFeeding, Bool.and_eq_true, Bool.and_eq_true, beq_iff_eq, beq_iff_eq, beq_iff_eq,
    and_assoc]

/-- Configurations that are fed alike are fed like the same others. -/
theorem sameFeeding_congr (h : a.sameFeeding b = true) (c : CodecConfig) :
    a.sameFeeding c = b.sameFeeding c := by
  obtain ⟨hrate, hdepth, hchannels⟩ := sameFeeding_iff.1 h
  rw [sameFeeding, sameFeeding, hrate, hdepth, hchannels]

end CodecConfig

namespace Stream

/-! ### What was told -/

/-- The configuration for which the media path is set up anew, if an effect says so. -/
def reconfigured? : Effect → Option CodecConfig
  | .notice (.report (.audioRoute (.streamReconfigured config))) => some config
  | _ => none

/-- The configurations for which the media path was set up anew, in order. -/
def reconfigurations (log : List Effect) : List CodecConfig := log.filterMap reconfigured?

/-- Whether the stream plays, as someone believes who hears what leaves the link. -/
def heard (playing : Bool) : Effect → Bool
  | .notice (.report (.playingChanged told)) => told
  | _ => playing

/-- What was told last of the stream; at first it does not play. -/
def lastPlaying (log : List Effect) : Bool := log.foldl heard false

theorem reconfigurations_append (log more : List Effect) :
    reconfigurations (log ++ more) = reconfigurations log ++ reconfigurations more :=
  List.filterMap_append

theorem lastPlaying_snoc (log : List Effect) (effect : Effect) :
    lastPlaying (log ++ [effect]) = heard (lastPlaying log) effect := by
  rw [lastPlaying, List.foldl_append]
  rfl

/-- While the codec is unknown, what has left the link since then does not count any more. -/
def sinceHere (link : Link Stream Request Empty) (since : List Effect) : List Effect :=
  if link.session.status.isNone then [] else since

/-- What has left the link since its codec was last unknown, after an impulse. -/
def noteSince (link : Link Stream Request Empty) (_ : Impulse Request) (log since : List Effect) :
    List Effect :=
  sinceHere link since ++ log

/-- What has left the link since its codec was last unknown. -/
def sinceUnknown (link : Link Stream Request Empty) (impulses : List (Impulse Request)) :
    List Effect :=
  link.keep noteSince impulses []

/-! ### The media path -/

/-- The media path was last set up for a configuration that is fed like the one in use, if that is
known, and was never set up anew for one that is fed alike. -/
structure Fed (status : Option CodecStatus) (configs : List CodecConfig) : Prop where
  last : ∀ known, status = some known →
    ∃ config, configs.getLast? = some config ∧ config.sameFeeding known.config = true
  news : configs.IsChain fun earlier later => earlier.sameFeeding later = false

section Fed

variable {status : Option CodecStatus} {configs : List CodecConfig}

/-- Nothing needs to be said of a codec that is unknown. -/
theorem Fed.forget (h : Fed status configs) : Fed none configs := ⟨nofun, h.news⟩

/-- The last configuration is fed like the one in use. -/
theorem fed_of_last {known : CodecStatus} {config : CodecConfig}
    (hlast : configs.getLast? = some config) (hsame : config.sameFeeding known.config = true)
    (hnews : configs.IsChain fun earlier later => earlier.sameFeeding later = false) :
    Fed (some known) configs := by
  refine ⟨fun other hother => ?_, hnews⟩
  obtain rfl := Option.some.inj hother
  exact ⟨config, hlast, hsame⟩

/-- **The media path is fed as the codec wants it after the codec has changed**: it is set up anew
exactly if the codec was unknown or the new configuration is fed differently. -/
theorem fed_codecChanged (h : Fed status configs) (hunknown : status = none → configs = [])
    (known : CodecStatus) :
    Fed (some known) (configs ++
      if CodecConfig.needsReroute (status.map (·.config)) known.config then [known.config]
      else []) := by
  cases status with
  | none =>
      rw [hunknown rfl]
      exact fed_of_last rfl (CodecConfig.sameFeeding_self _) (.singleton _)
  | some previous =>
      obtain ⟨config, hlast, hsame⟩ := h.last previous rfl
      have hagree := CodecConfig.sameFeeding_congr hsame known.config
      show Fed (some known) (configs ++
        if !previous.config.sameFeeding known.config then [known.config] else [])
      cases hfeeding : previous.config.sameFeeding known.config with
      | true =>
          rw [hfeeding] at hagree
          rw [Bool.not_true, if_neg Bool.false_ne_true, List.append_nil]
          exact fed_of_last hlast hagree h.news
      | false =>
          rw [hfeeding] at hagree
          rw [Bool.not_false, if_pos rfl]
          refine fed_of_last List.getLast?_concat (CodecConfig.sameFeeding_self _) ?_
          refine h.news.append (.singleton _) fun earlier hearlier later hlater => ?_
          obtain rfl := Option.some.inj (hlast.symm.trans hearlier)
          obtain rfl := Option.some.inj hlater
          exact hagree

end Fed

/-! ### Work at the desk -/

/-- What was told is how things stand: the media path is fed as the codec wants it, as far as
something was told since `base`, and the stream plays when the audio is on, and everyone was told
so. -/
structure Current (base past : List Effect) (s : Stream) (audio : AudioState)
    (log : List Effect) : Prop where
  fed : Fed s.status (reconfigurations (base ++ log))
  playing : s.playing = (audio == .on)
  told : lastPlaying (past ++ log) = s.playing

section Work

variable {base past log : List Effect} {s : Stream} {audio : AudioState} {effect : Effect}

/-- What leaves the link next is about neither the media path nor the stream. -/
theorem Current.aside (h : Current base past s audio log) (hroute : reconfigured? effect = none)
    (hheard : ∀ playing, heard playing effect = playing) :
    Current base past s audio (log ++ [effect]) where
  fed := by
    rw [← List.append_assoc, reconfigurations_append]
    show Fed s.status (reconfigurations (base ++ log) ++ List.filterMap reconfigured? [effect])
    rw [List.filterMap_cons_none hroute, List.filterMap_nil, List.append_nil]
    exact h.fed
  playing := h.playing
  told := by
    rw [← List.append_assoc, lastPlaying_snoc, hheard]
    exact h.told

/-- Everyone is told whether the stream plays. -/
theorem Current.tell (h : Current base past s audio log) {next : AudioState} {playing : Bool}
    (hplaying : playing = (next == .on)) :
    Current base past { s with playing := playing } next
      (log ++ [.notice (.report (.playingChanged playing))]) where
  fed := by
    rw [← List.append_assoc, reconfigurations_append]
    show Fed s.status (reconfigurations (base ++ log) ++ [])
    rw [List.append_nil]
    exact h.fed
  playing := hplaying
  told := by
    rw [← List.append_assoc, lastPlaying_snoc]
    rfl

/-- While the codec is unknown, what was told of it does not count any more. -/
theorem Current.renew {link : Link Stream Request Empty}
    (h : Current base past link.session audio []) :
    Current (sinceHere link base) past link.session audio [] where
  fed := by
    rw [sinceHere]
    split
    · next hunknown =>
        rw [Option.isNone_iff_eq_none.1 hunknown]
        exact ⟨nofun, .nil⟩
    · exact h.fed
  playing := h.playing
  told := h.told

/-- At the desk, what was told is how things stand. -/
def CurrentAt (base past : List Effect) (audio : AudioState) (desk : Desk Stream Empty) : Prop :=
  Current base past desk.session audio desk.log

theorem upholds_issue_current (order : Order) :
    Work.Upholds (CurrentAt base past audio) (issue order) := by
  intro view desk h
  rw [yields_issue]
  have hsent : Current base past desk.session audio (desk.log ++ [.call (.command order.command)
      (view.transport desk.log (.command order.command))]) := h.aside rfl fun _ => rfl
  exact ⟨hsent.fed, hsent.playing, hsent.told⟩

/-- A request of the user is about orders only. -/
theorem upholds_onRequest_current (request : Request) :
    Work.Upholds (CurrentAt base past audio)
      (ProfileSession.onRequest (σ := Stream) request) :=
  upholds_onRequest upholds_issue_current (fun _ _ _ h => ⟨h.fed, h.playing, h.told⟩) request

/-- An answer is announced at most. -/
theorem upholds_onCommandResult_current (outcome : Outcome) (code : Option Nat) :
    Work.Upholds (CurrentAt base past audio) (onCommandResult outcome code) := by
  intro view desk h
  have hstruck : CurrentAt base past audio (struck desk) := ⟨h.fed, h.playing, h.told⟩
  rw [yields_onCommandResult]
  split
  · exact hstruck.aside rfl fun _ => rfl
  · exact hstruck

/-- What leaves the link when the codec changes: everyone is told, and the platform sets up the media
path anew if it is to be fed differently. -/
def codecNotices (current : Option CodecConfig) (known : CodecStatus) : List Effect :=
  .notice (.report (.codecChanged known)) ::
    if CodecConfig.needsReroute current known.config then
      [.notice (.report (.audioRoute (.streamReconfigured known.config)))]
    else []

theorem yields_onCodecChanged {view : View} {desk : Desk Stream Empty} {known : CodecStatus}
    {done : Unit → Desk Stream Empty → Prop} :
    (onCodecChanged known).Yields view desk done ↔
      done () { desk with
        session := { desk.session with status := some known }
        log := desk.log ++ codecNotices desk.session.current known } := by
  rw [onCodecChanged, codecNotices]
  cases hreroute : CodecConfig.needsReroute desk.session.current known.config with
  | true => simp [hreroute]
  | false => simp [hreroute]

/-- What was told of a change of the codec is how things stand then, if nothing was told while the
codec was unknown. -/
theorem Current.codecChanged (h : Current base past s audio log)
    (hunknown : s.status = none → reconfigurations (base ++ log) = []) (known : CodecStatus) :
    Current base past { s with status := some known } audio
      (log ++ codecNotices s.current known) where
  fed := by
    have hnotices : reconfigurations (codecNotices s.current known) =
        if CodecConfig.needsReroute (s.status.map (·.config)) known.config then [known.config]
        else [] := by
      rw [codecNotices, current]
      split
      · rfl
      · rfl
    rw [← List.append_assoc, reconfigurations_append, hnotices]
    exact fed_codecChanged h.fed hunknown known
  playing := h.playing
  told := by
    rw [← List.append_assoc, lastPlaying, List.foldl_append, codecNotices]
    refine Eq.trans ?_ h.told
    split
    · rfl
    · rfl

/-- **What was told stays how things stand when the audio and the state of the link change.** -/
theorem sounding_current : Link.Sounding (ρ := Request) (τ := Empty) (Current base past) where
  asked _ _ _ _ _ _ h := h.aside rfl fun _ => rfl
  failed _ _ _ _ h := h.aside rfl fun _ => rfl
  linkChanged _ _ _ _ h := h.aside rfl fun _ => rfl
  onLinkUp _ _ _ _ h := h
  onAudioChanged previous current wideband view desk h := by
    have hnoticed : Current base past desk.session previous
        (desk.log ++ [Link.audioNotice previous current wideband]) := h.aside rfl fun _ => rfl
    show (onAudio current).Yields view _ _
    rw [onAudio, Work.yields_bind, Work.yields_session, Work.yields_ite]
    split
    · exact hnoticed.tell rfl
    · next hsame => exact ⟨hnoticed.fed, (Decidable.not_not.1 hsame).symm, hnoticed.told⟩
  onConnected := fun _ _ h => h.tell rfl
  onDisconnected := fun _ _ h => ⟨h.fed.forget, rfl, h.told.trans h.playing⟩

end Work

/-! ### Impulses -/

section Impulses

variable {base past : List Effect} {scene : Scene} {link : Link Stream Request Empty}

/-- No errand but a change of the codec touches what was told of it. -/
theorem upholds_handle_current {errand : Errand Request Empty}
    (hother : ∀ known, errand ≠ .message (.event (.codecChanged known))) :
    Step.Upholds (Link.Sounds (Current base past))
      (Link.handle errand : Step Stream Request Empty Unit) := by
  refine sounding_current.upholds_handle errand (fun request _ _ => ?_) (fun event htold _ => ?_)
    fun kind => kind.elim
  · exact upholds_onRequest_current request
  · refine upholds_onEvent event (fun known heq => absurd ?_ (hother known)) fun outcome code _ => ?_
    · rw [htold, heq]
    · exact upholds_onCommandResult_current outcome code

/-- What a change of the codec makes the link tell is how things stand then, if nothing was told
while the codec was unknown. -/
theorem yields_handle_codecChanged (known : CodecStatus)
    (hunknown : link.session.status = none → base = [])
    (h : Link.Sounds (Current base past) ⟨link, []⟩) :
    (Link.handle (.message (.event (.codecChanged known))) :
      Step Stream Request Empty Unit).Yields scene ⟨link, []⟩ fun _ after =>
        Link.Sounds (Current base past) after := by
  refine Link.yields_handle ?_ fun _ fault hafter =>
    ⟨sounding_current.failed _ _ _ fault hafter.sound, hafter.up⟩
  by_cases hdown : link.state = .disconnected
  · exact (Link.yields_onErrand_event_unheard hdown rfl).2 h
  · refine (Link.yields_onErrand_event hdown rfl).2 ?_
    rw [Step.yields_consult]
    show (do onCodecChanged known; return .ok () : Work Stream Empty Verdict).Yields _ _ _
    rw [Work.yields_bind, yields_onCodecChanged, Work.yields_pure]
    refine ⟨h.sound.codecChanged (fun hnone => ?_) known, h.up⟩
    rw [hunknown hnone]
    rfl

/-- **Whatever the impulse, what was told is how things stand**, if nothing was told while the codec
was unknown. -/
theorem current_respond (hlink : Link.Between link) (impulse : Impulse Request)
    (hunknown : link.session.status = none → base = [])
    (h : Link.Sounds (Current base past) ⟨link, []⟩) :
    Link.Sounds (Current base past) ⟨(link.respond impulse).1, (link.respond impulse).2⟩ := by
  refine Link.respond_sounds hlink impulse h (fun scene message _ => ?_) (fun errand hown => ?_)
    fun kind => ?_
  · by_cases hcodec : ∃ known, message = .event (.codecChanged known)
    · obtain ⟨known, rfl⟩ := hcodec
      exact yields_handle_codecChanged known hunknown h
    · have hother : ∀ known, message ≠ .event (.codecChanged known) :=
        fun known heq => hcodec ⟨known, heq⟩
      exact upholds_handle_current (fun known heq => hother known (Errand.message.inj heq)) scene _ h
  · refine upholds_handle_current ?_
    cases hown <;> nofun
  · exact upholds_handle_current nofun

end Impulses

/-! ### The life of a link -/

section Life

variable (settings : StreamSettings) (peer : Address) (impulses : List (Impulse Request))

/-- What was told is how things stand between any two impulses. -/
theorem current_live :
    let link : Link Stream Request Empty := Link.start peer (start settings)
    Link.Sounds (Current (sinceUnknown link impulses) (link.live impulses).2)
      ⟨(link.live impulses).1, []⟩ := by
  intro link
  induction impulses using List.reverseRecOn with
  | nil => exact ⟨⟨⟨nofun, .nil⟩, rfl, rfl⟩, fun hon => absurd rfl hon⟩
  | append_singleton before impulse ih =>
      have hlink := Link.between_live (Link.between_start peer (start settings)) before
      have hbase : (link.live before).1.session.status = none →
          sinceHere (link.live before).1 (sinceUnknown link before) = [] := by
        intro hnone
        rw [sinceHere, hnone]
        rfl
      obtain ⟨⟨hfed, hplaying, htold⟩, hup⟩ :=
        current_respond hlink impulse hbase ⟨ih.sound.renew, ih.up⟩
      rw [Link.live_snoc, sinceUnknown, Link.keep_snoc]
      rw [← List.append_nil (_ ++ _)] at hfed htold
      exact ⟨⟨hfed, hplaying, htold⟩, hup⟩

/-- What the platform and everyone else was told of a stream is how things stand, and nothing is
told twice. -/
structure UpToDate (link : Link Stream Request Empty) (impulses : List (Impulse Request)) :
    Prop where
  /-- While the codec is known, the media path was last set up for a configuration that is fed like
  the one in use. -/
  fed : ∀ known, (link.live impulses).1.session.status = some known →
    ∃ config, (reconfigurations (sinceUnknown link impulses)).getLast? = some config ∧
      config.sameFeeding known.config = true
  /-- The media path was never set up anew for a configuration that is fed alike. -/
  news : (reconfigurations (sinceUnknown link impulses)).IsChain
    fun earlier later => earlier.sameFeeding later = false
  /-- The stream plays while the audio is on. -/
  playing : (link.live impulses).1.session.playing = ((link.live impulses).1.audio == .on)
  /-- Everyone was told last whether it plays. -/
  told : lastPlaying (link.live impulses).2 = (link.live impulses).1.session.playing

/-- **What was told of a stream is how things stand throughout the life of a link.**  While its codec
is known, the platform was told how to feed the media path, and was never told so twice; and everyone
was told whether the stream plays, which it does while the audio is on. -/
theorem observers_current : UpToDate (Link.start peer (start settings)) impulses := by
  obtain ⟨⟨⟨hfed, hnews⟩, hplaying, htold⟩, -⟩ := current_live settings peer impulses
  rw [List.append_nil] at hfed hnews htold
  exact ⟨hfed, hnews, hplaying, htold⟩

end Life

end Stream

end AudioLink
