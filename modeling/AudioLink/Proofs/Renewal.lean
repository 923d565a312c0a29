/-
**Idle links and new ones.**

A worker whose link is idle may be retired, and when the device is heard of again it gets a new one.
Nobody can tell, if a link on which nothing is going on is as good as a link on which nothing has
happened yet.  For streaming it is.  For handsfree it is as long as one thing is as the settings have
it: whether the sound of calls may come here.  What the user said about it outlasts the connection,
and is not known to a new link.

Main definitions:

* `AudioLink.CallHandle.Follows` — handles that are paired in the order in which they are given out;
* `AudioLink.Link.AsGoodAs` — whatever happens to both from now on, nobody can tell two links apart;
* `AudioLink.Handsfree.trial` — what tells links apart that let the sound of calls come here and
  links that do not.

Main results:

* `AudioLink.Link.Twins.asGoodAs` — twins are as good as each other;
* `AudioLink.Handsfree.asGoodAs_start_iff` — a disconnected link that keeps nothing is as good as a
  new one, unless the user has changed whether the sound of calls may come here;
* `AudioLink.idle_links_renewed` — **idle links of either profile are as good as new ones**, with
  that exception.
-/

import AudioLink.Proofs.Call.Pass
import AudioLink.Proofs.Directory.Keeping
import AudioLink.Proofs.Likeness.Profiles
import AudioLink.Proofs.Links

set_option relaxedAutoImplicit false
set_option autoImplicit false

namespace AudioLink

/-! ### Telling links apart -/

/-- The handle `a` comes as long after `first` as `b` after `other`. -/
def CallHandle.Follows (first other a b : CallHandle) : Prop :=
  ∃ n, a = ⟨first.issuer, first.serial + n⟩ ∧ b = ⟨other.issuer, other.serial + n⟩

/-- Counting on from two handles, no two are paired with the same one. -/
theorem CallHandle.biUnique_follows (first other : CallHandle) :
    Relator.BiUnique (first.Follows other) := by
  constructor
  · rintro a a' b ⟨n, rfl, rfl⟩ ⟨n', rfl, hb⟩
    have hsame : n = n' := Nat.add_left_cancel (congrArg CallHandle.serial hb)
    rw [hsame]
  · rintro a b b' ⟨n, rfl, rfl⟩ ⟨n', ha, rfl⟩
    have hsame : n = n' := Nat.add_left_cancel (congrArg CallHandle.serial ha)
    rw [hsame]

namespace Link

variable {σ ρ τ : Type} [ProfileSession σ ρ τ] [DecidableEq τ] [Outlined ρ]

/-- Whatever happens to both links from now on, as long as the transport answers them alike, they
ask the same of the transport and announce the same, but for the handles of calls; they show the same
state, and have to be woken at the same instants. -/
def AsGoodAs (link other : Link σ ρ τ) : Prop :=
  ∃ pairs, Relator.BiUnique pairs ∧ ∀ impulses others : List (Impulse ρ),
    List.Forall₂ (Impulse.Alike pairs) impulses others →
      List.Forall₂ (Effect.Alike pairs) (link.live impulses).2 (other.live others).2 ∧
        (link.live impulses).1.snapshot = (other.live others).1.snapshot ∧
        (link.live impulses).1.alarms = (other.live others).1.alarms

/-- Twins are as good as each other. -/
theorem Twins.asGoodAs {pairs : CallHandle → CallHandle → Prop} {Like : Prop → σ → σ → Prop}
    (hpairs : Relator.BiUnique pairs) (himpartial : Impartial (ρ := ρ) (τ := τ) pairs Like)
    {link twin : Link σ ρ τ} (h : Twins Like link twin) : link.AsGoodAs twin := by
  refine ⟨pairs, hpairs, fun impulses others hsame => ?_⟩
  obtain ⟨⟨session, -, hlater⟩, hlog⟩ := h.live himpartial hsame
  rw [hlater]
  exact ⟨hlog, rfl, rfl⟩

/-- A link stays the link of its device. -/
theorem peer_live (link : Link σ ρ τ) (impulses : List (Impulse ρ)) :
    (link.live impulses).1.peer = link.peer := by
  refine live_induction (P := fun last _ => last.peer = link.peer) rfl ?_ impulses
  rintro last log impulse hpeer
  rw [← hpeer]
  cases impulse with
  | hand scene message => exact peer_process scene message last
  | wake scene => exact peer_fireDue scene last

omit [ProfileSession σ ρ τ] [Outlined ρ] in
/-- Of an idle link at rest nothing is left but the state of its profile. -/
theorem AtRest.eq_start {link : Link σ ρ τ} (h : link.AtRest) (hidle : link.isIdle = true) :
    link = start link.peer link.session := by
  simp only [isIdle, Bool.and_eq_true, beq_iff_eq, List.isEmpty_iff] at hidle
  obtain ⟨⟨hstate, hdeferred⟩, halarms⟩ := hidle
  have hoff : link.audio = .off := by
    by_contra hon
    cases hstate.symm.trans (h.audio hon)
  have hnarrow : link.wideband = false := by
    by_contra hwide
    cases hoff.symm.trans (h.wideband (Bool.not_eq_false _ ▸ hwide))
  have hnone : link.alarms = .empty := congrArg Alarms.mk (List.isEmpty_iff.1 halarms)
  have hqueue := h.queue
  cases link
  simp_all only [start]

/-- A link that is idle after some impulses is a new one, but for what its profile has kept. -/
theorem live_eq_start (hcareful : Careful σ) (peer : Address) (session : σ)
    (past : List (Impulse ρ))
    (hidle : ((start peer session : Link σ ρ τ).live past).1.isIdle = true) :
    ((start peer session : Link σ ρ τ).live past).1 =
      start peer ((start peer session : Link σ ρ τ).live past).1.session := by
  have hstart := (atRest_live hcareful rfl (bounded_start peer session) past).eq_start hidle
  rw [peer_live] at hstart
  exact hstart

/-- The profile of a link that is idle after some impulses keeps nothing. -/
theorem blank_live_of_isIdle {Blank : σ → Prop} (hforgets : Forgets (ρ := ρ) (τ := τ) Blank)
    {link : Link σ ρ τ} (hqueue : link.queue = []) (hblank : BlankWhenDown Blank link)
    {past : List (Impulse ρ)} (hidle : (link.live past).1.isIdle = true) :
    Blank (link.live past).1.session := by
  simp only [isIdle, Bool.and_eq_true, beq_iff_eq] at hidle
  exact (steady_blank hforgets).live hqueue hblank past hidle.1.1

end Link

/-! ### Streaming -/

namespace Stream

/-- Streaming never changes its settings. -/
theorem settings_live (peer : Address) (settings : StreamSettings)
    (past : List (Impulse Request)) :
    ((Link.start peer (start settings)).live past).1.session.settings = settings := by
  have hacts : Acts fun desk => desk.session.settings = settings :=
    { note := fun f haside _ desk h => (haside.settings desk.session).trans h
      announce := fun _ _ _ h => h
      issue := fun _ _ _ h => h }
  have hlasting : Link.Lasting (ρ := Request) (τ := Empty)
      fun (s : Stream) _ => s.settings = settings :=
    { asked := fun _ _ _ _ _ h => h
      linkChanged := fun _ _ _ _ h => h
      audioChanged := fun _ _ _ _ _ h => h
      failed := fun _ _ _ h => h
      onLinkUp := fun _ _ _ h => h
      consulted := by
        refine hacts.profile ?_ fun _ _ h => h
        intro outcome code view desk h
        rw [yields_onCommandResult]
        split
        · exact h
        · exact h }
  exact Link.Lasting.live (J := fun (s : Stream) _ => s.settings = settings) rfl (fun _ => hlasting)
    rfl past

/-- A state in which nothing is kept is as good as a new one. -/
theorem Blank.alike {s : Stream} (h : s.Blank) : s.Alike (start s.settings) := by
  refine ⟨.empty, .empty, h.pending, ?_⟩
  rw [h.status, h.playing]
  rfl

end Stream

/-! ### Handsfree -/

namespace Handsfree

/-- The settings are these, and a call dialled may stay unlisted as long as they say. -/
def Abides (settings : HandsfreeSettings) (s : Handsfree) : Prop :=
  s.settings = settings ∧ s.survey.patience = settings.outgoingTimeout

theorem acts_abides (settings : HandsfreeSettings) :
    Acts fun desk => desk.session.Abides settings where
  note := fun f haside _ desk h => ⟨(haside.settings desk.session).trans h.1,
    (congrArg Survey.patience (haside.survey desk.session)).trans h.2⟩
  announce := fun _ _ _ _ h => h
  dropAudio := fun _ _ h => h
  issue := fun _ _ _ _ h => h
  queryCalls := upholds_queryCalls (fun _ _ h => h) fun _ _ h => h
  record := fun _ _ _ _ h => h
  enter := by
    intro desk number now call survey hdial h
    obtain ⟨-, -, rfl⟩ := Survey.dial_eq_ok hdial
    exact h
  order := fun _ _ _ h => h
  abandonDial := by
    intro view desk h
    rw [yields_abandonDial]
    exact h
  strike := fun _ _ h => h

theorem patience_complete (survey : Survey) (now : Instant) :
    (survey.complete now).2.patience = survey.patience := by
  cases hstuck : survey.stuckAge now with
  | some age => rw [Survey.complete_eq_of_stuck hstuck]; rfl
  | none => rw [Survey.complete_eq hstuck]

/-- Handsfree never changes its settings, and a call dialled may stay unlisted as long as they
say. -/
theorem settings_live (peer : Address) (settings : HandsfreeSettings) (issuer : Nat)
    (past : List (Impulse Request)) :
    let s := ((Link.start peer (start settings issuer)).live past).1.session
    s.settings = settings ∧ s.survey.patience = settings.outgoingTimeout := by
  have hlasting : Link.Lasting (ρ := Request) (τ := AlarmKind) fun (s : Handsfree) _ =>
      s.Abides settings :=
    { asked := fun _ _ _ _ _ h => h
      linkChanged := fun _ _ _ _ h => h
      audioChanged := fun _ _ _ _ _ h => h
      failed := fun _ _ _ h => h
      onLinkUp := fun _ _ _ h => h
      consulted := by
        refine (acts_abides settings).profile ?_ ?_
        · intro view desk h
          have hsurveyed : (surveyed desk view.now).session.Abides settings :=
            ⟨h.1, (patience_complete _ _).trans h.2⟩
          rw [yields_finishQuery]
          split
          · exact hsurveyed
          · exact hsurveyed
        · intro view desk h
          rw [yields_onDisconnected]
          exact h }
  exact Link.Lasting.live (J := fun (s : Handsfree) _ => s.Abides settings) rfl (fun _ => hlasting)
    ⟨rfl, rfl⟩ past

/-- A state in which nothing is kept is alike to a new one, but for whether the sound of calls may
come here. -/
theorem Blank.alike {s : Handsfree} (h : s.Blank) {settings : HandsfreeSettings}
    (hsettings : s.settings = settings) (hpatience : s.survey.patience = settings.outgoingTimeout)
    (issuer : Nat) :
    Alike (s.survey.nextHandle.Follows ⟨issuer, 0⟩) False s
      { start settings issuer with routeAllowed := s.routeAllowed } := by
  refine ⟨.empty, .start issuer settings.outgoingTimeout, .none, h.pending, ⟨?_, ?_, hpatience, ?_⟩,
    nofun, ?_⟩
  · rw [Roster.Alike, show s.survey.roster.calls = [] from h.roster]
    exact .nil
  · rw [Roster.Alike, h.burst]
    exact .nil
  · exact fun n => ⟨n, rfl, rfl⟩
  · simp only [start, hsettings, h.nextQueryAt, h.operatorName, h.subscriberNumber,
      h.networkService, h.voiceRecognition, h.inBandRing, h.routed, h.speakerEcho,
      h.microphoneEcho]

/-! #### Where the sound of calls may come -/

/-- Whether the transport is asked to drop the audio. -/
def dropsAudio : Effect → Bool
  | .call (.command .disconnectAudio) _ => true
  | _ => false

/-- A link without audio, on which nothing waits and nothing has been done about the audio. -/
structure Silent (allowed : Bool) (state : LinkState)
    (progress : Progress Handsfree Request AlarmKind) : Prop where
  state : progress.link.state = state
  audio : progress.link.audio = .off
  deferred : progress.link.deferred = []
  queue : progress.link.queue = []
  allowed : progress.link.session.routeAllowed = allowed
  spared : progress.log.any dropsAudio = false

section Trial

variable {allowed : Bool} {link : Link Handsfree Request AlarmKind} {log : List Effect}

/-- The user asks to connect, and the transport agrees. -/
theorem silent_connect (h : Silent allowed .disconnected ⟨link, log⟩) (now : Instant) :
    let response := link.respond (.hand (obliging now) .connect)
    Silent allowed .connecting ⟨response.1, response.2⟩ := by
  refine Link.respond_hand (P := Silent allowed .connecting) h.queue ?_ ?_
  · rcases link with ⟨peer, _, _, wideband, alarms, _, _, session⟩
    obtain ⟨rfl, rfl, rfl, rfl, rfl, -⟩ := h
    exact ⟨rfl, rfl, rfl, rfl, rfl, rfl⟩
  · rintro progress errand rest hsilent hcons
    cases hsilent.queue.symm.trans hcons

/-- The first orders of a new connection are not about the audio. -/
theorem unheard_onConnected :
    Work.Upholds (fun desk : Desk Handsfree AlarmKind =>
      desk.session.routeAllowed = allowed ∧ desk.drops = 0 ∧ desk.log.any dropsAudio = false)
      onConnected := by
  have hissue {order : Order}
      (hother : ∀ accepted, dropsAudio (.call (.command order.command) accepted) = false) :
      Work.Upholds (fun desk : Desk Handsfree AlarmKind =>
        desk.session.routeAllowed = allowed ∧ desk.drops = 0 ∧ desk.log.any dropsAudio = false)
        (issueQuietly order) := by
    refine .bind ?_ fun _ => .pure _
    rintro view desk ⟨hallowed, hdrops, hspared⟩
    refine ⟨hallowed, hdrops, ?_⟩
    show (desk.log ++ [_]).any dropsAudio = false
    rw [List.any_append, hspared, List.any_cons, hother]
    rfl
  refine .bind .session fun s => .ite (fun _ => .bind (hissue ?_) fun _ => hissue ?_)
    fun _ => hissue ?_
  all_goals exact fun _ => rfl

/-- The link comes up with a gateway that lists its calls. -/
theorem silent_linkUp (h : Silent allowed .connecting ⟨link, log⟩) (scene : Scene)
    {capabilities : Capabilities}
    (hlists : capabilities.hasFeature Capabilities.enhancedCallStatus = true) :
    let response := link.respond (.hand scene (.event (.linkChanged .connected capabilities)))
    Silent allowed .connected ⟨response.1, response.2⟩ := by
  refine Link.respond_hand (P := Silent allowed .connected) h.queue ?_ ?_
  · rcases link with ⟨peer, _, _, wideband, alarms, _, _, session⟩
    obtain ⟨rfl, rfl, rfl, rfl, rfl, -⟩ := h
    simp [Link.handle, Link.onErrand, Link.onMessage, Link.onEvent, Link.onLinkChanged,
      Link.linkUp, ProfileSession.onLinkUp, onLinkUp, hlists, Link.transition, Link.leave,
      Link.enter, Link.silence, Step.yields_consult]
    refine Work.yields_mono (unheard_onConnected _ _ ⟨rfl, rfl, rfl⟩) ?_
    rintro _ desk ⟨hallowed, hdrops, hspared⟩
    rw [if_pos (show LinkState.connected.isStable = true from rfl), Link.replayDeferred,
      Step.yields_change]
    refine ⟨rfl, rfl, rfl, ?_, hallowed, hspared⟩
    show [] ++ ([] ++ List.replicate desk.drops _) = []
    rw [hdrops]
    rfl
  · rintro progress errand rest hsilent hcons
    cases hsilent.queue.symm.trans hcons

/-- The audio comes on. -/
theorem dropsAudio_audioOn (h : Silent allowed .connected ⟨link, log⟩) (now : Instant) :
    (link.respond (.hand (obliging now) (.event (.audioChanged .connected)))).2.any dropsAudio =
      !allowed := by
  rcases link with ⟨peer, _, _, wideband, alarms, _, _, session⟩
  obtain ⟨rfl, rfl, rfl, rfl, rfl, -⟩ := h
  rcases session with ⟨_, _, _, _, _, _, _, _, _, _, allowed, _, _, _⟩
  cases allowed with
  | false =>
      rw [Link.respond_eq_get 2 rfl]
      rfl
  | true =>
      rw [Link.respond_eq_get 2 rfl]
      rfl

/-- A gateway is connected, and its audio comes on. -/
def trial : List (Impulse Request) :=
  [.hand (obliging 0) .connect,
    .hand (obliging 1) (.event (.linkChanged .connected ⟨Capabilities.enhancedCallStatus, 0⟩)),
    .hand (obliging 2) (.event (.audioChanged .connected))]

/-- Audio that comes on is dropped exactly if the sound of calls may not come here. -/
theorem dropsAudio_trial (peer : Address) (s : Handsfree) :
    ((Link.start peer s).live trial).2.any dropsAudio = !s.routeAllowed := by
  have hstart : Silent s.routeAllowed .disconnected ⟨Link.start peer s, []⟩ :=
    ⟨rfl, rfl, rfl, rfl, rfl, rfl⟩
  have hlists : Capabilities.hasFeature ⟨Capabilities.enhancedCallStatus, 0⟩
      Capabilities.enhancedCallStatus = true := by decide
  have hasked := silent_connect hstart 0
  have hup := silent_linkUp hasked (obliging 1) hlists
  have hon := dropsAudio_audioOn hup 2
  simp only [trial, Link.live, List.append_nil, List.any_append, hasked.spared, hup.spared, hon,
    Bool.false_or]

end Trial

/-- What leaves two links that are alike drops the audio of both, or of neither. -/
theorem any_dropsAudio_of_alike {pairs : CallHandle → CallHandle → Prop} {log twin : List Effect}
    (h : List.Forall₂ (Effect.Alike pairs) log twin) : log.any dropsAudio = twin.any dropsAudio := by
  have hsame : ∀ effect other, Effect.Alike pairs effect other →
      dropsAudio effect = dropsAudio other := by
    intro effect other halike
    unfold Effect.Alike at halike
    split at halike
    · rfl
    · rw [halike]
  have hmapped := congrArg (List.any · id) (map_eq_of_alike hsame h)
  rwa [List.any_map, List.any_map] at hmapped

/-- The transport answers alike in the scenes of the trial, whatever the handles. -/
theorem trial_alike (pairs : CallHandle → CallHandle → Prop) :
    List.Forall₂ (Impulse.Alike pairs) trial trial := by
  have hscene (now : Instant) : Scene.Alike pairs (obliging now) (obliging now) :=
    ⟨rfl, rfl, fun _ _ _ => rfl⟩
  exact .cons (.hand _ (hscene 0)) (.cons (.hand _ (hscene 1)) (.cons (.hand _ (hscene 2)) .nil))

/-- **A disconnected link that keeps nothing is as good as a new one**, unless the user has changed
whether the sound of calls may come here. -/
theorem asGoodAs_start_iff (peer : Address) {s : Handsfree} (hblank : s.Blank)
    {settings : HandsfreeSettings} (hsettings : s.settings = settings)
    (hpatience : s.survey.patience = settings.outgoingTimeout) (issuer : Nat) :
    (Link.start peer s).AsGoodAs (Link.start peer (start settings issuer)) ↔
      s.routeAllowed = settings.audioRouteAllowed := by
  have hpairs := CallHandle.biUnique_follows s.survey.nextHandle ⟨issuer, 0⟩
  -- but for that one thing, the link is as good as a new one in any case
  have htwins := Link.twins_start (impartial hpairs)
    (hblank.alike hsettings hpatience issuer) peer
  constructor
  · rintro ⟨pairs, -, hsame⟩
    have hdropped := any_dropsAudio_of_alike (hsame trial trial (trial_alike pairs)).1
    rw [dropsAudio_trial, dropsAudio_trial] at hdropped
    exact Bool.not_inj hdropped
  · intro hallowed
    rw [hallowed] at htwins
    exact htwins.asGoodAs hpairs (impartial hpairs)

end Handsfree

/-! ### Both profiles -/

/-- **Idle links of either profile are as good as new ones**; those of handsfree only as long as the
sound of calls may come here if the settings say so, and may not otherwise. -/
theorem idle_links_renewed (peer : Address) :
    (∀ (settings : StreamSettings) (past : List (Impulse Stream.Request)),
      let link := ((Link.start peer (Stream.start settings)).live past).1
      link.isIdle = true → link.AsGoodAs (Link.start peer (Stream.start settings))) ∧
    (∀ (settings : HandsfreeSettings) (issuer next : Nat)
      (past : List (Impulse Handsfree.Request)),
      let link := ((Link.start peer (Handsfree.start settings issuer)).live past).1
      link.isIdle = true →
        (link.AsGoodAs (Link.start peer (Handsfree.start settings next)) ↔
          link.session.routeAllowed = settings.audioRouteAllowed)) := by
  constructor
  · intro settings past link hidle
    have hblank : link.session.Blank := Link.blank_live_of_isIdle Stream.forgets rfl
      (fun _ => Stream.blank_start settings) hidle
    have halike := hblank.alike
    rw [Stream.settings_live] at halike
    -- streaming knows of no calls, so that any pairing of their handles will do
    have himpartial : Impartial (CallHandle.Follows ⟨0, 0⟩ ⟨0, 0⟩) fun _ => Stream.Alike :=
      Stream.impartial
    have hgood := (Link.twins_start himpartial halike peer).asGoodAs
      (CallHandle.biUnique_follows _ _) himpartial
    rwa [← Link.live_eq_start Stream.careful peer (Stream.start settings) past hidle] at hgood
  · intro settings issuer next past link hidle
    have hblank : link.session.Blank := Link.blank_live_of_isIdle Handsfree.forgets rfl
      (fun _ => Handsfree.blank_start settings issuer) hidle
    obtain ⟨hsettings, hpatience⟩ := Handsfree.settings_live peer settings issuer past
    have hiff := Handsfree.asGoodAs_start_iff peer hblank hsettings hpatience next
    rwa [← Link.live_eq_start Handsfree.careful peer (Handsfree.start settings issuer) past hidle]
      at hiff

/-- A device comes and goes again. -/
def visit (ρ : Type) : List (Impulse ρ) :=
  [.hand (Handsfree.obliging 0) .connect,
    .hand (Handsfree.obliging 1)
      (.event (.linkChanged .connected ⟨Capabilities.enhancedCallStatus, 0⟩)),
    .hand (Handsfree.obliging 2) (.event .linkDown)]

/-- What a device that has come and gone leaves behind is as good as a new link. -/
theorem idle_links_renewed_visit :
    (let first := Link.start Handsfree.fresh.peer (Stream.start Settings.standard.stream)
     let link := (first.live (visit _)).1
     link.isIdle = true ∧ link.AsGoodAs first) ∧
    (let link := (Handsfree.fresh.live (visit _)).1
     link.isIdle = true ∧ link.AsGoodAs Handsfree.fresh) := by
  have hrenewed := idle_links_renewed Handsfree.fresh.peer
  constructor
  · intro first link
    have hidle : (first.live (visit _)).1.isIdle = true := by
      rw [Link.live_eq_get 2 rfl]
      rfl
    exact ⟨hidle, hrenewed.1 _ (visit _) hidle⟩
  · intro link
    have hidle : (Handsfree.fresh.live (visit _)).1.isIdle = true := by
      rw [Link.live_eq_get 2 rfl]
      rfl
    refine ⟨hidle, (hrenewed.2 _ 0 0 (visit _) hidle).2 ?_⟩
    show (Handsfree.fresh.live (visit _)).1.session.routeAllowed = true
    rw [Link.live_eq_get 2 rfl]
    rfl

namespace Handsfree

/-- While the device is connected, the user says that the sound of its calls may not come here. -/
def withdrawal : List (Impulse Request) :=
  [.hand (obliging 0) .connect,
    .hand (obliging 1) (.event (.linkChanged .connected ⟨Capabilities.enhancedCallStatus, 0⟩)),
    .hand (obliging 2) (.request (.allowAudioRoute false)),
    .hand (obliging 3) (.event .linkDown)]

/-- The link on which the user has said so is idle after the device has gone, and is not as good as
a new one: it would drop the audio when the device comes back. -/
theorem idle_link_told_apart :
    (fresh.live withdrawal).1.isIdle = true ∧
      ¬(fresh.live withdrawal).1.AsGoodAs fresh := by
  have hlived : fresh.live withdrawal = (Link.liveFor 2 fresh withdrawal).get rfl :=
    Link.live_eq_get 2 rfl
  refine ⟨by rw [hlived]; rfl, ?_⟩
  rintro ⟨pairs, -, hsame⟩
  have hdropped := any_dropsAudio_of_alike (hsame trial trial (trial_alike pairs)).1
  have hforbidden : ((fresh.live withdrawal).1.live trial).2.any dropsAudio = true := by
    rw [hlived, Link.live_eq_get 2 rfl]
    rfl
  rw [hforbidden, show fresh.live trial = (Link.liveFor 2 fresh trial).get rfl from
    Link.live_eq_get 2 rfl] at hdropped
  cases hdropped

end Handsfree

end AudioLink
