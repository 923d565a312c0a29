/-
**What the handsfree profile does at its desk.**

The profile is consulted on many occasions, but what it does each time is put together from a few
acts: it notes something, announces something, issues an order, asks for the list of calls, keeps a
report, enters or gives up a dialled call, strikes out an answered order, or asks for the audio to
be dropped.  What none of these acts spoils is upheld on nearly every occasion.  The end of a list
of calls and the end of a link are looked at one property at a time.

Most occasions are about neither the control of the calls nor their sound.  What is about these two
alone is at risk on the few others only.

Main definitions:

* `AudioLink.Handsfree.Aside`, `AudioLink.Handsfree.Remark` — a change of the profile that is about
  neither calls nor orders, and not about their sound either;
* `AudioLink.Handsfree.Order.isControl`, `AudioLink.Handsfree.Request.isControl` — what controls the
  calls;
* `AudioLink.Handsfree.Slight`, `AudioLink.Handsfree.Minor`, `AudioLink.Handsfree.Routine`,
  `AudioLink.Handsfree.Chores`, `AudioLink.Handsfree.Enters`, `AudioLink.Handsfree.Acts` — a property
  that no act spoils, but for fewer and fewer of them.

Main results:

* `AudioLink.Handsfree.Slight.upholds_onRequest`, `AudioLink.Handsfree.Slight.upholds_onAnswer`,
  `AudioLink.Handsfree.Slight.upholds_onEvent` — what no slight act spoils is upheld, if the major
  occasions uphold it;
* `AudioLink.Handsfree.Routine.upholds_onRequest` — a request upholds it, if dialling and asking for
  the list of calls do;
* `AudioLink.Handsfree.Routine.upholds_onEvent` — so does an event, if the answer to an order and
  asking for the list of calls do;
* `AudioLink.Handsfree.Acts.profile` — **what no act and neither end spoils is upheld on every
  occasion**.
-/

import AudioLink.Proofs.Handsfree.Desk

set_option relaxedAutoImplicit false
set_option autoImplicit false

namespace AudioLink.Handsfree

/-- A change of the profile that is about neither calls nor orders. -/
structure Aside (f : Handsfree → Handsfree) : Prop where
  settings : ∀ s, (f s).settings = s.settings
  ledger : ∀ s, (f s).ledger = s.ledger
  survey : ∀ s, (f s).survey = s.survey
  nextQueryAt : ∀ s, (f s).nextQueryAt = s.nextQueryAt

/-- A change of the profile that is about neither calls nor orders, nor about the sound of calls or
what the gateway is able to do. -/
structure Remark (f : Handsfree → Handsfree) : Prop extends Aside f where
  capabilities : ∀ s, (f s).capabilities = s.capabilities
  routeAllowed : ∀ s, (f s).routeAllowed = s.routeAllowed
  routed : ∀ s, (f s).routed = s.routed

/-- The orders that control the calls. -/
def Order.isControl : Order → Bool
  | accept _ _ _ | reject _ | hold _ | terminate _ | privateMode _ | transfer => true
  | _ => false

/-- The requests to control the calls. -/
def Request.isControl : Request → Bool
  | accept _ | reject | hold | terminate _ | privateMode _ | transfer => true
  | _ => false

/-- The orders that are given in passing: all but the question for the list of calls and the order
to dial. -/
def Order.isRoutine : Order → Bool
  | queryCalls | dial _ => false
  | _ => true

/-- No act of the profile spoils `I` that is about neither the list of calls, nor their control, nor
their sound, but for those that take two things together. -/
structure Slight (I : Desk Handsfree AlarmKind → Prop) : Prop where
  note : ∀ f, Remark f → Work.Upholds I (Work.update f)
  announce : ∀ report, (∀ call, report ≠ .callChanged call) →
    (∀ update, report ≠ .audioRoute update) → Work.Upholds I (Work.announce report)
  issue : ∀ order, order.isRoutine = true → order.isControl = false →
    Work.Upholds I (issue order)
  abandonDial : Work.Upholds I abandonDial

/-- Nor does keeping a report. -/
structure Minor (I : Desk Handsfree AlarmKind → Prop) : Prop extends Slight I where
  record : ∀ report now,
    Work.Upholds I (Work.update fun s => { s with survey := s.survey.record report now })

/-- No act of the profile spoils `I`, but for asking for the list of calls, and for those that take
two things together: a dialled call is entered before it is ordered, and an order is struck out
before its answer is looked at. -/
structure Routine (I : Desk Handsfree AlarmKind → Prop) : Prop where
  note : ∀ f, Aside f → Work.Upholds I (Work.update f)
  announce : ∀ report, (∀ call, report ≠ .callChanged call) → Work.Upholds I (Work.announce report)
  dropAudio : Work.Upholds I Work.dropAudio
  issue : ∀ order, order.isRoutine = true → Work.Upholds I (issue order)
  record : ∀ report now,
    Work.Upholds I (Work.update fun s => { s with survey := s.survey.record report now })
  abandonDial : Work.Upholds I abandonDial

/-- Nor does asking for the list of calls. -/
structure Chores (I : Desk Handsfree AlarmKind → Prop) : Prop extends Routine I where
  queryCalls : Work.Upholds I queryCalls

/-- To enter and announce a dialled call does not spoil `I`. -/
def Enters (I : Desk Handsfree AlarmKind → Prop) : Prop :=
  ∀ desk number now call survey, desk.session.survey.dial number now = .ok (call, survey) →
    I desk → I { desk with
      session := { desk.session with survey := survey }
      log := desk.log ++ [.notice (.report (.callChanged call))] }

/-- No act of the profile spoils `I`. -/
structure Acts (I : Desk Handsfree AlarmKind → Prop) : Prop extends Chores I where
  enter : Enters I
  order : ∀ number, Work.Upholds I (Handsfree.issue (.dial number))
  strike : Work.Upholds I (Work.update fun s => { s with ledger := s.ledger.resolve.2 })

theorem upholds_issueQuietly {I : Desk Handsfree AlarmKind → Prop} {order : Order}
    (hissue : Work.Upholds I (issue order)) : Work.Upholds I (issueQuietly order) :=
  .bind hissue fun _ => .pure _

theorem upholds_requiring {I : Desk Handsfree AlarmKind → Prop} {ability : UInt32}
    {operation : String} {next : Work Handsfree AlarmKind Verdict} (hnext : Work.Upholds I next) :
    Work.Upholds I (requiring ability operation next) :=
  .bind .session fun _ => .ite (fun _ => hnext) fun _ => .pure _

theorem upholds_control {I : Desk Handsfree AlarmKind → Prop} {operation : String}
    {choose : Roster → Option CallControl} {order : CallControl → Order}
    (hissue : ∀ action, Work.Upholds I (issue (order action))) :
    Work.Upholds I (control operation choose order) := by
  refine .bind .session fun s => ?_
  cases choose s.roster with
  | none => exact .pure _
  | some action => exact hissue action

/-- To ask for the list of calls upholds what putting it off and asking do not spoil. -/
theorem upholds_queryCalls {I : Desk Handsfree AlarmKind → Prop}
    (hput : ∀ desk deadline, I desk → I (putOff desk deadline))
    (hask : ∀ view desk, I desk →
      (issue .queryCalls).Yields view (asking desk view.now) fun _ after => I after) :
    Work.Upholds I queryCalls := by
  intro view desk hI
  rw [yields_queryCalls]
  split
  · exact hput desk _ hI
  · split
    · exact hput desk _ hI
    · exact hask view desk hI

/-- A change of the audio upholds what announcing the way of the sound and dropping the audio do not
spoil. -/
theorem upholds_onAudio {I : Desk Handsfree AlarmKind → Prop}
    (hrouted : ∀ routed, Work.Upholds I (Work.update fun s => { s with routed := routed }))
    (hannounce : ∀ update, Work.Upholds I (Work.announce (.audioRoute update)))
    (hdrop : Work.Upholds I Work.dropAudio) (previous current : AudioState) (wideband : Bool) :
    Work.Upholds I (onAudio previous current wideband) := by
  refine .bind .session fun s => .ite (fun _ => .ite (fun _ => ?_) fun _ => hdrop) fun _ => ?_
  · exact .bind (hrouted true) fun _ => hannounce _
  · exact .ite (fun _ => .bind (hrouted false) fun _ => hannounce _) fun _ => .pure _

/-- A request to control the calls upholds what the orders that control them uphold. -/
theorem upholds_onRequest_control {I : Desk Handsfree AlarmKind → Prop}
    (hissue : ∀ order, order.isControl = true → Work.Upholds I (issue order)) {request : Request}
    (hcontrol : request.isControl = true) : Work.Upholds I (onRequest request) := by
  cases request with
  | accept mode => exact upholds_control fun _ => hissue _ rfl
  | reject => exact upholds_control fun _ => hissue _ rfl
  | hold => exact upholds_control fun _ => hissue _ rfl
  | terminate number =>
      have hending : Work.Upholds I (control "terminate" (·.terminate number) .terminate) :=
        upholds_control fun _ => hissue _ rfl
      exact .ite (fun _ => upholds_requiring hending) fun _ => hending
  | privateMode number => exact upholds_requiring (upholds_control fun _ => hissue _ rfl)
  | transfer => exact upholds_requiring (upholds_control fun _ => hissue _ rfl)
  | _ => cases hcontrol

/-- To dial upholds what entering the call, ordering it, asking for the list of calls and giving the
call up do not spoil. -/
theorem upholds_dial {I : Desk Handsfree AlarmKind → Prop} (henter : Enters I)
    (horder : ∀ number, Work.Upholds I (issue (.dial number)))
    (hquery : Work.Upholds I queryCalls) (habandon : Work.Upholds I abandonDial)
    (number : String) : Work.Upholds I (dial number) := by
  intro view desk hI
  rw [yields_dial]
  split
  · exact hI
  · split
    · exact hI
    · next call survey hdial =>
        have hentered : I (entered desk call survey) :=
          henter desk number view.now call survey hdial hI
        refine Work.yields_mono (horder number view _ hentered) ?_
        intro verdict after hafter
        cases verdict with
        | ok _ => exact hquery view after hafter
        | error fault => exact habandon view after hafter

/-- An answer upholds what striking out the oldest order does not spoil, if the answer to whatever
order that is does not. -/
theorem upholds_onCommandResult {I : Desk Handsfree AlarmKind → Prop}
    (hstrike : Work.Upholds I (Work.update fun s => { s with ledger := s.ledger.resolve.2 }))
    {outcome : Outcome} {code : Option Nat}
    (hanswer : ∀ order, Work.Upholds I (onAnswer order outcome code)) :
    Work.Upholds I (onCommandResult outcome code) := by
  intro view desk hI
  have hstruck : I (struck desk) := hstrike view desk hI
  rw [yields_onCommandResult]
  cases desk.session.ledger.front? with
  | none => exact hstruck
  | some order => exact hanswer order view _ hstruck

/-- The answer to an order to accept a call upholds what accepting it in another way and announcing
the failure do not spoil. -/
theorem upholds_onAcceptResult {I : Desk Handsfree AlarmKind → Prop} {outcome : Outcome}
    {code : Option Nat} (hissue : ∀ action mode, Work.Upholds I (issue (.accept action mode true)))
    (hsurface : Work.Upholds I (surface outcome code)) (action : CallControl) (mode : AcceptMode)
    (retried : Bool) : Work.Upholds I (onAcceptResult action mode retried outcome code) := by
  refine .ite (fun _ => .pure _) fun _ => .bind .session fun s => ?_
  cases retryFor s action retried with
  | some alternative => exact hissue alternative mode
  | none => exact .bind hsurface fun _ => .ite (fun _ => .pure _) fun _ => .pure _

namespace Slight

variable {I : Desk Handsfree AlarmKind → Prop} (h : Slight I)

include h

/-! ### Requests -/

theorem upholds_announceInfo (info : GatewayInfo) : Work.Upholds I (announceInfo info) :=
  h.announce _ (fun _ => Report.noConfusion) fun _ => Report.noConfusion

theorem upholds_setEcho (echo : Bool) (channel : VolumeChannel) :
    Work.Upholds I (Work.update (setEcho · echo channel)) := by
  refine h.note _ ?_
  cases channel with
  | speaker =>
      exact ⟨⟨fun _ => rfl, fun _ => rfl, fun _ => rfl, fun _ => rfl⟩, fun _ => rfl, fun _ => rfl,
        fun _ => rfl⟩
  | microphone =>
      exact ⟨⟨fun _ => rfl, fun _ => rfl, fun _ => rfl, fun _ => rfl⟩, fun _ => rfl, fun _ => rfl,
        fun _ => rfl⟩

theorem upholds_setVoiceRecognition (active : Bool) :
    Work.Upholds I (setVoiceRecognition active) := by
  refine .bind .session fun s => .ite (fun _ => .pure _) fun _ => ?_
  refine .ite (fun _ => .pure _) fun _ => ?_
  cases active with
  | true => exact h.issue _ rfl rfl
  | false => exact h.issue _ rfl rfl

theorem upholds_setVolume (channel : VolumeChannel) (level : Nat) :
    Work.Upholds I (setVolume channel level) := by
  refine .ite (fun _ => .pure _) fun _ => .bind .session fun s => .ite (fun _ => ?_) fun _ => ?_
  · exact .bind (h.upholds_setEcho false channel) fun _ => .pure _
  · exact h.issue _ rfl rfl

/-- A request upholds what no slight act spoils, if those to dial, to ask for the list of calls, to
control the calls and to let their sound come here do. -/
theorem upholds_onRequest (request : Request)
    (hdial : ∀ number, request = .dial number → Work.Upholds I (dial number))
    (hquery : request = .queryCalls → Work.Upholds I queryCalls)
    (hcontrol : request.isControl = true → Work.Upholds I (onRequest request))
    (hallow : ∀ allowed, request = .allowAudioRoute allowed →
      Work.Upholds I (allowAudioRoute allowed)) : Work.Upholds I (onRequest request) := by
  cases request with
  | dial number => exact hdial number rfl
  | accept _ | reject | hold | terminate _ => exact hcontrol rfl
  | privateMode _ | transfer => exact hcontrol rfl
  | sendTone code => exact .ite (fun _ => h.issue _ rfl rfl) fun _ => .pure _
  | startVoiceRecognition => exact h.upholds_setVoiceRecognition true
  | stopVoiceRecognition => exact h.upholds_setVoiceRecognition false
  | setSpeakerVolume level => exact h.upholds_setVolume .speaker level
  | setMicrophoneVolume level => exact h.upholds_setVolume .microphone level
  | allowAudioRoute allowed => exact .bind (hallow allowed rfl) fun _ => .pure _
  | queryCalls => exact hquery rfl
  | queryOperator => exact h.issue _ rfl rfl

/-! ### Events -/

theorem upholds_surface (outcome : Outcome) (code : Option Nat) :
    Work.Upholds I (surface outcome code) :=
  h.announce _ (fun _ => Report.noConfusion) fun _ => Report.noConfusion

theorem upholds_onDialResult (outcome : Outcome) (code : Option Nat) :
    Work.Upholds I (onDialResult outcome code) := by
  refine .ite (fun _ => .pure _) fun _ => ?_
  exact .bind h.abandonDial fun _ => h.upholds_surface outcome code

theorem upholds_onVoiceResult (active : Bool) (outcome : Outcome) (code : Option Nat) :
    Work.Upholds I (onVoiceResult active outcome code) := by
  refine .ite (fun _ => ?_) fun _ => h.upholds_surface outcome code
  refine .bind .session fun s => .ite (fun _ => ?_) fun _ => .pure _
  refine .bind (h.note _ ?_) fun _ => h.upholds_announceInfo _
  exact ⟨⟨fun _ => rfl, fun _ => rfl, fun _ => rfl, fun _ => rfl⟩, fun _ => rfl, fun _ => rfl,
    fun _ => rfl⟩

/-- The answer to an order upholds what no slight act spoils, if the end of a list of calls and the
answer to an order to accept a call do. -/
theorem upholds_onAnswer (order : Order) (outcome : Outcome) (code : Option Nat)
    (hfinish : order = .queryCalls → Work.Upholds I finishQuery)
    (haccept : ∀ action mode retried, order = .accept action mode retried →
      Work.Upholds I (onAcceptResult action mode retried outcome code)) :
    Work.Upholds I (onAnswer order outcome code) := by
  have hsurfaced : Work.Upholds I (do
      surfaceFailure outcome code
      return .ok () : Work Handsfree AlarmKind Verdict) := by
    refine .bind ?_ fun _ => .pure _
    exact .ite (fun _ => .pure _) fun _ => h.upholds_surface outcome code
  cases order with
  | accept action mode retried => exact haccept action mode retried rfl
  | dial number => exact .bind (h.upholds_onDialResult outcome code) fun _ => .pure _
  | reject action | hold action | terminate action => exact hsurfaced
  | privateMode number => exact hsurfaced
  | transfer => exact hsurfaced
  | sendTone key => exact hsurfaced
  | disableNoiseReduction | querySubscriber | queryOperator => exact .pure _
  | setVolume channel level => exact .pure _
  | startVoiceRecognition => exact .bind (h.upholds_onVoiceResult true _ _) fun _ => .pure _
  | stopVoiceRecognition => exact .bind (h.upholds_onVoiceResult false _ _) fun _ => .pure _
  | queryCalls => exact hfinish rfl

theorem upholds_onServiceChanged (available : Bool) :
    Work.Upholds I (onServiceChanged available) := by
  refine .bind (h.note _ ?_) fun _ => .bind (h.upholds_announceInfo _) fun _ => ?_
  · exact ⟨⟨fun _ => rfl, fun _ => rfl, fun _ => rfl, fun _ => rfl⟩, fun _ => rfl, fun _ => rfl,
      fun _ => rfl⟩
  refine .ite (fun _ => h.issue _ rfl rfl) fun _ => .bind .session fun s => ?_
  refine .ite (fun _ => ?_) fun _ => .pure _
  refine .bind (h.note _ ?_) fun _ => .bind (h.upholds_announceInfo _) fun _ => .pure _
  exact ⟨⟨fun _ => rfl, fun _ => rfl, fun _ => rfl, fun _ => rfl⟩, fun _ => rfl, fun _ => rfl,
    fun _ => rfl⟩

theorem upholds_onNetworkIndicator (kind : NetworkIndicator) (value : Nat) :
    Work.Upholds I (onNetworkIndicator kind value) := by
  cases kind with
  | serviceAvailable => exact h.upholds_onServiceChanged _
  | roaming => exact .bind (h.upholds_announceInfo _) fun _ => .pure _
  | signalStrength => exact .bind (h.upholds_announceInfo _) fun _ => .pure _
  | batteryLevel => exact .bind (h.upholds_announceInfo _) fun _ => .pure _

/-- An event upholds what no slight act spoils, if an answer, a report about a call and asking for
the list of calls do. -/
theorem upholds_onEvent (event : Event)
    (hindicator : ∀ kind value, event = .callIndicator kind value → Work.Upholds I queryCalls)
    (hanswer : ∀ outcome code, event = .commandResult outcome code →
      Work.Upholds I (onCommandResult outcome code))
    (hlisted : ∀ report, event = .callListed report →
      Work.Upholds I (onEvent (.callListed report))) : Work.Upholds I (onEvent event) := by
  -- what the gateway says of itself is noted and announced
  have hnoted (f : Handsfree → Handsfree) (info : GatewayInfo) (hf : Remark f) :
      Work.Upholds I (do
        Work.update f
        announceInfo info
        return .ok () : Work Handsfree AlarmKind Verdict) :=
    .bind (h.note f hf) fun _ => .bind (h.upholds_announceInfo info) fun _ => .pure _
  cases event with
  | callIndicator kind value => exact hindicator kind value rfl
  | callListed report => exact hlisted report rfl
  | commandResult outcome code => exact hanswer outcome code rfl
  | networkIndicator kind value => exact h.upholds_onNetworkIndicator kind value
  | volumeChanged channel level =>
      refine .bind (h.upholds_setEcho true channel) fun _ => .bind (h.announce _ ?_ ?_) fun _ => ?_
      · exact fun _ => Report.noConfusion
      · exact fun _ => Report.noConfusion
      · exact .pure _
  | operatorName name =>
      exact hnoted _ _ ⟨⟨fun _ => rfl, fun _ => rfl, fun _ => rfl, fun _ => rfl⟩, fun _ => rfl,
        fun _ => rfl, fun _ => rfl⟩
  | subscriberNumber number =>
      exact hnoted _ _ ⟨⟨fun _ => rfl, fun _ => rfl, fun _ => rfl, fun _ => rfl⟩, fun _ => rfl,
        fun _ => rfl, fun _ => rfl⟩
  | voiceRecognition active =>
      exact hnoted _ _ ⟨⟨fun _ => rfl, fun _ => rfl, fun _ => rfl, fun _ => rfl⟩, fun _ => rfl,
        fun _ => rfl, fun _ => rfl⟩
  | inBandRing enabled =>
      exact hnoted _ _ ⟨⟨fun _ => rfl, fun _ => rfl, fun _ => rfl, fun _ => rfl⟩, fun _ => rfl,
        fun _ => rfl, fun _ => rfl⟩
  | codecChanged status => exact .bind .read fun _ => .pure _
  | linkChanged report capabilities => exact .bind .read fun _ => .pure _
  | audioChanged report => exact .bind .read fun _ => .pure _

/-! ### The other occasions -/

theorem upholds_onConnected : Work.Upholds I onConnected := by
  refine .bind .session fun s => .ite (fun _ => ?_) fun _ => ?_
  · refine .bind (upholds_issueQuietly (h.issue _ rfl rfl)) fun _ => ?_
    exact upholds_issueQuietly (h.issue _ rfl rfl)
  · exact upholds_issueQuietly (h.issue _ rfl rfl)

end Slight

/-- An event upholds what no minor act spoils, if an answer and asking for the list of calls do. -/
theorem Minor.upholds_onEvent {I : Desk Handsfree AlarmKind → Prop} (h : Minor I) (event : Event)
    (hindicator : ∀ kind value, event = .callIndicator kind value → Work.Upholds I queryCalls)
    (hanswer : ∀ outcome code, event = .commandResult outcome code →
      Work.Upholds I (onCommandResult outcome code)) : Work.Upholds I (onEvent event) :=
  h.toSlight.upholds_onEvent event hindicator hanswer fun report _ =>
    .bind .now fun now => .bind (h.record report now) fun _ => .pure _

namespace Routine

variable {I : Desk Handsfree AlarmKind → Prop} (h : Routine I)

include h

theorem minor : Minor I where
  note f hf := h.note f hf.toAside
  announce report hother _ := h.announce report hother
  issue order hroutine _ := h.issue order hroutine
  record := h.record
  abandonDial := h.abandonDial

theorem upholds_allowAudioRoute (allowed : Bool) : Work.Upholds I (allowAudioRoute allowed) := by
  refine .bind .read fun view => .bind (h.note _ ?_) fun _ => ?_
  · exact ⟨fun _ => rfl, fun _ => rfl, fun _ => rfl, fun _ => rfl⟩
  · exact .ite (fun _ => h.dropAudio) fun _ => .pure _

/-- A request upholds what no act spoils, if dialling and asking for the list of calls do. -/
theorem upholds_onRequest (request : Request)
    (hdial : ∀ number, request = .dial number → Work.Upholds I (dial number))
    (hquery : request = .queryCalls → Work.Upholds I queryCalls) :
    Work.Upholds I (onRequest request) := by
  refine h.minor.upholds_onRequest request hdial hquery ?_ fun allowed _ =>
    h.upholds_allowAudioRoute allowed
  refine upholds_onRequest_control fun order hcontrol => h.issue order ?_
  cases order with
  | queryCalls | dial _ => cases hcontrol
  | _ => rfl

/-- The answer to an order upholds what no act spoils, if the end of a list of calls does. -/
theorem upholds_onAnswer (order : Order) (outcome : Outcome) (code : Option Nat)
    (hfinish : order = .queryCalls → Work.Upholds I finishQuery) :
    Work.Upholds I (onAnswer order outcome code) :=
  h.minor.upholds_onAnswer order outcome code hfinish fun action mode retried _ =>
    upholds_onAcceptResult (fun _ _ => h.issue _ rfl) (h.minor.upholds_surface outcome code) action
      mode retried

/-- An event upholds what no act spoils, if an answer and asking for the list of calls do. -/
theorem upholds_onEvent (event : Event)
    (hindicator : ∀ kind value, event = .callIndicator kind value → Work.Upholds I queryCalls)
    (hanswer : ∀ outcome code, event = .commandResult outcome code →
      Work.Upholds I (onCommandResult outcome code)) : Work.Upholds I (onEvent event) :=
  h.minor.upholds_onEvent event hindicator hanswer

theorem upholds_onConnected : Work.Upholds I onConnected := h.minor.upholds_onConnected

theorem upholds_onAudio (previous current : AudioState) (wideband : Bool) :
    Work.Upholds I (onAudio previous current wideband) := by
  have haside (routed : Bool) : Aside fun s => { s with routed := routed } :=
    ⟨fun _ => rfl, fun _ => rfl, fun _ => rfl, fun _ => rfl⟩
  exact Handsfree.upholds_onAudio (fun routed => h.note _ (haside routed))
    (fun _ => h.announce _ fun _ => Report.noConfusion) h.dropAudio previous current wideband

end Routine

namespace Chores

variable {I : Desk Handsfree AlarmKind → Prop} (h : Chores I)

include h

/-- A request upholds what no act spoils, if dialling does. -/
theorem upholds_onRequest (request : Request)
    (hdial : ∀ number, request = .dial number → Work.Upholds I (dial number)) :
    Work.Upholds I (onRequest request) :=
  h.toRoutine.upholds_onRequest request hdial fun _ => h.queryCalls

/-- To dial upholds what no act spoils, if entering the call and ordering it do not spoil it
either. -/
theorem upholds_dial (henter : Enters I) (horder : ∀ number, Work.Upholds I (issue (.dial number)))
    (number : String) : Work.Upholds I (dial number) :=
  Handsfree.upholds_dial henter horder h.queryCalls h.abandonDial number

/-- An event upholds what no act spoils, if an answer does. -/
theorem upholds_onEvent (event : Event)
    (hanswer : ∀ outcome code, event = .commandResult outcome code →
      Work.Upholds I (onCommandResult outcome code)) : Work.Upholds I (onEvent event) :=
  h.toRoutine.upholds_onEvent event (fun _ _ _ => h.queryCalls) hanswer

/-- What no act spoils is upheld on every occasion, if dialling, an answer and the end of the link
uphold it. -/
theorem profile (hdial : ∀ number, Work.Upholds I (dial number))
    (hanswer : ∀ outcome code, Work.Upholds I (onCommandResult outcome code))
    (hdisconnected : Work.Upholds I onDisconnected) : ProfileUpholds Handsfree I where
  onConnected := h.upholds_onConnected
  onDisconnected := hdisconnected
  onAudioChanged := h.upholds_onAudio
  onEvent event := h.upholds_onEvent event fun outcome code _ => hanswer outcome code
  onRequest request := h.upholds_onRequest request fun number _ => hdial number
  onAlarm kind := match kind with
    | .poll => h.queryCalls

end Chores

namespace Acts

variable {I : Desk Handsfree AlarmKind → Prop} (h : Acts I)

include h

theorem upholds_dial (number : String) : Work.Upholds I (dial number) :=
  h.toChores.upholds_dial h.enter h.order number

/-- An answer upholds what no act spoils, unless it ends a list of calls and the end of the list
does not. -/
theorem upholds_onCommandResult (outcome : Outcome) (code : Option Nat)
    (hfinish : Work.Upholds I finishQuery) : Work.Upholds I (onCommandResult outcome code) :=
  Handsfree.upholds_onCommandResult h.strike fun order =>
    h.upholds_onAnswer order outcome code fun _ => hfinish

/-- **What no act and neither end spoils is upheld on every occasion.** -/
theorem profile (hfinish : Work.Upholds I finishQuery)
    (hdisconnected : Work.Upholds I onDisconnected) : ProfileUpholds Handsfree I :=
  h.toChores.profile h.upholds_dial (fun _ _ => h.upholds_onCommandResult _ _ hfinish)
    hdisconnected

end Acts

end AudioLink.Handsfree
