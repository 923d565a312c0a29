/-
**Both profiles are impartial.**

What a profile keeps of the past falls into two parts.  One is never looked at again, or only for
show: how many commands were sent in all, which priorities were assigned last, and which handles the
calls have.  The other decides what the profile does.  Two states are alike when they agree in the
second part, and then the profile makes the same of both, on every occasion.

Main definitions:

* `AudioLink.Stream.Alike`, `AudioLink.Handsfree.Alike` — two states of a profile that agree in all
  that decides what it does.

Main results:

* `AudioLink.Stream.impartial` — **streaming is impartial**;
* `AudioLink.Handsfree.impartial` — **so is handsfree**, if no two handles are paired with the same
  one.
-/

import AudioLink.Proofs.Likeness.Steps
import AudioLink.Handsfree.Profile
import AudioLink.Stream

set_option relaxedAutoImplicit false
set_option autoImplicit false

namespace AudioLink

variable {pairs : CallHandle → CallHandle → Prop}

/-! ### Ledgers -/

section Ledgers

variable {α : Type} {ledger twin : Ledger α} (hpending : ledger.pending = twin.pending)

include hpending

/-- Whether a command is taken does not depend on what was counted. -/
theorem issue_alike [Outlined α] (action : α) (now : Instant) (accepted : Bool) :
    (ledger.issue action now accepted).1 = (twin.issue action now accepted).1 ∧
      (ledger.issue action now accepted).2.pending = (twin.issue action now accepted).2.pending := by
  cases accepted with
  | true => simp only [Ledger.issue, hpending, ↓reduceIte, and_self]
  | false => exact ⟨rfl, hpending⟩

/-- Nor does to whom an answer belongs. -/
theorem resolve_alike : ledger.resolve.1 = twin.resolve.1 ∧
    ledger.resolve.2.pending = twin.resolve.2.pending := by
  unfold Ledger.resolve
  rw [hpending]
  cases twin.pending <;> exact ⟨rfl, rfl⟩

end Ledgers

/-! ### Streaming -/

namespace Stream

/-- Two states that differ in nothing but what was counted and which priorities were assigned
last. -/
def Alike (s twin : Stream) : Prop :=
  ∃ table ledger, s.ledger.pending = ledger.pending ∧
    twin = { s with table := table, ledger := ledger }

variable {s twin : Stream}

theorem Alike.refl (s : Stream) : s.Alike s := ⟨s.table, s.ledger, rfl, rfl⟩

/-- What does not touch the commands and the priorities leaves alike. -/
theorem alike_note {f : Stream → Stream} (hf : ∀ s table ledger,
    f { s with table := table, ledger := ledger } =
      { f s with table := table, ledger := ledger }) :
    Work.Alike pairs Alike (Work.update f : Work Stream Empty Unit) (Work.update f) := by
  refine .update ?_
  rintro s _ ⟨table, ledger, hpending, rfl⟩
  have hkept := congrArg Stream.ledger (hf s s.table s.ledger)
  exact ⟨table, ledger, (congrArg Ledger.pending hkept).trans hpending, hf s table ledger⟩

theorem alike_issue (order : Order) : Work.Alike pairs Alike (issue order) (issue order) := by
  refine .bind (.send _) fun accepted => .bind .now fun now => .bind_session ?_
  rintro s _ ⟨table, ledger, hpending, rfl⟩
  obtain ⟨hverdict, hlater⟩ := issue_alike hpending order now accepted
  dsimp only
  rw [hverdict]
  refine .bind (.update ?_) fun _ => .pure _
  rintro s _ ⟨table, _, -, rfl⟩
  exact ⟨table, _, hlater, rfl⟩

/-! #### Occasions -/

theorem alike_onCodecChanged (status : CodecStatus) :
    Work.Alike pairs Alike (onCodecChanged status) (onCodecChanged status) := by
  refine .bind_session ?_
  rintro s _ ⟨table, ledger, hpending, rfl⟩
  refine .bind (.announce rfl) fun _ => ?_
  refine .ite Iff.rfl (fun _ => .bind (.announce rfl) fun _ => ?_) fun _ => ?_
  · exact alike_note fun _ _ _ => rfl
  · exact alike_note fun _ _ _ => rfl

theorem alike_onCommandResult (outcome : Outcome) (code : Option Nat) :
    Work.Alike pairs Alike (onCommandResult outcome code) (onCommandResult outcome code) := by
  refine .bind_session ?_
  rintro s _ ⟨table, ledger, hpending, rfl⟩
  obtain ⟨horder, hlater⟩ := resolve_alike hpending
  dsimp only
  rw [horder]
  refine .bind (.update ?_) fun _ => .ite Iff.rfl (fun _ => .announce rfl) fun _ => .pure _
  rintro s _ ⟨table, _, -, rfl⟩
  exact ⟨table, _, hlater, rfl⟩

theorem alike_onAudio (current : AudioState) :
    Work.Alike pairs Alike (onAudio current) (onAudio current) := by
  refine .bind_session ?_
  rintro s _ ⟨table, ledger, hpending, rfl⟩
  refine .ite Iff.rfl (fun _ => ?_) fun _ => .pure _
  exact .bind (alike_note fun _ _ _ => rfl) fun _ => .announce rfl

theorem alike_preferCodec (config : CodecConfig) :
    Work.Alike pairs Alike (preferCodec config) (preferCodec config) := by
  refine .bind_session ?_
  rintro s _ ⟨table, ledger, hpending, rfl⟩
  dsimp only
  cases config.decision s.status with
  | apply configs => exact alike_issue _
  | unchanged | incomplete | notSelectable => exact .pure _

/-- To switch the optional codecs, the priorities are assigned anew; a list is sent if it is
needed. -/
theorem alike_switchOptional {table twinTable : Stream → CodecTable}
    {configs : Option (List CodecConfig)} {order : List CodecConfig → Order} :
    Work.Alike pairs Alike
      (do
        Work.update fun s => { s with table := table s }
        match configs with
        | some configs => issue (order configs)
        | none => return .ok ())
      (do
        Work.update fun s => { s with table := twinTable s }
        match configs with
        | some configs => issue (order configs)
        | none => return .ok ()) := by
  refine .bind (.update ?_) fun _ => ?_
  · rintro s _ ⟨_, ledger, hpending, rfl⟩
    exact ⟨_, ledger, hpending, rfl⟩
  · cases configs with
    | some configs => exact alike_issue _
    | none => exact .pure _

theorem alike_enableOptional : Work.Alike pairs Alike enableOptional enableOptional := by
  refine .bind_read fun view twinView hview => .bind_session ?_
  rintro s _ ⟨table, ledger, hpending, rfl⟩
  have hconfigs : (s.table.enableOptional view.preferences.codecs s.current).1 =
      (table.enableOptional twinView.preferences.codecs s.current).1 := by
    rw [hview.scene.preferences, CodecTable.enableOptional, CodecTable.enableOptional]
    split <;> rfl
  dsimp only [current] at hconfigs ⊢
  rw [hconfigs]
  exact alike_switchOptional

theorem alike_disableOptional : Work.Alike pairs Alike disableOptional disableOptional := by
  refine .bind_read fun view twinView hview => .bind_session ?_
  rintro s _ ⟨table, ledger, hpending, rfl⟩
  have hconfigs : (s.table.disableOptional view.preferences.codecs s.current).1 =
      (table.disableOptional twinView.preferences.codecs s.current).1 := by
    rw [hview.scene.preferences, CodecTable.disableOptional, CodecTable.disableOptional]
    split <;> rfl
  dsimp only [current] at hconfigs ⊢
  rw [hconfigs]
  exact alike_switchOptional

/-- **Streaming is impartial.** -/
theorem impartial : Impartial pairs fun (_ : Prop) => Alike where
  weaken _ h := h
  patience h := by
    obtain ⟨table, ledger, -, rfl⟩ := h
    rfl
  onLinkUp h _ := ⟨rfl, h⟩
  onConnected := .bind (alike_note fun _ _ _ => rfl) fun _ => .announce rfl
  onDisconnected _ := by
    refine .update ?_
    rintro s _ ⟨table, ledger, -, rfl⟩
    exact ⟨table, ledger.clear, rfl, rfl⟩
  onAudioChanged _ _ current _ := alike_onAudio current
  onEvent _ event := by
    have hunexpected : Work.Alike pairs Alike (do
        let view ← read
        return .error (.unexpected view.link event.title) : Work Stream Empty Verdict) (do
        let view ← read
        return .error (.unexpected view.link event.title)) :=
      .bind_read fun view twinView hview => hview.link ▸ .pure _
    cases event with
    | codecChanged status => exact .bind (alike_onCodecChanged status) fun _ => .pure _
    | commandResult outcome code =>
        exact .bind (alike_onCommandResult outcome code) fun _ => .pure _
    | _ => exact hunexpected
  onRequest request := by
    cases request with
    | preferCodec config => exact alike_preferCodec config
    | enableOptional => exact alike_enableOptional
    | disableOptional => exact alike_disableOptional
  onAlarm kind := nomatch kind

end Stream

/-! ### Handsfree -/

namespace Handsfree

/-- Two states that differ in nothing but what was counted and the handles of calls; if `known`, not
even in what the gateway is able to do. -/
def Alike (pairs : CallHandle → CallHandle → Prop) (known : Prop) (s twin : Handsfree) : Prop :=
  ∃ ledger survey capabilities, s.ledger.pending = ledger.pending ∧ s.survey.Alike pairs survey ∧
    (known → s.capabilities = capabilities) ∧
    twin = { s with ledger := ledger, survey := survey, capabilities := capabilities }

variable {s twin : Handsfree} {known : Prop}

/-- What does not touch the commands, the calls and the abilities leaves alike. -/
theorem alike_note {f : Handsfree → Handsfree} (hf : ∀ s ledger survey capabilities,
    f { s with ledger := ledger, survey := survey, capabilities := capabilities } =
      { f s with ledger := ledger, survey := survey, capabilities := capabilities }) :
    Work.Alike pairs (Alike pairs known) (Work.update f : Work Handsfree AlarmKind Unit)
      (Work.update f) := by
  refine .update ?_
  rintro s _ ⟨ledger, survey, capabilities, hpending, hsurvey, hcapabilities, rfl⟩
  have hkept := hf s s.ledger s.survey s.capabilities
  refine ⟨ledger, survey, capabilities, ?_, ?_, ?_, hf s ledger survey capabilities⟩
  · exact (congrArg (·.ledger.pending) hkept).trans hpending
  · exact (congrArg Handsfree.survey hkept).symm ▸ hsurvey
  · exact fun h => (congrArg Handsfree.capabilities hkept).trans (hcapabilities h)

theorem alike_survey {f g : Handsfree → Survey}
    (hfg : ∀ s twin, Alike pairs known s twin → (f s).Alike pairs (g twin)) :
    Work.Alike pairs (Alike pairs known)
      (Work.update fun s => { s with survey := f s } : Work Handsfree AlarmKind Unit)
      (Work.update fun s => { s with survey := g s }) := by
  refine .update ?_
  rintro s _ halike
  have hsurvey := hfg _ _ halike
  obtain ⟨ledger, survey, capabilities, hpending, -, hcapabilities, rfl⟩ := halike
  exact ⟨ledger, _, capabilities, hpending, hsurvey, hcapabilities, rfl⟩

theorem Alike.roster (h : Alike pairs known s twin) : s.roster.Alike pairs twin.roster := by
  obtain ⟨ledger, survey, capabilities, -, hsurvey, -, rfl⟩ := h
  exact hsurvey.roster

/-! #### Acts -/

theorem alike_issue (order : Order) :
    Work.Alike pairs (Alike pairs known) (issue order) (issue order) := by
  refine .bind (.send _) fun accepted => .bind .now fun now => .bind_session ?_
  rintro s _ ⟨ledger, survey, capabilities, hpending, -, -, rfl⟩
  obtain ⟨hverdict, hlater⟩ := issue_alike hpending order now accepted
  dsimp only
  rw [hverdict]
  refine .bind (.update ?_) fun _ => .pure _
  rintro s _ ⟨_, survey, capabilities, -, hsurvey, hcapabilities, rfl⟩
  exact ⟨_, survey, capabilities, hlater, hsurvey, hcapabilities, rfl⟩

theorem alike_issueQuietly (order : Order) :
    Work.Alike pairs (Alike pairs known) (issueQuietly order) (issueQuietly order) :=
  .bind (alike_issue order) fun _ => .pure _

theorem alike_queryCalls : Work.Alike pairs (Alike pairs known) queryCalls queryCalls := by
  refine .bind (.disarm _) fun _ => .bind_session ?_
  rintro s _ ⟨ledger, survey, capabilities, hpending, -, -, rfl⟩
  refine .bind .now fun now => .ite ?_ (fun _ => ?_) fun _ => ?_
  · simp only [isQuerying, Ledger.actions, hpending]
  · exact .bind (.arm _ _) fun _ => .pure _
  · dsimp only [throttle]
    cases (s.nextQueryAt.filter (now < ·)).map (· - now) with
    | some delay => exact .bind (.arm _ _) fun _ => .pure _
    | none =>
        refine .bind (.update ?_) fun _ => alike_issue _
        rintro s _ ⟨ledger, survey, capabilities, hpending, hsurvey, hcapabilities, rfl⟩
        exact ⟨ledger, _, capabilities, hpending, hsurvey.begin, hcapabilities, rfl⟩

theorem alike_announceCalls {calls twins : List Call}
    (h : List.Forall₂ (Call.Alike pairs) calls twins) :
    Work.Alike pairs (Alike pairs known) (announceCalls calls) (announceCalls twins) :=
  .announceAll (List.forall₂_map_left_iff.2 (List.forall₂_map_right_iff.2 h))

theorem alike_announceInfo (info : GatewayInfo) :
    Work.Alike pairs (Alike pairs known) (announceInfo info) (announceInfo info) :=
  .announce rfl

theorem alike_abandonDial : Work.Alike pairs (Alike pairs known) abandonDial abandonDial := by
  refine .bind_session ?_
  rintro s _ ⟨ledger, survey, capabilities, -, hsurvey, -, rfl⟩
  obtain ⟨hcall, hlater⟩ := hsurvey.abandon
  exact .bind (alike_survey fun _ _ _ => hlater) fun _ => alike_announceCalls hcall

/-! #### Requests -/

theorem alike_dial (number : String) :
    Work.Alike pairs (Alike pairs known) (dial number) (dial number) := by
  refine .ite Iff.rfl (fun _ => .pure _) fun _ => .bind .now fun now => .bind_session ?_
  rintro s _ ⟨ledger, survey, capabilities, -, hsurvey, -, rfl⟩
  rcases hsurvey.dial number now with
    ⟨fault, hrefused, hrefused'⟩ | ⟨call, dialled, twinCall, twinDialled, hok, hok', hcall, hdialled⟩
  · dsimp only
    rw [hrefused, hrefused']
    exact .pure _
  · dsimp only
    rw [hok, hok']
    refine .bind (alike_survey fun _ _ _ => hdialled) fun _ => ?_
    refine .bind (alike_announceCalls (.cons hcall .nil)) fun _ => ?_
    refine .bind (alike_issue _) fun verdict => ?_
    cases verdict with
    | ok => exact alike_queryCalls
    | error fault => exact .bind alike_abandonDial fun _ => .pure _

theorem alike_control {operation : String} {choose : Roster → Option CallControl}
    {order : CallControl → Order}
    (hchoose : ∀ r twin : Roster, r.Alike pairs twin → choose r = choose twin) :
    Work.Alike pairs (Alike pairs known) (control operation choose order)
      (control operation choose order) := by
  refine .bind_session fun s twin halike => ?_
  rw [hchoose _ _ halike.roster]
  cases choose twin.roster with
  | some action => exact alike_issue _
  | none => exact .pure _

/-- What takes an ability is done alike if the ability is known. -/
theorem alike_requiring {ability : UInt32} {operation : String}
    {next : Work Handsfree AlarmKind Verdict}
    (hnext : Work.Alike pairs (Alike pairs True) next next) :
    Work.Alike pairs (Alike pairs True) (requiring ability operation next)
      (requiring ability operation next) := by
  refine .bind_session ?_
  rintro s _ ⟨ledger, survey, capabilities, -, -, hcapabilities, rfl⟩
  refine .ite ?_ (fun _ => hnext) fun _ => .pure _
  rw [hcapabilities trivial]

theorem alike_setVoiceRecognition (active : Bool) :
    Work.Alike pairs (Alike pairs True) (setVoiceRecognition active)
      (setVoiceRecognition active) := by
  refine .bind_session ?_
  rintro s _ ⟨ledger, survey, capabilities, -, -, hcapabilities, rfl⟩
  refine .ite ?_ (fun _ => .pure _) fun _ => .ite Iff.rfl (fun _ => .pure _) fun _ => alike_issue _
  rw [hcapabilities trivial]

theorem alike_setEcho (channel : VolumeChannel) (echo : Bool) :
    Work.Alike pairs (Alike pairs known)
      (Work.update (setEcho · echo channel) : Work Handsfree AlarmKind Unit)
      (Work.update (setEcho · echo channel)) := by
  cases channel <;> exact alike_note fun _ _ _ _ => rfl

theorem alike_setVolume (channel : VolumeChannel) (level : Nat) :
    Work.Alike pairs (Alike pairs known) (setVolume channel level) (setVolume channel level) := by
  refine .ite Iff.rfl (fun _ => .pure _) fun _ => .bind_session ?_
  rintro s _ ⟨ledger, survey, capabilities, -, -, -, rfl⟩
  refine .ite ?_ (fun _ => ?_) fun _ => alike_issue _
  · cases channel <;> exact Iff.rfl
  · exact .bind (alike_setEcho channel false) fun _ => .pure _

theorem alike_allowAudioRoute (allowed : Bool) :
    Work.Alike pairs (Alike pairs known) (allowAudioRoute allowed) (allowAudioRoute allowed) := by
  refine .bind_read fun view twinView hview => .bind (alike_note fun _ _ _ _ => rfl) fun _ => ?_
  exact .ite (by rw [hview.audio]) (fun _ => .dropAudio) fun _ => .pure _

theorem alike_onRequest (request : Request) :
    Work.Alike pairs (Alike pairs True) (onRequest request) (onRequest request) := by
  cases request with
  | dial number => exact alike_dial number
  | accept mode => exact alike_control fun _ _ h => h.acceptWith mode
  | reject => exact alike_control fun _ _ h => h.reject
  | hold => exact alike_control fun _ _ h => h.hold
  | terminate number =>
      have hending : Work.Alike pairs (Alike pairs True)
          (control "terminate" (·.terminate number) .terminate)
          (control "terminate" (·.terminate number) .terminate) :=
        alike_control fun _ _ h => h.terminate number
      exact .ite Iff.rfl (fun _ => alike_requiring hending) fun _ => hending
  | privateMode number =>
      exact alike_requiring (alike_control fun _ _ h => h.privateMode number)
  | transfer => exact alike_requiring (alike_control fun _ _ h => h.transfer)
  | sendTone code => exact .ite Iff.rfl (fun _ => alike_issue _) fun _ => .pure _
  | startVoiceRecognition => exact alike_setVoiceRecognition true
  | stopVoiceRecognition => exact alike_setVoiceRecognition false
  | setSpeakerVolume level => exact alike_setVolume .speaker level
  | setMicrophoneVolume level => exact alike_setVolume .microphone level
  | allowAudioRoute allowed => exact .bind (alike_allowAudioRoute allowed) fun _ => .pure _
  | queryCalls => exact alike_queryCalls
  | queryOperator => exact alike_issue _

/-! #### Events -/

theorem alike_surface (outcome : Outcome) (code : Option Nat) :
    Work.Alike pairs (Alike pairs known) (surface outcome code) (surface outcome code) :=
  .announce rfl

theorem alike_onAcceptResult (action : CallControl) (mode : AcceptMode) (retried : Bool)
    (outcome : Outcome) (code : Option Nat) :
    Work.Alike pairs (Alike pairs known) (onAcceptResult action mode retried outcome code)
      (onAcceptResult action mode retried outcome code) := by
  refine .ite Iff.rfl (fun _ => .pure _) fun _ => .bind_session fun s twin halike => ?_
  have hretry : retryFor s action retried = retryFor twin action retried := by
    have hroster := halike.roster
    obtain ⟨ledger, survey, capabilities, -, -, -, rfl⟩ := halike
    rw [retryFor, retryFor, hroster.hasState, hroster.fallback]
  rw [hretry]
  cases retryFor twin action retried with
  | some alternative => exact alike_issue _
  | none =>
      refine .bind (alike_surface outcome code) fun _ => ?_
      exact .ite Iff.rfl (fun _ => .pure _) fun _ => .pure _

theorem alike_onDialResult (outcome : Outcome) (code : Option Nat) :
    Work.Alike pairs (Alike pairs known) (onDialResult outcome code)
      (onDialResult outcome code) := by
  refine .ite Iff.rfl (fun _ => .pure _) fun _ => ?_
  exact .bind alike_abandonDial fun _ => alike_surface outcome code

theorem alike_onVoiceResult (active : Bool) (outcome : Outcome) (code : Option Nat) :
    Work.Alike pairs (Alike pairs known) (onVoiceResult active outcome code)
      (onVoiceResult active outcome code) := by
  refine .ite Iff.rfl (fun _ => .bind_session ?_) fun _ => alike_surface outcome code
  rintro s _ ⟨ledger, survey, capabilities, -, -, -, rfl⟩
  refine .ite Iff.rfl (fun _ => ?_) fun _ => .pure _
  exact .bind (alike_note fun _ _ _ _ => rfl) fun _ => alike_announceInfo _

theorem alike_finishQuery (hpairs : Relator.BiUnique pairs) :
    Work.Alike pairs (Alike pairs known) finishQuery finishQuery := by
  refine .bind .now fun now => .bind_session ?_
  rintro s _ ⟨ledger, survey, capabilities, -, hsurvey, -, rfl⟩
  obtain ⟨hchanged, hstuck, hpoll, hlater⟩ := hsurvey.complete hpairs now
  dsimp only
  refine .bind (alike_survey fun _ _ _ => hlater) fun _ => ?_
  rw [hstuck, hpoll]
  cases (survey.complete now).1.stuck with
  | some age =>
      refine .bind (alike_issueQuietly _) fun _ => .bind (alike_announceCalls hchanged) fun _ => ?_
      exact .bind (.disarm _) fun _ => .pure _
  | none =>
      refine .bind (alike_announceCalls hchanged) fun _ => ?_
      refine .ite Iff.rfl (fun _ => .bind (.isArmed _) fun armed => ?_) fun _ => ?_
      · refine .ite Iff.rfl (fun _ => .pure _) fun _ => .bind_session ?_
        rintro s _ ⟨ledger, survey, capabilities, -, -, -, rfl⟩
        exact .bind (.arm _ _) fun _ => .pure _
      · exact .bind (.disarm _) fun _ => .pure _

theorem alike_onAnswer (hpairs : Relator.BiUnique pairs) (order : Order) (outcome : Outcome)
    (code : Option Nat) :
    Work.Alike pairs (Alike pairs known) (onAnswer order outcome code)
      (onAnswer order outcome code) := by
  have hsurfaced : Work.Alike pairs (Alike pairs known) (do
      surfaceFailure outcome code
      return .ok () : Work Handsfree AlarmKind Verdict) (do
      surfaceFailure outcome code
      return .ok ()) := by
    refine .bind ?_ fun _ => .pure _
    exact .ite Iff.rfl (fun _ => .pure _) fun _ => alike_surface outcome code
  cases order with
  | accept action mode retried => exact alike_onAcceptResult action mode retried outcome code
  | dial number => exact .bind (alike_onDialResult outcome code) fun _ => .pure _
  | reject action | hold action | terminate action => exact hsurfaced
  | privateMode number => exact hsurfaced
  | transfer => exact hsurfaced
  | sendTone key => exact hsurfaced
  | disableNoiseReduction | querySubscriber | queryOperator => exact .pure _
  | setVolume channel level => exact .pure _
  | startVoiceRecognition => exact .bind (alike_onVoiceResult true _ _) fun _ => .pure _
  | stopVoiceRecognition => exact .bind (alike_onVoiceResult false _ _) fun _ => .pure _
  | queryCalls => exact alike_finishQuery hpairs

theorem alike_onCommandResult (hpairs : Relator.BiUnique pairs) (outcome : Outcome)
    (code : Option Nat) :
    Work.Alike pairs (Alike pairs known) (onCommandResult outcome code)
      (onCommandResult outcome code) := by
  refine .bind_session ?_
  rintro s _ ⟨ledger, survey, capabilities, hpending, -, -, rfl⟩
  obtain ⟨howner, hlater⟩ := resolve_alike hpending
  dsimp only
  rw [howner]
  refine .bind (.update ?_) fun _ => ?_
  · rintro s _ ⟨_, survey, capabilities, -, hsurvey, hcapabilities, rfl⟩
    exact ⟨_, survey, capabilities, hlater, hsurvey, hcapabilities, rfl⟩
  · cases ledger.resolve.1 with
    | some pending => exact alike_onAnswer hpairs pending.action outcome code
    | none => exact .pure _

theorem alike_onServiceChanged (available : Bool) :
    Work.Alike pairs (Alike pairs known) (onServiceChanged available)
      (onServiceChanged available) := by
  refine .bind (alike_note fun _ _ _ _ => rfl) fun _ => .bind (alike_announceInfo _) fun _ => ?_
  refine .ite Iff.rfl (fun _ => alike_issue _) fun _ => .bind_session ?_
  rintro s _ ⟨ledger, survey, capabilities, -, -, -, rfl⟩
  refine .ite Iff.rfl (fun _ => ?_) fun _ => .pure _
  exact .bind (alike_note fun _ _ _ _ => rfl) fun _ =>
    .bind (alike_announceInfo _) fun _ => .pure _

theorem alike_onNetworkIndicator (kind : NetworkIndicator) (value : Nat) :
    Work.Alike pairs (Alike pairs known) (onNetworkIndicator kind value)
      (onNetworkIndicator kind value) := by
  cases kind with
  | serviceAvailable => exact alike_onServiceChanged _
  | roaming => exact .bind (alike_announceInfo _) fun _ => .pure _
  | signalStrength => exact .bind (alike_announceInfo _) fun _ => .pure _
  | batteryLevel => exact .bind (alike_announceInfo _) fun _ => .pure _

theorem alike_onEvent (hpairs : Relator.BiUnique pairs) (event : Event) :
    Work.Alike pairs (Alike pairs known) (onEvent event) (onEvent event) := by
  have hunexpected : Work.Alike pairs (Alike pairs known) (do
      let view ← read
      return .error (.unexpected view.link event.title) : Work Handsfree AlarmKind Verdict) (do
      let view ← read
      return .error (.unexpected view.link event.title)) :=
    .bind_read fun view twinView hview => hview.link ▸ .pure _
  cases event with
  | callIndicator kind value => exact alike_queryCalls
  | callListed report =>
      refine .bind .now fun now => .bind (alike_survey ?_) fun _ => .pure _
      rintro s _ ⟨ledger, survey, capabilities, -, hsurvey, -, rfl⟩
      exact hsurvey.record report now
  | commandResult outcome code => exact alike_onCommandResult hpairs outcome code
  | networkIndicator kind value => exact alike_onNetworkIndicator kind value
  | volumeChanged channel level =>
      exact .bind (alike_setEcho channel true) fun _ => .bind (.announce rfl) fun _ => .pure _
  | operatorName name =>
      exact .bind (alike_note fun _ _ _ _ => rfl) fun _ =>
        .bind (alike_announceInfo _) fun _ => .pure _
  | subscriberNumber number =>
      exact .bind (alike_note fun _ _ _ _ => rfl) fun _ =>
        .bind (alike_announceInfo _) fun _ => .pure _
  | voiceRecognition active =>
      exact .bind (alike_note fun _ _ _ _ => rfl) fun _ =>
        .bind (alike_announceInfo _) fun _ => .pure _
  | inBandRing enabled =>
      exact .bind (alike_note fun _ _ _ _ => rfl) fun _ =>
        .bind (alike_announceInfo _) fun _ => .pure _
  | codecChanged status => exact hunexpected
  | linkChanged report capabilities => exact hunexpected
  | audioChanged report => exact hunexpected

/-! #### The other occasions -/

theorem alike_onConnected :
    Work.Alike pairs (Alike pairs True) onConnected onConnected := by
  refine .bind_session ?_
  rintro s _ ⟨ledger, survey, capabilities, -, -, hcapabilities, rfl⟩
  refine .ite ?_ (fun _ => ?_) fun _ => alike_issueQuietly _
  · rw [hcapabilities trivial]
  · exact .bind (alike_issueQuietly _) fun _ => alike_issueQuietly _

theorem alike_onDisconnected :
    Work.Alike pairs (Alike pairs known) onDisconnected onDisconnected := by
  refine .bind_session ?_
  rintro s _ ⟨ledger, survey, capabilities, -, hsurvey, -, rfl⟩
  obtain ⟨hended, hlater⟩ := hsurvey.endAll
  refine .bind (.update ?_) fun _ => .bind (alike_announceCalls hended) fun _ => ?_
  · rintro s _ ⟨ledger, survey, capabilities, -, -, hcapabilities, rfl⟩
    exact ⟨ledger.clear, _, capabilities, rfl, hlater, hcapabilities, rfl⟩
  · exact alike_note fun _ _ _ _ => rfl

theorem alike_onAudio (previous current : AudioState) (wideband : Bool) :
    Work.Alike pairs (Alike pairs known) (onAudio previous current wideband)
      (onAudio previous current wideband) := by
  refine .bind_session ?_
  rintro s _ ⟨ledger, survey, capabilities, -, -, -, rfl⟩
  refine .ite Iff.rfl (fun _ => .ite Iff.rfl (fun _ => ?_) fun _ => .dropAudio) fun _ => ?_
  · exact .bind (alike_note fun _ _ _ _ => rfl) fun _ => .announce rfl
  · refine .ite Iff.rfl (fun _ => ?_) fun _ => .pure _
    exact .bind (alike_note fun _ _ _ _ => rfl) fun _ => .announce rfl

/-- **Handsfree is impartial**, if no two handles are paired with the same one. -/
theorem impartial (hpairs : Relator.BiUnique pairs) : Impartial pairs (Alike pairs) where
  weaken hless h := by
    obtain ⟨ledger, survey, capabilities, hpending, hsurvey, hcapabilities, rfl⟩ := h
    exact ⟨ledger, survey, capabilities, hpending, hsurvey, hcapabilities ∘ hless, rfl⟩
  patience h := by
    obtain ⟨ledger, survey, capabilities, -, -, -, rfl⟩ := h
    rfl
  onLinkUp h capabilities := by
    obtain ⟨ledger, survey, _, hpending, hsurvey, -, rfl⟩ := h
    exact ⟨rfl, ledger, survey, capabilities, hpending, hsurvey, fun _ => rfl, rfl⟩
  onConnected := alike_onConnected
  onDisconnected _ := alike_onDisconnected
  onAudioChanged _ := alike_onAudio
  onEvent _ := alike_onEvent hpairs
  onRequest := alike_onRequest
  onAlarm kind := match kind with
    | .poll => alike_queryCalls

end Handsfree

end AudioLink
