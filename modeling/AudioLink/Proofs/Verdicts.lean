/-
**Faults that nothing ends with.**

When an errand ends with a fault, the user is told of it.  Most faults may come of many errands, and
a few of one only.  To know that such a fault comes of nothing else, it is enough to look at how the
work of the profile ends, whatever it does before, since what the link does itself ends with one of
four faults or with none.

Main definitions:

* `AudioLink.Verdict.isFault`, `AudioLink.tells` — a verdict is a fault of some kind, and the user
  is told of one;
* `AudioLink.Work.Spares` — work that never ends with a fault of some kind;
* `AudioLink.Fault.isCommon` — the faults that may come of many things that a profile does.

Main results:

* `AudioLink.Link.spares_onErrand` — a link spares what its profile spares;
* `AudioLink.Link.untold_hand`, `AudioLink.Link.untold_wake` — **what nothing ends with is never
  told**;
* `AudioLink.Handsfree.spares_onEvent`, `AudioLink.Handsfree.spares_onRequest` — what handsfree ends
  with.
-/

import AudioLink.Proofs.Handsfree.Desk
import AudioLink.Proofs.Link.Errands

set_option relaxedAutoImplicit false
set_option autoImplicit false

namespace AudioLink

variable {σ ρ τ α : Type} {kind : Fault → Bool}

/-- Whether a verdict is a fault of some kind. -/
def Verdict.isFault (kind : Fault → Bool) : Verdict → Bool
  | .ok _ => false
  | .error fault => kind fault

/-- Whether the user is told of a fault of some kind. -/
def tells (kind : Fault → Bool) : Effect → Bool
  | .notice (.requestFailed fault) => kind fault
  | _ => false

/-- The faults that may come of many things that a profile does: all but that something was out of
place, and that another way was tried in vain. -/
def Fault.isCommon : Fault → Bool
  | unexpected .. | retryExhausted _ => false
  | _ => true

/-! ### Work and steps -/

/-- The work never ends with a fault of some kind. -/
def Work.Spares (kind : Fault → Bool) (work : Work σ τ Verdict) : Prop :=
  ∀ view desk, work.Yields view desk fun verdict _ => Verdict.isFault kind verdict = false

namespace Work.Spares

theorem ok : Spares kind (return .ok () : Work σ τ Verdict) := fun _ _ => rfl

theorem error {fault : Fault} (h : kind fault = false) :
    Spares kind (return .error fault : Work σ τ Verdict) := fun _ _ => h

/-- Only how the work ends matters. -/
theorem after {work : Work σ τ α} {rest : α → Work σ τ Verdict} (h : ∀ a, Spares kind (rest a)) :
    Spares kind (work >>= rest) := fun view _ => h _ view _

theorem ite {c : Prop} [Decidable c] {yes no : Work σ τ Verdict} (hyes : Spares kind yes)
    (hno : Spares kind no) : Spares kind (if c then yes else no) := by
  split
  · exact hyes
  · exact hno

end Work.Spares

/-- The step never ends with a fault of some kind. -/
def Step.Spares (kind : Fault → Bool) (step : Step σ ρ τ Verdict) : Prop :=
  ∀ scene progress, step.Yields scene progress fun verdict _ =>
    Verdict.isFault kind verdict = false

namespace Step.Spares

theorem ok : Spares kind (return .ok () : Step σ ρ τ Verdict) := fun _ _ => rfl

theorem error {fault : Fault} (h : kind fault = false) :
    Spares kind (return .error fault : Step σ ρ τ Verdict) := fun _ _ => h

/-- Only how the step ends matters. -/
theorem after {step : Step σ ρ τ α} {rest : α → Step σ ρ τ Verdict}
    (h : ∀ a, Spares kind (rest a)) : Spares kind (step >>= rest) := fun scene _ => h _ scene _

theorem ite {c : Prop} [Decidable c] {yes no : Step σ ρ τ Verdict} (hyes : Spares kind yes)
    (hno : Spares kind no) : Spares kind (if c then yes else no) := by
  split
  · exact hyes
  · exact hno

theorem consult {work : Work σ τ Verdict} (h : work.Spares kind) :
    Spares kind (Step.consult work : Step σ ρ τ Verdict) := fun _ _ => h _ _

end Step.Spares

/-! ### Links -/

namespace Link

variable [ProfileSession σ ρ τ] [DecidableEq τ] [Outlined ρ]
  (hcommon : ∀ fault : Fault, fault.isCommon = true → kind fault = false)
  (hplace : ∀ state event, kind (.unexpected state event) = false)

include hcommon in
omit [Outlined ρ] in
theorem spares_onConnect : (onConnect : Step σ ρ τ Verdict).Spares kind := by
  refine .after fun link => ?_
  cases link.state with
  | disconnected => exact .after fun _ => .ite (.after fun _ => .ok) (.error (hcommon _ rfl))
  | connecting | disconnecting => exact .after fun _ => .ok
  | connected => exact .ok

include hcommon in
omit [Outlined ρ] in
theorem spares_onDisconnect : (onDisconnect : Step σ ρ τ Verdict).Spares kind := by
  refine .after fun link => .ite .ok (.after fun _ => .ite (.after fun _ => .ok) ?_)
  exact .after fun _ => .error (hcommon _ rfl)

include hcommon in
omit [DecidableEq τ] [Outlined ρ] in
theorem spares_onConnectAudio : (onConnectAudio : Step σ ρ τ Verdict).Spares kind := by
  refine .after fun link => .ite (.error (hcommon _ rfl)) (.ite .ok (.after fun _ => ?_))
  exact .ite (.after fun _ => .ok) (.error (hcommon _ rfl))

include hcommon in
omit [ProfileSession σ ρ τ] [DecidableEq τ] [Outlined ρ] in
theorem spares_onDisconnectAudio : (onDisconnectAudio : Step σ ρ τ Verdict).Spares kind := by
  refine .after fun link => .ite (.error (hcommon _ rfl)) (.ite .ok (.after fun _ => ?_))
  exact .ite .ok (.error (hcommon _ rfl))

include hplace in
omit [Outlined ρ] in
/-- What is reported to a link ends with what the profile ends with, or with the fault that it was
out of place. -/
theorem spares_onEvent {event : Event} (hevent : event.isForProfile = true →
      (ProfileSession.onEvent event : Work σ τ Verdict).Spares kind) :
    (onEvent event : Step σ ρ τ Verdict).Spares kind := by
  cases event with
  | linkChanged report capabilities => exact .after fun _ => .ok
  | audioChanged report =>
      exact .after fun link => .ite (.error (hplace _ _)) (.ite (.after fun _ => .ok) .ok)
  | _ => exact .after fun link => .ite (.error (hplace _ _)) (.consult (hevent rfl))

include hcommon in
omit [DecidableEq τ] in
theorem spares_onRequest {request : ρ}
    (hrequest : (ProfileSession.onRequest request : Work σ τ Verdict).Spares kind) :
    (onRequest request : Step σ ρ τ Verdict).Spares kind :=
  .after fun _ => .ite (.consult hrequest) (.error (hcommon _ rfl))

include hcommon in
omit [DecidableEq τ] [Outlined ρ] in
theorem spares_onAlarm {alarm : AlarmKind τ}
    (halarm : ∀ own, alarm = .session own →
      (ProfileSession.onAlarm own : Work σ τ Verdict).Spares kind) :
    (onAlarm alarm : Step σ ρ τ Verdict).Spares kind := by
  refine .after fun link => ?_
  cases alarm with
  | connect =>
      exact .ite (.after fun _ => .after fun _ => .error (hcommon _ rfl)) .ok
  | disconnect => exact .ite (.after fun _ => .ok) .ok
  | session own => exact .ite (.consult (halarm own rfl)) .ok

section Errands

include hcommon hplace

/-- **A link spares what its profile spares**, if it is not one of the faults of the link itself. -/
theorem spares_onErrand {errand : Errand ρ τ}
    (hevent : ∀ event, errand = .message (.event event) → event.isForProfile = true →
      (ProfileSession.onEvent event : Work σ τ Verdict).Spares kind)
    (hrequest : ∀ request, errand = .message (.request request) →
      (ProfileSession.onRequest request : Work σ τ Verdict).Spares kind)
    (halarm : ∀ own, errand = .alarm (.session own) →
      (ProfileSession.onAlarm own : Work σ τ Verdict).Spares kind) :
    (onErrand errand : Step σ ρ τ Verdict).Spares kind := by
  cases errand with
  | alarm alarm => exact spares_onAlarm hcommon fun own heq => halarm own (heq ▸ rfl)
  | message message =>
      cases message with
      | connect => exact spares_onConnect hcommon
      | disconnect => exact spares_onDisconnect hcommon
      | connectAudio => exact spares_onConnectAudio hcommon
      | disconnectAudio => exact spares_onDisconnectAudio hcommon
      | event event => exact spares_onEvent hplace (hevent event rfl)
      | request request => exact spares_onRequest hcommon (hrequest request rfl)

theorem spares_incidental {errand : Errand ρ τ} (own : Incidental errand) :
    (onErrand errand : Step σ ρ τ Verdict).Spares kind := by
  refine spares_onErrand hcommon hplace (fun event heq hforeign => ?_) ?_ ?_
  · cases own <;> cases heq
    cases hforeign
  · cases own <;> nofun
  · cases own <;> nofun

end Errands

/-! ### What is told -/

theorem untold_snoc {log : List Effect} {effect : Effect} (hother : tells kind effect = false)
    (h : log.any (tells kind) = false) : (log ++ [effect]).any (tells kind) = false := by
  rw [List.any_append, h, List.any_cons, hother]
  rfl

/-- Nothing that is the own of a profile tells of a fault. -/
theorem untold_profile {log : List Effect} {effect : Effect} (own : Effect.IsProfile effect)
    (h : log.any (tells kind) = false) : (log ++ [effect]).any (tells kind) = false :=
  untold_snoc (by cases own <;> rfl) h

section Told

variable (hdiscreet : Discreet σ)

include hdiscreet

omit [DecidableEq τ] [Outlined ρ] in
/-- A profile that lets out nothing but what is its own tells of no fault. -/
theorem profile_untold (kind : Fault → Bool) :
    ProfileUpholds σ fun desk => desk.log.any (tells kind) = false :=
  hdiscreet (fun log => log.any (tells kind) = false) fun _ _ own h => untold_profile own h

omit [DecidableEq τ] [Outlined ρ] in
/-- Nor does a link while it moves. -/
theorem unmoved_untold (kind : Fault → Bool) :
    Unmoved (ρ := ρ) (τ := τ) fun (_ : σ) log => log.any (tells kind) = false where
  audioChanged _ _ _ _ _ h := untold_snoc rfl h
  onAudioChanged := (profile_untold hdiscreet kind).onAudioChanged
  onConnected := (profile_untold hdiscreet kind).onConnected
  asked _ _ _ _ own h := untold_snoc (by cases own <;> rfl) h
  linkChanged _ _ _ _ _ h := untold_snoc rfl h
  onLinkUp _ _ _ h := h
  onDisconnected _ view _ h :=
    (profile_untold hdiscreet kind).onDisconnected view _ (untold_snoc rfl h)

/-- An errand that never ends with a fault of some kind tells of none. -/
theorem upholds_handle_untold {errand : Errand ρ τ}
    (hspares : (onErrand errand : Step σ ρ τ Verdict).Spares kind) :
    Step.Upholds (AtLink fun _ log => log.any (tells kind) = false)
      (handle errand : Step σ ρ τ Unit) := by
  have hmoves := (unmoved_untold hdiscreet kind).moves
  have hprofile := profile_untold hdiscreet kind
  have herrand : Step.Upholds (AtLink fun _ log => log.any (tells kind) = false)
      (onErrand errand : Step σ ρ τ Verdict) := by
    cases errand with
    | message message =>
        exact hmoves.upholds_onMessage
          (fun request _ => upholds_consult (hprofile.onRequest request))
          fun event _ => upholds_consult (hprofile.onEvent event)
    | alarm alarm =>
        exact upholds_onAlarm hmoves.upholds_refuse (upholds_change fun _ => rfl)
          (fun own => upholds_consult (hprofile.onAlarm own)) alarm
  intro scene progress h
  refine yields_handle_told (Step.yields_mono
    (Step.yields_and.2 ⟨herrand scene progress h, hspares scene progress⟩) ?_)
  rintro verdict after ⟨hafter, hspared⟩
  refine ⟨hafter, ?_⟩
  rintro fault rfl
  exact untold_snoc hspared hafter

variable {scene : Scene} {link : Link σ ρ τ}

include hcommon hplace

/-- **What nothing ends with is never told**: a message tells of no fault that it never ends with,
if it is not one of the faults of the link itself. -/
theorem untold_hand {message : Message ρ} (hlink : Between link)
    (hspares : (onErrand (.message message) : Step σ ρ τ Verdict).Spares kind) :
    (link.respond (.hand scene message)).2.any (tells kind) = false :=
  respond_hand_own (P := AtLink fun _ log => log.any (tells kind) = false) hlink
    (upholds_handle_untold hdiscreet hspares scene _ rfl) fun _ _ _ h _ own =>
      upholds_handle_untold hdiscreet (spares_incidental hcommon hplace own) scene _ h

/-- Nor do alarms tell of one. -/
theorem untold_wake (hlink : Between link)
    (halarm : ∀ own : τ, (ProfileSession.onAlarm own : Work σ τ Verdict).Spares kind) :
    (link.respond (.wake scene)).2.any (tells kind) = false := by
  refine respond_wake_own (P := AtLink fun _ log => log.any (tells kind) = false) hlink rfl
    (fun _ alarm _ h _ _ => ?_) fun _ _ _ h _ own =>
      upholds_handle_untold hdiscreet (spares_incidental hcommon hplace own) scene _ h
  have hspares : (onErrand (.alarm alarm) : Step σ ρ τ Verdict).Spares kind :=
    spares_onErrand hcommon hplace nofun nofun fun own _ => halarm own
  exact upholds_handle_untold hdiscreet hspares scene _ h

end Told

end Link

/-! ### Handsfree -/

namespace Handsfree

variable (hcommon : ∀ fault : Fault, fault.isCommon = true → kind fault = false)

include hcommon

theorem spares_issue (order : Order) : (issue order).Spares kind := by
  intro view desk
  rw [yields_issue]
  cases view.transport desk.log (.command order.command) with
  | true => rfl
  | false => exact hcommon _ rfl

theorem spares_queryCalls : queryCalls.Spares kind := by
  intro view desk
  rw [yields_queryCalls]
  split
  · rfl
  · split
    · rfl
    · exact spares_issue hcommon .queryCalls view _

theorem spares_finishQuery : finishQuery.Spares kind := by
  intro view desk
  rw [yields_finishQuery]
  split
  · have hanything : (issueQuietly (.terminate .hangUp)).Yields view (surveyed desk view.now)
        fun _ _ => True := trivial
    exact Work.yields_mono hanything fun _ _ _ => hcommon _ rfl
  · rfl

/-- Only the answer to an order to accept a call may end with the fault that another way was tried
in vain. -/
theorem spares_onAnswer (order : Order) (outcome : Outcome) (code : Option Nat)
    (haccept : ∀ action mode retried, order = .accept action mode retried →
      (onAcceptResult action mode retried outcome code).Spares kind) :
    (onAnswer order outcome code).Spares kind := by
  cases order with
  | accept action mode retried => exact haccept action mode retried rfl
  | queryCalls => exact spares_finishQuery hcommon
  | disableNoiseReduction | querySubscriber | queryOperator => exact .ok
  | setVolume channel level => exact .ok
  | dial number => exact .after fun _ => .ok
  | reject action | hold action | terminate action => exact .after fun _ => .ok
  | privateMode number => exact .after fun _ => .ok
  | transfer | startVoiceRecognition | stopVoiceRecognition => exact .after fun _ => .ok
  | sendTone key => exact .after fun _ => .ok

omit hcommon in
/-- An answer ends with what the answer to an order ends with. -/
theorem spares_onCommandResult {outcome : Outcome} {code : Option Nat}
    (hanswer : ∀ order, (onAnswer order outcome code).Spares kind) :
    (onCommandResult outcome code).Spares kind := by
  intro view desk
  rw [yields_onCommandResult]
  cases desk.session.ledger.front? with
  | none => rfl
  | some order => exact hanswer order view _

theorem spares_onServiceChanged (available : Bool) : (onServiceChanged available).Spares kind := by
  refine .after fun _ => .after fun _ => .ite (spares_issue hcommon _) (.after fun s => ?_)
  exact .ite (.after fun _ => .after fun _ => .ok) .ok

/-- What a gateway reports ends with what its answers end with, or with a common fault, unless it is
about a codec, which is out of place. -/
theorem spares_onEvent {event : Event} (hforeign : event.isForProfile = true)
    (hplace : ∀ status, event = .codecChanged status →
      ∀ state, kind (.unexpected state event.title) = false)
    (hanswer : ∀ outcome code, event = .commandResult outcome code →
      (onCommandResult outcome code).Spares kind) : (onEvent event).Spares kind := by
  cases event with
  | callIndicator _ _ => exact spares_queryCalls hcommon
  | commandResult outcome code => exact hanswer outcome code rfl
  | networkIndicator indicator value =>
      cases indicator with
      | serviceAvailable => exact spares_onServiceChanged hcommon _
      | roaming | signalStrength | batteryLevel => exact .after fun _ => .ok
  | codecChanged status => exact .after fun view => .error (hplace status rfl _)
  | linkChanged _ _ => cases hforeign
  | audioChanged _ => cases hforeign
  | callListed _ | volumeChanged _ _ | operatorName _ | subscriberNumber _ | voiceRecognition _
  | inBandRing _ => exact .after fun _ => .after fun _ => .ok

theorem spares_control {operation : String} {choose : Roster → Option CallControl}
    {order : CallControl → Order} : (control operation choose order).Spares kind := by
  refine .after fun s => ?_
  cases choose s.roster with
  | none => exact .error (hcommon _ rfl)
  | some action => exact spares_issue hcommon _

theorem spares_requiring {ability : UInt32} {operation : String}
    {next : Work Handsfree AlarmKind Verdict} (h : next.Spares kind) :
    (requiring ability operation next).Spares kind :=
  .after fun _ => .ite h (.error (hcommon _ rfl))

theorem spares_dial (number : String) : (dial number).Spares kind := by
  intro view desk
  rw [yields_dial]
  split
  · exact hcommon _ rfl
  · split
    · next fault hdial =>
        rw [Survey.dial] at hdial
        split at hdial
        · cases hdial
          exact hcommon _ rfl
        · cases hdial
    · next call survey _ =>
        have hissued := spares_issue hcommon (.dial number) view (entered desk call survey)
        refine Work.yields_mono hissued ?_
        intro verdict after hverdict
        cases verdict with
        | ok _ => exact spares_queryCalls hcommon view after
        | error fault => exact yields_abandonDial.2 hverdict

theorem spares_setVolume (channel : VolumeChannel) (level : Nat) :
    (setVolume channel level).Spares kind := by
  refine .ite (.error (hcommon _ rfl)) (.after fun s => .ite (.after fun _ => .ok) ?_)
  exact spares_issue hcommon _

theorem spares_setVoiceRecognition (active : Bool) : (setVoiceRecognition active).Spares kind :=
  .after fun _ => .ite (.error (hcommon _ rfl)) (.ite .ok (spares_issue hcommon _))

/-- No request ends with anything but a common fault. -/
theorem spares_onRequest (request : Request) : (onRequest request).Spares kind := by
  cases request with
  | dial number => exact spares_dial hcommon number
  | accept mode => exact spares_control hcommon
  | reject | hold => exact spares_control hcommon
  | terminate number =>
      exact .ite (spares_requiring hcommon (spares_control hcommon)) (spares_control hcommon)
  | privateMode number => exact spares_requiring hcommon (spares_control hcommon)
  | transfer => exact spares_requiring hcommon (spares_control hcommon)
  | sendTone code => exact .ite (spares_issue hcommon _) (.error (hcommon _ rfl))
  | startVoiceRecognition => exact spares_setVoiceRecognition hcommon true
  | stopVoiceRecognition => exact spares_setVoiceRecognition hcommon false
  | setSpeakerVolume level => exact spares_setVolume hcommon .speaker level
  | setMicrophoneVolume level => exact spares_setVolume hcommon .microphone level
  | allowAudioRoute allowed => exact .after fun _ => .ok
  | queryCalls => exact spares_queryCalls hcommon
  | queryOperator => exact spares_issue hcommon .queryOperator

end Handsfree

end AudioLink
