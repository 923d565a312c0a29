/-
**The state of the handsfree profile.**

* `AudioLink.Handsfree` — the calls, the pending orders, and what the gateway said about itself;
* `AudioLink.Handsfree.issue` — an order is sent and becomes pending;
* `AudioLink.Handsfree.queryCalls` — the list of calls is asked for, though not too often.
-/
import AudioLink.Call.Survey
import AudioLink.Desk
import AudioLink.Handsfree.Order
import AudioLink.Ledger
import AudioLink.Settings.Basic

set_option relaxedAutoImplicit false
set_option autoImplicit false

namespace AudioLink

/-- The alarms of the handsfree profile. -/
inductive Handsfree.AlarmKind where
  /-- It is time to ask for the list of calls again. -/
  | poll
  deriving DecidableEq, Repr

/-- The state of the profile of a link to a gateway. -/
structure Handsfree where
  settings : HandsfreeSettings
  ledger : Ledger Handsfree.Order
  survey : Survey
  capabilities : Capabilities
  /-- Before this instant the list of calls is not asked for again. -/
  nextQueryAt : Option Instant
  operatorName : Option String
  subscriberNumber : Option String
  networkService : Bool
  voiceRecognition : Bool
  inBandRing : Bool
  /-- Whether the sound of calls may come here. -/
  routeAllowed : Bool
  /-- Whether the sound of calls does come here. -/
  routed : Bool
  /-- The gateway set the volume of the speaker last, so that the next change of it here is only
  an echo. -/
  speakerEcho : Bool
  /-- The same for the microphone. -/
  microphoneEcho : Bool

namespace Handsfree

/-- A profile that nothing has happened to; `issuer` tells its call handles from those of all
others. -/
def start (settings : HandsfreeSettings) (issuer : Nat) : Handsfree where
  settings := settings
  ledger := .empty
  survey := .start issuer settings.outgoingTimeout
  capabilities := .none
  nextQueryAt := none
  operatorName := none
  subscriberNumber := none
  networkService := false
  voiceRecognition := false
  inBandRing := false
  routeAllowed := settings.audioRouteAllowed
  routed := false
  speakerEcho := false
  microphoneEcho := false

/-- The calls of the gateway. -/
def roster (s : Handsfree) : Roster := s.survey.roster

/-- What a profile forgets when its link is gone.  What the gateway is able to do, and whether
the sound of calls may come here, is kept. -/
def forget (s : Handsfree) : Handsfree :=
  { s with
    nextQueryAt := none, operatorName := none, subscriberNumber := none, networkService := false,
    voiceRecognition := false, inBandRing := false, routed := false, speakerEcho := false,
    microphoneEcho := false }

/-- Whether a question for the list of calls is pending. -/
def isQuerying (s : Handsfree) : Bool := s.ledger.actions.contains .queryCalls

/-- How long it takes until the list of calls may be asked for again. -/
def throttle (s : Handsfree) (now : Instant) : Option Duration :=
  (s.nextQueryAt.filter (now < ·)).map (· - now)

/-- An order is sent and, once the transport has taken it, pending. -/
def issue (order : Order) : Work Handsfree AlarmKind Verdict := do
  let accepted ← Work.send order.command
  let now ← Work.now
  let (verdict, ledger) := (← Work.session).ledger.issue order now accepted
  Work.update fun s => { s with ledger := ledger }
  return verdict

/-- A refusal of the transport is passed over. -/
def issueQuietly (order : Order) : Work Handsfree AlarmKind Unit := do
  let _ ← issue order

/-- The list of calls is asked for.  While the last question is pending, or was put too recently,
the question is put off instead. -/
def queryCalls : Work Handsfree AlarmKind Verdict := do
  Work.disarm .poll
  let s ← Work.session
  let now ← Work.now
  if s.isQuerying then
    Work.arm .poll s.settings.pollInterval
    return .ok ()
  else
    match s.throttle now with
    | some delay =>
        Work.arm .poll delay
        return .ok ()
    | none =>
        Work.update fun s =>
          { s with nextQueryAt := some (now + s.settings.pollInterval), survey := s.survey.begin }
        issue .queryCalls

/-- Some calls are announced in order. -/
def announceCalls (calls : List Call) : Work Handsfree AlarmKind Unit :=
  Work.announceAll (calls.map .callChanged)

/-- A fact about the gateway is announced. -/
def announceInfo (info : GatewayInfo) : Work Handsfree AlarmKind Unit :=
  Work.announce (.gatewayInfo info)

/-- The call dialled here is given up and announced as ended. -/
def abandonDial : Work Handsfree AlarmKind Unit := do
  let (call, survey) := (← Work.session).survey.abandon
  Work.update fun s => { s with survey := survey }
  announceCalls call.toList

end Handsfree

end AudioLink
