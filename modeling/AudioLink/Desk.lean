/-
**The desk of a profile.**

The life of a link is the same for every profile; what a profile adds happens while something is
being handled.  A profile then works at a desk: it sees what is fixed for the moment, keeps a
state of its own, may send commands, announce things and arm its own alarms, and may ask for the
audio to be dropped afterwards.  It cannot touch the state of the link.

* `AudioLink.Scene`, `AudioLink.View` — what is fixed while one thing is handled;
* `AudioLink.Desk` — what a profile may change;
* `AudioLink.Work` — work at the desk;
* `AudioLink.Verdict` — how work ends that may end with a fault;
* `AudioLink.ProfileSession` — what a profile has to say about each occasion.
-/
import AudioLink.Admission
import AudioLink.Alarms
import AudioLink.Notice

set_option relaxedAutoImplicit false
set_option autoImplicit false

namespace AudioLink

/-- What is fixed while one thing is handled: the instant, how the transport answers, and what the
user has said. -/
structure Scene where
  now : Instant
  transport : Transport
  preferences : Preferences

/-- What a profile sees: the scene and the state of its link. -/
structure View extends Scene where
  link : LinkState
  audio : AudioState

/-- What a profile may change. -/
structure Desk (σ τ : Type) where
  session : σ
  alarms : Alarms (AlarmKind τ)
  /-- What has left the link so far. -/
  log : List Effect
  /-- How often it was asked to drop the audio afterwards. -/
  drops : Nat

/-- Work at the desk. -/
abbrev Work (σ τ : Type) := ReaderT View (StateM (Desk σ τ))

/-- How something ended that may end with a fault.  What was done before the fault stays done. -/
abbrev Verdict := Except Fault Unit

namespace Work

variable {σ τ : Type}

/-- The present instant. -/
def now : Work σ τ Instant := return (← read).now

/-- The state of the profile. -/
def session : Work σ τ σ := return (← get).session

/-- The state of the profile is changed. -/
def update (f : σ → σ) : Work σ τ Unit :=
  modify fun desk => { desk with session := f desk.session }

/-- A command is handed to the transport, which takes it or not. -/
def send (command : Command) : Work σ τ Bool := do
  let view ← read
  let accepted := view.transport (← get).log (.command command)
  modify fun desk => { desk with log := desk.log ++ [.call (.command command) accepted] }
  return accepted

/-- Something is announced. -/
def announce (report : Report) : Work σ τ Unit :=
  modify fun desk => { desk with log := desk.log ++ [.notice (.report report)] }

/-- Some things are announced in order. -/
def announceAll (reports : List Report) : Work σ τ Unit :=
  modify fun desk => { desk with log := desk.log ++ reports.map fun r => .notice (.report r) }

/-- The audio is to be dropped once the present occasion is over. -/
def dropAudio : Work σ τ Unit :=
  modify fun desk => { desk with drops := desk.drops + 1 }

variable [DecidableEq τ]

/-- An alarm of the profile is armed to go off after a delay. -/
def arm (kind : τ) (delay : Duration) : Work σ τ Unit := do
  let view ← read
  modify fun desk =>
    { desk with alarms := desk.alarms.schedule (.session kind) (view.now + delay) }

/-- An alarm of the profile is cancelled. -/
def disarm (kind : τ) : Work σ τ Unit :=
  modify fun desk => { desk with alarms := desk.alarms.cancel (.session kind) }

/-- Whether an alarm of the profile is pending. -/
def isArmed (kind : τ) : Work σ τ Bool := return (← get).alarms.isArmed (.session kind)

end Work

/-- A profile: its state, its requests, its alarms, and what it does on each occasion. -/
class ProfileSession (σ : Type) (ρ τ : outParam Type) where
  /-- What the link is used for. -/
  profile : Profile
  /-- The bound on connecting and on disconnecting. -/
  patience : σ → Duration
  /-- The link came up, with these capabilities; whether the device will do. -/
  onLinkUp : Capabilities → σ → Bool × σ
  /-- The link is connected now. -/
  onConnected : Work σ τ Unit
  /-- The link is disconnected now. -/
  onDisconnected : Work σ τ Unit
  /-- The audio changed, which is announced already. -/
  onAudioChanged (previous current : AudioState) (wideband : Bool) : Work σ τ Unit
  /-- An event that is about neither link nor audio; never while disconnected. -/
  onEvent : Event → Work σ τ Verdict
  /-- A request of the user; only while connected. -/
  onRequest : ρ → Work σ τ Verdict
  /-- An alarm of the profile; only while connected. -/
  onAlarm : τ → Work σ τ Verdict

end AudioLink
