/-
**Links.**

The link to one device for one profile.  It is fed messages and woken by alarms; it asks things of
the transport and announces what happens.  What it wants to do after the present occasion it puts
into a queue of errands, and a request to connect that comes at a bad moment is deferred to the
next stable state.

* `AudioLink.Message`, `AudioLink.Errand` — what a link is fed, and what it puts into its queue;
* `AudioLink.Link` — the link;
* `AudioLink.Link.isIdle` — a link on which nothing is going on;
* `AudioLink.Step` — a step of a link.
-/
import AudioLink.Desk

set_option relaxedAutoImplicit false
set_option autoImplicit false

namespace AudioLink

/-- What a link is fed. -/
inductive Message (ρ : Type) where
  | connect
  | disconnect
  | connectAudio
  | disconnectAudio
  | event (event : Event)
  | request (request : ρ)
  deriving DecidableEq

/-- Whether a message asks to connect. -/
def Message.isConnect {ρ : Type} : Message ρ → Bool
  | .connect => true
  | _ => false

/-- An entry of the queue: a message, or an alarm that went off. -/
inductive Errand (ρ τ : Type) where
  | message (message : Message ρ)
  | alarm (kind : AlarmKind τ)

/-- The link to one device. -/
structure Link (σ ρ τ : Type) where
  peer : Address
  state : LinkState
  audio : AudioState
  wideband : Bool
  alarms : Alarms (AlarmKind τ)
  /-- What waits for the next stable state. -/
  deferred : List (Message ρ)
  /-- What is handled next, in order. -/
  queue : List (Errand ρ τ)
  session : σ

namespace Link

variable {σ ρ τ : Type}

/-- A link on which nothing has happened. -/
def start (peer : Address) (session : σ) : Link σ ρ τ where
  peer := peer
  state := .disconnected
  audio := .off
  wideband := false
  alarms := .empty
  deferred := []
  queue := []
  session := session

/-- Link and audio at this moment. -/
def snapshot (link : Link σ ρ τ) : Snapshot := ⟨link.state, link.audio⟩

/-- Nothing is going on: the link is disconnected, nothing waits and no alarm is pending. -/
def isIdle (link : Link σ ρ τ) : Bool :=
  link.state == .disconnected && link.deferred.isEmpty && link.alarms.isEmpty

/-- A link with its profile is shown without the state of the profile. -/
instance [ProfileSession σ ρ τ] : Outlined (Link σ ρ τ) where
  outline link := .record "ConnectionStateMachine"
    [.field "peer" (Outlined.outline link.peer),
      .field "profile" (Outlined.outline (ProfileSession.profile σ)),
      .field "state" (Outlined.outline link.state),
      .field "audio" (Outlined.outline link.audio),
      .field "deferred" (.nat link.deferred.length),
      .field "timers" (.nat link.alarms.size)]

end Link

/-- A link in the middle of a step, with what has left it since the step began. -/
structure Progress (σ ρ τ : Type) where
  link : Link σ ρ τ
  log : List Effect

/-- A step of a link. -/
abbrev Step (σ ρ τ : Type) := ReaderT Scene (StateM (Progress σ ρ τ))

namespace Step

variable {σ ρ τ : Type}

/-- The link as it is. -/
def link : Step σ ρ τ (Link σ ρ τ) := return (← get).link

/-- The link is changed. -/
def change (f : Link σ ρ τ → Link σ ρ τ) : Step σ ρ τ Unit :=
  modify fun progress => { progress with link := f progress.link }

/-- Something is asked of the transport, which takes it or not. -/
def ask (request : Outgoing) : Step σ ρ τ Bool := do
  let scene ← read
  let accepted := scene.transport (← get).log request
  modify fun progress => { progress with log := progress.log ++ [.call request accepted] }
  return accepted

/-- Something is announced. -/
def announce (notice : Notice) : Step σ ρ τ Unit :=
  modify fun progress => { progress with log := progress.log ++ [.notice notice] }

/-- The link after a profile has worked at its desk; when the profile asked for the audio to be
dropped, that is queued behind everything else. -/
def settle (link : Link σ ρ τ) (desk : Desk σ τ) : Link σ ρ τ :=
  { link with
    session := desk.session
    alarms := desk.alarms
    queue := link.queue ++ List.replicate desk.drops (.message .disconnectAudio) }

/-- The profile works at its desk. -/
def consult {α : Type} (work : Work σ τ α) : Step σ ρ τ α := do
  let scene ← read
  let progress ← get
  let link := progress.link
  let (answer, desk) := (work.run { scene with link := link.state, audio := link.audio }).run
    { session := link.session, alarms := link.alarms, log := progress.log, drops := 0 }
  set (Progress.mk (settle link desk) desk.log)
  return answer

end Step

end AudioLink
