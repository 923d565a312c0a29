/-
**What clients want of the directory.**

* `AudioLink.Plan.route` — a message for a device, whose worker may have stopped meanwhile;
* `AudioLink.Plan.connect` and its companions — the requests of users and the reports of the
  transport;
* `AudioLink.Plan.reap` — retiring the workers whose link is idle, without losing what reaches
  them too late;
* `AudioLink.Plan.shutdown` — stopping all workers.
-/
import AudioLink.Directory.Plan

set_option relaxedAutoImplicit false
set_option autoImplicit false

namespace AudioLink.Plan

variable {σ ρ τ : Type}

/-- An item for a certain worker, of which the client knows the device. -/
def sendTo (peer : Address) (worker : Nat) (item : Item ρ) : Plan σ ρ τ (Except Fault Unit) :=
  send worker item fun taken => finished (if taken then .ok () else .error (.closed peer))

/-- A message for a device.  A worker that has stopped is replaced by a new one, once. -/
def route (peer : Address) (message : Message ρ) : Plan σ ρ τ (Except Fault Unit) :=
  enlist peer fun worker =>
    send worker (.message message) fun taken =>
      if taken then finished (.ok ())
      else
        forget peer worker <| enlist peer fun worker => sendTo peer worker (.message message)

/-- A message for a device that has a worker; `otherwise` for one that has none. -/
def routeKnown (peer : Address) (message : Message ρ) (otherwise : Except Fault Unit) :
    Plan σ ρ τ (Except Fault Unit) :=
  find peer fun known => if known.isSome then route peer message else finished otherwise

/-- What requests for an unknown device come to. -/
def unknown (peer : Address) : Except Fault Unit :=
  .error (.invalidState ("no machine for " ++ peer.render))

/-- To connect to a device, a worker is entered if need be. -/
def connect (peer : Address) : Plan σ ρ τ (Except Fault Unit) := route peer .connect

/-- A device without a worker is disconnected already. -/
def disconnect (peer : Address) : Plan σ ρ τ (Except Fault Unit) :=
  routeKnown peer .disconnect (.ok ())

/-- Only a device with a worker can have audio. -/
def connectAudio (peer : Address) : Plan σ ρ τ (Except Fault Unit) :=
  routeKnown peer .connectAudio (unknown peer)

/-- Only a device with a worker can have audio. -/
def disconnectAudio (peer : Address) : Plan σ ρ τ (Except Fault Unit) :=
  routeKnown peer .disconnectAudio (unknown peer)

/-- A report of the transport.  About an unknown device only a change of the link counts. -/
def deliver (peer : Address) (event : Event) : Plan σ ρ τ (Except Fault Unit) :=
  if event.isLinkChange then route peer (.event event)
  else routeKnown peer (.event event) (.ok ())

/-- A request to the profile of a device. -/
def request (peer : Address) (request : ρ) : Plan σ ρ τ (Except Fault Unit) :=
  routeKnown peer (.request request) (unknown peer)

/-- Any message for a device, as the plan that fits it. -/
def ofMessage (peer : Address) : Message ρ → Plan σ ρ τ (Except Fault Unit)
  | .connect => connect peer
  | .disconnect => disconnect peer
  | .connectAudio => connectAudio peer
  | .disconnectAudio => disconnectAudio peer
  | .event event => deliver peer event
  | .request ofUser => request peer ofUser

/-- The link of a certain worker, as the worker finds it. -/
def inspect (peer : Address) (worker : Nat) : Plan σ ρ τ (Except Fault (Link σ ρ τ)) :=
  ask worker .state fun
    | .seen link => finished (.ok link)
    | .busy | .retired _ | .gone => finished (.error (.closed peer))

/-! ### Retiring workers -/

/-- Some messages for a device, in order.  What cannot be delivered is lost. -/
def routeAll (peer : Address) : List (Message ρ) → Plan σ ρ τ Unit
  | [] => finished ()
  | message :: rest => (route peer message).bind fun _ => routeAll peer rest

/-- A worker is asked to retire; whether it is gone.  The messages that it hands back are routed
anew. -/
def retire (peer : Address) (worker : Nat) : Plan σ ρ τ Bool :=
  ask worker .retirement fun
    | .busy | .seen _ => finished false
    | .retired leftovers =>
        forget peer worker <| (routeAll peer leftovers).bind fun _ => finished true
    | .gone => forget peer worker <| finished true

/-- Some workers are asked to retire, one after the other; how many are gone. -/
def retireAll : List (Address × Nat) → Plan σ ρ τ Nat
  | [] => finished 0
  | (peer, worker) :: rest =>
      (retire peer worker).bind fun gone =>
        (retireAll rest).bind fun count => finished (if gone then count + 1 else count)

/-- The workers that published a disconnected link are asked to retire. -/
def reap : Plan σ ρ τ Nat := findIn .disconnected retireAll

/-! ### Stopping workers -/

/-- Some workers are told to stop. -/
def stopAll : List (Address × Nat) → Plan σ ρ τ Unit
  | [] => finished ()
  | (peer, worker) :: rest => (sendTo peer worker .stop).bind fun _ => stopAll rest

/-- All workers are told to stop, and none is known any more. -/
def shutdown : Plan σ ρ τ Unit := clear stopAll

end AudioLink.Plan
