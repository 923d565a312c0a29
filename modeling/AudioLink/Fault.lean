/-
**What can go wrong.**

None of these ends a link: a fault is handed to whoever asked, or announced.

* `AudioLink.Fault` — the faults;
* `AudioLink.Fault.message` — the text of each;
* `AudioLink.Fault.isUnexpected` — the faults that are dropped without a word.
-/
import AudioLink.Address
import AudioLink.State
import AudioLink.Time

set_option relaxedAutoImplicit false
set_option autoImplicit false

namespace AudioLink

/-- The faults of links and of the requests made to them. -/
inductive Fault where
  /-- The transport refused a command at once. -/
  | rejected (command : String)
  /-- Nothing final was heard within the bound. -/
  | timeout (operation : String) (after : Duration)
  /-- Something was reported that makes no sense in the present state. -/
  | unexpected (state : LinkState) (event : String)
  /-- A call dialled here was never listed by the gateway. -/
  | stuckCall (age : Duration)
  /-- The other way of doing it failed too. -/
  | retryExhausted (action : String)
  /-- The request does not fit the present state. -/
  | invalidState (reason : String)
  /-- The request is malformed or beyond the device. -/
  | invalidRequest (reason : String)
  /-- No call qualifies for the operation. -/
  | noMatchingCall (operation : String)
  /-- The codec preference never reached the transport. -/
  | codecRejected (reason : String)
  /-- The settings are refused. -/
  | configuration (reason : String)
  /-- The worker of a device takes no more messages. -/
  | closed (peer : Address)
  deriving DecidableEq

namespace Fault

/-- The text of a fault. -/
def message : Fault → String
  | rejected command => "Transport rejected " ++ command
  | timeout operation after => operation ++ " timed out after " ++ Text.span after
  | unexpected state event => "Unexpected " ++ event ++ " while " ++ Named.name state
  | stuckCall age => "Outgoing call unresolved after " ++ Text.span age
  | retryExhausted action => action ++ " failed after retry"
  | invalidState reason => "Invalid state: " ++ reason
  | invalidRequest reason => "Invalid request: " ++ reason
  | noMatchingCall operation => "No call available for " ++ operation
  | codecRejected reason => "Codec preference rejected: " ++ reason
  | configuration reason => "Configuration error: " ++ reason
  | closed peer => "Peer actor for " ++ peer.render ++ " is closed"

/-- The name of the kind of a fault. -/
def kind : Fault → String
  | rejected _ => "SynchronousRejection"
  | timeout .. => "Timeout"
  | unexpected .. => "UnexpectedEvent"
  | stuckCall _ => "StuckOutgoingCall"
  | retryExhausted _ => "RetryExhausted"
  | invalidState _ => "InvalidState"
  | invalidRequest _ => "InvalidRequest"
  | noMatchingCall _ => "NoMatchingCall"
  | codecRejected _ => "CodecRejected"
  | configuration _ => "Configuration"
  | closed _ => "ActorClosed"

/-- An unexpected report is dropped; every other fault is announced. -/
def isUnexpected : Fault → Bool
  | unexpected .. => true
  | _ => false

instance : Outlined Fault where
  outline fault := .record fault.kind <| match fault with
    | rejected command => [.field "command" (.text command)]
    | timeout operation after =>
        [.field "operation" (.text operation), .field "after" after.outline]
    | unexpected state event =>
        [.field "state" (Outlined.outline state), .field "event" (.text event)]
    | stuckCall age => [.field "age" age.outline]
    | retryExhausted action => [.field "action" (.text action)]
    | invalidState reason | invalidRequest reason | configuration reason =>
        [.field "message" (.text reason)]
    | noMatchingCall operation => [.field "operation" (.text operation)]
    | codecRejected reason => [.field "reason" (.text reason)]
    | closed peer => [.field "peer" (Outlined.outline peer)]

/-- The address that a text stands for; anything else is an invalid request. -/
def ofAddressText (text : String) : Except Fault Address :=
  (Address.parse text).mapError fun error => invalidRequest (error.message text)

end Fault

end AudioLink
