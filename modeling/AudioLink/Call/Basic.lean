/-
**Calls.**

A gateway lists its calls by number.  A call dialled here has no number until the gateway lists
it; until then it stands under an index of its own, before all numbers.

* `AudioLink.CallIndex`, `AudioLink.CallState`, `AudioLink.CallDirection` — the parts;
* `AudioLink.CallHandle` — the identity of a call, which survives a change of index;
* `AudioLink.Call` — one call;
* `AudioLink.Call.absorb` — bringing a call up to date from a fresher report.
-/
import AudioLink.Named
import AudioLink.Time

set_option relaxedAutoImplicit false
set_option autoImplicit false

namespace AudioLink

/-! ### The parts of a call -/

/-- Where a call stands in the list of calls. -/
inductive CallIndex where
  /-- Dialled here, without a number yet. -/
  | localOrigin
  /-- The number under which the gateway lists the call. -/
  | peer (number : Nat)
  deriving DecidableEq, Repr

namespace CallIndex

/-- The place of an index in the order of indices: the one without a number comes first. -/
def rank : CallIndex → Nat
  | localOrigin => 0
  | peer number => number + 1

/-- The number of an index, if it has one. -/
def number? : CallIndex → Option Nat
  | localOrigin => none
  | peer number => some number

/-- The text of an index. -/
def render : CallIndex → String
  | localOrigin => "local"
  | peer number => Nat.repr number

instance : Outlined CallIndex where
  outline
    | localOrigin => .word "LocalOrigin"
    | peer number => .tuple "Peer" [.nat number]

theorem rank_injective {i j : CallIndex} (h : i.rank = j.rank) : i = j := by
  cases i <;> cases j <;> simp_all [rank]

end CallIndex

/-- What a call is doing. -/
inductive CallState where
  | active
  | held
  | dialing
  | alerting
  | incoming
  | waiting
  /-- An incoming call that was put on hold instead of being answered. -/
  | responseHeld
  | terminated
  deriving DecidableEq, Repr

instance : Named CallState where
  values := [.active, .held, .dialing, .alerting, .incoming, .waiting, .responseHeld, .terminated]
  name
    | .active => "Active"
    | .held => "Held"
    | .dialing => "Dialing"
    | .alerting => "Alerting"
    | .incoming => "Incoming"
    | .waiting => "Waiting"
    | .responseHeld => "ResponseHeld"
    | .terminated => "Terminated"
  find_name a := by cases a <;> rfl

/-- Who called whom. -/
inductive CallDirection where
  | incoming
  | outgoing
  deriving DecidableEq, Repr

instance : Named CallDirection where
  values := [.incoming, .outgoing]
  name
    | .incoming => "Incoming"
    | .outgoing => "Outgoing"
  find_name a := by cases a <;> rfl

/-- The identity of a call: who gave it out, and which of its handles it is. -/
structure CallHandle where
  issuer : Nat
  serial : Nat
  deriving DecidableEq, Repr

/-! ### Calls -/

/-- One call as the handsfree unit knows it. -/
structure Call where
  index : CallIndex
  handle : CallHandle
  state : CallState
  number : String
  multiparty : Bool
  direction : CallDirection
  createdAt : Instant
  deriving DecidableEq, Repr

/-- What a gateway says about one of its calls. -/
structure CallReport where
  index : Nat
  direction : CallDirection
  state : CallState
  multiparty : Bool
  number : String
  deriving DecidableEq, Repr

namespace Call

/-- A call dialled here, before the gateway lists it. -/
def outgoing (handle : CallHandle) (number : String) (now : Instant) : Call where
  index := .localOrigin
  handle := handle
  state := .dialing
  number := number
  multiparty := false
  direction := .outgoing
  createdAt := now

/-- A call that the gateway lists. -/
def reported (handle : CallHandle) (report : CallReport) (now : Instant) : Call where
  index := .peer report.index
  handle := handle
  state := report.state
  number := report.number
  multiparty := report.multiparty
  direction := report.direction
  createdAt := now

/-- The time since a call was first known. -/
def age (call : Call) (now : Instant) : Duration := elapsed call.createdAt now

/-- The call at its end. -/
def ended (call : Call) : Call := { call with state := .terminated }

/-- A call brought up to date: number, state and conference membership are those of the report,
and everything else stays. -/
def absorb (call report : Call) : Call :=
  { call with number := report.number, state := report.state, multiparty := report.multiparty }

/-- Whether absorbing a report changes anything. -/
def differsFrom (call report : Call) : Bool := call.absorb report != call

@[simp] theorem index_absorb (call report : Call) : (call.absorb report).index = call.index := rfl

/-- A report that was absorbed changes nothing the second time. -/
@[simp] theorem absorb_absorb (call report : Call) :
    (call.absorb report).absorb report = call.absorb report := rfl

end Call

end AudioLink
