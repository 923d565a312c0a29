/-
**Call control.**

What can be asked of a gateway about its calls, each with the code that asks for it, and the
rules that choose one from the calls there are.

* `AudioLink.CallControl`, `AudioLink.CallControl.code` — the actions and their codes;
* `AudioLink.Roster.acceptWith`, `AudioLink.Roster.reject`, `AudioLink.Roster.hold`,
  `AudioLink.Roster.terminate`, `AudioLink.Roster.privateMode`, `AudioLink.Roster.transfer` — the
  action that carries out what a user wants, if the calls allow it;
* `AudioLink.AcceptRetry` — another way of accepting, tried once when the first is refused.
-/
import AudioLink.Call.Roster

set_option relaxedAutoImplicit false
set_option autoImplicit false

namespace AudioLink

/-! ### Actions and codes -/

/-- The actions that a gateway understands. -/
inductive CallControl where
  | answer
  | hangUp
  /-- Release the held or waiting calls. -/
  | releaseHeld
  /-- Release the active calls and accept the other. -/
  | releaseActiveAcceptOther
  /-- Hold the active calls and accept the other. -/
  | holdActiveAcceptOther
  /-- Add the held call to the conversation. -/
  | addHeldToConference
  /-- Connect the two calls and leave. -/
  | explicitTransfer
  /-- Release the call of this number. -/
  | releaseSpecific (number : Nat)
  /-- Talk in private to the member of this number. -/
  | privateConsultation (number : Nat)
  | responseAndHold
  | responseAndHoldAccept
  | responseAndHoldReject
  deriving DecidableEq, Repr

namespace CallControl

/-- The code that asks for an action; a call's number follows its code at once. -/
def code : CallControl → String
  | answer => "ATA"
  | hangUp => "CHUP"
  | releaseHeld => "CHLD=0"
  | releaseActiveAcceptOther => "CHLD=1"
  | holdActiveAcceptOther => "CHLD=2"
  | addHeldToConference => "CHLD=3"
  | explicitTransfer => "CHLD=4"
  | releaseSpecific number => "CHLD=1" ++ Nat.repr number
  | privateConsultation number => "CHLD=2" ++ Nat.repr number
  | responseAndHold => "BTRH=0"
  | responseAndHoldAccept => "BTRH=1"
  | responseAndHoldReject => "BTRH=2"

/-- The name of an action, without the number it carries. -/
def title : CallControl → String
  | answer => "Answer"
  | hangUp => "HangUp"
  | releaseHeld => "ReleaseHeld"
  | releaseActiveAcceptOther => "ReleaseActiveAcceptOther"
  | holdActiveAcceptOther => "HoldActiveAcceptOther"
  | addHeldToConference => "AddHeldToConference"
  | explicitTransfer => "ExplicitTransfer"
  | releaseSpecific _ => "ReleaseSpecific"
  | privateConsultation _ => "PrivateConsultation"
  | responseAndHold => "ResponseAndHold"
  | responseAndHoldAccept => "ResponseAndHoldAccept"
  | responseAndHoldReject => "ResponseAndHoldReject"

/-- The number an action carries. -/
def number? : CallControl → Option Nat
  | releaseSpecific number | privateConsultation number => some number
  | _ => none

/-- The actions that carry no number. -/
def plain : List CallControl :=
  [answer, hangUp, releaseHeld, releaseActiveAcceptOther, holdActiveAcceptOther,
    addHeldToConference, explicitTransfer, responseAndHold, responseAndHoldAccept,
    responseAndHoldReject]

/-- The action without a number that has the given name. -/
def ofTitle? (s : String) : Option CallControl := plain.find? (·.title == s)

/-- The action with a number that has the given name. -/
def ofTitleAndNumber? (s : String) (number : Nat) : Option CallControl :=
  [releaseSpecific number, privateConsultation number].find? (·.title == s)

instance : Outlined CallControl where
  outline c := match c.number? with
    | none => .word c.title
    | some number => .tuple c.title [.nat number]

theorem mem_plain_iff {c : CallControl} : c ∈ plain ↔ c.number? = none := by
  cases c <;> simp [plain, number?]

theorem ofTitle?_title {c : CallControl} (h : c.number? = none) : ofTitle? c.title = some c := by
  cases c <;> first | rfl | simp [number?] at h

theorem ofTitleAndNumber?_title {c : CallControl} {number : Nat} (h : c.number? = some number) :
    ofTitleAndNumber? c.title number = some c := by
  cases c <;> simp [number?] at h <;> subst h <;> rfl

end CallControl

/-! ### Choosing an action -/

/-- What happens to the current call when another is accepted. -/
inductive AcceptMode where
  | none
  | hold
  | terminate
  deriving DecidableEq, Repr, Inhabited

instance : Named AcceptMode where
  values := [.none, .hold, .terminate]
  name
    | .none => "None"
    | .hold => "Hold"
    | .terminate => "Terminate"
  find_name a := by cases a <;> rfl

namespace Roster

/-- The call that a user accepts: the first incoming or waiting one, and failing that the first
held one. -/
def acceptable (r : Roster) : Option Call :=
  (r.findIn [.incoming, .waiting]).or (r.findIn [.responseHeld, .held])

/-- The action that accepts the acceptable call. -/
def acceptWith (r : Roster) (mode : AcceptMode) : Option CallControl := do
  let call ← r.acceptable
  match call.state with
  | .incoming => if mode = .none then some .answer else none
  | .waiting =>
      if r.hasState .active then
        match mode with
        | .none | .hold => some .holdActiveAcceptOther
        | .terminate => some .releaseActiveAcceptOther
      else if mode = .none then some .holdActiveAcceptOther
      else none
  | .held =>
      match mode with
      | .hold => some .holdActiveAcceptOther
      | .terminate => some .releaseActiveAcceptOther
      | .none =>
          if r.hasState .active then some .addHeldToConference else some .holdActiveAcceptOther
  | .responseHeld => some .responseAndHoldAccept
  | .active | .dialing | .alerting | .terminated => none

/-- The action that rejects the first incoming, waiting or held call. -/
def reject (r : Roster) : Option CallControl := do
  let call ← r.findIn [.incoming, .waiting, .responseHeld, .held]
  match call.state with
  | .incoming => some .hangUp
  | .waiting | .held => some .releaseHeld
  | .responseHeld => some .responseAndHoldReject
  | .active | .dialing | .alerting | .terminated => none

/-- The action that puts the incoming call on hold, or else the active one. -/
def hold (r : Roster) : Option CallControl :=
  if r.hasState .incoming then some .responseAndHold
  else if r.hasState .active then some .holdActiveAcceptOther
  else none

/-- The action that ends the ongoing call, or only the active call of the given number. -/
def terminate (r : Roster) : Option Nat → Option CallControl
  | some number => do
      let call ← r.get? (.peer number)
      if call.state = .active then some (.releaseSpecific number) else none
  | none => (r.findIn [.dialing, .alerting, .active]).map fun _ => .hangUp

/-- The action that takes one member of a conference aside. -/
def privateMode (r : Roster) (number : Nat) : Option CallControl := do
  let call ← r.get? (.peer number)
  if call.state = .active ∧ call.multiparty then some (.privateConsultation number) else none

/-- The action that joins two calls and leaves them. -/
def transfer (r : Roster) : Option CallControl :=
  if 2 ≤ r.size then some .explicitTransfer else none

theorem terminate_some_iff {r : Roster} {number : Nat} {action : CallControl} :
    r.terminate (some number) = some action ↔
      action = .releaseSpecific number ∧
        ∃ call, r.get? (.peer number) = some call ∧ call.state = .active := by
  cases h : r.get? (.peer number) with
  | none => simp [terminate, h]
  | some call =>
      by_cases hs : call.state = .active
      · simpa [terminate, h, hs] using eq_comm
      · simp [terminate, h, hs]

end Roster

/-! ### Accepting another way -/

/-- The alternatives to a refused way of accepting; without one, nothing is tried again. -/
structure AcceptRetry where
  /-- Instead of answering a lone incoming call. -/
  incoming : Option CallControl
  /-- Instead of holding the active calls for a waiting one. -/
  waiting : Option CallControl
  deriving DecidableEq, Repr

namespace AcceptRetry

/-- The alternatives that suit most gateways. -/
def standard : AcceptRetry := ⟨some .releaseActiveAcceptOther, some .answer⟩

/-- No alternatives. -/
def disabled : AcceptRetry := ⟨none, none⟩

/-- The alternative to a refused action, given the calls there are; never the same action. -/
def fallback (policy : AcceptRetry) (refused : CallControl) (r : Roster) : Option CallControl :=
  let alternative := match refused with
    | .answer => if r.hasState .incoming ∧ r.size = 1 then policy.incoming else none
    | .holdActiveAcceptOther => if r.hasState .waiting then policy.waiting else none
    | _ => none
  alternative.filter (· != refused)

instance : Outlined AcceptRetry where
  outline p := .record "AcceptRetryPolicy"
    [.field "incoming" (Outlined.outline p.incoming),
      .field "waiting" (Outlined.outline p.waiting)]

theorem fallback_ne {policy : AcceptRetry} {refused action : CallControl} {r : Roster}
    (h : policy.fallback refused r = some action) : action ≠ refused := by
  simp only [fallback, Option.filter_eq_some_iff, bne_iff_ne] at h
  exact h.2

end AcceptRetry

end AudioLink
