/-
**Surveys of the calls of a gateway.**

A gateway never tells its whole list of calls by itself.  It is asked for the list, answers with
one report per call, and then says that the list is complete.  A survey collects the reports and,
when the list is complete, brings the roster in line with them: calls that are no longer listed end,
new ones are entered, and known ones are brought up to date.  A call dialled here stays as it is
until the gateway reports a call that was not known before; it is then taken to be the first of the
new ones.

* `AudioLink.Survey` — the roster and the reports collected so far;
* `AudioLink.Survey.record`, `AudioLink.Survey.dial`, `AudioLink.Survey.abandon`,
  `AudioLink.Survey.endAll` — what happens to it between two passes;
* `AudioLink.Survey.added`, `AudioLink.Survey.removed`, `AudioLink.Survey.retained` — the reported
  numbers compared with those known before;
* `AudioLink.Survey.complete` — the end of a pass, with the calls to be announced.
-/
import AudioLink.Call.Roster
import AudioLink.Fault

set_option relaxedAutoImplicit false
set_option autoImplicit false

namespace AudioLink

/-- The calls of one gateway, the reports of the pass in progress, and the supply of handles. -/
structure Survey where
  roster : Roster
  /-- The calls reported since the last pass, the later of two under one number. -/
  burst : Roster
  /-- A gateway lists calls by number only. -/
  numbered : burst.get? .localOrigin = none
  /-- How long a call dialled here may stay unlisted. -/
  patience : Duration
  /-- Who gives out the handles. -/
  issuer : Nat
  /-- How many handles were given out. -/
  issued : Nat
  deriving DecidableEq

/-- What came of a pass. -/
structure Pass where
  /-- The calls to announce, in order. -/
  changed : List Call
  /-- The age of a call dialled here that was given up. -/
  stuck : Option Duration
  /-- Whether calls remain that have to be asked about again. -/
  pollAgain : Bool
  deriving DecidableEq, Repr

namespace Survey

/-- A survey of no calls. -/
def start (issuer : Nat) (patience : Duration) : Survey :=
  ⟨.empty, .empty, rfl, patience, issuer, 0⟩

/-- The handle given out next. -/
def nextHandle (s : Survey) : CallHandle := ⟨s.issuer, s.issued⟩

/-! ### Between two passes -/

/-- Reports left over from an interrupted list are forgotten. -/
def begin (s : Survey) : Survey := { s with burst := .empty, numbered := rfl }

/-- A report is kept until the pass ends, instead of an earlier one of the same number. -/
def record (s : Survey) (report : CallReport) (now : Instant) : Survey :=
  { s with
    burst := s.burst.insert (.reported s.nextHandle report now)
    numbered := by simp [Call.reported, s.numbered]
    issued := s.issued + 1 }

/-- The call dialled here that the gateway has not listed yet. -/
def dialled (s : Survey) : Option Call := s.roster.get? .localOrigin

/-- A new call is dialled, unless one is unlisted still. -/
def dial (s : Survey) (number : String) (now : Instant) : Except Fault (Call × Survey) :=
  if s.dialled.isSome then .error (.invalidState "an outgoing call is already being dialed")
  else
    let call := Call.outgoing s.nextHandle number now
    .ok (call, { s with roster := s.roster.insert call, issued := s.issued + 1 })

/-- The call dialled here is given up; it is handed back as ended. -/
def abandon (s : Survey) : Option Call × Survey :=
  (s.dialled.map Call.ended, { s with roster := s.roster.erase .localOrigin })

/-- Every call ends; they are handed back in order. -/
def endAll (s : Survey) : List Call × Survey :=
  (s.roster.calls.map Call.ended, { s with roster := .empty, burst := .empty, numbered := rfl })

/-! ### The end of a pass -/

/-- The numbers that were reported and not known before, in order. -/
def added (s : Survey) : List Nat :=
  s.burst.numbers.filter fun n => !s.roster.contains (.peer n)

/-- The numbers that were known before and not reported, in order. -/
def removed (s : Survey) : List Nat :=
  s.roster.numbers.filter fun n => !s.burst.contains (.peer n)

/-- The numbers that were known before and reported again, in order. -/
def retained (s : Survey) : List Nat :=
  s.roster.numbers.filter fun n => s.burst.contains (.peer n)

/-- The call dialled here goes on under the number that the gateway has given it. -/
def rename (r : Roster) (n : Nat) : Roster :=
  match r.get? .localOrigin with
  | some call => (r.erase .localOrigin).insert { call with index := .peer n }
  | none => r

/-- The calls under some numbers are taken away; they are handed back as ended, in order. -/
def removeAll (r : Roster) : List Nat → List Call × Roster
  | [] => ([], r)
  | n :: rest =>
      let (ended, remaining) := removeAll (r.erase (.peer n)) rest
      (((r.get? (.peer n)).map Call.ended).toList ++ ended, remaining)

/-- The reports of some numbers are entered as calls. -/
def enterAll (burst : Roster) (r : Roster) : List Nat → Roster
  | [] => r
  | n :: rest =>
      match burst.get? (.peer n) with
      | some report => enterAll burst (r.insert report) rest
      | none => enterAll burst r rest

/-- The calls under some numbers are brought up to date. -/
def absorbAll (burst : Roster) (r : Roster) : List Nat → Roster
  | [] => r
  | n :: rest =>
      match r.get? (.peer n), burst.get? (.peer n) with
      | some call, some report => absorbAll burst (r.insert (call.absorb report)) rest
      | _, _ => absorbAll burst r rest

/-- Two or more active calls form a conference, and no other call belongs to one. -/
def markConference (r : Roster) : Roster :=
  let active := r.countIn .active
  r.revise fun call => { call with multiparty := call.state == .active && 1 < active }

/-- The roster is brought in line with the reports, starting with these calls.  Announced are the
calls that have ended, and those that are new or differ from what stood under their index when the
pass ended. -/
def align (s : Survey) (r : Roster) (added retained : List Nat) : Pass × Survey :=
  let (ended, remaining) := removeAll r s.removed
  let roster := markConference (absorbAll s.burst (enterAll s.burst remaining added) retained)
  let changed := roster.calls.filter fun call => s.roster.get? call.index != some call
  (⟨ended ++ changed, none, !roster.isEmpty⟩,
    { s with roster := roster, burst := .empty, numbered := rfl })

/-- The list is complete.  A call dialled here goes on under the first new number, if there is one;
if there is none, and patience is at an end, every call is given up.  Otherwise the roster is
brought in line with the reports. -/
def complete (s : Survey) (now : Instant) : Pass × Survey :=
  match s.dialled, s.added with
  | some _, first :: others => s.align (rename s.roster first) others (first :: s.retained)
  | some call, [] =>
      if s.patience < call.age now then
        let (ended, s) := s.endAll
        (⟨ended, some (call.age now), false⟩, s)
      else s.align s.roster [] s.retained
  | none, added => s.align s.roster added s.retained

/-! ### What each step does to the calls -/

@[simp] theorem roster_begin (s : Survey) : s.begin.roster = s.roster := rfl

@[simp] theorem roster_record (s : Survey) (report : CallReport) (now : Instant) :
    (s.record report now).roster = s.roster := rfl

theorem get?_burst_record (s : Survey) (report : CallReport) (now : Instant) (index : CallIndex) :
    (s.record report now).burst.get? index =
      if .peer report.index = index then some (.reported s.nextHandle report now)
      else s.burst.get? index := by
  simp [record, Call.reported]

theorem get?_markConference (r : Roster) (index : CallIndex) :
    (markConference r).get? index = (r.get? index).map fun call =>
      { call with multiparty := call.state == .active && 1 < r.countIn .active } := by
  simp [markConference]

end Survey

end AudioLink
