/-
**Calls that are dialled and fail.**

A call that is dialled stands in the roster without a number until the gateway lists it, and when
the gateway answers that dialling has failed, the call without a number is given up.  The answer to
an order to dial may come late.  By then the call it is about may have been listed, and another one
may have been dialled, which stands in the roster without a number now; it is this call that is
given up.

Whoever watches the link can tell which call an order to dial is about: a call is announced before
it is ordered.  So a record is kept of the calls whose orders have no answer yet.

Main definitions:

* `AudioLink.Handsfree.Dials` — the record of the dialled calls without an answer;
* `AudioLink.Handsfree.keepDials` — the record of a life;
* `AudioLink.Handsfree.Traced` — what the record tells of the pending orders and of the call without
  a number;
* `AudioLink.Handsfree.EndsOnly` — no call is lost or announced as ended but one.

Main results:

* `AudioLink.Handsfree.traced_live` — **the record is right throughout the life of a link**;
* `AudioLink.Handsfree.Traced.dialled_own_iff` — whether the call without a number is the one that
  the oldest order is about;
* `AudioLink.Handsfree.dialFailure_endsOnly_iff` — **a failure ends no other call than its own
  exactly if it is about the call dialled last, or there is nothing to end**;
* `AudioLink.Handsfree.wrong_call_ended` — a failure that ends another call.
-/

import AudioLink.Proofs.Handsfree.Indicators
import AudioLink.Proofs.Handsfree.Roster
import AudioLink.Proofs.Link.Errands

set_option relaxedAutoImplicit false
set_option autoImplicit false

namespace AudioLink

/-! ### Surveys -/

namespace Survey

variable {issuer : Nat} {patience : Duration} {s : Survey} {heard : List Call}

/-- From one survey to another no call was dialled, and no handle was taken back. -/
structure Onward (s next : Survey) : Prop where
  dialled : ∀ call, next.dialled = some call → s.dialled = some call
  issuer : next.issuer = s.issuer
  issued : s.issued ≤ next.issued

theorem Onward.refl (s : Survey) : s.Onward s := ⟨fun _ => id, rfl, Nat.le_refl _⟩

theorem onward_begin (s : Survey) : s.Onward s.begin := ⟨fun _ => id, rfl, Nat.le_refl _⟩

theorem onward_record (s : Survey) (report : CallReport) (now : Instant) :
    s.Onward (s.record report now) :=
  ⟨fun _ => id, rfl, Nat.le_succ _⟩

/-- Once it is given up, there is no call without a number. -/
theorem dialled_abandon (s : Survey) : s.abandon.2.dialled = none := by
  show (s.roster.erase .localOrigin).get? .localOrigin = none
  rw [Roster.get?_erase, if_pos rfl]

theorem onward_abandon (s : Survey) : s.Onward s.abandon.2 := by
  refine ⟨fun _ hcall => ?_, rfl, Nat.le_refl _⟩
  cases (dialled_abandon s).symm.trans hcall

/-- A pass leaves the call dialled here as it is, if it leaves it at all. -/
theorem onward_complete (h : Tidy patience s heard) (now : Instant) :
    s.Onward (s.complete now).2 := by
  cases hstuck : s.stuckAge now with
  | some age =>
      rw [complete_eq_of_stuck hstuck]
      refine ⟨fun _ hcall => ?_, rfl, Nat.le_refl _⟩
      cases hcall
  | none =>
      rw [complete_eq hstuck]
      refine ⟨fun call hcall => ?_, rfl, Nat.le_refl _⟩
      have hfound : s.reconciled.get? .localOrigin = some call := hcall
      rw [get?_reconciled_local h] at hfound
      split at hfound
      · exact hfound
      · cases hfound

end Survey

namespace Handsfree

/-! ### The record of the dialled calls -/

/-- The number that an order dials. -/
def Order.dialled? : Order → Option String
  | dial number => some number
  | _ => none

/-- What someone knows of the dialled calls who hears what a link is handed, and sees what leaves
it. -/
structure Dials where
  /-- The call that was announced last. -/
  announced : Option Call
  /-- The calls whose orders the transport took and the gateway has not answered, the oldest
  first. -/
  outstanding : List Call
  deriving DecidableEq

namespace Dials

/-- Nothing was dialled yet. -/
def blank : Dials := ⟨none, []⟩

/-- The oldest order to dial was answered. -/
def answer (dials : Dials) : Dials := { dials with outstanding := dials.outstanding.tail }

/-- What leaves the link is noted: when an order to dial is taken, it is about the call that was
announced last; and when the link comes to be disconnected, no order will be answered any more. -/
def note (dials : Dials) : Effect → Dials
  | .notice (.report (.callChanged call)) => { dials with announced := some call }
  | .call (.command (.dial _)) true =>
      { dials with outstanding := dials.outstanding ++ dials.announced.toList }
  | .notice (.linkChanged _ .disconnected) => { dials with outstanding := [] }
  | _ => dials

theorem foldl_note_snoc (dials : Dials) (log : List Effect) (effect : Effect) :
    (log ++ [effect]).foldl note dials = (log.foldl note dials).note effect := by
  rw [List.foldl_append]
  rfl

/-- What a link asks on its own account is about no call. -/
theorem note_own (dials : Dials) {request : Outgoing} (own : Link.IsOwn request)
    (accepted : Bool) : dials.note (.call request accepted) = dials := by
  cases own <;> rfl

/-- An order that dials nothing is not noted. -/
theorem note_order (dials : Dials) {order : Order} (hother : order.dialled? = none)
    (accepted : Bool) : dials.note (.call (.command order.command) accepted) = dials := by
  cases order with
  | dial number => cases hother
  | _ => rfl

/-- Nor is a report that is not about a call. -/
theorem note_report (dials : Dials) {report : Report} (hother : ∀ call, report ≠ .callChanged call) :
    dials.note (.notice (.report report)) = dials := by
  cases report with
  | callChanged call => exact absurd rfl (hother call)
  | _ => rfl

/-- To announce calls is not to order them. -/
theorem outstanding_announcements (dials : Dials) (log : List Effect) (calls : List Call) :
    ((log ++ calls.map announcement).foldl note dials).outstanding =
      (log.foldl note dials).outstanding := by
  induction calls generalizing log with
  | nil => rw [List.map_nil, List.append_nil]
  | cons call calls ih =>
      rw [List.map_cons, List.append_cons, ih, foldl_note_snoc]
      rfl

end Dials

/-- Whether an impulse is the answer to an order to dial. -/
def answersDial (link : Link Handsfree Request AlarmKind) : Impulse Request → Bool
  | .hand _ (.event (.commandResult _ _)) =>
      link.state != .disconnected && (link.session.ledger.front?.bind Order.dialled?).isSome
  | _ => false

/-- The record after an impulse: the answer to an order to dial is counted, and what leaves the link
is noted. -/
def noteDials (link : Link Handsfree Request AlarmKind) (impulse : Impulse Request)
    (log : List Effect) (dials : Dials) : Dials :=
  log.foldl Dials.note (if answersDial link impulse then dials.answer else dials)

/-- The record of a life. -/
def keepDials (link : Link Handsfree Request AlarmKind) (impulses : List (Impulse Request))
    (dials : Dials) : Dials :=
  link.keep noteDials impulses dials

/-! ### What the record tells -/

/-- The record agrees with the orders to dial that are pending, and the last of its calls is the one
without a number, if there is one.  No two of its calls are taken for the same. -/
structure Traced (issuer : Nat) (patience : Duration) (dials : Dials) (s : Handsfree) : Prop where
  arises : ∃ heard, Survey.Arises issuer patience s.survey heard
  pending : s.ledger.actions.filterMap Order.dialled? = dials.outstanding.map Call.number
  latest : ∀ placeholder last, s.survey.dialled = some placeholder →
    dials.outstanding.getLast? = some last → last = placeholder
  given : ∀ call ∈ dials.outstanding,
    call.handle.issuer = s.survey.issuer ∧ call.handle.serial < s.survey.issued
  distinct : Board.Distinct dials.outstanding

section Traced

variable {issuer : Nat} {patience : Duration} {dials next : Dials} {s after : Handsfree}

/-- As long as nothing is dialled and no order to dial is answered, the record stays right. -/
theorem Traced.onward (h : Traced issuer patience dials s)
    (harises : ∃ heard, Survey.Arises issuer patience after.survey heard)
    (hsurvey : s.survey.Onward after.survey)
    (hledger : after.ledger.actions.filterMap Order.dialled? =
      s.ledger.actions.filterMap Order.dialled?)
    (hdials : next.outstanding = dials.outstanding) : Traced issuer patience next after where
  arises := harises
  pending := by rw [hledger, hdials, h.pending]
  latest placeholder last hplaceholder hlast :=
    h.latest placeholder last (hsurvey.dialled placeholder hplaceholder) (hdials ▸ hlast)
  given call hcall := by
    obtain ⟨hissuer, hserial⟩ := h.given call (hdials ▸ hcall)
    exact ⟨hissuer.trans hsurvey.issuer.symm, Nat.lt_of_lt_of_le hserial hsurvey.issued⟩
  distinct := hdials ▸ h.distinct

/-- With no order to dial pending, there is nothing to tell. -/
theorem Traced.of_nil (harises : ∃ heard, Survey.Arises issuer patience s.survey heard)
    (hledger : s.ledger.actions.filterMap Order.dialled? = [])
    (hdials : dials.outstanding = []) : Traced issuer patience dials s where
  arises := harises
  pending := by rw [hledger, hdials, List.map_nil]
  latest placeholder last _ hlast := by
    rw [hdials] at hlast
    cases hlast
  given call hcall := by
    rw [hdials] at hcall
    cases hcall
  distinct := by
    rw [hdials]
    exact .nil

/-- A call that is dialled and ordered is the last one of the record. -/
theorem Traced.dial (h : Traced issuer patience dials s) {number : String} {now : Instant}
    {call : Call} (hdial : s.survey.dial number now = .ok (call, after.survey))
    (hledger : after.ledger.actions.filterMap Order.dialled? =
      s.ledger.actions.filterMap Order.dialled? ++ [number])
    (hdials : next.outstanding = dials.outstanding ++ [call]) :
    Traced issuer patience next after := by
  obtain ⟨heard, harises⟩ := h.arises
  have hnext : ∃ heard, Survey.Arises issuer patience after.survey heard := ⟨heard, harises.dial hdial⟩
  obtain ⟨-, rfl, hsurvey⟩ := Survey.dial_eq_ok hdial
  refine ⟨hnext, ?_, ?_, ?_, ?_⟩
  · rw [hledger, hdials, h.pending, List.map_append]
    rfl
  · -- the call without a number is the new one, and the last of the record
    intro placeholder last hplaceholder hlast
    rw [hdials, List.getLast?_concat] at hlast
    rw [hsurvey] at hplaceholder
    have hfound : (s.survey.roster.insert _).get? .localOrigin = some placeholder := hplaceholder
    rw [Roster.get?_insert] at hfound
    exact Option.some.inj (hlast.symm.trans hfound)
  · intro call hcall
    rw [hsurvey]
    rw [hdials] at hcall
    rcases List.mem_append.1 hcall with hcall | hcall
    · exact ⟨(h.given call hcall).1, Nat.lt_succ_of_lt (h.given call hcall).2⟩
    · rw [List.mem_singleton.1 hcall]
      exact ⟨rfl, Nat.lt_succ_self _⟩
  · rw [hdials]
    refine List.pairwise_append.2 ⟨h.distinct, List.pairwise_singleton .., ?_⟩
    intro earlier hearlier call hcall
    rw [List.mem_singleton.1 hcall]
    exact Survey.ne_nextHandle (h.given earlier hearlier)

/-- An answer that is about no order to dial is of no matter. -/
theorem Traced.strike (h : Traced issuer patience dials s)
    (hother : ∀ order, s.ledger.front? = some order → order.dialled? = none) :
    Traced issuer patience dials { s with ledger := s.ledger.resolve.2 } := by
  refine h.onward h.arises (.refl _) ?_ rfl
  show s.ledger.resolve.2.actions.filterMap Order.dialled? = _
  rw [Ledger.actions_resolve]
  cases hactions : s.ledger.actions with
  | nil => rfl
  | cons order rest =>
      have hfront : s.ledger.front? = some order := by rw [Ledger.front?, hactions, List.head?_cons]
      rw [List.tail_cons, List.filterMap_cons_none (hother order hfront)]

/-- An order to dial is about the oldest call of the record, and once it is answered about none. -/
theorem Traced.owner (h : Traced issuer patience dials s) {number : String}
    (hfront : s.ledger.front? = some (.dial number)) :
    ∃ own later, dials.outstanding = own :: later ∧ own.number = number ∧
      Traced issuer patience dials.answer { s with ledger := s.ledger.resolve.2 } := by
  obtain ⟨rest, hactions⟩ := List.head?_eq_some_iff.1 hfront
  have hdialled : (Order.dial number).dialled? = some number := rfl
  have hpending := h.pending
  rw [hactions, List.filterMap_cons_some hdialled] at hpending
  cases hcalls : dials.outstanding with
  | nil =>
      rw [hcalls] at hpending
      cases hpending
  | cons own later =>
      rw [hcalls] at hpending
      obtain ⟨hnumber, hrest⟩ := List.cons.inj hpending
      have hlater : dials.answer.outstanding = later := congrArg List.tail hcalls
      have hmem (call : Call) (hcall : call ∈ later) : call ∈ dials.outstanding :=
        hcalls ▸ List.mem_cons_of_mem _ hcall
      refine ⟨own, later, rfl, hnumber.symm, h.arises, ?_, ?_, ?_, ?_⟩
      · show s.ledger.resolve.2.actions.filterMap Order.dialled? = _
        rw [Ledger.actions_resolve, hactions, hlater]
        exact hrest
      · -- the last of those that are left was the last before
        intro placeholder last hplaceholder hlast
        rw [hlater] at hlast
        refine h.latest placeholder last hplaceholder ?_
        rw [hcalls, List.getLast?_cons, hlast]
        rfl
      · rw [hlater]
        exact fun call hcall => h.given call (hmem call hcall)
      · rw [hlater]
        have hdistinct := h.distinct
        rw [hcalls] at hdistinct
        exact (List.pairwise_cons.1 hdistinct).2

/-- As long as an order to dial is pending, the call without a number is the last one of the
record. -/
theorem Traced.getLast?_eq (h : Traced issuer patience dials s) {own placeholder : Call}
    {later : List Call} (hcalls : dials.outstanding = own :: later)
    (hplaceholder : s.survey.dialled = some placeholder) :
    dials.outstanding.getLast? = some placeholder := by
  have hlast : dials.outstanding.getLast? = some (later.getLast?.getD own) := by
    rw [hcalls, List.getLast?_cons]
  rw [hlast, h.latest placeholder _ hplaceholder hlast]

/-- The call without a number is the one that the oldest order is about, or there is none, exactly
if no other call was ordered later or there is none. -/
theorem Traced.dialled_own_iff (h : Traced issuer patience dials s) {own : Call}
    {later : List Call} (hcalls : dials.outstanding = own :: later) :
    (∀ placeholder, s.survey.dialled = some placeholder → placeholder.handle = own.handle) ↔
      s.survey.dialled = none ∨ later = [] := by
  cases hdialled : s.survey.dialled with
  | none => exact iff_of_true nofun (.inl rfl)
  | some placeholder =>
      have hlast := h.getLast?_eq hcalls hdialled
      rw [hcalls] at hlast
      constructor
      · intro hown
        refine .inr (List.eq_nil_iff_forall_not_mem.2 fun call hcall => ?_)
        -- were a call ordered after it, the last one would be another than its own
        have hmem : placeholder ∈ later := by
          rw [List.getLast?_cons, List.getLast?_eq_some_getLast (List.ne_nil_of_mem hcall)]
            at hlast
          exact Option.some.inj hlast ▸ List.getLast_mem _
        have hdistinct := h.distinct
        rw [hcalls] at hdistinct
        exact List.rel_of_pairwise_cons hdistinct hmem (hown placeholder rfl).symm
      · rintro (hnone | hlater) other hother
        · cases hnone
        · obtain rfl := Option.some.inj hother
          rw [hlater] at hlast
          exact congrArg Call.handle (Option.some.inj hlast).symm

end Traced

/-! ### Work at the desk -/

/-- At the desk, the record in which all that left the link was noted is right. -/
def TracedAt (issuer : Nat) (patience : Duration) (dials : Dials)
    (desk : Desk Handsfree AlarmKind) : Prop :=
  Traced issuer patience (desk.log.foldl Dials.note dials) desk.session

section Work

variable {issuer : Nat} {patience : Duration} {dials : Dials}

/-- An order that dials nothing leaves the record right, whether or not the transport takes it. -/
theorem upholds_issue_traced {order : Order} (hother : order.dialled? = none) :
    Work.Upholds (TracedAt issuer patience dials) (issue order) := by
  intro view desk h
  rw [yields_issue, TracedAt, Dials.foldl_note_snoc, Dials.note_order _ hother]
  refine h.onward h.arises (.refl _) ?_ rfl
  show (desk.session.ledger.issue order view.now _).2.actions.filterMap Order.dialled? = _
  rw [Ledger.actions_issue]
  split
  · rw [List.filterMap_append, List.filterMap_cons_none hother]
    exact List.append_nil _
  · rfl

/-- No act of the profile spoils the record. -/
theorem chores_traced : Chores (TracedAt issuer patience dials) where
  note f haside := fun view desk h => by
    rw [Work.yields_update, TracedAt]
    refine h.onward ?_ ?_ ?_ rfl
    · rw [haside.survey]
      exact h.arises
    · rw [haside.survey]
      exact .refl _
    · rw [haside.ledger]
  announce report hreport := by
    intro view desk h
    rw [Work.yields_announce, TracedAt, Dials.foldl_note_snoc, Dials.note_report _ hreport]
    exact h
  dropAudio := fun _ _ h => h
  issue order hroutine := by
    refine upholds_issue_traced ?_
    cases order with
    | dial number => cases hroutine
    | _ => rfl
  record report now := by
    intro view desk h
    obtain ⟨heard, harises⟩ := h.arises
    exact h.onward ⟨_, harises.record report now⟩ (Survey.onward_record _ _ _) rfl rfl
  abandonDial := by
    intro view desk h
    obtain ⟨heard, harises⟩ := h.arises
    rw [yields_abandonDial]
    exact h.onward ⟨_, harises.abandon⟩ (Survey.onward_abandon _) rfl
      (Dials.outstanding_announcements _ _ _)
  queryCalls := by
    refine upholds_queryCalls (fun _ _ h => h) fun view desk h => ?_
    obtain ⟨heard, harises⟩ := h.arises
    refine upholds_issue_traced rfl view _ ?_
    exact h.onward ⟨_, harises.begin⟩ (Survey.onward_begin _) rfl rfl

/-- A call that is dialled enters the record when the transport takes the order, and is given up
again when it does not. -/
theorem upholds_dial_traced (number : String) :
    Work.Upholds (TracedAt issuer patience dials) (dial number) := by
  intro view desk h
  rw [yields_dial]
  split
  · exact h
  · split
    · exact h
    · next call survey hdial =>
        rw [yields_issue]
        cases view.transport (entered desk call survey).log
          (.command (Order.dial number).command) with
        | true =>
            -- the order is taken, and the gateway is asked for its calls
            refine chores_traced.queryCalls view _ ?_
            rw [TracedAt, Dials.foldl_note_snoc]
            refine Traced.dial h hdial ?_ ?_
            · show (desk.session.ledger.issue (.dial number) view.now true).2.actions.filterMap
                Order.dialled? = _
              rw [Ledger.actions_issue, if_pos rfl, List.filterMap_append]
              rfl
            · rw [entered, Dials.foldl_note_snoc]
              rfl
        | false =>
            -- the order is refused, and the call that was entered is abandoned
            obtain ⟨heard, harises⟩ := h.arises
            show abandonDial.Yields view _ _
            rw [yields_abandonDial]
            refine h.onward ⟨heard, (harises.dial hdial).abandon⟩ ?_ ?_ ?_
            · obtain ⟨-, -, hsurvey⟩ := Survey.dial_eq_ok hdial
              refine ⟨fun placeholder hplaceholder => ?_, ?_, ?_⟩
              · cases (Survey.dialled_abandon survey).symm.trans hplaceholder
              · show survey.abandon.2.issuer = _
                rw [hsurvey]
                rfl
              · show _ ≤ survey.abandon.2.issued
                rw [hsurvey]
                exact Nat.le_succ _
            · show (desk.session.ledger.issue (.dial number) view.now false).2.actions.filterMap
                Order.dialled? = _
              rw [Ledger.actions_issue, if_neg Bool.false_ne_true]
            · rw [Dials.outstanding_announcements, Dials.foldl_note_snoc]
              show ((entered desk call survey).log.foldl Dials.note dials).outstanding = _
              rw [entered, Dials.foldl_note_snoc]
              rfl

/-- The end of a list of calls leaves the record right. -/
theorem upholds_finishQuery_traced :
    Work.Upholds (TracedAt issuer patience dials) finishQuery := by
  intro view desk h
  obtain ⟨heard, harises⟩ := h.arises
  have hsurveyed : TracedAt issuer patience dials (surveyed desk view.now) :=
    h.onward ⟨_, harises.complete view.now⟩ (Survey.onward_complete harises.tidy _) rfl rfl
  rw [yields_finishQuery]
  split
  · refine Work.yields_mono (upholds_issueQuietly (chores_traced.issue _ rfl) view _ hsurveyed) ?_
    intro _ after hafter
    exact hafter.onward hafter.arises (.refl _) rfl (Dials.outstanding_announcements _ _ _)
  · exact hsurveyed.onward hsurveyed.arises (.refl _) rfl
      (Dials.outstanding_announcements _ _ _)

/-- With the link all orders are gone, and the record is empty. -/
theorem yields_onDisconnected_traced {view : View} {desk : Desk Handsfree AlarmKind}
    (h : TracedAt issuer patience dials desk) (previous : LinkState) :
    onDisconnected.Yields view
      { desk with log := desk.log ++ [.notice (.linkChanged previous .disconnected)] }
      fun _ after => TracedAt issuer patience dials after := by
  obtain ⟨heard, harises⟩ := h.arises
  rw [yields_onDisconnected]
  refine Traced.of_nil ⟨_, harises.endAll⟩ rfl ?_
  rw [Dials.outstanding_announcements, Dials.foldl_note_snoc]
  rfl

end Work

/-! ### The life of a link -/

section Life

variable {issuer : Nat} {patience : Duration} {dials : Dials}
  {link : Link Handsfree Request AlarmKind} {scene : Scene} {outcome : Outcome} {code : Option Nat}

/-- Nothing but the answer to an order spoils the record. -/
theorem mending_traced : Link.Mending (ρ := Request)
    fun s log => Traced issuer patience (log.foldl Dials.note dials) s where
  audioChanged s log previous current wideband h := by
    rw [Dials.foldl_note_snoc]
    exact h
  onAudioChanged := chores_traced.upholds_onAudio
  onConnected := chores_traced.upholds_onConnected
  asked s log request accepted own h := by
    rw [Dials.foldl_note_snoc, Dials.note_own _ own]
    exact h
  linkChanged s log previous current hup h := by
    rw [Dials.foldl_note_snoc]
    cases current with
    | disconnected => exact absurd rfl hup
    | _ => exact h
  failed s log fault h := by
    rw [Dials.foldl_note_snoc]
    exact h
  onLinkUp s log capabilities h := h.onward h.arises (.refl _) rfl rfl
  onDisconnected previous view desk h := yields_onDisconnected_traced h previous
  onEvent event hother := chores_traced.upholds_onEvent event
    fun outcome code heq => absurd heq (hother outcome code)
  onRequest request := chores_traced.upholds_onRequest request
    fun number _ => upholds_dial_traced number
  onAlarm kind := match kind with
    | .poll => chores_traced.queryCalls

/-- An answer leaves the record right, once it is counted if it is about an order to dial. -/
theorem yields_answer_traced (h : Traced issuer patience dials link.session) :
    (Link.onErrand (.message (.event (.commandResult outcome code))) :
      Step Handsfree Request AlarmKind Verdict).Yields scene ⟨link, []⟩ fun _ after =>
        Traced issuer patience (after.log.foldl Dials.note
          (if answersDial link (.hand scene (.event (.commandResult outcome code))) then
            dials.answer else dials)) after.link.session := by
  by_cases hdown : link.state = .disconnected
  · refine (Link.yields_onErrand_event_unheard hdown rfl).2 ?_
    rw [answersDial, hdown]
    exact h
  · have hheard : answersDial link (.hand scene (.event (.commandResult outcome code))) =
        (link.session.ledger.front?.bind Order.dialled?).isSome := by
      rw [answersDial, bne_iff_ne.2 hdown, Bool.true_and]
    refine (Link.yields_onErrand_event hdown rfl).2 ?_
    rw [hheard, Step.yields_consult]
    show (onCommandResult outcome code).Yields (Step.view scene link) (Step.desk ⟨link, []⟩) _
    have hledger : (Step.desk ⟨link, []⟩).session.ledger = link.session.ledger := rfl
    rw [yields_onCommandResult, hledger]
    cases hfront : link.session.ledger.front? with
    | none =>
        refine h.strike fun order heq => ?_
        cases hfront.symm.trans heq
    | some order =>
        -- only the answer to an order to dial takes a call off the record
        have hanswered : Traced issuer patience
            (if ((some order).bind Order.dialled?).isSome then dials.answer else dials)
            { link.session with ledger := link.session.ledger.resolve.2 } := by
          cases order with
          | dial number =>
              obtain ⟨-, -, -, -, hanswered⟩ := h.owner hfront
              exact hanswered
          | _ =>
              refine h.strike fun other heq => ?_
              obtain rfl := Option.some.inj (hfront.symm.trans heq)
              rfl
        exact chores_traced.upholds_onAnswer order outcome code
          (fun _ => upholds_finishQuery_traced) _ _ hanswered

theorem traced_respond (hlink : Link.Between link) (h : Traced issuer patience dials link.session)
    (impulse : Impulse Request) :
    Traced issuer patience (noteDials link impulse (link.respond impulse).2 dials)
      (link.respond impulse).1.session := by
  by_cases hanswer : ∃ scene outcome code,
      impulse = .hand scene (.event (.commandResult outcome code))
  · obtain ⟨scene, outcome, code, rfl⟩ := hanswer
    exact mending_traced.respond_hand hlink (yields_answer_traced h)
  · have hother : ∀ scene outcome code,
        impulse ≠ .hand scene (.event (.commandResult outcome code)) :=
      fun scene outcome code heq => hanswer ⟨scene, outcome, code, heq⟩
    have hunanswered : answersDial link impulse = false := by
      unfold answersDial
      split
      · exact absurd rfl (hother _ _ _)
      · rfl
    rw [noteDials, hunanswered]
    exact mending_traced.respond hlink impulse h hother

/-- **The record is right throughout the life of a link.** -/
theorem traced_live (hlink : Link.Between link) (h : Traced issuer patience dials link.session)
    (impulses : List (Impulse Request)) :
    Traced issuer patience (keepDials link impulses dials) (link.live impulses).1.session :=
  (Link.keep_induction (P := fun link dials => Link.Between link ∧
      Traced issuer patience dials link.session)
    (fun _ impulse _ h => ⟨Link.between_respond h.1 impulse, traced_respond h.1 h.2 impulse⟩)
    ⟨hlink, h⟩ impulses).2

end Life

/-! ### Failures -/

/-- From one roster to another no call is lost but the one with a given handle, and no other is
announced as ended. -/
structure EndsOnly (own : CallHandle) (before after : Roster) (announced : List Call) : Prop where
  kept : ∀ call ∈ before.calls, call.handle ≠ own → call ∈ after.calls
  ended : ∀ call ∈ announced, call.state = .terminated → call.handle = own

/-- When the call without a number is given up, it is the only one that ends. -/
theorem endsOnly_abandon_iff {own : CallHandle} {s : Survey} :
    EndsOnly own s.roster s.abandon.2.roster s.abandon.1.toList ↔
      ∀ placeholder, s.dialled = some placeholder → placeholder.handle = own := by
  constructor
  · intro h placeholder hplaceholder
    refine h.ended placeholder.ended ?_ rfl
    rw [Survey.abandon, hplaceholder]
    exact List.mem_singleton_self _
  · intro h
    refine ⟨fun call hcall hother => List.mem_filter.2 ⟨hcall, bne_iff_ne.2 ?_⟩, ?_⟩
    · intro hindex
      refine hother (h call ?_)
      rw [Survey.dialled, ← hindex]
      exact Roster.get?_of_mem hcall
    · intro call hcall _
      rw [Option.mem_toList, Survey.abandon, Option.map_eq_some_iff] at hcall
      obtain ⟨placeholder, hplaceholder, rfl⟩ := hcall
      exact h placeholder hplaceholder

/-- When dialling has failed, the call without a number is given up, and it is announced as
ended. -/
theorem respond_dialFailure {link : Link Handsfree Request AlarmKind} (hqueue : link.queue = [])
    (hup : link.state ≠ .disconnected) {number : String}
    (hfront : link.session.ledger.front? = some (.dial number)) (scene : Scene) {outcome : Outcome}
    (hfailed : outcome.isOk = false) (code : Option Nat) :
    let after := link.respond (.hand scene (.event (.commandResult outcome code)))
    after.1.session.survey = link.session.survey.abandon.2 ∧
      changes after.2 = link.session.survey.abandon.1.toList := by
  intro after
  refine respond_answer hqueue hup hfront ?_
  show (do onDialResult outcome code; return .ok () : Work Handsfree AlarmKind Verdict).Yields _ _ _
  rw [onDialResult, hfailed, Work.yields_bind]
  show (do abandonDial; surface outcome code : Work Handsfree AlarmKind Unit).Yields _ _ _
  rw [Work.yields_bind, yields_abandonDial, surface, Work.yields_announce, Work.yields_pure]
  exact ⟨rfl, rfl, (changes_snoc rfl _).trans (changes_announcements [] _)⟩

/-- **Which call ends when dialling has failed.**  At any moment in the life of a link, when the
oldest pending order dials a number, the record tells the call that it is about, and that the call
without a number is the last one of the record.  An answer that tells of a failure ends no other
call than its own exactly if there is no call without a number, or no other call was ordered after
it. -/
theorem dialFailure_endsOnly_iff (settings : HandsfreeSettings) (issuer : Nat) (peer : Address)
    (impulses : List (Impulse Request)) (scene : Scene) (outcome : Outcome) (code : Option Nat)
    (number : String)
    (hup : ((Link.start peer (start settings issuer)).live impulses).1.state ≠ .disconnected)
    (hfront : ((Link.start peer (start settings issuer)).live impulses).1.session.ledger.front? =
      some (.dial number))
    (hfailed : outcome.isOk = false) :
    let link := ((Link.start peer (start settings issuer)).live impulses).1
    let after := link.respond (.hand scene (.event (.commandResult outcome code)))
    let dials := keepDials (Link.start peer (start settings issuer)) impulses .blank
    ∃ own later, dials.outstanding = own :: later ∧ own.number = number ∧
      (∀ placeholder, link.session.survey.dialled = some placeholder →
        dials.outstanding.getLast? = some placeholder) ∧
      (EndsOnly own.handle link.session.roster after.1.session.roster (changes after.2) ↔
        link.session.survey.dialled = none ∨ later = []) := by
  intro link after dials
  have hstart : Traced issuer settings.outgoingTimeout .blank (start settings issuer) :=
    .of_nil ⟨_, .start⟩ rfl rfl
  have htraced : Traced issuer settings.outgoingTimeout dials link.session :=
    traced_live (Link.between_start peer _) hstart impulses
  obtain ⟨own, later, hcalls, hnumber, -⟩ := htraced.owner hfront
  obtain ⟨hsurvey, hchanges⟩ :=
    respond_dialFailure (Link.queue_live rfl impulses) hup hfront scene hfailed code
  refine ⟨own, later, hcalls, hnumber, fun _ => htraced.getLast?_eq hcalls, ?_⟩
  show EndsOnly own.handle link.session.survey.roster after.1.session.survey.roster
    (changes after.2) ↔ _
  rw [hsurvey, hchanges, endsOnly_abandon_iff]
  exact htraced.dialled_own_iff hcalls

/-- The gateway cannot dial. -/
def busy : Impulse Request := .hand (obliging 8) (.event (.commandResult .error none))

/-- When the list of calls has ended, a number is dialled. -/
def dialling : List (Impulse Request) :=
  introduction ++ [.hand (obliging 4) (.event (.commandResult .ok none)),
    .hand (obliging 5) (.request (.dial "5551"))]

/-- When the gateway cannot dial the only number that was dialled, no other call ends. -/
theorem dialFailure_endsOnly_iff_dialling :
    let link := (fresh.live dialling).1
    let after := link.respond busy
    (link.state ≠ .disconnected ∧ link.session.ledger.front? = some (.dial "5551") ∧
      Outcome.error.isOk = false) ∧
      ∃ own, (keepDials fresh dialling .blank).outstanding = [own] ∧ own.number = "5551" ∧
        EndsOnly own.handle link.session.roster after.1.session.roster (changes after.2) := by
  have hlive : fresh.live dialling = (Link.liveFor 1 fresh dialling).get rfl :=
    Link.live_eq_get 1 rfl
  have hdials : keepDials fresh dialling .blank =
      (Link.keepFor noteDials 1 fresh dialling .blank).get rfl :=
    Link.keep_eq_get 1 rfl
  have hup : (fresh.live dialling).1.state ≠ .disconnected := by
    rw [hlive]
    decide
  have hfront : (fresh.live dialling).1.session.ledger.front? = some (.dial "5551") := by
    rw [hlive]
    rfl
  have hone : (keepDials fresh dialling .blank).outstanding.length = 1 := by
    rw [hdials]
    rfl
  obtain ⟨own, later, hcalls, hnumber, -, hends⟩ := dialFailure_endsOnly_iff
    Settings.standard.handsfree 0 _ dialling (obliging 8) .error none "5551" hup hfront rfl
  obtain rfl : later = [] :=
    List.length_eq_zero_iff.1 (Nat.succ.inj ((congrArg List.length hcalls).symm.trans hone))
  exact ⟨⟨hup, hfront, rfl⟩, own, hcalls, hnumber, hends.2 (.inr rfl)⟩

/-- A number is dialled, the gateway lists the call, and the list ends; then another number is
dialled. -/
def redialling : List (Impulse Request) :=
  introduction ++ [.hand (obliging 4) (.request (.dial "5551")),
    .hand (obliging 5) (.event (.callListed ⟨1, .outgoing, .dialing, false, "5551"⟩)),
    .hand (obliging 6) (.event (.commandResult .ok none)),
    .hand (obliging 7) (.request (.dial "5552"))]

/-- The failure to dial the first number ends the call to the second one, whose order is still
pending. -/
theorem wrong_call_ended :
    let link := (fresh.live redialling).1
    let after := link.respond busy
    link.state = .connected ∧ link.session.ledger.front? = some (.dial "5551") ∧
      ∃ own other, (keepDials fresh redialling .blank).outstanding = [own, other] ∧
        own.number = "5551" ∧ other.number = "5552" ∧ other.handle ≠ own.handle ∧
        other ∈ link.session.roster.calls ∧ other ∉ after.1.session.roster.calls ∧
        other.ended ∈ changes after.2 := by
  have hlive : fresh.live redialling = (Link.liveFor 1 fresh redialling).get rfl :=
    Link.live_eq_get 1 rfl
  have hdials : keepDials fresh redialling .blank =
      (Link.keepFor noteDials 1 fresh redialling .blank).get rfl :=
    Link.keep_eq_get 1 rfl
  dsimp only
  rw [hlive, hdials, Link.respond_eq_get 1 rfl]
  exact ⟨rfl, rfl, _, _, rfl, rfl, rfl, by decide, by decide, by decide, by decide⟩

end Handsfree

end AudioLink
