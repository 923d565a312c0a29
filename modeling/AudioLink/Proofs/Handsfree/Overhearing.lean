/-
**What can be overheard of the calls.**

The lists of a gateway can be followed from outside.  Whoever hears what the link is handed, and
sees what leaves it, writes down every report about a call, begins anew when the list is asked for
or the link is gone, and takes what he has for the list when it ends; unless a call is given up, for
then all calls are.  What the link has recorded of the list under way is what he has written down,
and what was taken in last is what he takes for it.

Main definitions:

* `AudioLink.Handsfree.Hearsay` — the reports heard since the list was begun last, and those of the
  list that was taken in last;
* `AudioLink.Handsfree.hear` — the hearsay after an impulse;
* `AudioLink.Roster.Says` — a roster says the same as some reports;
* `AudioLink.Handsfree.GoesBy` — what a link has recorded and taken in goes by hearsay.

Main results:

* `AudioLink.Handsfree.endsList_iff` — an answer ends a list when the oldest command without an
  answer asked for one;
* `AudioLink.Handsfree.GoesBy.respond` — whatever the impulse, what is recorded and what was taken
  in last go by what is heard;
* `AudioLink.Handsfree.goesBy_live` — **the list that was taken in last is the one that was
  overheard**, throughout the life of a link.
-/

import AudioLink.Proofs.Attribution
import AudioLink.Proofs.Handsfree.Handing
import AudioLink.Proofs.Handsfree.Lingering

set_option relaxedAutoImplicit false
set_option autoImplicit false

namespace AudioLink

/-! ### Reports -/

/-- What a gateway has said of a call. -/
def Call.report (call : Call) : CallReport where
  index := call.index.number?.getD 0
  direction := call.direction
  state := call.state
  multiparty := call.multiparty
  number := call.number

/-- The report that counts for a number: the one heard last. -/
def CallReport.latest? (reports : List CallReport) (n : Nat) : Option CallReport :=
  reports.reverse.find? (·.index == n)

theorem CallReport.latest?_snoc (reports : List CallReport) (report : CallReport) (n : Nat) :
    latest? (reports ++ [report]) n =
      if report.index = n then some report else latest? reports n := by
  rw [latest?, List.reverse_append]
  by_cases h : report.index = n <;> simp [h, latest?]

/-- A roster says the same as some reports: of every number what the report says that counts. -/
def Roster.Says (r : Roster) (reports : List CallReport) : Prop :=
  ∀ n, (r.get? (.peer n)).map Call.report = CallReport.latest? reports n

theorem Roster.says_empty : Roster.empty.Says [] := fun _ => rfl

/-- A report that is recorded is one more that was heard. -/
theorem Survey.says_record {s : Survey} {reports : List CallReport} (h : s.burst.Says reports)
    (report : CallReport) (now : Instant) :
    (s.record report now).burst.Says (reports ++ [report]) := by
  intro n
  rw [get?_burst_record, CallReport.latest?_snoc, ← h n]
  by_cases hn : report.index = n
  · subst hn
    rw [if_pos rfl, if_pos rfl]
    rfl
  · rw [if_neg hn, if_neg fun heq => hn (CallIndex.peer.inj heq)]

namespace Handsfree

/-! ### Hearsay -/

/-- What someone knows of the lists of a gateway who hears what the link is handed, and sees what
leaves it. -/
structure Hearsay where
  /-- The reports since the list was begun last. -/
  heard : List CallReport
  /-- The reports of the list that was taken in last. -/
  taken : List CallReport

/-- Nothing was heard yet. -/
def Hearsay.none : Hearsay := ⟨[], []⟩

/-- Whether an effect tells that the reports so far are of no account: the list is asked for anew,
or the link has come to be disconnected. -/
def clears : Effect → Bool
  | .call (.command .queryCurrentCalls) _ => true
  | .notice (.linkChanged _ .disconnected) => true
  | _ => false

/-- Whether an effect tells that a call was given up. -/
def givesUp : Effect → Bool
  | .notice (.requestFailed (.stuckCall _)) => true
  | _ => false

/-- The report that an impulse brings, as long as there is a link at all. -/
def reportOf (link : Link Handsfree Request AlarmKind) : Impulse Request → List CallReport
  | .hand _ (.event (.callListed report)) => if link.state = .disconnected then [] else [report]
  | _ => []

/-- The hearsay after an impulse. -/
def hear (link : Link Handsfree Request AlarmKind) (impulse : Impulse Request) (log : List Effect)
    (hearsay : Hearsay) : Hearsay where
  heard :=
    if endsList link impulse || log.any clears then [] else hearsay.heard ++ reportOf link impulse
  taken :=
    if Link.DropsOut log then []
    else if endsList link impulse then (if log.any givesUp then [] else hearsay.heard)
    else hearsay.taken

/-- **When an answer ends a list.**  As someone knows who keeps the book of a link, an answer ends a
list of calls exactly when the oldest command that has no answer yet asked for one. -/
theorem endsList_iff (settings : HandsfreeSettings) (issuer : Nat) (peer : Address)
    (impulses : List (Impulse Request)) (scene : Scene) (outcome : Outcome) (code : Option Nat) :
    let link := Link.start peer (start settings issuer)
    let book := link.keepBook impulses .blank
    endsList (link.live impulses).1 (.hand scene (.event (.commandResult outcome code))) = true ↔
      (link.live impulses).1.state ≠ .disconnected ∧
        book.taken[book.answers]? = some .queryCurrentCalls := by
  intro link book
  have hblank : AgreesWith .blank (start settings issuer) := Ledger.agrees_blank
  have hpending : (link.live impulses).1.session.ledger.actions.map Order.command =
      book.taken.drop book.answers :=
    (accountable.agrees_live (Link.between_start peer _) hblank impulses).pending
  -- the command is the one that the oldest pending order was carried by
  have hfront : book.taken[book.answers]? =
      (link.live impulses).1.session.ledger.front?.map Order.command := by
    rw [← List.head?_drop, ← hpending, List.head?_map]
    rfl
  rw [endsList, Bool.and_eq_true, bne_iff_ne, beq_iff_eq, hfront, Option.map_eq_some_iff]
  refine and_congr_right fun _ => ⟨fun hquery => ⟨_, hquery, rfl⟩, ?_⟩
  rintro ⟨order, horder, hcommand⟩
  rw [horder, Order.command_eq_query_iff.1 hcommand]

/-! ### What is recorded of the list under way -/

/-- What is recorded of the list under way is what was heard, unless that is of no account. -/
def Records (heard : List CallReport) (s : Handsfree) (log : List Effect) : Prop :=
  s.survey.burst.Says (if log.any clears then [] else heard)

section Records

variable {heard : List CallReport} {s next : Handsfree} {log log' : List Effect}

theorem Records.of_eq (h : Records heard s log) (hburst : next.survey.burst = s.survey.burst)
    (hlog : log'.any clears = log.any clears) : Records heard next log' := by
  rw [Records, hburst, hlog]
  exact h

theorem Records.snoc (h : Records heard s log) {effect : Effect} (hother : clears effect = false) :
    Records heard s (log ++ [effect]) :=
  h.of_eq rfl (by simp [hother])

/-- Nothing is recorded where nothing is of account. -/
theorem records_of_empty (hburst : s.survey.burst = .empty) (hclear : log.any clears = true) :
    Records heard s log := by
  rw [Records, hburst, hclear]
  exact Roster.says_empty

end Records

/-! ### Work at the desk -/

section Work

variable {heard : List CallReport}

theorem clears_command (command : Command) (accepted : Bool) :
    clears (.call (.command command) accepted) = (command == .queryCurrentCalls) := by
  cases command <;> rfl

/-- No order but the question for the list of calls is about the list. -/
theorem upholds_issue_records {order : Order} (hother : order ≠ .queryCalls) :
    Work.Upholds (fun desk => Records heard desk.session desk.log) (issue order) := by
  intro view desk h
  rw [yields_issue]
  refine Records.of_eq h rfl ?_
  have hcommand : clears (.call (.command order.command)
      (view.transport desk.log (.command order.command))) = false := by
    rw [clears_command]
    exact beq_false_of_ne fun heq => hother (Order.command_eq_query_iff.1 heq)
  simp [hcommand]

theorem slight_records : Slight fun desk => Records heard desk.session desk.log where
  note f hf := fun view desk h =>
    h.of_eq (congrArg Survey.burst (hf.survey _)) rfl
  announce _ _ _ := fun _ _ h => h.snoc rfl
  issue order hroutine _ := upholds_issue_records fun heq => by
    subst heq
    cases hroutine
  abandonDial := by
    intro view desk h
    rw [yields_abandonDial]
    exact h.of_eq rfl (any_announcements (fun _ => rfl) _ _)

/-- When the list is asked for, what was recorded is given up. -/
theorem upholds_queryCalls_records :
    Work.Upholds (fun desk => Records heard desk.session desk.log) queryCalls := by
  refine upholds_queryCalls (fun _ _ h => h) fun view desk _ => ?_
  rw [yields_issue]
  exact records_of_empty rfl (by simp [clears, Order.command])

theorem upholds_onRequest_records (request : Request) :
    Work.Upholds (fun desk => Records heard desk.session desk.log) (onRequest request) := by
  refine slight_records.upholds_onRequest request (fun number _ => ?_)
    (fun _ => upholds_queryCalls_records) (fun hcontrol => ?_) fun allowed _ => ?_
  · refine upholds_dial ?_ (fun _ => upholds_issue_records nofun) upholds_queryCalls_records
      slight_records.abandonDial number
    intro desk number now call survey hdial h
    obtain ⟨-, -, rfl⟩ := Survey.dial_eq_ok hdial
    exact (Records.of_eq h rfl rfl).snoc rfl
  · refine upholds_onRequest_control (fun order hcontrol => upholds_issue_records ?_) hcontrol
    rintro rfl
    cases hcontrol
  · exact fun _ _ h => yields_allowAudioRoute.2 h

/-- An answer leaves what was recorded, unless it ends a list. -/
theorem upholds_onAnswer_records {order : Order} (hother : order ≠ .queryCalls) (outcome : Outcome)
    (code : Option Nat) :
    Work.Upholds (fun desk => Records heard desk.session desk.log)
      (onAnswer order outcome code) := by
  refine slight_records.upholds_onAnswer order outcome code (fun heq => absurd heq hother) ?_
  intro action mode retried _
  exact upholds_onAcceptResult (fun _ _ => upholds_issue_records nofun)
    (slight_records.upholds_surface outcome code) action mode retried

theorem upholds_onEvent_records {event : Event}
    (hanswer : ∀ outcome code, event ≠ .commandResult outcome code)
    (hlisted : ∀ report, event ≠ .callListed report) :
    Work.Upholds (fun desk => Records heard desk.session desk.log) (onEvent event) :=
  slight_records.upholds_onEvent event (fun _ _ _ => upholds_queryCalls_records)
    (fun outcome code heq => absurd heq (hanswer outcome code))
    fun report heq => absurd heq (hlisted report)

/-- The link itself is not about the list, until it is gone. -/
theorem unmoved_records : Link.Unmoved (ρ := Request) (τ := AlarmKind) (Records heard) where
  audioChanged _ _ _ _ _ h := h.snoc rfl
  onAudioChanged :=
    upholds_onAudio (fun _ _ _ h => h) (fun _ _ _ h => h.snoc rfl) fun _ _ h => h
  onConnected := slight_records.upholds_onConnected
  asked _ _ _ _ own h := h.snoc (by cases own <;> rfl)
  linkChanged s log previous current hup h := by
    refine h.snoc ?_
    cases current with
    | disconnected => exact absurd rfl hup
    | _ => rfl
  onLinkUp _ _ _ h := h
  onDisconnected previous view desk _ := by
    refine yields_onDisconnected.2 (records_of_empty rfl ?_)
    rw [any_announcements fun _ => rfl]
    simp [clears]

end Work

/-! ### Impulses -/

section Impulses

variable {link : Link Handsfree Request AlarmKind} {hearsay : Hearsay} {scene : Scene}
  {outcome : Outcome} {code : Option Nat}

/-- When a list ends, nothing is recorded any more, and a call is told to be given up if the pass
gives up. -/
theorem respond_endsList (scene : Scene) (outcome : Outcome) (code : Option Nat)
    (hqueue : link.queue = []) (hup : link.state ≠ .disconnected)
    (hfront : link.session.ledger.front? = some .queryCalls) :
    let after := link.respond (.hand scene (.event (.commandResult outcome code)))
    after.1.session.survey.burst = .empty ∧
      after.2.any givesUp = (link.session.survey.stuckAge scene.now).isSome := by
  intro after
  refine respond_answer_told (P := fun progress => progress.link.session.survey.burst = .empty ∧
    progress.log.any givesUp = (link.session.survey.stuckAge scene.now).isSome) hqueue hup hfront ?_
  show finishQuery.Yields (Step.view scene link) (struck (Step.desk ⟨link, []⟩)) _
  rw [yields_finishQuery, show (struck (Step.desk ⟨link, []⟩)).session.survey =
    link.session.survey from rfl, show (Step.view scene link).now = scene.now from rfl]
  cases hstuck : link.session.survey.stuckAge scene.now with
  | some age =>
      have hpass := Survey.complete_eq_of_stuck hstuck
      simp only [hpass]
      rw [yields_issueQuietly]
      refine ⟨congrArg (fun pass => pass.2.burst) hpass, ?_⟩
      simp [givesUp, Verdict.told, Fault.isUnexpected]
  | none =>
      have hpass := Survey.complete_eq hstuck
      simp only [hpass]
      refine ⟨congrArg (fun pass => pass.2.burst) hpass, ?_⟩
      rw [Verdict.told, List.append_nil]
      exact any_announcements (fun _ => rfl) [] _

/-- A report that reaches the profile is recorded, and nothing leaves the link. -/
theorem respond_listed (scene : Scene) (report : CallReport) (hqueue : link.queue = [])
    (hup : link.state ≠ .disconnected) :
    let after := link.respond (.hand scene (.event (.callListed report)))
    after.1.session.survey = link.session.survey.record report scene.now ∧ after.2 = [] :=
  Link.respond_event_told (P := fun progress : Progress Handsfree Request AlarmKind =>
    progress.link.session.survey = link.session.survey.record report scene.now ∧ progress.log = [])
    hqueue hup rfl ⟨rfl, rfl, rfl⟩

/-- An answer that does not end a list leaves what was recorded. -/
theorem records_answer (hlink : Link.Between link) (hup : link.state ≠ .disconnected)
    (hfront : link.session.ledger.front? ≠ some .queryCalls)
    (hrecords : Records hearsay.heard link.session []) :
    let after := link.respond (.hand scene (.event (.commandResult outcome code)))
    Records hearsay.heard after.1.session after.2 := by
  intro after
  cases horder : link.session.ledger.front? with
  | none =>
      refine Link.respond_event_told (P := Link.AtLink (Records hearsay.heard)) hlink.queue hup rfl ?_
      refine yields_onCommandResult.2 ?_
      rw [show (Step.desk ⟨link, []⟩).session.ledger.front? = none from horder]
      exact ⟨rfl, hrecords⟩
  | some order =>
      have hquery : order ≠ .queryCalls := fun heq => hfront (heq ▸ horder)
      refine respond_answer_told (P := Link.AtLink (Records hearsay.heard)) hlink.queue hup horder ?_
      refine Work.yields_mono (upholds_onAnswer_records hquery outcome code _ _ hrecords) ?_
      intro verdict last hlast
      exact verdict.of_told (P := Records hearsay.heard last.session) hlast fun _ _ => hlast.snoc rfl

/-- So does everything that is neither an answer nor a report about a call. -/
theorem records_other (hlink : Link.Between link) {impulse : Impulse Request}
    (hanswer : ∀ scene outcome code, impulse ≠ .hand scene (.event (.commandResult outcome code)))
    (hlisted : ∀ scene report, impulse ≠ .hand scene (.event (.callListed report)))
    (hrecords : Records hearsay.heard link.session []) :
    let after := link.respond impulse
    Records hearsay.heard after.1.session after.2 := by
  refine unmoved_records.respond (fun _ _ _ h => h.snoc rfl) (fun kind => ?_)
    (upholds_onEvent_records nofun nofun) hlink impulse
    (fun _ request _ => upholds_onRequest_records request) (fun scene event told => ?_) hrecords
  · cases kind with
    | poll => exact upholds_queryCalls_records
  · refine upholds_onEvent_records (fun outcome code heq => ?_) fun report heq => ?_
    · exact hanswer scene outcome code (heq ▸ told)
    · exact hlisted scene report (heq ▸ told)

/-- What is recorded of the list under way, and what was taken in last, go by hearsay. -/
structure GoesBy (link : Link Handsfree Request AlarmKind) (taken : Roster) (hearsay : Hearsay) :
    Prop where
  heard : link.session.survey.burst.Says hearsay.heard
  taken : taken.Says hearsay.taken

namespace GoesBy

variable {taken : Roster} (h : GoesBy link taken hearsay)

include h

/-- Unless a list ends, what was taken in last stays, and what is recorded is left alone or cleared,
but for one report more. -/
theorem respond_going {impulse : Impulse Request} (hends : endsList link impulse = false)
    (hrecords : (link.respond impulse).1.session.survey.burst.Says
      (if (link.respond impulse).2.any clears then []
        else hearsay.heard ++ reportOf link impulse)) :
    GoesBy (link.respond impulse).1 (noteTaken link impulse (link.respond impulse).2 taken)
      (hear link impulse (link.respond impulse).2 hearsay) := by
  rw [hear, noteTaken, takenAt, hends]
  refine ⟨hrecords, ?_⟩
  dsimp only
  split
  · exact Roster.says_empty
  · exact h.taken

/-- Nothing is heard of a link that is disconnected. -/
theorem respond_unheard (hqueue : link.queue = []) (hdown : link.state = .disconnected)
    {event : Event} (hforeign : event.isForProfile = true) :
    let impulse : Impulse Request := .hand scene (.event event)
    GoesBy (link.respond impulse).1 (noteTaken link impulse (link.respond impulse).2 taken)
      (hear link impulse (link.respond impulse).2 hearsay) := by
  intro impulse
  have hafter : link.respond impulse = (link, []) :=
    Link.respond_event_unheard hqueue hdown hforeign
  have hreport : reportOf link impulse = [] := by cases event <;> simp [impulse, reportOf, hdown]
  refine h.respond_going (by cases event <;> simp [impulse, endsList, hdown]) ?_
  rw [hafter, hreport, List.append_nil]
  exact h.heard

/-- When a list ends, what was recorded is taken in as it was heard. -/
theorem respond_listEnd (hqueue : link.queue = []) (hup : link.state ≠ .disconnected)
    (hfront : link.session.ledger.front? = some .queryCalls) :
    let impulse : Impulse Request := .hand scene (.event (.commandResult outcome code))
    GoesBy (link.respond impulse).1 (noteTaken link impulse (link.respond impulse).2 taken)
      (hear link impulse (link.respond impulse).2 hearsay) := by
  intro impulse
  obtain ⟨hburst, hgives⟩ := respond_endsList scene outcome code hqueue hup hfront
  have hends : endsList link impulse = true := by simp [impulse, endsList, hup, hfront]
  constructor
  · rw [hburst, hear, hends]
    exact Roster.says_empty
  · rw [noteTaken, takenAt, hear, hends, if_pos rfl, hgives, Survey.taken]
    dsimp only
    split
    · exact Roster.says_empty
    · rw [if_pos rfl, show impulse.scene.now = scene.now from rfl]
      cases (link.session.survey.stuckAge scene.now).isSome with
      | true => exact Roster.says_empty
      | false => exact h.heard

/-- **Whatever the impulse, what is recorded and what was taken in last go by what is heard.** -/
theorem respond (hlink : Link.Between link) (impulse : Impulse Request) :
    GoesBy (link.respond impulse).1 (noteTaken link impulse (link.respond impulse).2 taken)
      (hear link impulse (link.respond impulse).2 hearsay) := by
  -- only an answer may end a list, and only a report may add to one
  by_cases hanswer : ∃ scene outcome code,
      impulse = .hand scene (.event (.commandResult outcome code))
  · obtain ⟨scene, outcome, code, rfl⟩ := hanswer
    by_cases hdown : link.state = .disconnected
    · exact h.respond_unheard hlink.queue hdown rfl
    · by_cases hfront : link.session.ledger.front? = some .queryCalls
      · exact h.respond_listEnd hlink.queue hdown hfront
      · refine h.respond_going (by simp [endsList, hfront]) ?_
        have hrecords : Records hearsay.heard link.session [] := h.heard
        exact (List.append_nil hearsay.heard).symm ▸ records_answer hlink hdown hfront hrecords
  by_cases hlisted : ∃ scene report, impulse = .hand scene (.event (.callListed report))
  · obtain ⟨scene, report, rfl⟩ := hlisted
    by_cases hdown : link.state = .disconnected
    · exact h.respond_unheard hlink.queue hdown rfl
    · obtain ⟨hsurvey, hlog⟩ := respond_listed scene report hlink.queue hdown
      refine h.respond_going rfl ?_
      rw [hlog, hsurvey, reportOf, if_neg hdown]
      exact Survey.says_record h.heard report scene.now
  have hends : endsList link impulse = false := by
    unfold endsList
    split
    · exact absurd ⟨_, _, _, rfl⟩ hanswer
    · rfl
  have hreport : reportOf link impulse = [] := by
    unfold reportOf
    split
    · exact absurd ⟨_, _, rfl⟩ hlisted
    · rfl
  refine h.respond_going hends ?_
  rw [hreport, List.append_nil]
  exact records_other hlink (fun scene outcome code heq => hanswer ⟨scene, outcome, code, heq⟩)
    (fun scene report heq => hlisted ⟨scene, report, heq⟩) h.heard

end GoesBy

/-- **The list that was taken in last is the one that was overheard**, and what is recorded of the
list under way is what was heard of it, throughout the life of a link. -/
theorem goesBy_live (settings : HandsfreeSettings) (issuer : Nat) (peer : Address)
    (impulses : List (Impulse Request)) :
    let link := Link.start peer (start settings issuer)
    GoesBy (link.live impulses).1 (lastTaken link impulses) (link.keep hear impulses .none) := by
  intro link
  induction impulses using List.reverseRecOn with
  | nil => exact ⟨Roster.says_empty, Roster.says_empty⟩
  | append_singleton before impulse ih =>
      rw [lastTaken, Link.keep_snoc, Link.keep_snoc, Link.live_snoc]
      exact ih.respond (Link.between_live (Link.between_start peer _) before) impulse

end Impulses

end Handsfree

end AudioLink
