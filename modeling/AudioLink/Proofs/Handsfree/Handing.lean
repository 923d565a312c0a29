/-
**What is handed over to control the calls.**

A gateway is told to accept, reject, hold, end, join or take aside its calls when the user asks for
it, and on two more occasions: when it refused to accept a call, another way may be tried, and when
a dialled call is stuck, it is hung up on.  Each time it is one action, chosen from the calls there
are at that moment, and nothing else leaves the link before it.

Main definitions:

* `AudioLink.Handsfree.Request.choice` — the order that carries out a request, or the fault that it
  ends with;
* `AudioLink.isControl` — an action on the calls;
* `AudioLink.Handsfree.Handing` — what an impulse hands over.

Main results:

* `AudioLink.Handsfree.yields_onRequest_control` — a request to control the calls is a choice and an
  order;
* `AudioLink.Handsfree.respond_request_control`, `AudioLink.Handsfree.respond_acceptResult` — what
  such a request, and the answer to an order to accept a call, make of the link;
* `AudioLink.Handsfree.handing_respond` — **what an impulse hands over**.
-/

import AudioLink.Proofs.Attribution
import AudioLink.Proofs.Handsfree.Untouched

set_option relaxedAutoImplicit false
set_option autoImplicit false

namespace AudioLink

/-- Whether an effect is that the gateway is told to do something about its calls. -/
def isControl : Effect → Bool
  | .call (.command (.call _)) _ => true
  | _ => false

namespace Handsfree

variable {view : View} {desk : Desk Handsfree AlarmKind}
  {post : Verdict → Desk Handsfree AlarmKind → Prop}

/-! ### Requests -/

/-- The orders that control the calls are those that carry an action. -/
theorem isControl_order (order : Order) (accepted : Bool) :
    AudioLink.isControl (.call (.command order.command) accepted) = order.isControl := by
  cases order <;> rfl

/-- The order for a suitable call, or the fault that there is none. -/
def orderFor (operation : String) (action : Option CallControl) (order : CallControl → Order) :
    Except Fault Order :=
  match action with
  | some action => .ok (order action)
  | none => .error (.noMatchingCall operation)

theorem orderFor_eq_ok {operation : String} {action : Option CallControl}
    {order : CallControl → Order} {chosen : Order}
    (h : orderFor operation action order = .ok chosen) :
    ∃ suitable, action = some suitable ∧ order suitable = chosen := by
  cases action with
  | none => cases h
  | some suitable => exact ⟨suitable, rfl, Except.ok.inj h⟩

/-- What takes a special ability of the gateway ends with a fault without it. -/
def enabling (s : Handsfree) (ability : UInt32) (operation : String)
    (choice : Except Fault Order) : Except Fault Order :=
  if s.capabilities.supportsCallHold ability then choice
  else .error (.invalidRequest ("gateway does not support " ++ operation))

theorem enabling_eq_ok {s : Handsfree} {ability : UInt32} {operation : String}
    {choice : Except Fault Order} {chosen : Order}
    (h : enabling s ability operation choice = .ok chosen) :
    s.capabilities.supportsCallHold ability = true ∧ choice = .ok chosen := by
  rw [enabling] at h
  split at h
  · next hable => exact ⟨hable, h⟩
  · cases h

/-- The order that carries out a request to control the calls, or the fault that it ends with; no
other request has such an order. -/
def Request.choice (s : Handsfree) : Request → Except Fault Order
  | accept mode => orderFor "accept" (s.roster.acceptWith mode) (.accept · mode false)
  | reject => orderFor "reject" s.roster.reject .reject
  | hold => orderFor "hold" s.roster.hold .hold
  | terminate none => orderFor "terminate" (s.roster.terminate none) .terminate
  | terminate (some number) =>
      enabling s Capabilities.releaseSpecific "releasing a specific call"
        (orderFor "terminate" (s.roster.terminate (some number)) .terminate)
  | privateMode number =>
      enabling s Capabilities.privateConsultation "private consultation"
        (orderFor "private mode" (s.roster.privateMode number) fun _ => .privateMode number)
  | transfer =>
      enabling s Capabilities.mergeAndDetach "explicit call transfer"
        (orderFor "explicit call transfer" s.roster.transfer fun _ => .transfer)
  | _ => .error (.noMatchingCall "")

/-- An order that was chosen is given; otherwise nothing is done. -/
def follow : Except Fault Order → Work Handsfree AlarmKind Verdict
  | .ok order => issue order
  | .error fault => return .error fault

theorem yields_control {operation : String} {choose : Roster → Option CallControl}
    {order : CallControl → Order} :
    (control operation choose order).Yields view desk post ↔
      (follow (orderFor operation (choose desk.session.roster) order)).Yields view desk post := by
  rw [control, Work.yields_bind, Work.yields_session]
  cases choose desk.session.roster with
  | none => rfl
  | some action => rfl

theorem yields_requiring {ability : UInt32} {operation : String}
    {next : Work Handsfree AlarmKind Verdict} {choice : Except Fault Order}
    (hnext : next.Yields view desk post ↔ (follow choice).Yields view desk post) :
    (requiring ability operation next).Yields view desk post ↔
      (follow (enabling desk.session ability operation choice)).Yields view desk post := by
  rw [requiring, Work.yields_bind, Work.yields_session, Work.yields_ite, enabling]
  split
  · exact hnext
  · rfl

/-- **A request to control the calls is a choice and an order.** -/
theorem yields_onRequest_control {request : Request} (hcontrol : request.isControl = true) :
    (onRequest request).Yields view desk post ↔
      (follow (request.choice desk.session)).Yields view desk post := by
  cases request with
  | accept mode => exact yields_control
  | reject => exact yields_control
  | hold => exact yields_control
  | terminate number =>
      cases number with
      | none =>
          show (control "terminate" (·.terminate none) .terminate).Yields view desk post ↔ _
          exact yields_control
      | some number => exact yields_requiring yields_control
  | privateMode number => exact yields_requiring yields_control
  | transfer => exact yields_requiring yields_control
  | _ => cases hcontrol

section Respond

variable {link : Link Handsfree Request AlarmKind} {scene : Scene} {ledger : Ledger Order}

/-- What is left of the link when it has followed a choice: the ledger, with the order if there was
one and the transport has taken it, and what has left the link. -/
def Followed (link : Link Handsfree Request AlarmKind) (scene : Scene) (ledger : Ledger Order) :
    Except Fault Order → Progress Handsfree Request AlarmKind → Prop
  | .ok order, after =>
      let accepted := scene.transport [] (.command order.command)
      let issued := ledger.issue order scene.now accepted
      after.link.session = { link.session with ledger := issued.2 } ∧
        after.log = .call (.command order.command) accepted :: Verdict.told issued.1
  | .error fault, after =>
      after.link.session = { link.session with ledger := ledger } ∧
        after.log = Verdict.told (.error fault)

theorem yields_follow {choice : Except Fault Order} (hlog : desk.log = []) (hdrops : desk.drops = 0)
    (hsession : desk.session = { link.session with ledger := ledger }) :
    (follow choice).Yields (Step.view scene link) desk fun verdict after =>
      after.drops = 0 ∧ Followed link scene ledger choice
        ⟨Step.settle link after, after.log ++ verdict.told⟩ := by
  obtain ⟨session, alarms, log, drops⟩ := desk
  cases hlog
  cases hsession
  cases choice with
  | error fault => exact ⟨hdrops, rfl, rfl⟩
  | ok order => exact ⟨hdrops, rfl, rfl⟩

/-- **What a request to control the calls makes of the link.** -/
theorem respond_request_control (scene : Scene) {request : Request} (hqueue : link.queue = [])
    (hconnected : link.state = .connected) (hcontrol : request.isControl = true) :
    Followed link scene link.session.ledger (request.choice link.session)
      ⟨(link.respond (.hand scene (.request request))).1,
        (link.respond (.hand scene (.request request))).2⟩ := by
  refine Link.respond_request hqueue hconnected ?_
  exact (yields_onRequest_control hcontrol).2 (yields_follow rfl rfl rfl)

/-- What the profile makes of the answer to the oldest order is what the link makes of it. -/
theorem respond_answer_told {P : Progress Handsfree Request AlarmKind → Prop} {order : Order}
    {outcome : Outcome} {code : Option Nat} (hqueue : link.queue = [])
    (hup : link.state ≠ .disconnected) (hfront : link.session.ledger.front? = some order)
    (hwork : (onAnswer order outcome code).Yields (Step.view scene link)
      (struck (Step.desk ⟨link, []⟩)) fun verdict after =>
        P ⟨Step.settle link after, after.log ++ verdict.told⟩) :
    P ⟨(link.respond (.hand scene (.event (.commandResult outcome code)))).1,
      (link.respond (.hand scene (.event (.commandResult outcome code)))).2⟩ := by
  refine Link.respond_event_told hqueue hup rfl ?_
  refine (yields_onCommandResult_of_front hfront).2 ?_
  -- no answer leads to dropping the audio
  have huntouched := upholds_onAnswer_untouched tolerant_any permits_any order outcome code
    (Step.view scene link) (struck (Step.desk ⟨link, []⟩)) (.refl trivial)
  exact ⟨huntouched.drops, hwork⟩

/-- What is left of the link when an order to accept a call was answered: another order was given,
or the failure was announced, or there was none. -/
def Accepted (link : Link Handsfree Request AlarmKind) (scene : Scene) (action : CallControl)
    (mode : AcceptMode) (retried : Bool) (outcome : Outcome) (code : Option Nat)
    (after : Progress Handsfree Request AlarmKind) : Prop :=
  let ledger := link.session.ledger.resolve.2
  if outcome.isOk then
    after.link.session = { link.session with ledger := ledger } ∧ after.log = []
  else
    match retryFor link.session action retried with
    | some alternative => Followed link scene ledger (.ok (.accept alternative mode true)) after
    | none =>
        after.link.session = { link.session with ledger := ledger } ∧
          after.log = .notice (.report (.commandResult outcome code)) ::
            if retried then
              [.notice (.requestFailed (.retryExhausted ("accept (" ++ action.code ++ ")")))]
            else []

/-- **What the answer to an order to accept a call makes of the link.** -/
theorem respond_acceptResult {action : CallControl} {mode : AcceptMode} {retried : Bool}
    {outcome : Outcome} {code : Option Nat} (hqueue : link.queue = [])
    (hup : link.state ≠ .disconnected)
    (hfront : link.session.ledger.front? = some (.accept action mode retried)) :
    Accepted link scene action mode retried outcome code
      ⟨(link.respond (.hand scene (.event (.commandResult outcome code)))).1,
        (link.respond (.hand scene (.event (.commandResult outcome code)))).2⟩ := by
  refine respond_answer_told hqueue hup hfront ?_
  show (onAcceptResult action mode retried outcome code).Yields _ _ _
  refine yields_onAcceptResult.2 ?_
  have hsame : retryFor (struck (Step.desk ⟨link, []⟩)).session action retried =
      retryFor link.session action retried := rfl
  rw [hsame]
  split
  · next hok =>
      rw [Accepted, if_pos hok]
      exact ⟨rfl, rfl⟩
  · next hfailed =>
      cases hretry : retryFor link.session action retried with
      | some alternative =>
          have hfollowed : (follow (.ok (.accept alternative mode true))).Yields
              (Step.view scene link) (struck (Step.desk ⟨link, []⟩)) fun verdict after =>
                after.drops = 0 ∧ Followed link scene link.session.ledger.resolve.2
                  (.ok (.accept alternative mode true))
                  ⟨Step.settle link after, after.log ++ verdict.told⟩ :=
            yields_follow rfl rfl rfl
          refine Work.yields_mono hfollowed ?_
          rintro verdict after ⟨-, hafter⟩
          rw [Accepted, if_neg hfailed, hretry]
          exact hafter
      | none =>
          rw [Accepted, if_neg hfailed, hretry]
          cases retried with
          | true => exact ⟨rfl, rfl⟩
          | false => exact ⟨rfl, rfl⟩

end Respond

/-! ### Logs without control -/

/-- The gateway was not told to do anything about its calls. -/
def Uncontrolled (log : List Effect) : Prop := ∀ effect ∈ log, AudioLink.isControl effect = false

theorem uncontrolled_nil : Uncontrolled [] := nofun

theorem Uncontrolled.snoc {log : List Effect} {effect : Effect} (h : Uncontrolled log)
    (hother : AudioLink.isControl effect = false) : Uncontrolled (log ++ [effect]) := by
  intro other hmem
  rcases List.mem_append.1 hmem with hmem | hmem
  · exact h other hmem
  · exact (List.mem_singleton.1 hmem) ▸ hother

theorem Uncontrolled.not_split {log earlier later : List Effect} {action : CallControl}
    {accepted : Bool} (h : Uncontrolled log) :
    log ≠ earlier ++ .call (.command (.call action)) accepted :: later := by
  rintro rfl
  exact absurd (h _ (List.mem_append_right _ (List.mem_cons_self ..))) nofun

/-- What is handed over before anything else is all that is handed over. -/
theorem Uncontrolled.split {rest earlier later : List Effect} {command : Command}
    {action : CallControl} {accepted taken : Bool} (h : Uncontrolled rest)
    (hlog : .call (.command command) accepted :: rest =
      earlier ++ .call (.command (.call action)) taken :: later) :
    earlier = [] ∧ command = .call action := by
  cases earlier with
  | nil =>
      obtain ⟨hcall, -⟩ := List.cons.inj hlog
      injection hcall with hcommand
      exact ⟨rfl, Outgoing.command.inj hcommand⟩
  | cons first earlier => exact absurd (List.cons.inj hlog).2 h.not_split

theorem tolerant_uncontrolled : Tolerant Uncontrolled where
  report _ _ _ h := h.snoc rfl
  order _ order accepted hother h := h.snoc ((isControl_order order accepted).trans hother)

theorem uncontrolled_told (verdict : Verdict) : Uncontrolled verdict.told :=
  verdict.of_told (P := Uncontrolled) uncontrolled_nil fun _ _ => uncontrolled_nil.snoc rfl

/-- What is announced of the failure to accept a call controls nothing. -/
theorem uncontrolled_refusal (action : CallControl) (retried : Bool) (outcome : Outcome)
    (code : Option Nat) :
    Uncontrolled (.notice (.report (.commandResult outcome code)) ::
      if retried then
        [.notice (.requestFailed (.retryExhausted ("accept (" ++ action.code ++ ")")))]
      else []) := by
  cases retried with
  | true => exact (uncontrolled_nil.snoc rfl).snoc rfl
  | false => exact uncontrolled_nil.snoc rfl

/-- The end of the list of calls hands over at most that a stuck call be hung up on. -/
theorem yields_finishQuery_controls (hlog : desk.log = []) :
    finishQuery.Yields view desk fun verdict after =>
      Uncontrolled (after.log ++ Verdict.told verdict) ∨ ∃ accepted rest,
        after.log ++ Verdict.told verdict =
          .call (.command (.call .hangUp)) accepted :: rest ∧ Uncontrolled rest := by
  obtain ⟨session, alarms, log, drops⟩ := desk
  obtain rfl : log = [] := hlog
  rw [yields_finishQuery]
  split
  · next age _ =>
      rw [yields_issueQuietly]
      refine .inr ⟨view.transport [] (.command (.call .hangUp)),
        (session.survey.complete view.now).1.changed.map announcement ++
          [.notice (.requestFailed (.stuckCall age))], rfl, ?_⟩
      exact (tolerant_uncontrolled.announced _ uncontrolled_nil).snoc rfl
  · left
    refine Verdict.of_told (P := Uncontrolled) (.ok ()) ?_ nofun
    exact tolerant_uncontrolled.announced _ uncontrolled_nil

/-! ### What is not about the control of the calls -/

/-- A property of the profile and of what has left the link that nothing spoils, unless the calls
are controlled or an order is answered. -/
structure Aloof (J : Handsfree → List Effect → Prop) : Prop
    extends Link.Unmoved (ρ := Request) (τ := AlarmKind) J where
  failed : ∀ s log fault, J s log → J s (log ++ [.notice (.requestFailed fault)])
  minor : Minor fun desk => J desk.session desk.log
  enter : Enters fun desk => J desk.session desk.log
  order : ∀ number, Work.Upholds (fun desk => J desk.session desk.log) (issue (.dial number))
  queryCalls : Work.Upholds (fun desk => J desk.session desk.log) queryCalls
  allowAudioRoute : ∀ allowed,
    Work.Upholds (fun desk => J desk.session desk.log) (allowAudioRoute allowed)

namespace Aloof

variable {J : Handsfree → List Effect → Prop} (h : Aloof J)

include h

theorem upholds_onRequest {request : Request} (hother : request.isControl = false) :
    Work.Upholds (fun desk => J desk.session desk.log) (onRequest request) :=
  h.minor.upholds_onRequest request
    (fun number _ => upholds_dial h.enter h.order h.queryCalls h.minor.abandonDial number)
    (fun _ => h.queryCalls) (fun hcontrol => absurd (hother.symm.trans hcontrol) nofun)
    fun allowed _ => h.allowAudioRoute allowed

theorem upholds_onEvent {event : Event}
    (hother : ∀ outcome code, event ≠ .commandResult outcome code) :
    Work.Upholds (fun desk => J desk.session desk.log) (onEvent event) :=
  h.minor.upholds_onEvent event (fun _ _ _ => h.queryCalls)
    fun outcome code heq => absurd heq (hother outcome code)

variable {link : Link Handsfree Request AlarmKind} {scene : Scene}

/-- An impulse spoils nothing, if it neither controls the calls nor is an answer. -/
theorem respond (hlink : Link.Between link) (hJ : J link.session []) {impulse : Impulse Request}
    (hrequest : ∀ scene request, impulse = .hand scene (.request request) →
      request.isControl = false)
    (hevent : ∀ scene outcome code,
      impulse ≠ .hand scene (.event (.commandResult outcome code))) :
    J (link.respond impulse).1.session (link.respond impulse).2 := by
  refine Link.Unmoved.respond h.toUnmoved h.failed (fun kind => ?_) (h.upholds_onEvent nofun) hlink
    impulse (fun scene request told => h.upholds_onRequest (hrequest scene request told))
    (fun scene event told => h.upholds_onEvent ?_) hJ
  · cases kind with
    | poll => exact h.queryCalls
  · rintro outcome code rfl
    exact hevent scene outcome code told

/-- Nor does the answer to an order, unless the order was to accept a call or asked for the list of
calls. -/
theorem respond_answer {order : Order} {outcome : Outcome} {code : Option Nat}
    (hlink : Link.Between link) (hup : link.state ≠ .disconnected)
    (hfront : link.session.ledger.front? = some order) (hquery : order ≠ .queryCalls)
    (haccept : ∀ action mode retried, order ≠ .accept action mode retried)
    (hJ : J (struck (Step.desk ⟨link, []⟩)).session []) :
    J (link.respond (.hand scene (.event (.commandResult outcome code)))).1.session
      (link.respond (.hand scene (.event (.commandResult outcome code)))).2 := by
  refine Handsfree.respond_answer_told (P := Link.AtLink J) hlink.queue hup hfront ?_
  have hanswer := h.minor.upholds_onAnswer order outcome code (fun heq => absurd heq hquery)
    fun action mode retried heq => absurd heq (haccept action mode retried)
  refine Work.yields_mono (hanswer _ _ hJ) ?_
  intro verdict after hafter
  exact verdict.of_told (P := J after.session) hafter fun fault _ => h.failed _ _ fault hafter

end Aloof

/-- The calls are not controlled by anything else. -/
theorem aloof_uncontrolled : Aloof fun _ log => Uncontrolled log where
  audioChanged _ _ _ _ _ h := h.snoc rfl
  onAudioChanged :=
    upholds_onAudio (fun _ _ _ h => h) (fun _ _ _ h => h.snoc rfl) fun _ _ h => h
  onConnected := by
    intro view desk h
    exact Work.yields_mono (upholds_onConnected_untouched tolerant_uncontrolled view desk (.refl h))
      fun _ _ hafter => hafter.log
  asked _ _ _ _ own h := h.snoc (by cases own <;> rfl)
  linkChanged _ _ _ _ _ h := h.snoc rfl
  onLinkUp _ _ _ h := h
  onDisconnected previous view desk h :=
    yields_onDisconnected.2 (tolerant_uncontrolled.announced _ (h.snoc rfl))
  failed _ _ _ h := h.snoc rfl
  minor :=
    { note := fun _ _ _ _ h => h
      announce := fun _ _ _ _ _ h => h.snoc rfl
      issue := fun order _ hother _ _ h => tolerant_uncontrolled.order _ order _ hother h
      record := fun _ _ _ _ h => h
      abandonDial := fun _ _ h => yields_abandonDial.2 (tolerant_uncontrolled.announced _ h) }
  enter _ _ _ call _ _ h := tolerant_uncontrolled.announced [call] h
  order number _ _ h := tolerant_uncontrolled.order _ (.dial number) _ rfl h
  queryCalls view desk h :=
    Work.yields_mono (upholds_queryCalls_untouched tolerant_uncontrolled view desk (.refl h))
      fun _ _ hafter => hafter.log
  allowAudioRoute _ _ _ h := yields_allowAudioRoute.2 h

/-! ### Impulses -/

/-- What an impulse hands over, and what becomes of the calls: no action, or one before anything
else.  It was chosen from the calls as they are before and after the impulse, unless a dialled call
is stuck. -/
inductive Handing (link : Link Handsfree Request AlarmKind) :
    Impulse Request → Link Handsfree Request AlarmKind → List Effect → Prop
  | nothing {impulse : Impulse Request} {after : Link Handsfree Request AlarmKind}
      {log : List Effect} (uncontrolled : Uncontrolled log) : Handing link impulse after log
  /-- The user asks for it. -/
  | request {scene : Scene} {request : Request} {after : Link Handsfree Request AlarmKind}
      {order : Order} {accepted : Bool} {rest : List Effect} (connected : link.state = .connected)
      (control : request.isControl = true) (chosen : request.choice link.session = .ok order)
      (roster : after.session.roster = link.session.roster) (uncontrolled : Uncontrolled rest) :
      Handing link (.hand scene (.request request)) after
        (.call (.command order.command) accepted :: rest)
  /-- A failure to accept a call leads to another order. -/
  | retry {scene : Scene} {outcome : Outcome} {code : Option Nat}
      {after : Link Handsfree Request AlarmKind} {action alternative : CallControl}
      {accepted : Bool} {rest : List Effect}
      (chosen : retryFor link.session action false = some alternative)
      (roster : after.session.roster = link.session.roster) (uncontrolled : Uncontrolled rest) :
      Handing link (.hand scene (.event (.commandResult outcome code))) after
        (.call (.command (.call alternative)) accepted :: rest)
  /-- A dialled call is stuck. -/
  | stuck {scene : Scene} {outcome : Outcome} {code : Option Nat}
      {after : Link Handsfree Request AlarmKind} {accepted : Bool} {rest : List Effect}
      (uncontrolled : Uncontrolled rest) :
      Handing link (.hand scene (.event (.commandResult outcome code))) after
        (.call (.command (.call .hangUp)) accepted :: rest)

section Impulses

variable {link : Link Handsfree Request AlarmKind} {scene : Scene}

/-- A request to control the calls hands over what was chosen, if the link is connected. -/
theorem handing_request (hlink : Link.Between link) {request : Request}
    (hcontrol : request.isControl = true) :
    Handing link (.hand scene (.request request)) (link.respond (.hand scene (.request request))).1
      (link.respond (.hand scene (.request request))).2 := by
  by_cases hconnected : link.state = .connected
  · have hfollowed := respond_request_control scene hlink.queue hconnected hcontrol
    cases hchoice : request.choice link.session with
    | error fault =>
        rw [hchoice] at hfollowed
        obtain ⟨-, hlog⟩ := hfollowed
        dsimp only at hlog
        exact .nothing (hlog ▸ uncontrolled_told (.error fault))
    | ok order =>
        rw [hchoice] at hfollowed
        obtain ⟨hsession, hlog⟩ := hfollowed
        dsimp only at hsession hlog
        rw [hlog]
        refine .request hconnected hcontrol hchoice ?_ (uncontrolled_told _)
        rw [hsession]
        rfl
  · rw [Link.respond_request_unheard hlink.queue hconnected]
    exact .nothing (uncontrolled_nil.snoc rfl)

/-- The answer to an order to accept a call hands over at most another one. -/
theorem Accepted.handing {action : CallControl} {mode : AcceptMode} {retried : Bool}
    {outcome : Outcome} {code : Option Nat} {after : Link Handsfree Request AlarmKind}
    {log : List Effect} (h : Accepted link scene action mode retried outcome code ⟨after, log⟩) :
    Handing link (.hand scene (.event (.commandResult outcome code))) after log := by
  rw [Accepted] at h
  split at h
  · obtain ⟨-, hlog⟩ := h
    dsimp only at hlog
    exact .nothing (hlog ▸ uncontrolled_nil)
  · split at h
    · next alternative hretry =>
        obtain ⟨hsession, hlog⟩ := h
        obtain ⟨rfl, -, -⟩ := retryFor_eq_some hretry
        dsimp only at hsession hlog
        rw [hlog]
        refine .retry hretry ?_ (uncontrolled_told _)
        rw [hsession]
        rfl
    · obtain ⟨-, hlog⟩ := h
      dsimp only at hlog
      exact .nothing (hlog ▸ uncontrolled_refusal action retried outcome code)

/-- The end of the list of calls hands over at most that a stuck call be hung up on. -/
theorem handing_finishQuery (hlink : Link.Between link) (hup : link.state ≠ .disconnected)
    (hfront : link.session.ledger.front? = some .queryCalls) {outcome : Outcome}
    {code : Option Nat} :
    Handing link (.hand scene (.event (.commandResult outcome code)))
      (link.respond (.hand scene (.event (.commandResult outcome code)))).1
      (link.respond (.hand scene (.event (.commandResult outcome code)))).2 := by
  refine respond_answer_told (P := fun after =>
    Handing link (.hand scene (.event (.commandResult outcome code))) after.link after.log)
    hlink.queue hup hfront ?_
  refine Work.yields_mono (yields_finishQuery_controls rfl) ?_
  rintro verdict after (hnothing | ⟨accepted, rest, hlog, hrest⟩)
  · exact .nothing hnothing
  · rw [hlog]
    exact .stuck hrest

/-- An answer hands over another way to accept a call, or that a stuck call be hung up on. -/
theorem handing_answer (hlink : Link.Between link) (outcome : Outcome) (code : Option Nat) :
    Handing link (.hand scene (.event (.commandResult outcome code)))
      (link.respond (.hand scene (.event (.commandResult outcome code)))).1
      (link.respond (.hand scene (.event (.commandResult outcome code)))).2 := by
  by_cases hdown : link.state = .disconnected
  · rw [Accountable.respond_unheard hlink.queue hdown]
    exact .nothing uncontrolled_nil
  cases hfront : link.session.ledger.front? with
  | none =>
      rw [accountable.respond_unmatched hlink.queue hdown hfront]
      exact .nothing uncontrolled_nil
  | some order =>
      by_cases hquery : order = .queryCalls
      · subst hquery
        exact handing_finishQuery hlink hdown hfront
      by_cases haccept : ∃ action mode retried, order = .accept action mode retried
      · obtain ⟨action, mode, retried, rfl⟩ := haccept
        exact (respond_acceptResult hlink.queue hdown hfront).handing
      · refine .nothing (aloof_uncontrolled.respond_answer hlink hdown hfront hquery ?_
          uncontrolled_nil)
        exact fun action mode retried heq => haccept ⟨action, mode, retried, heq⟩

/-- **What an impulse hands over.** -/
theorem handing_respond (hlink : Link.Between link) (impulse : Impulse Request) :
    Handing link impulse (link.respond impulse).1 (link.respond impulse).2 := by
  cases impulse with
  | wake scene => exact .nothing (aloof_uncontrolled.respond hlink uncontrolled_nil nofun nofun)
  | hand scene message =>
      by_cases hanswer : ∃ outcome code, message = .event (.commandResult outcome code)
      · obtain ⟨outcome, code, rfl⟩ := hanswer
        exact handing_answer hlink outcome code
      · by_cases hcontrol : ∃ request : Request,
            message = .request request ∧ request.isControl = true
        · obtain ⟨request, rfl, hcontrol⟩ := hcontrol
          exact handing_request hlink hcontrol
        · refine .nothing (aloof_uncontrolled.respond hlink uncontrolled_nil ?_ ?_)
          · intro _ request told
            exact Bool.eq_false_iff.2 fun htrue =>
              hcontrol ⟨request, (Impulse.hand.inj told).2, htrue⟩
          · exact fun _ outcome code told => hanswer ⟨outcome, code, (Impulse.hand.inj told).2⟩

end Impulses

end Handsfree

end AudioLink
