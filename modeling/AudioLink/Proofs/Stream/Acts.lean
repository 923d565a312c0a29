/-
**What the streaming profile does at its desk.**

There are three acts only: the profile notes something, announces something, or issues an order.
What none of these acts spoils is upheld on nearly every occasion.  An answer, which strikes out an
order, and the end of the link are looked at one property at a time.

Main definitions:

* `AudioLink.Stream.Aside` — a change of the profile that is about neither settings nor orders;
* `AudioLink.Stream.Acts` — a property that no act spoils;
* `AudioLink.Stream.struck` — the desk after an answer.

Main results:

* `AudioLink.Stream.yields_onCommandResult` — an answer is about the oldest order;
* `AudioLink.Stream.upholds_onRequest`, `AudioLink.Stream.upholds_onEvent` — what a request and an
  event may put at risk;
* `AudioLink.Stream.Acts.profile` — **what no act, no answer and not the end of the link spoils is
  upheld on every occasion**.
-/

import AudioLink.Proofs.Yields
import AudioLink.Stream

set_option relaxedAutoImplicit false
set_option autoImplicit false

namespace AudioLink.Stream

/-- A change of the profile that is about neither its settings nor its orders. -/
structure Aside (f : Stream → Stream) : Prop where
  settings : ∀ s, (f s).settings = s.settings
  ledger : ∀ s, (f s).ledger = s.ledger

/-- No act of the profile spoils `I`. -/
structure Acts (I : Desk Stream Empty → Prop) : Prop where
  note : ∀ f, Aside f → Work.Upholds I (Work.update f)
  announce : ∀ report, Work.Upholds I (Work.announce report)
  issue : ∀ order, Work.Upholds I (issue order)

/-! ### Equations -/

section Equations

variable {view : View} {desk : Desk Stream Empty}

/-- An order leaves the link as a command, whether or not the transport takes it. -/
theorem yields_issue {post : Verdict → Desk Stream Empty → Prop} (order : Order) :
    (issue order).Yields view desk post ↔
      let accepted := view.transport desk.log (.command order.command)
      let issued := desk.session.ledger.issue order view.now accepted
      post issued.1 { desk with
        session := { desk.session with ledger := issued.2 }
        log := desk.log ++ [.call (.command order.command) accepted] } := Iff.rfl

/-- The desk after an answer was taken for that of the oldest order. -/
def struck (desk : Desk Stream Empty) : Desk Stream Empty :=
  { desk with session := { desk.session with ledger := desk.session.ledger.resolve.2 } }

/-- An answer is about the oldest order, which is struck out first; only a failure is announced. -/
theorem yields_onCommandResult {post : Unit → Desk Stream Empty → Prop} {outcome : Outcome}
    {code : Option Nat} :
    (onCommandResult outcome code).Yields view desk post ↔
      if desk.session.ledger.front?.isSome && !outcome.isOk then
        (Work.announce (.commandResult outcome code)).Yields view (struck desk) post
      else post () (struck desk) := by
  rw [onCommandResult, Work.yields_bind, Work.yields_session]
  cases hpending : desk.session.ledger.pending with
  | nil => simp [Ledger.resolve, Ledger.front?, Ledger.actions, hpending, struck]
  | cons oldest rest => simp [Ledger.resolve, Ledger.front?, Ledger.actions, hpending, struck]

end Equations

/-! ### Requests and events -/

section Upholds

variable {I : Desk Stream Empty → Prop}

/-- What is worked out from the priorities is sent, if there is anything to send. -/
theorem upholds_issueAny (hissue : ∀ order, Work.Upholds I (issue order))
    (order : List CodecConfig → Order) (configs : Option (List CodecConfig)) :
    Work.Upholds I
      (match configs with
        | some configs => Stream.issue (order configs)
        | none => return .ok ()) := by
  cases configs with
  | some configs => exact hissue _
  | none => exact .pure _

/-- A request upholds what neither orders nor new priorities spoil. -/
theorem upholds_onRequest (hissue : ∀ order, Work.Upholds I (issue order))
    (htable : ∀ table, Work.Upholds I (Work.update fun s => { s with table := table }))
    (request : Request) : Work.Upholds I (ProfileSession.onRequest (σ := Stream) request) := by
  cases request with
  | preferCodec config =>
      refine .bind .session fun s => ?_
      cases config.decision s.status with
      | apply configs => exact hissue _
      | unchanged | incomplete | notSelectable => exact .pure _
  | enableOptional =>
      refine .bind .read fun view => .bind .session fun s => .bind (htable _) fun _ => ?_
      exact upholds_issueAny hissue .enableOptional _
  | disableOptional =>
      refine .bind .read fun view => .bind .session fun s => .bind (htable _) fun _ => ?_
      exact upholds_issueAny hissue .disableOptional _

/-- A change of the codec upholds what neither the announcements nor the new status spoil. -/
theorem upholds_onCodecChanged (hannounce : ∀ report, Work.Upholds I (Work.announce report))
    (hstatus : ∀ status, Work.Upholds I (Work.update fun s => { s with status := status }))
    (status : CodecStatus) : Work.Upholds I (onCodecChanged status) := by
  refine .bind .session fun s => .bind (hannounce _) fun _ => .ite (fun _ => ?_) fun _ => hstatus _
  exact .bind (hannounce _) fun _ => hstatus _

/-- A change of the audio upholds what neither playing nor announcing it spoils. -/
theorem upholds_onAudio (hannounce : ∀ report, Work.Upholds I (Work.announce report))
    (hplaying : ∀ playing, Work.Upholds I (Work.update fun s => { s with playing := playing }))
    (current : AudioState) : Work.Upholds I (onAudio current) := by
  refine .bind .session fun s => .ite (fun _ => ?_) fun _ => .pure _
  exact .bind (hplaying _) fun _ => hannounce _

/-- An event upholds what neither a change of the codec nor an answer spoils. -/
theorem upholds_onEvent (event : Event)
    (hcodec : ∀ status, event = .codecChanged status → Work.Upholds I (onCodecChanged status))
    (hanswer : ∀ outcome code, event = .commandResult outcome code →
      Work.Upholds I (onCommandResult outcome code)) :
    Work.Upholds I (ProfileSession.onEvent (σ := Stream) event) := by
  cases event with
  | codecChanged status => exact .bind (hcodec status rfl) fun _ => .pure _
  | commandResult outcome code => exact .bind (hanswer outcome code rfl) fun _ => .pure _
  | _ => exact .bind .read fun _ => .pure _

end Upholds

/-! ### Occasions -/

namespace Acts

variable {I : Desk Stream Empty → Prop} (h : Acts I)

include h

theorem upholds_onCodecChanged (status : CodecStatus) :
    Work.Upholds I (onCodecChanged status) :=
  Stream.upholds_onCodecChanged h.announce (fun _ => h.note _ ⟨fun _ => rfl, fun _ => rfl⟩) status

theorem upholds_onAudio (current : AudioState) : Work.Upholds I (onAudio current) :=
  Stream.upholds_onAudio h.announce (fun _ => h.note _ ⟨fun _ => rfl, fun _ => rfl⟩) current

theorem upholds_onRequest (request : Request) :
    Work.Upholds I (ProfileSession.onRequest (σ := Stream) request) :=
  Stream.upholds_onRequest h.issue (fun _ => h.note _ ⟨fun _ => rfl, fun _ => rfl⟩) request

/-- An event upholds what no act spoils, if an answer does. -/
theorem upholds_onEvent (event : Event)
    (hanswer : ∀ outcome code, event = .commandResult outcome code →
      Work.Upholds I (onCommandResult outcome code)) :
    Work.Upholds I (ProfileSession.onEvent (σ := Stream) event) :=
  Stream.upholds_onEvent event (fun status _ => h.upholds_onCodecChanged status) hanswer

theorem upholds_onConnected : Work.Upholds I (ProfileSession.onConnected (σ := Stream)) :=
  .bind (h.note _ ⟨fun _ => rfl, fun _ => rfl⟩) fun _ => h.announce _

/-- **What no act spoils is upheld on every occasion**, if an answer and the end of the link uphold
it. -/
theorem profile (hanswer : ∀ outcome code, Work.Upholds I (onCommandResult outcome code))
    (hdisconnected : Work.Upholds I (ProfileSession.onDisconnected (σ := Stream))) :
    ProfileUpholds Stream I where
  onConnected := h.upholds_onConnected
  onDisconnected := hdisconnected
  onAudioChanged _ current _ := h.upholds_onAudio current
  onEvent event := h.upholds_onEvent event fun outcome code _ => hanswer outcome code
  onRequest := h.upholds_onRequest
  onAlarm kind := nomatch kind

end Acts

end AudioLink.Stream
