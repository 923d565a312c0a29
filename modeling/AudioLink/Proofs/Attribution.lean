/-
**Which command an answer belongs to.**

Both profiles write every order into a ledger when the transport has taken it, and into nothing
else; the answers strike the orders out again from the front, and the end of the link all that are
left.  So in both, what is pending is at any time the commands that were taken since the link came
to be disconnected last, without as many from the front as were answered.

Main results:

* `AudioLink.Stream.accountable`, `AudioLink.Handsfree.accountable` — both profiles write every
  order into their ledger;
* `AudioLink.answers_attributed` — **every answer goes to the oldest command without one**, and what
  was ever issued is answered, pending or dropped.
-/

import AudioLink.Proofs.Handsfree.Acts
import AudioLink.Proofs.Link.Accounts
import AudioLink.Proofs.Stream.Acts

set_option relaxedAutoImplicit false
set_option autoImplicit false

namespace AudioLink

variable {book : Book}

/-! ### Streaming -/

namespace Stream

/-- A failure is announced. -/
instance : Ledgered Stream Empty Order where
  ledger s := s.ledger
  setLedger ledger s := { s with ledger := ledger }
  command := Order.command
  onAnswer _ outcome code := do
    if !outcome.isOk then Work.announce (.commandResult outcome code)
    return .ok ()

theorem isAudio_command (order : Order) : order.command.isAudio = false := by
  cases order <;> rfl

/-- No act writes anything into the ledger but the order that is sent. -/
theorem acts_booked (book : Book) : Acts (Booked book) where
  note f haside := by
    intro view desk h
    rw [Work.yields_update, Booked, AgreesWith]
    show Ledger.Agrees _ (f desk.session).ledger _
    rw [haside.ledger]
    exact h
  announce report := by
    intro view desk h
    rw [Work.yields_announce, Booked, Book.foldl_note_snoc]
    exact h
  issue order := by
    intro view desk h
    rw [yields_issue, Booked, Book.foldl_note_snoc]
    exact Ledger.Agrees.issue h (isAudio_command order) view.now _

theorem accountable : Accountable Stream where
  ledger_setLedger _ _ := rfl
  onLinkUp _ _ := rfl
  onConnected book := (acts_booked book).upholds_onConnected
  onDisconnected book view desk h := h
  onAudioChanged book _ current _ := (acts_booked book).upholds_onAudio current
  onEvent book event hother := (acts_booked book).upholds_onEvent event
    fun outcome code h => absurd h (hother outcome code)
  onRequest book request := (acts_booked book).upholds_onRequest request
  onAlarm _ kind := nomatch kind
  onAnswer book _ outcome code := by
    refine .ite (fun _ => ?_) fun _ => .pure _
    exact .bind ((acts_booked book).announce _) fun _ => .pure _
  onResult outcome code view desk post := by
    show (do onCommandResult outcome code; return .ok () : Work Stream Empty Verdict).Yields view
      desk post ↔ _
    rw [Work.yields_bind, yields_onCommandResult,
      show Ledgered.ledger desk.session = desk.session.ledger from rfl]
    cases desk.session.ledger.front? with
    | none => exact Iff.rfl
    | some order => cases outcome <;> exact Iff.rfl

end Stream

/-! ### Handsfree -/

namespace Handsfree

instance : Ledgered Handsfree AlarmKind Order where
  ledger s := s.ledger
  setLedger ledger s := { s with ledger := ledger }
  command := Order.command
  onAnswer := onAnswer

theorem isAudio_command (order : Order) : order.command.isAudio = false := by
  cases order <;> rfl

/-- Calls are announced, and not written down. -/
theorem foldl_note_announcements (log : List Effect) (calls : List Call) :
    (log ++ calls.map announcement).foldl Book.note book = log.foldl Book.note book := by
  rw [List.foldl_append]
  induction calls with
  | nil => rfl
  | cons call calls ih => exact ih

theorem upholds_issue_booked (order : Order) : Work.Upholds (Booked book) (issue order) := by
  intro view desk h
  rw [yields_issue, Booked, Book.foldl_note_snoc]
  exact Ledger.Agrees.issue h (isAudio_command order) view.now _

/-- No act writes anything into the ledger but the order that is sent. -/
theorem chores_booked (book : Book) : Chores (Booked book) where
  note f haside := by
    intro view desk h
    rw [Work.yields_update, Booked, AgreesWith]
    show Ledger.Agrees _ (f desk.session).ledger _
    rw [haside.ledger]
    exact h
  announce report _ := by
    intro view desk h
    rw [Work.yields_announce, Booked, Book.foldl_note_snoc]
    exact h
  dropAudio := fun _ _ h => h
  issue order _ := upholds_issue_booked order
  queryCalls :=
    upholds_queryCalls (fun _ _ h => h) fun view _ h => upholds_issue_booked .queryCalls view _ h
  record _ _ := fun _ _ h => h
  abandonDial := by
    intro view desk h
    rw [yields_abandonDial, Booked, foldl_note_announcements]
    exact h

theorem enters_booked : Enters (Booked book) := by
  intro desk number now call survey _ h
  rw [Booked, Book.foldl_note_snoc]
  exact h

/-- The end of a list of calls may lead to an order to hang up. -/
theorem upholds_finishQuery_booked : Work.Upholds (Booked book) finishQuery := by
  intro view desk h
  rw [yields_finishQuery]
  split
  · rw [yields_issueQuietly, Booked, foldl_note_announcements]
    exact upholds_issue_booked (.terminate .hangUp) view (surveyed desk view.now) h
  · rw [Booked, foldl_note_announcements]
    exact h

theorem accountable : Accountable Handsfree where
  ledger_setLedger _ _ := rfl
  onLinkUp _ _ := rfl
  onConnected book := (chores_booked book).upholds_onConnected
  onDisconnected book view desk h := by
    show onDisconnected.Yields view desk _
    rw [yields_onDisconnected, Booked, foldl_note_announcements]
    exact h
  onAudioChanged book := (chores_booked book).upholds_onAudio
  onEvent book event hother := (chores_booked book).upholds_onEvent event
    fun outcome code h => absurd h (hother outcome code)
  onRequest book request := (chores_booked book).upholds_onRequest request
    fun number _ => (chores_booked book).upholds_dial enters_booked
      (fun number => upholds_issue_booked (.dial number)) number
  onAlarm book kind := match kind with
    | .poll => (chores_booked book).queryCalls
  onAnswer book order outcome code := (chores_booked book).upholds_onAnswer order outcome
    code fun _ => upholds_finishQuery_booked
  onResult outcome code view desk post := by
    show (onCommandResult outcome code).Yields view desk post ↔ _
    rw [yields_onCommandResult, show Ledgered.ledger desk.session = desk.session.ledger from rfl]
    cases desk.session.ledger.front? with
    | none => exact Iff.rfl
    | some order => exact Iff.rfl

end Handsfree

/-! ### Links -/

/-- **Every answer goes to the oldest command without one.**  At any time in the life of a link of
either profile, the ledger agrees with the book that is kept of the link, and the answer that comes
next is that of the oldest command that has none yet. -/
theorem answers_attributed (peer : Address) :
    (∀ (settings : StreamSettings) (impulses : List (Impulse Stream.Request)),
      let start := Link.start peer (Stream.start settings)
      (start.live impulses).1.Attributed (start.keepBook impulses .blank)) ∧
    (∀ (settings : HandsfreeSettings) (issuer : Nat) (impulses : List (Impulse Handsfree.Request)),
      let start := Link.start peer (Handsfree.start settings issuer)
      (start.live impulses).1.Attributed (start.keepBook impulses .blank)) := by
  constructor
  · intro settings impulses start
    have hblank : AgreesWith .blank (Stream.start settings) := Ledger.agrees_blank
    exact Stream.accountable.attributed_live (Link.between_start peer _) hblank impulses
  · intro settings issuer impulses start
    have hblank : AgreesWith .blank (Handsfree.start settings issuer) := Ledger.agrees_blank
    exact Handsfree.accountable.attributed_live (Link.between_start peer _) hblank impulses

end AudioLink
