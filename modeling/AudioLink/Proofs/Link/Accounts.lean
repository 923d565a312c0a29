/-
**Accounts of a link.**

A book is kept of a link by writing down what leaves it, impulse after impulse, and by counting the
answers that find something pending.  The ledger of the profile agrees with this book between any
two impulses, if the profile writes every order it sends into its ledger, and does nothing else to
it but strike out the oldest order when an answer comes, and all of them when the link is gone.

Main definitions:

* `AudioLink.Ledgered` — a profile with a ledger, and what it does about the answer to an order;
* `AudioLink.Accountable` — one that writes every order into its ledger;
* `AudioLink.Link.keepBook` — the book of a life;
* `AudioLink.Link.Attributed` — what the book tells of the answer that comes next;
* `AudioLink.Link.Separated` — what it tells of the commands of earlier connections.

Main results:

* `AudioLink.Accountable.agrees_respond` — an impulse leaves ledger and book in agreement;
* `AudioLink.Accountable.agrees_live` — **so does a life**;
* `AudioLink.Accountable.attributed_live` — **every answer goes to the oldest command without one**;
* `AudioLink.Accountable.separated_live` — **commands of earlier connections are pending as long as
  they have no answer**.
-/

import AudioLink.Proofs.Book
import AudioLink.Proofs.Link.Errands
import AudioLink.Proofs.Link.Lasting
import AudioLink.Proofs.Link.Rounds

set_option relaxedAutoImplicit false
set_option autoImplicit false

namespace AudioLink

variable {σ ρ τ ω : Type}

/-! ### Profiles with a ledger -/

/-- A profile that keeps its orders in a ledger until they are answered. -/
class Ledgered (σ : Type) (τ ω : outParam Type) where
  ledger : σ → Ledger ω
  setLedger : Ledger ω → σ → σ
  /-- The command that carries an order. -/
  command : ω → Command
  /-- What is done about the answer to an order, once the order is struck out. -/
  onAnswer : ω → Outcome → Option Nat → Work σ τ Verdict

open Ledgered (ledger setLedger)

section Profiles

variable [Ledgered σ τ ω]

/-- The ledger of the profile agrees with a book. -/
def AgreesWith (book : Book) (s : σ) : Prop := (ledger s).Agrees (Ledgered.command σ) book

/-- An answer is taken for that of the oldest order, which is struck out. -/
def strike (s : σ) : σ := setLedger (ledger s).resolve.2 s

/-- An answer that nothing waits for is counted as such. -/
def overhear (s : σ) : σ :=
  setLedger { ledger s with unmatched := (ledger s).unmatched + 1 } s

/-- At the desk, the ledger agrees with the book in which all that left the link was noted. -/
def Booked (book : Book) (desk : Desk σ τ) : Prop :=
  AgreesWith (desk.log.foldl Book.note book) desk.session

/-- A profile that writes every order into its ledger, whatever the book was before, and takes the
answers for those of its orders in turn. -/
structure Accountable (σ : Type) {ρ τ ω : Type} [ProfileSession σ ρ τ] [Ledgered σ τ ω] :
    Prop where
  ledger_setLedger : ∀ (l : Ledger ω) (s : σ), ledger (setLedger l s) = l
  onLinkUp : ∀ capabilities (s : σ),
    ledger (ProfileSession.onLinkUp capabilities s).2 = ledger s
  onConnected : ∀ book, Work.Upholds (Booked book) (ProfileSession.onConnected (σ := σ))
  /-- With the link all orders are gone. -/
  onDisconnected : ∀ book view (desk : Desk σ τ),
    (ledger desk.session).clear.Agrees (Ledgered.command σ) (desk.log.foldl Book.note book) →
      (ProfileSession.onDisconnected (σ := σ)).Yields view desk fun _ after => Booked book after
  onAudioChanged : ∀ book previous current wideband,
    Work.Upholds (Booked book) (ProfileSession.onAudioChanged (σ := σ) previous current wideband)
  onEvent : ∀ book event, (∀ outcome code, event ≠ .commandResult outcome code) →
    Work.Upholds (Booked book) (ProfileSession.onEvent (σ := σ) event)
  onRequest : ∀ book request, Work.Upholds (Booked book) (ProfileSession.onRequest (σ := σ) request)
  onAlarm : ∀ book kind, Work.Upholds (Booked book) (ProfileSession.onAlarm (σ := σ) kind)
  onAnswer : ∀ book order outcome code,
    Work.Upholds (Booked book) (Ledgered.onAnswer (σ := σ) order outcome code)
  /-- An answer is about the oldest order, which is struck out first. -/
  onResult : ∀ outcome code view (desk : Desk σ τ) post,
    (ProfileSession.onEvent (σ := σ) (.commandResult outcome code)).Yields view desk post ↔
      match (ledger desk.session).front? with
      | none => post (.ok ()) { desk with session := strike desk.session }
      | some order => (Ledgered.onAnswer order outcome code).Yields view
          { desk with session := strike desk.session } post

end Profiles

namespace Link

/-! ### The book of a life -/

section Book

variable [ProfileSession σ ρ τ] [DecidableEq τ] [Outlined ρ] [Ledgered σ τ ω]

/-- Whether an impulse is an answer that reaches the profile and finds something pending. -/
def isAnswer (link : Link σ ρ τ) : Impulse ρ → Bool
  | .hand _ (.event (.commandResult _ _)) =>
      link.state != .disconnected && (ledger link.session).front?.isSome
  | _ => false

omit [ProfileSession σ ρ τ] [DecidableEq τ] [Outlined ρ] in
theorem isAnswer_eq_false {link : Link σ ρ τ} {impulse : Impulse ρ}
    (hother : ∀ scene outcome code, impulse ≠ .hand scene (.event (.commandResult outcome code))) :
    link.isAnswer impulse = false := by
  unfold isAnswer
  split
  · exact absurd rfl (hother _ _ _)
  · rfl

/-- The book after an impulse: an answer is counted, and what leaves the link is noted. -/
def noteImpulse (link : Link σ ρ τ) (impulse : Impulse ρ) (book : Book) : Book :=
  (link.respond impulse).2.foldl Book.note (if link.isAnswer impulse then book.answer else book)

/-- The book of a life. -/
def keepBook (link : Link σ ρ τ) : List (Impulse ρ) → Book → Book
  | [], book => book
  | impulse :: rest, book => (link.respond impulse).1.keepBook rest (link.noteImpulse impulse book)

/-- What a book tells of a link: which commands are pending, and what becomes of the next answer. -/
structure Attributed (link : Link σ ρ τ) (book : Book) : Prop where
  agrees : AgreesWith book link.session
  /-- When something is pending, the answer is counted as that of the oldest command without one,
  and handled as that of the oldest order. -/
  owner : ∀ scene outcome code order, link.state ≠ .disconnected →
    (ledger link.session).front? = some order →
      book.taken[book.answers]? = some (Ledgered.command σ order) ∧
      ((onErrand (.message (.event (.commandResult outcome code)))).run scene).run ⟨link, []⟩ =
        ((Step.consult (Ledgered.onAnswer order outcome code)).run scene).run
          ⟨{ link with session := strike link.session }, []⟩
  /-- When nothing is pending, nothing leaves the link, and nothing changes but the count of such
  answers. -/
  unmatched : ∀ scene outcome code, link.state ≠ .disconnected →
    (ledger link.session).front? = none →
      link.respond (.hand scene (.event (.commandResult outcome code))) =
        ({ link with session := overhear link.session }, [])
  /-- A link that is disconnected takes no notice of answers. -/
  unheard : ∀ scene outcome code, link.state = .disconnected →
    link.respond (.hand scene (.event (.commandResult outcome code))) = (link, [])

end Book

end Link

/-! ### Everything but answers -/

namespace Accountable

variable [ProfileSession σ ρ τ] [Ledgered σ τ ω] (h : Accountable σ) (book : Book)

include h

/-- The agreement of the ledger with the log of a step that began with a book is spoilt by nothing
but answers: the book is closed when the end of the link is announced, and the ledger is cleared
right after that. -/
theorem mending : Link.Mending (ρ := ρ)
    fun (s : σ) log => AgreesWith (log.foldl Book.note book) s where
  audioChanged s log previous current wideband hs := by
    rw [Book.foldl_note_snoc]
    exact hs
  onAudioChanged := h.onAudioChanged book
  onConnected := h.onConnected book
  asked s log request accepted own hs := by
    rw [Book.foldl_note_snoc, Book.note_own _ own]
    exact hs
  linkChanged s log previous current hup hs := by
    rw [Book.foldl_note_snoc]
    exact Ledger.Agrees.linkChanged hs previous hup
  failed s log fault hs := by
    rw [Book.foldl_note_snoc]
    exact hs
  onLinkUp s log capabilities hs := by
    rw [AgreesWith, h.onLinkUp]
    exact hs
  onDisconnected previous view desk hs := by
    refine h.onDisconnected book view _ ?_
    rw [Book.foldl_note_snoc]
    exact Ledger.Agrees.disconnected hs previous
  onEvent := h.onEvent book
  onRequest := h.onRequest book
  onAlarm := h.onAlarm book

variable [DecidableEq τ] [Outlined ρ]

/-! ### Answers -/

variable {link : Link σ ρ τ} {scene : Scene} {outcome : Outcome} {code : Option Nat} {book}

/-- An answer leaves ledger and book in agreement, once it is counted. -/
theorem yields_answer (hbook : AgreesWith book link.session) :
    (Link.onErrand (.message (.event (.commandResult outcome code))) :
      Step σ ρ τ Verdict).Yields scene ⟨link, []⟩ fun _ after =>
        AgreesWith (after.log.foldl Book.note
          (if link.isAnswer (.hand scene (.event (.commandResult outcome code))) then book.answer
            else book)) after.link.session := by
  by_cases hdown : link.state = .disconnected
  · refine (Link.yields_onErrand_event_unheard hdown rfl).2 ?_
    rw [Link.isAnswer, hdown]
    exact hbook
  · have hheard : link.isAnswer (.hand scene (.event (.commandResult outcome code))) =
        (ledger link.session).front?.isSome := by
      rw [Link.isAnswer, bne_iff_ne.2 hdown, Bool.true_and]
    refine (Link.yields_onErrand_event hdown rfl).2 ?_
    rw [Step.yields_consult, h.onResult, hheard]
    show match (ledger link.session).front? with
      | none => _
      | some order => _
    cases hfront : (ledger link.session).front? with
    | none =>
        show AgreesWith book (strike link.session)
        rw [AgreesWith, strike, h.ledger_setLedger]
        exact Ledger.Agrees.unmatched hbook hfront
    | some order =>
        refine Work.yields_mono (h.onAnswer book.answer order outcome code _ _ ?_) ?_
        · show AgreesWith book.answer (strike link.session)
          rw [AgreesWith, strike, h.ledger_setLedger]
          exact Ledger.Agrees.resolve hbook hfront
        · intro _ after hafter
          exact hafter

/-! ### Impulses -/

/-- **An impulse leaves ledger and book in agreement.** -/
theorem agrees_respond (hlink : Link.Between link) (hbook : AgreesWith book link.session)
    (impulse : Impulse ρ) :
    AgreesWith (link.noteImpulse impulse book) (link.respond impulse).1.session := by
  by_cases hanswer : ∃ scene outcome code,
      impulse = .hand scene (.event (.commandResult outcome code))
  · obtain ⟨scene, outcome, code, rfl⟩ := hanswer
    exact (h.mending _).respond_hand hlink (h.yields_answer hbook)
  · have hother : ∀ scene outcome code,
        impulse ≠ .hand scene (.event (.commandResult outcome code)) :=
      fun scene outcome code heq => hanswer ⟨scene, outcome, code, heq⟩
    rw [Link.noteImpulse, Link.isAnswer_eq_false hother]
    exact (h.mending book).respond hlink impulse hbook hother

/-- **A life leaves ledger and book in agreement.** -/
theorem agrees_live (hlink : Link.Between link) (hbook : AgreesWith book link.session)
    (impulses : List (Impulse ρ)) :
    AgreesWith (link.keepBook impulses book) (link.live impulses).1.session := by
  induction impulses generalizing link book with
  | nil => exact hbook
  | cons impulse rest ih =>
      exact ih (Link.between_respond hlink impulse) (h.agrees_respond hlink hbook impulse)

/-- With something pending, an answer is handled as that of the oldest order. -/
theorem run_answer {order : ω} (hup : link.state ≠ .disconnected)
    (hfront : (ledger link.session).front? = some order) :
    ((Link.onErrand (.message (.event (.commandResult outcome code)))).run scene).run ⟨link, []⟩ =
      ((Step.consult (Ledgered.onAnswer order outcome code)).run scene).run
        ⟨{ link with session := strike link.session }, []⟩ := by
  let last := ((Step.consult (Ledgered.onAnswer order outcome code)).run scene).run
    (⟨{ link with session := strike link.session }, []⟩ : Progress σ ρ τ)
  suffices hyields : (Link.onErrand (.message (.event (.commandResult outcome code))) :
      Step σ ρ τ Verdict).Yields scene ⟨link, []⟩ fun verdict after => (verdict, after) = last from
    hyields
  refine (Link.yields_onErrand_event hup rfl).2 ?_
  rw [Step.yields_consult, h.onResult]
  show match (ledger link.session).front? with
    | none => _
    | some order => _
  rw [hfront]
  rfl

/-- With nothing pending, an answer is counted as such, and that is all. -/
theorem respond_unmatched (hqueue : link.queue = []) (hup : link.state ≠ .disconnected)
    (hnone : (ledger link.session).front? = none) :
    link.respond (.hand scene (.event (.commandResult outcome code))) =
      ({ link with session := overhear link.session }, []) := by
  refine Link.respond_hand_eq hqueue ?_ ?_
  · exact hqueue
  · rw [Link.handle, Step.yields_bind]
    refine (Link.yields_onErrand_event hup rfl).2 ?_
    rw [Step.yields_consult, h.onResult]
    show match (ledger link.session).front? with
      | none => _
      | some order => _
    rw [hnone, overhear, ← Ledger.resolve_of_front?_eq_none hnone]
    show Progress.mk { link with session := _, queue := link.queue ++ [] } [] = _
    rw [List.append_nil]
    rfl

omit [Ledgered σ τ ω] h in
/-- While the link is disconnected, an answer changes nothing. -/
theorem respond_unheard (hqueue : link.queue = []) (hdown : link.state = .disconnected) :
    link.respond (.hand scene (.event (.commandResult outcome code))) = (link, []) := by
  refine Link.respond_hand_eq hqueue hqueue ?_
  rw [Link.handle, Step.yields_bind]
  exact (Link.yields_onErrand_event_unheard hdown rfl).2 rfl

/-- **Every answer in the life of a link goes to the oldest command without one.** -/
theorem attributed_live (hlink : Link.Between link) (hbook : AgreesWith book link.session)
    (impulses : List (Impulse ρ)) :
    (link.live impulses).1.Attributed (link.keepBook impulses book) := by
  have hagrees := h.agrees_live hlink hbook impulses
  have hqueue := (Link.between_live hlink impulses).queue
  refine ⟨hagrees, ?_, ?_, ?_⟩
  · intro scene outcome code order hup hfront
    exact ⟨Ledger.Agrees.owner hagrees hfront, h.run_answer hup hfront⟩
  · intro scene outcome code hup hnone
    exact h.respond_unmatched hqueue hup hnone
  · intro scene outcome code hdown
    exact respond_unheard hqueue hdown

end Accountable

/-! ### Commands of earlier connections -/

namespace Link

variable [ProfileSession σ ρ τ] [DecidableEq τ] [Outlined ρ] [Ledgered σ τ ω]

/-- Nothing is pending that was taken before the link ceased to be connected last: what is pending
is the last that was taken since. -/
def Isolated (link : Link σ ρ τ) (book : Book) : Prop :=
  (ledger link.session).actions.map (Ledgered.command σ) <:+ book.recent

/-- What a book tells of the commands of earlier connections. -/
structure Separated (link : Link σ ρ τ) (book : Book) : Prop where
  /-- None of them is pending exactly if, since the link came to be disconnected last, there were
  at least as many answers as such commands. -/
  isolated_iff : link.Isolated book ↔ book.earlier ≤ book.answers
  /-- If one is pending, then the next answer is taken for that of such a command. -/
  mistaken : ¬link.Isolated book → ∃ order, (ledger link.session).front? = some order ∧
    (book.taken.take book.earlier)[book.answers]? = some (Ledgered.command σ order)

theorem tidy_keepBook (link : Link σ ρ τ) {book : Book} (h : book.Tidy)
    (impulses : List (Impulse ρ)) : (link.keepBook impulses book).Tidy := by
  induction impulses generalizing link book with
  | nil => exact h
  | cons impulse rest ih =>
      refine ih _ ?_
      rw [noteImpulse]
      split
      · exact h.answer.foldl_note _
      · exact h.foldl_note _

end Link

/-- **Commands of earlier connections are pending as long as they have no answer**, unless the link
came to be disconnected. -/
theorem Accountable.separated_live [ProfileSession σ ρ τ] [DecidableEq τ] [Outlined ρ]
    [Ledgered σ τ ω] (h : Accountable σ) {link : Link σ ρ τ} {book : Book}
    (hlink : Link.Between link) (hbook : AgreesWith book link.session) (htidy : book.Tidy)
    (impulses : List (Impulse ρ)) :
    (link.live impulses).1.Separated (link.keepBook impulses book) := by
  have hagrees := h.agrees_live hlink hbook impulses
  have htidy := Link.tidy_keepBook link htidy impulses
  have hisolated := Ledger.Agrees.pending_suffix_recent_iff hagrees htidy
  refine ⟨hisolated, fun hnot => ?_⟩
  have hlt : (link.keepBook impulses book).answers < (link.keepBook impulses book).earlier :=
    Nat.lt_of_not_le fun hle => hnot (hisolated.2 hle)
  obtain ⟨order, hfront⟩ := Ledger.Agrees.exists_front hagrees
    (Nat.lt_of_lt_of_le hlt htidy.earlier_le)
  refine ⟨order, hfront, ?_⟩
  rw [List.getElem?_take_of_lt hlt]
  exact Ledger.Agrees.owner hagrees hfront

/-! ### Books that can be computed -/

namespace Link

variable [ProfileSession σ ρ τ] [DecidableEq τ] [Outlined ρ] [Ledgered σ τ ω]

/-- What an impulse enters into the book, told from what left the link for it. -/
def noteLogged (link : Link σ ρ τ) (impulse : Impulse ρ) (log : List Effect) (book : Book) : Book :=
  log.foldl Book.note (if link.isAnswer impulse then book.answer else book)

/-- The book is a record of the life. -/
theorem keepBook_eq_keep (link : Link σ ρ τ) (impulses : List (Impulse ρ)) (book : Book) :
    link.keepBook impulses book = link.keep noteLogged impulses book := by
  induction impulses generalizing link book with
  | nil => rfl
  | cons impulse rest ih =>
      rw [keepBook, keep, ih]
      rfl

theorem keepBook_eq_get (bound : Nat) {link : Link σ ρ τ} {impulses : List (Impulse ρ)}
    {book : Book} (h : (keepFor noteLogged bound link impulses book).isSome = true) :
    link.keepBook impulses book = (keepFor noteLogged bound link impulses book).get h :=
  (keepBook_eq_keep link impulses book).trans (keep_eq_get bound h)

end Link

end AudioLink
