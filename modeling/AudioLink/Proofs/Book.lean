/-
**A book of commands and answers.**

A device answers commands in the order in which it received them, and its answers do not say which
command they belong to.  Whoever watches a link can work this out all the same: he writes down the
commands of the profile that the transport takes, counts the answers, and begins anew when the link
comes to be disconnected.  A ledger agrees with such a book when what is pending in it is what the
book has left without an answer.

Main definitions:

* `AudioLink.Book` — the book;
* `AudioLink.Book.note`, `AudioLink.Book.answer` — what leaves the link is written down, and an
  answer is counted;
* `AudioLink.Ledger.Agrees` — a ledger agrees with a book.

Main results:

* `AudioLink.Ledger.Agrees.issue`, `AudioLink.Ledger.Agrees.resolve`,
  `AudioLink.Ledger.Agrees.disconnected` — a ledger and a book that agree still do after an order,
  an answer and the end of the link;
* `AudioLink.Ledger.Agrees.owner` — **an answer belongs to the oldest command without one**;
* `AudioLink.Ledger.Agrees.pending_suffix_recent_iff` — when all that is pending was taken after the
  last connection.
-/

import AudioLink.Ledger
import AudioLink.Proofs.Link.Moves

set_option relaxedAutoImplicit false
set_option autoImplicit false

namespace AudioLink

/-- Whether a command is about the audio of a link.  Such commands are not the profile's. -/
def Command.isAudio : Command → Bool
  | connectAudio | disconnectAudio => true
  | _ => false

/-- What someone knows of a link who hears what it is handed, and sees what leaves it. -/
structure Book where
  /-- The commands of the profile that the transport took since the link came to be disconnected
  last, in order. -/
  taken : List Command
  /-- How many answers came since then while something was pending. -/
  answers : Nat
  /-- How many of the commands were taken before the link ceased to be connected last. -/
  earlier : Nat
  /-- The commands of the profile that were taken since the link ceased to be connected last. -/
  recent : List Command
  /-- How many commands were without an answer, all in all, when the link came to be
  disconnected. -/
  dropped : Nat

namespace Book

/-- Nothing is written down yet. -/
def blank : Book := ⟨[], 0, 0, [], 0⟩

/-- A command was taken. -/
def take (book : Book) (command : Command) : Book :=
  { book with taken := book.taken ++ [command], recent := book.recent ++ [command] }

/-- An answer came while something was pending. -/
def answer (book : Book) : Book := { book with answers := book.answers + 1 }

/-- The link has ceased to be connected. -/
def leave (book : Book) : Book := { book with earlier := book.taken.length, recent := [] }

/-- The link has come to be disconnected, and there will be no more answers. -/
def close (book : Book) : Book :=
  { book with
    taken := [], answers := 0, earlier := 0
    dropped := book.dropped + (book.taken.length - book.answers) }

/-- The state of the link has changed. -/
def turn (book : Book) (previous current : LinkState) : Book :=
  let left := if previous = .connected then book.leave else book
  if current = .disconnected then left.close else left

/-- What leaves the link is written down. -/
def note (book : Book) : Effect → Book
  | .call (.command command) true => if command.isAudio then book else book.take command
  | .notice (.linkChanged previous current) => book.turn previous current
  | _ => book

/-! ### What is written down -/

/-- What a link asks on its own account is not written down. -/
theorem note_own (book : Book) {request : Outgoing} (own : Link.IsOwn request) (accepted : Bool) :
    book.note (.call request accepted) = book := by
  cases own <;> cases accepted <;> rfl

theorem note_command (book : Book) {command : Command} (h : command.isAudio = false)
    (accepted : Bool) :
    book.note (.call (.command command) accepted) =
      if accepted then book.take command else book := by
  cases accepted with
  | false => rfl
  | true => simp [note, h]

theorem foldl_note_snoc (book : Book) (log : List Effect) (effect : Effect) :
    (log ++ [effect]).foldl note book = (log.foldl note book).note effect := by
  rw [List.foldl_append]
  rfl

/-! ### Old commands and recent ones -/

/-- Of the commands taken since the link came to be disconnected, those that are not earlier are
recent, and if there are earlier ones, they are all that is recent. -/
structure Tidy (book : Book) : Prop where
  earlier_le : book.earlier ≤ book.taken.length
  suffix : book.taken.drop book.earlier <:+ book.recent
  recent : book.earlier ≠ 0 → book.recent = book.taken.drop book.earlier

theorem tidy_blank : blank.Tidy := ⟨Nat.le_refl _, List.suffix_refl _, fun h => absurd rfl h⟩

namespace Tidy

variable {book : Book} (h : book.Tidy)

include h

theorem answer : book.answer.Tidy := ⟨h.earlier_le, h.suffix, h.recent⟩

theorem take (command : Command) : (book.take command).Tidy := by
  have hdrop : (book.taken ++ [command]).drop book.earlier =
      book.taken.drop book.earlier ++ [command] :=
    List.drop_append_of_le_length h.earlier_le
  refine ⟨?_, ?_, ?_⟩
  · show book.earlier ≤ (book.taken ++ [command]).length
    rw [List.length_append]
    exact Nat.le_add_right_of_le h.earlier_le
  · show (book.taken ++ [command]).drop book.earlier <:+ book.recent ++ [command]
    obtain ⟨older, holder⟩ := h.suffix
    exact ⟨older, by rw [hdrop, ← List.append_assoc, holder]⟩
  · intro hsome
    show book.recent ++ [command] = (book.taken ++ [command]).drop book.earlier
    rw [hdrop, h.recent hsome]

omit h in
theorem leave : book.leave.Tidy := by
  have hnone : book.taken.drop book.taken.length = [] := List.drop_length
  exact ⟨Nat.le_refl _, hnone ▸ List.suffix_refl _, fun _ => hnone.symm⟩

omit h in
theorem close : book.close.Tidy :=
  ⟨Nat.le_refl _, List.nil_suffix, fun h => absurd rfl h⟩

theorem turn (previous current : LinkState) : (book.turn previous current).Tidy := by
  have hleft : (if previous = .connected then book.leave else book).Tidy := by
    split
    · exact leave
    · exact h
  rw [Book.turn]
  split
  · exact close
  · exact hleft

theorem note (effect : Effect) : (book.note effect).Tidy := by
  unfold Book.note
  split
  · split
    · exact h
    · exact h.take _
  · exact h.turn _ _
  · exact h

theorem foldl_note (log : List Effect) : (log.foldl Book.note book).Tidy := by
  induction log generalizing book with
  | nil => exact h
  | cons effect log ih => exact ih (h.note effect)

end Tidy

end Book

/-! ### Ledgers and books -/

namespace Ledger

variable {ω : Type} {command : ω → Command} {ledger : Ledger ω} {book : Book}

/-- With nothing pending, an answer is only counted. -/
theorem resolve_of_front?_eq_none (hnone : ledger.front? = none) :
    ledger.resolve.2 = { ledger with unmatched := ledger.unmatched + 1 } := by
  rcases ledger with ⟨_ | ⟨oldest, rest⟩, issued, rejected, resolved, unmatched⟩
  · rfl
  · cases hnone

/-- A ledger agrees with a book: what is pending is what was taken and has no answer yet, and what
was ever issued was answered, is pending, or was dropped. -/
structure Agrees (command : ω → Command) (ledger : Ledger ω) (book : Book) : Prop where
  pending : ledger.actions.map command = book.taken.drop book.answers
  answers_le : book.answers ≤ book.taken.length
  issued : ledger.issued = ledger.resolved + ledger.size + book.dropped

theorem agrees_blank : Agrees command (empty : Ledger ω) .blank :=
  ⟨rfl, Nat.le_refl _, rfl⟩

namespace Agrees

variable (h : Agrees command ledger book)

include h

theorem size_eq : ledger.size = book.taken.length - book.answers := by
  have hlength := congrArg List.length h.pending
  rw [List.length_map, List.length_drop] at hlength
  rw [← hlength, actions, List.length_map, size]

/-- **An answer belongs to the oldest command without one.** -/
theorem owner {order : ω} (hfront : ledger.front? = some order) :
    book.taken[book.answers]? = some (command order) := by
  have hhead : (ledger.actions.map command).head? = some (command order) := by
    rw [List.head?_map, ← front?, hfront]
    rfl
  rw [h.pending, List.head?_drop] at hhead
  exact hhead

/-- As long as a command has no answer, something is pending. -/
theorem exists_front (hlt : book.answers < book.taken.length) :
    ∃ order, ledger.front? = some order := by
  cases hfront : ledger.front? with
  | some order => exact ⟨order, rfl⟩
  | none =>
      have hlength := congrArg List.length h.pending
      rw [List.head?_eq_none_iff.1 hfront, List.map_nil, List.length_nil, List.length_drop]
        at hlength
      omega

/-- An order that the transport takes is written down in both, any other in neither. -/
theorem issue [Outlined ω] {order : ω} (hown : (command order).isAudio = false) (now : Instant)
    (accepted : Bool) :
    Agrees command (ledger.issue order now accepted).2
      (book.note (.call (.command (command order)) accepted)) := by
  have hbalance := balance_issue ledger order now accepted book.dropped h.issued
  rw [Book.note_command book hown]
  cases accepted with
  | false => exact ⟨h.pending, h.answers_le, hbalance⟩
  | true =>
      refine ⟨?_, ?_, hbalance⟩
      · rw [actions_issue, if_pos rfl, List.map_append, h.pending]
        exact (List.drop_append_of_le_length h.answers_le).symm
      · show book.answers ≤ (book.taken ++ [command order]).length
        rw [List.length_append]
        exact Nat.le_add_right_of_le h.answers_le

/-- An answer is counted when something is pending. -/
theorem resolve {order : ω} (hfront : ledger.front? = some order) :
    Agrees command ledger.resolve.2 book.answer := by
  obtain ⟨hlt, -⟩ := List.getElem?_eq_some_iff.1 (h.owner hfront)
  refine ⟨?_, hlt, balance_resolve ledger book.dropped h.issued⟩
  rw [actions_resolve, List.map_tail, h.pending, List.tail_drop]
  rfl

/-- An answer that nothing waits for is not counted. -/
theorem unmatched (hnone : ledger.front? = none) : Agrees command ledger.resolve.2 book := by
  refine ⟨?_, h.answers_le, balance_resolve ledger book.dropped h.issued⟩
  have hempty : ledger.actions = [] := List.head?_eq_none_iff.1 hnone
  rw [actions_resolve, ← h.pending, hempty]
  rfl

/-- What is pending when the link comes to be disconnected is dropped. -/
theorem clear : Agrees command ledger.clear book.close := by
  refine ⟨rfl, Nat.le_refl _, ?_⟩
  have hissued := h.issued
  rw [h.size_eq] at hissued
  show ledger.issued = ledger.resolved + 0 + (book.dropped + (book.taken.length - book.answers))
  omega

theorem leave : Agrees command ledger book.leave := ⟨h.pending, h.answers_le, h.issued⟩

theorem left (previous : LinkState) :
    Agrees command ledger (if previous = .connected then book.leave else book) := by
  split
  · exact h.leave
  · exact h

/-- As long as the link does not come to be disconnected, a change of its state is about neither
orders nor answers. -/
theorem linkChanged (previous : LinkState) {current : LinkState} (hup : current ≠ .disconnected) :
    Agrees command ledger (book.note (.notice (.linkChanged previous current))) := by
  show Agrees command ledger (book.turn previous current)
  rw [Book.turn, if_neg hup]
  exact h.left previous

/-- When the link comes to be disconnected, the ledger has still to be cleared. -/
theorem disconnected (previous : LinkState) :
    Agrees command ledger.clear (book.note (.notice (.linkChanged previous .disconnected))) := by
  show Agrees command ledger.clear (book.turn previous .disconnected)
  rw [Book.turn, if_pos rfl]
  exact (h.left previous).clear

/-- What is pending was taken after the last connection exactly if all earlier commands have their
answers. -/
theorem pending_suffix_recent_iff (htidy : book.Tidy) :
    ledger.actions.map command <:+ book.recent ↔ book.earlier ≤ book.answers := by
  rw [h.pending]
  constructor
  · intro hsuffix
    by_cases hnone : book.earlier = 0
    · rw [hnone]
      exact Nat.zero_le _
    · -- were an earlier command pending, there would be more pending than is recent
      have hlength := hsuffix.length_le
      have hearlier := htidy.earlier_le
      rw [htidy.recent hnone, List.length_drop, List.length_drop] at hlength
      omega
  · intro hle
    exact (List.drop_suffix_drop_left book.taken hle).trans htidy.suffix

end Agrees

end Ledger

end AudioLink
