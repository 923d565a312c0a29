/-
**Ledgers of pending actions.**

A device answers commands in the order in which it received them, and its answers do not say
which command they belong to.  A ledger therefore keeps the accepted commands in order: the oldest
one owns the next answer.

* `AudioLink.Ledger` — the pending actions and the counters;
* `AudioLink.Ledger.issue`, `AudioLink.Ledger.resolve`, `AudioLink.Ledger.clear` — an action
  handed to the transport, an answer, the end of a link;
* `AudioLink.Ledger.balance_issue`, `AudioLink.Ledger.balance_resolve` — issued actions are
  answered, pending or dropped.
-/
import AudioLink.Fault

set_option relaxedAutoImplicit false
set_option autoImplicit false

namespace AudioLink

/-- An action that the transport accepted and the device has not answered. -/
structure Pending (α : Type) where
  action : α
  issuedAt : Instant
  deriving DecidableEq, Repr

/-- The pending actions of one device, the oldest first, and what was counted so far. -/
structure Ledger (α : Type) where
  pending : List (Pending α)
  issued : Nat
  rejected : Nat
  resolved : Nat
  unmatched : Nat
  deriving DecidableEq, Repr

namespace Ledger

variable {α : Type}

/-- Nothing was ever issued. -/
def empty : Ledger α := ⟨[], 0, 0, 0, 0⟩

instance : Inhabited (Ledger α) := ⟨empty⟩

/-- The pending actions, the oldest first. -/
def actions (l : Ledger α) : List α := l.pending.map (·.action)

/-- The number of pending actions. -/
def size (l : Ledger α) : Nat := l.pending.length

/-- The oldest pending action. -/
def front? (l : Ledger α) : Option α := l.actions.head?

/-- An action is handed to the transport, which accepts it or not; only an accepted one becomes
pending. -/
def issue [Outlined α] (l : Ledger α) (action : α) (now : Instant) (accepted : Bool) :
    Except Fault Unit × Ledger α :=
  if accepted then
    (.ok (), { l with pending := l.pending ++ [⟨action, now⟩], issued := l.issued + 1 })
  else
    (.error (.rejected (describe action)), { l with rejected := l.rejected + 1 })

/-- An answer arrives: it belongs to the oldest pending action, or to none. -/
def resolve (l : Ledger α) : Option (Pending α) × Ledger α :=
  match l.pending with
  | oldest :: rest => (some oldest, { l with pending := rest, resolved := l.resolved + 1 })
  | [] => (none, { l with unmatched := l.unmatched + 1 })

/-- Every pending action is dropped. -/
def clear (l : Ledger α) : Ledger α := { l with pending := [] }

/-- The counters: pending, issued, rejected, resolved and unmatched. -/
def counts (l : Ledger α) : List Nat := [l.size, l.issued, l.rejected, l.resolved, l.unmatched]

/-! ### Keeping count -/

@[simp] theorem actions_issue [Outlined α] (l : Ledger α) (action : α) (now : Instant)
    (accepted : Bool) :
    (l.issue action now accepted).2.actions =
      if accepted then l.actions ++ [action] else l.actions := by
  cases accepted <;> simp [issue, actions]

/-- An answer takes away the oldest action. -/
@[simp] theorem actions_resolve (l : Ledger α) : l.resolve.2.actions = l.actions.tail := by
  unfold resolve actions
  split <;> simp_all

/-- Issuing keeps the balance: what was issued is resolved, pending or was dropped. -/
theorem balance_issue [Outlined α] (l : Ledger α) (action : α) (now : Instant) (accepted : Bool)
    (dropped : Nat) (h : l.issued = l.resolved + l.size + dropped) :
    let next := (l.issue action now accepted).2
    next.issued = next.resolved + next.size + dropped := by
  cases accepted <;> simp [issue, size] at h ⊢ <;> omega

/-- Resolving keeps the balance. -/
theorem balance_resolve (l : Ledger α) (dropped : Nat)
    (h : l.issued = l.resolved + l.size + dropped) :
    let next := l.resolve.2
    next.issued = next.resolved + next.size + dropped := by
  simp only [resolve, size] at h ⊢
  split
  next hpending =>
    rw [hpending, List.length_cons] at h
    dsimp only
    omega
  next => exact h

end Ledger

end AudioLink
