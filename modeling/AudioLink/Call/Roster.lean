/-
**Rosters.**

The calls of one gateway, at most one under each index, in the order of their indices.

* `AudioLink.Roster` — the calls, with that order as part of the type;
* `AudioLink.Roster.get?`, `AudioLink.Roster.insert`, `AudioLink.Roster.erase`,
  `AudioLink.Roster.revise` — looking up and changing;
* `AudioLink.Roster.get?_insert`, `AudioLink.Roster.get?_erase`, `AudioLink.Roster.get?_revise` —
  what each change does to the calls that are found.
-/
import AudioLink.Call.Basic

set_option relaxedAutoImplicit false
set_option autoImplicit false

namespace AudioLink

/-- The calls of one gateway in the strict order of their indices. -/
structure Roster where
  calls : List Call
  sorted : calls.Pairwise fun a b => a.index.rank < b.index.rank
  deriving DecidableEq

namespace Roster

/-! ### Looking up -/

/-- No calls. -/
def empty : Roster := ⟨[], .nil⟩

instance : Inhabited Roster := ⟨empty⟩

/-- The call under an index. -/
def get? (r : Roster) (index : CallIndex) : Option Call :=
  r.calls.find? (·.index == index)

/-- Whether there is a call under an index. -/
def contains (r : Roster) (index : CallIndex) : Bool := (r.get? index).isSome

/-- The number of calls. -/
def size (r : Roster) : Nat := r.calls.length

/-- Whether there are no calls. -/
def isEmpty (r : Roster) : Bool := r.calls.isEmpty

/-- The numbers under which the gateway lists calls, in order. -/
def numbers (r : Roster) : List Nat := r.calls.filterMap (·.index.number?)

/-- The first call whose state is one of those given. -/
def findIn (r : Roster) (states : List CallState) : Option Call :=
  r.calls.find? (states.contains ·.state)

/-- Whether some call is in a state. -/
def hasState (r : Roster) (state : CallState) : Bool := r.calls.any (·.state == state)

/-- How many calls are in a state. -/
def countIn (r : Roster) (state : CallState) : Nat := r.calls.countP (·.state == state)

/-! ### Changing -/

/-- A call put in its place in a list ordered by index, instead of any under the same index. -/
def place (call : Call) : List Call → List Call
  | [] => [call]
  | other :: rest =>
      if call.index.rank < other.index.rank then call :: other :: rest
      else if call.index = other.index then call :: rest
      else other :: place call rest

theorem mem_place {call c : Call} {calls : List Call} (h : c ∈ place call calls) :
    c = call ∨ c ∈ calls := by
  induction calls with
  | nil => simpa [place] using h
  | cons other rest ih =>
      simp only [place] at h
      split at h
      · simpa using h
      · split at h
        · rcases List.mem_cons.1 h with rfl | h
          · exact .inl rfl
          · exact .inr (List.mem_cons_of_mem _ h)
        · rcases List.mem_cons.1 h with rfl | h
          · exact .inr (List.mem_cons_self ..)
          · exact (ih h).imp_right (List.mem_cons_of_mem _)

theorem sorted_place {call : Call} {calls : List Call}
    (h : calls.Pairwise fun a b => a.index.rank < b.index.rank) :
    (place call calls).Pairwise fun a b => a.index.rank < b.index.rank := by
  induction calls with
  | nil => simp [place]
  | cons other rest ih =>
      have hr := List.pairwise_cons.1 h
      simp only [place]
      split
      · next lt =>
          refine List.pairwise_cons.2 ⟨fun c hc => ?_, h⟩
          rcases List.mem_cons.1 hc with rfl | hc
          · exact lt
          · exact Nat.lt_trans lt (hr.1 c hc)
      · next nlt =>
          split
          · next eq => exact List.pairwise_cons.2 ⟨fun c hc => eq ▸ hr.1 c hc, hr.2⟩
          · next ne =>
              refine List.pairwise_cons.2 ⟨fun c hc => ?_, ih hr.2⟩
              rcases mem_place hc with rfl | hc
              · have := mt CallIndex.rank_injective ne
                omega
              · exact hr.1 c hc

/-- The roster with a call put under its index. -/
def insert (r : Roster) (call : Call) : Roster := ⟨place call r.calls, sorted_place r.sorted⟩

/-- The roster without the call under an index. -/
def erase (r : Roster) (index : CallIndex) : Roster :=
  ⟨r.calls.filter (·.index != index), r.sorted.filter _⟩

/-- The roster with every call revised in its place; its index stays. -/
def revise (r : Roster) (f : Call → Call) : Roster :=
  ⟨r.calls.map fun c => { f c with index := c.index }, by
    simpa [List.pairwise_map] using r.sorted⟩

/-- The roster of some calls; of two under one index, the later counts. -/
def ofList (calls : List Call) : Roster := calls.foldl insert empty

/-! ### What is found after a change -/

@[simp] theorem get?_empty (index : CallIndex) : empty.get? index = none := rfl

@[simp] theorem contains_eq (r : Roster) (index : CallIndex) :
    r.contains index = (r.get? index).isSome := rfl

/-- A call is found under its own index. -/
theorem index_of_get? {r : Roster} {index : CallIndex} {call : Call}
    (h : r.get? index = some call) : call.index = index := by
  simpa using List.find?_some h

theorem mem_of_get? {r : Roster} {index : CallIndex} {call : Call}
    (h : r.get? index = some call) : call ∈ r.calls :=
  List.mem_of_find?_eq_some h

theorem find?_of_mem {calls : List Call}
    (sorted : calls.Pairwise fun a b => a.index.rank < b.index.rank) {call : Call}
    (h : call ∈ calls) : calls.find? (·.index == call.index) = some call := by
  induction calls with
  | nil => simp at h
  | cons other rest ih =>
      have hs := List.pairwise_cons.1 sorted
      rcases List.mem_cons.1 h with rfl | h
      · simp
      · have lt := hs.1 call h
        have ne : other.index ≠ call.index := fun eq => by simp [eq] at lt
        simp [ne, ih hs.2 h]

/-- Every call of a roster is found. -/
theorem get?_of_mem {r : Roster} {call : Call} (h : call ∈ r.calls) :
    r.get? call.index = some call :=
  find?_of_mem r.sorted h

theorem get?_eq_some_iff {r : Roster} {index : CallIndex} {call : Call} :
    r.get? index = some call ↔ call ∈ r.calls ∧ call.index = index :=
  ⟨fun h => ⟨mem_of_get? h, index_of_get? h⟩, fun ⟨h, e⟩ => e ▸ get?_of_mem h⟩

theorem find?_place (call : Call) (index : CallIndex) : ∀ {calls : List Call},
    calls.Pairwise (fun a b => a.index.rank < b.index.rank) →
    (place call calls).find? (·.index == index) =
      if call.index = index then some call else calls.find? (·.index == index)
  | [], _ => by by_cases h : call.index = index <;> simp [place, h]
  | other :: rest, sorted => by
      have ih := find?_place call index (List.pairwise_cons.1 sorted).2
      simp only [place]
      split
      · by_cases h : call.index = index <;> simp [h]
      · split
        · next eq => by_cases h : other.index = index <;> simp [eq, h]
        · next ne =>
            by_cases ho : other.index = index
            · have h : call.index ≠ index := fun e => ne (e.trans ho.symm)
              simp [ho, h]
            · simpa [ho] using ih

/-- Inserting changes what is found under the call's own index and nothing else. -/
@[simp] theorem get?_insert (r : Roster) (call : Call) (index : CallIndex) :
    (r.insert call).get? index = if call.index = index then some call else r.get? index :=
  find?_place call index r.sorted

/-- Erasing takes away what was found under one index and nothing else. -/
@[simp] theorem get?_erase (r : Roster) (gone index : CallIndex) :
    (r.erase gone).get? index = if index = gone then none else r.get? index := by
  unfold get? erase
  simp only [List.find?_filter]
  split
  · next h => subst h; simp
  · next h =>
      congr 1
      funext c
      by_cases hc : c.index = index <;> simp_all

/-- Revising finds the revised call where the old one was found. -/
@[simp] theorem get?_revise (r : Roster) (f : Call → Call) (index : CallIndex) :
    (r.revise f).get? index = (r.get? index).map fun c => { f c with index := c.index } := by
  simp only [get?, revise, List.find?_map]
  rfl

@[simp] theorem calls_revise (r : Roster) (f : Call → Call) :
    (r.revise f).calls = r.calls.map fun c => { f c with index := c.index } := rfl

/-- The calls of a roster are exactly those found under their own index. -/
theorem mem_calls_iff {r : Roster} {call : Call} :
    call ∈ r.calls ↔ r.get? call.index = some call :=
  ⟨get?_of_mem, mem_of_get?⟩

end Roster

end AudioLink
