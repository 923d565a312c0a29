/-
**What a listener knows of the calls.**

Whoever listens to a link hears of its calls one at a time, and only when something about a call is
new.  A listener who notes every call under its handle, and strikes it out when it has ended, keeps
a board.  As long as the handles tell the calls apart, the board shows the calls of the roster that
have not ended, and nothing that is announced was on the board already.

Main definitions:

* `AudioLink.Board` — the calls that a listener knows of, by handle;
* `AudioLink.Board.after` — the board after some announcements;
* `AudioLink.Board.Mirrors` — the board shows the calls of a roster that have not ended;
* `AudioLink.Board.Terse` — no announcement of a call that goes on repeats what the board shows;
* `AudioLink.Survey.Faithful` — both, for the roster of a survey and what was announced so far.

Main results:

* `AudioLink.Survey.Faithful.dial`, `AudioLink.Survey.Faithful.abandon`,
  `AudioLink.Survey.Faithful.endAll` — what is announced between two passes is faithful;
* `AudioLink.Survey.Faithful.complete` — **what is announced after a pass is faithful**.
-/

import AudioLink.Proofs.Call.Handles

set_option relaxedAutoImplicit false
set_option autoImplicit false

namespace AudioLink

/-- The calls that a listener knows of, by handle. -/
abbrev Board := CallHandle → Option Call

namespace Board

/-- A listener who has heard nothing. -/
def blank : Board := fun _ => none

/-- A call is announced: it is noted under its handle, or struck out when it has ended. -/
def hear (board : Board) (call : Call) : Board := fun handle =>
  if handle = call.handle then if call.state = .terminated then none else some call
  else board handle

/-- The board after some announcements. -/
def after (calls : List Call) : Board := calls.foldl hear blank

/-- The board shows the calls of a roster that have not ended, and nothing else. -/
def Mirrors (board : Board) (r : Roster) : Prop :=
  ∀ handle call, board handle = some call ↔
    call ∈ r.calls ∧ call.handle = handle ∧ call.state ≠ .terminated

/-- No announcement of a call that goes on repeats what the board shows. -/
def Terse (calls : List Call) : Prop :=
  ∀ before call later, calls = before ++ call :: later → call.state ≠ .terminated →
    after before call.handle ≠ some call

/-! ### Several announcements -/

section Announcements

variable {board : Board} {calls past : List Call}

/-- Some calls are announced of which no two have the same handle. -/
def Distinct (calls : List Call) : Prop := calls.Pairwise fun a b => a.handle ≠ b.handle

theorem after_append (past calls : List Call) :
    after (past ++ calls) = calls.foldl hear (after past) :=
  List.foldl_append

theorem foldl_hear_of_not_mem {handle : CallHandle}
    (h : ∀ call ∈ calls, call.handle ≠ handle) : calls.foldl hear board handle = board handle := by
  induction calls generalizing board with
  | nil => rfl
  | cons first rest ih =>
      have hfirst : handle ≠ first.handle := (h first (List.mem_cons_self ..)).symm
      rw [List.foldl_cons, ih fun call hcall => h call (List.mem_cons_of_mem _ hcall)]
      rw [hear, if_neg hfirst]

/-- What a board shows of a call that is announced once is what was announced. -/
theorem foldl_hear_of_mem (hdistinct : Distinct calls) {call : Call} (hcall : call ∈ calls) :
    calls.foldl hear board call.handle = if call.state = .terminated then none else some call := by
  induction calls generalizing board with
  | nil => cases hcall
  | cons first rest ih =>
      obtain ⟨hfirst, hrest⟩ := List.pairwise_cons.1 hdistinct
      rw [List.foldl_cons]
      rcases List.mem_cons.1 hcall with rfl | hcall
      · rw [foldl_hear_of_not_mem fun other hother => (hfirst other hother).symm]
        rw [hear, if_pos rfl]
      · exact ih hrest hcall

/-- A word of one list stands in one of its two halves. -/
theorem split_append {past calls before later : List Call} {call : Call}
    (h : past ++ calls = before ++ call :: later) :
    (∃ rest, past = before ++ call :: rest) ∨
      ∃ first, before = past ++ first ∧ calls = first ++ call :: later := by
  rcases List.append_eq_append_iff.1 h with ⟨first, hbefore, hcalls⟩ | ⟨rest, hpast, hlater⟩
  · exact .inr ⟨first, hbefore, hcalls⟩
  · cases rest with
    | nil =>
        refine .inr ⟨[], ?_, ?_⟩
        · rw [hpast, List.append_nil, List.append_nil]
        · exact hlater.symm
    | cons first rest =>
        obtain ⟨rfl, -⟩ := List.cons.inj hlater
        exact .inl ⟨rest, hpast⟩

theorem terse_nil : Terse [] := by
  intro before call later h
  cases before <;> cases h

/-- Announcements of distinct calls that the board does not show are terse. -/
theorem Terse.append (h : Terse past) (hdistinct : Distinct calls)
    (hnews : ∀ call ∈ calls, call.state ≠ .terminated → after past call.handle ≠ some call) :
    Terse (past ++ calls) := by
  intro before call later hsplit hgoing
  rcases split_append hsplit with ⟨rest, hpast⟩ | ⟨first, rfl, rfl⟩
  · exact h before call rest hpast hgoing
  · have hbefore : ∀ other ∈ first, other.handle ≠ call.handle := by
      intro other hother
      exact (List.pairwise_append.1 hdistinct).2.2 other hother call (List.mem_cons_self ..)
    rw [after_append, foldl_hear_of_not_mem hbefore]
    exact hnews call (List.mem_append_right _ (List.mem_cons_self ..)) hgoing

end Announcements

end Board

namespace Survey

variable {patience : Duration} {s next : Survey} {heard past : List Call}

/-! ### Faithful announcements -/

/-- What was announced so far shows the roster, and was terse. -/
structure Faithful (past : List Call) (s : Survey) : Prop where
  mirrors : (Board.after past).Mirrors s.roster
  terse : Board.Terse past

/-- The calls of a roster are distinct when their handles tell them apart. -/
theorem distinct_calls {r : Roster}
    (h : ∀ a ∈ r.calls, ∀ b ∈ r.calls, a.handle = b.handle → a = b) :
    Board.Distinct r.calls := by
  refine r.sorted.imp_of_mem ?_
  intro a b ha hb hlt heq
  obtain rfl := h a ha b hb heq
  exact Nat.lt_irrefl _ hlt

theorem Faithful.start (issuer : Nat) (patience : Duration) :
    Faithful [] (start issuer patience) := by
  refine ⟨?_, Board.terse_nil⟩
  intro handle call
  constructor
  · intro h
    cases h
  · rintro ⟨hcall, -, -⟩
    exact absurd hcall (Roster.not_mem_empty call)

/-- Only the roster matters. -/
theorem Faithful.of_roster_eq (h : Faithful past s) (hroster : next.roster = s.roster) :
    Faithful past next := by
  refine ⟨?_, h.terse⟩
  rw [hroster]
  exact h.mirrors

/-- Announcements of distinct calls are faithful to the next roster if those that go on are new in
it, those that have ended do not go on in it, and all other calls stay. -/
theorem Faithful.announce (h : Faithful past s) (hs : next.Separate) {calls : List Call}
    (hdistinct : Board.Distinct calls)
    (hnews : ∀ call ∈ calls, call.state ≠ .terminated →
      call ∉ s.roster.calls ∧ call ∈ next.roster.calls)
    (hended : ∀ call ∈ calls, call.state = .terminated →
      ∀ c ∈ next.roster.calls, c.handle = call.handle → c.state = .terminated)
    (hother : ∀ c, (∀ call ∈ calls, call.handle ≠ c.handle) → c.state ≠ .terminated →
      (c ∈ s.roster.calls ↔ c ∈ next.roster.calls)) :
    Faithful (past ++ calls) next := by
  refine ⟨?_, h.terse.append hdistinct ?_⟩
  · intro handle c
    rw [Board.after_append]
    -- what was just announced of a handle is all that counts; of any other handle nothing is new
    by_cases hheard : ∃ call ∈ calls, call.handle = handle
    · obtain ⟨call, hcall, rfl⟩ := hheard
      rw [Board.foldl_hear_of_mem hdistinct hcall]
      by_cases hstate : call.state = .terminated
      · rw [if_pos hstate]
        constructor
        · intro hc
          cases hc
        · rintro ⟨hc, hhandle, hgoing⟩
          exact absurd (hended call hcall hstate c hc hhandle) hgoing
      · rw [if_neg hstate]
        have hmem := (hnews call hcall hstate).2
        constructor
        · intro hc
          obtain rfl := Option.some.inj hc
          exact ⟨hmem, rfl, hstate⟩
        · rintro ⟨hc, hhandle, -⟩
          rw [hs.roster c hc call hmem hhandle]
    · have hsilent : ∀ call ∈ calls, call.handle ≠ handle :=
        fun call hcall heq => hheard ⟨call, hcall, heq⟩
      rw [Board.foldl_hear_of_not_mem hsilent, h.mirrors]
      constructor
      · rintro ⟨hc, rfl, hgoing⟩
        exact ⟨(hother c hsilent hgoing).1 hc, rfl, hgoing⟩
      · rintro ⟨hc, rfl, hgoing⟩
        exact ⟨(hother c hsilent hgoing).2 hc, rfl, hgoing⟩
  · intro call hcall hgoing hshown
    exact (hnews call hcall hgoing).1 ((h.mirrors _ _).1 hshown).1

/-! ### Between two passes -/

theorem Faithful.dial (h : Faithful past s) (hs : s.Separate) {number : String} {now : Instant}
    {call : Call} (hdial : s.dial number now = .ok (call, next)) :
    Faithful (past ++ [call]) next := by
  have hseparate := hs.dial hdial
  obtain ⟨hnone, rfl, rfl⟩ := dial_eq_ok hdial
  have hnew : ∀ c ∈ s.roster.calls, c.handle ≠ s.nextHandle :=
    fun c hc => ne_nextHandle (hs.given_roster c hc)
  refine h.announce hseparate (List.pairwise_singleton ..) ?_ ?_ ?_
  · intro call hcall _
    obtain rfl := List.mem_singleton.1 hcall
    refine ⟨fun hmem => hnew _ hmem rfl, ?_⟩
    rw [Roster.mem_calls_iff, Roster.get?_insert, if_pos rfl]
  · intro call hcall hstate
    obtain rfl := List.mem_singleton.1 hcall
    cases hstate
  · intro c hsilent _
    have hhandle : s.nextHandle ≠ c.handle := hsilent _ (List.mem_singleton_self _)
    constructor
    · intro hc
      have hfound := Roster.get?_of_mem hc
      -- a call is dialled only while no other is, so that it takes the place of none
      have hindex : CallIndex.localOrigin ≠ c.index := by
        intro hlocal
        rw [← hlocal, show s.roster.get? .localOrigin = none from hnone] at hfound
        cases hfound
      rw [Roster.mem_calls_iff, Roster.get?_insert]
      exact (if_neg hindex).trans hfound
    · intro hc
      rcases Roster.mem_insert hc with rfl | hc
      · exact absurd rfl hhandle
      · exact hc

theorem Faithful.abandon (h : Faithful past s) (hs : s.Separate) :
    Faithful (past ++ s.abandon.1.toList) s.abandon.2 := by
  have hcalls {call : Call} :
      call ∈ s.abandon.1.toList ↔ ∃ c, s.dialled = some c ∧ c.ended = call := by
    rw [Option.mem_toList, Survey.abandon, Option.map_eq_some_iff]
  refine h.announce hs.abandon ?_ ?_ ?_ ?_
  · cases s.abandon.1 with
    | none => exact .nil
    | some call => exact List.pairwise_singleton ..
  · intro call hcall hgoing
    obtain ⟨c, -, rfl⟩ := hcalls.1 hcall
    exact absurd rfl hgoing
  · intro call hcall _ c hc hhandle
    -- what is left is not the call dialled here, and so has another handle
    obtain ⟨gone, hdialled, rfl⟩ := hcalls.1 hcall
    obtain rfl : c = gone :=
      hs.roster c (Roster.mem_erase hc) gone (Roster.mem_of_get? hdialled) hhandle
    have hkept := bne_iff_ne.1 (List.mem_filter.1 hc).2
    exact absurd (Roster.index_of_get? hdialled) hkept
  · intro c hsilent _
    refine ⟨fun hc => List.mem_filter.2 ⟨hc, bne_iff_ne.2 ?_⟩, Roster.mem_erase⟩
    intro hindex
    have hdialled : s.dialled = some c := by
      rw [dialled, ← hindex]
      exact Roster.get?_of_mem hc
    exact hsilent c.ended (hcalls.2 ⟨c, hdialled, rfl⟩) rfl

theorem Faithful.endAll (h : Faithful past s) (hs : s.Separate) :
    Faithful (past ++ s.endAll.1) s.endAll.2 := by
  refine h.announce (.of_empty rfl rfl) ?_ ?_ ?_ ?_
  · exact List.pairwise_map.2 (distinct_calls hs.roster)
  · intro call hcall hgoing
    obtain ⟨c, -, rfl⟩ := List.mem_map.1 hcall
    exact absurd rfl hgoing
  · intro call _ _ c hc
    exact absurd hc (Roster.not_mem_empty c)
  · intro c hsilent _
    constructor
    · intro hc
      exact absurd rfl (hsilent c.ended (List.mem_map_of_mem hc))
    · intro hc
      exact absurd hc (Roster.not_mem_empty c)

/-! ### After a pass -/

/-- A call that is no longer reported. -/
theorem mem_gone {call : Call} :
    (call ∈ s.roster.calls.filter fun call =>
      call.index != .localOrigin && !s.burst.contains call.index) ↔
    call ∈ s.roster.calls ∧ ∃ n, call.index = .peer n ∧ s.burst.contains (.peer n) = false := by
  rw [List.mem_filter]
  refine and_congr_right fun _ => ?_
  cases call.index with
  | localOrigin => simp
  | peer n => simp

/-- A call that is no longer reported has no heir. -/
theorem handle_ne_of_gone (hs : s.Separate) (h : Tidy patience s heard) {gone call : Call} {n : Nat}
    (hgone : gone ∈ s.roster.calls) (hindex : gone.index = .peer n)
    (hunlisted : s.burst.contains (.peer n) = false) (hcall : call ∈ s.reconciled.calls) :
    gone.handle ≠ call.handle := by
  intro heq
  have hheir := hs.heir_of_handle_eq h hgone hcall heq
  rw [hindex] at hheir
  have hfound := Roster.get?_of_mem hcall
  rw [hheir] at hfound
  rw [contains_of_get?_reconciled hfound] at hunlisted
  cases hunlisted

theorem distinct_announced (hs : s.Separate) (h : Tidy patience s heard) :
    Board.Distinct s.announced := by
  refine List.pairwise_append.2 ⟨?_, ?_, ?_⟩
  · exact List.pairwise_map.2 ((distinct_calls hs.roster).filter _)
  · exact (distinct_calls fun a ha b hb => hs.reconciled h ha hb).filter _
  · intro call hcall other hother
    obtain ⟨gone, hgone, rfl⟩ := List.mem_map.1 hcall
    obtain ⟨hgone, n, hindex, hunlisted⟩ := mem_gone.1 hgone
    have hne : gone.handle ≠ other.handle :=
      handle_ne_of_gone hs h hgone hindex hunlisted (List.mem_filter.1 hother).1
    exact hne

/-- **What is announced after a pass is faithful.** -/
theorem Faithful.complete (h : Faithful past s) (hs : s.Separate) (ht : Tidy patience s heard)
    (now : Instant) : Faithful (past ++ (s.complete now).1.changed) (s.complete now).2 := by
  have hnext := hs.complete ht now
  cases hstuck : s.stuckAge now with
  | some age =>
      rw [complete_eq_of_stuck hstuck]
      exact h.endAll hs
  | none =>
      rw [complete_eq hstuck] at hnext ⊢
      refine h.announce hnext (distinct_announced hs ht) ?_ ?_ ?_
      · intro call hcall hgoing
        rcases List.mem_append.1 hcall with hcall | hcall
        · obtain ⟨gone, -, rfl⟩ := List.mem_map.1 hcall
          exact absurd rfl hgoing
        · obtain ⟨hlisted, hnews⟩ := List.mem_filter.1 hcall
          refine ⟨fun hmem => ?_, hlisted⟩
          exact bne_iff_ne.1 hnews (Roster.get?_of_mem hmem)
      · intro call hcall hstate c hc hhandle
        rcases List.mem_append.1 hcall with hcall | hcall
        · obtain ⟨gone, hgone, rfl⟩ := List.mem_map.1 hcall
          obtain ⟨hgone, n, hindex, hunlisted⟩ := mem_gone.1 hgone
          have hne : gone.handle ≠ c.handle :=
            handle_ne_of_gone hs ht hgone hindex hunlisted hc
          exact absurd hhandle.symm hne
        · rw [hs.reconciled ht hc (List.mem_filter.1 hcall).1 hhandle]
          exact hstate
      · intro c hsilent _
        -- a call that is not announced stands in the roster as it stood there before
        have hsame : ∀ listed ∈ s.reconciled.calls, listed.handle = c.handle →
            listed ∈ s.roster.calls := by
          intro listed hlisted hhandle
          by_cases hknown : s.roster.get? listed.index = some listed
          · exact Roster.mem_of_get? hknown
          · refine absurd hhandle (hsilent listed (List.mem_append_right _ ?_))
            exact List.mem_filter.2 ⟨hlisted, bne_iff_ne.2 hknown⟩
        constructor
        · intro hc
          have hreported : ∀ n, c.index = .peer n → s.burst.contains (.peer n) = true := by
            intro n hindex
            cases hlisted : s.burst.contains (.peer n) with
            | true => rfl
            | false =>
                have hgone := mem_gone.2 ⟨hc, n, hindex, hlisted⟩
                have hannounced : c.ended ∈ s.announced :=
                  List.mem_append_left _ (List.mem_map_of_mem hgone)
                exact absurd rfl (hsilent c.ended hannounced)
          obtain ⟨heir, hheir, hhandle⟩ := exists_heir ht hc hreported
          obtain rfl := hs.roster heir (hsame heir hheir hhandle) c hc hhandle
          exact hheir
        · intro hc
          exact hsame c hc rfl

end Survey

end AudioLink
