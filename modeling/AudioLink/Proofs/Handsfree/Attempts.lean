/-
**What was tried to accept calls.**

There are several ways to accept a call, and a gateway may refuse one that it should understand.
Then another way may be tried.  By the time a gateway answers, other calls may have come and gone,
and more requests to accept one may be waiting for an answer.  But the answers come in the order of
the commands, so whoever watches the link can tell which request an answer is about, and what was
tried on account of it.

Main definitions:

* `AudioLink.Handsfree.Attempts`, `AudioLink.Handsfree.keepAttempts` — the record of what was tried,
  and that of a life;
* `AudioLink.Handsfree.Tried` — nothing was tried, or one way, or one way and another;
* `AudioLink.Handsfree.Develops` — what an impulse adds to the record;
* `AudioLink.Handsfree.Matched` — the record knows which command an answer will be about.

Main results:

* `AudioLink.Handsfree.Develops.sound` — an impulse keeps to two ways for each request;
* `AudioLink.Handsfree.recorded_respond` — **an impulse keeps the record right**.
-/

import AudioLink.Proofs.Handsfree.Handing

set_option relaxedAutoImplicit false
set_option autoImplicit false

namespace AudioLink

/-- The action on the calls that a command carries. -/
def Command.action? : Command → Option CallControl
  | call action => some action
  | _ => none

namespace Handsfree

/-- An order, if it is one to accept a call. -/
def Order.accepting? : Order → Option Order
  | accept action mode retried => some (accept action mode retried)
  | _ => none

theorem Order.accepting?_eq_some {order other : Order} (h : order.accepting? = some other) :
    order = other ∧ ∃ action mode retried, other = .accept action mode retried := by
  cases order with
  | accept action mode retried => exact ⟨Option.some.inj h, _, _, _, (Option.some.inj h).symm⟩
  | _ => cases h

/-- Another way to accept a call is as the settings have it. -/
theorem retryFor_fallback {s : Handsfree} {action alternative : CallControl} {retried : Bool}
    (h : retryFor s action retried = some alternative) :
    s.settings.acceptRetry.fallback action s.roster = some alternative := by
  unfold retryFor at h
  split at h
  · cases h
  · exact h

/-- No request but one to accept a call leads to an order to accept one. -/
theorem Request.accepting?_choice {request : Request} {s : Handsfree} {order : Order}
    (hother : ∀ mode, request ≠ .accept mode) (h : request.choice s = .ok order) :
    order.accepting? = none := by
  cases request with
  | accept mode => exact absurd rfl (hother mode)
  | reject =>
      obtain ⟨_, -, rfl⟩ := orderFor_eq_ok h
      rfl
  | hold =>
      obtain ⟨_, -, rfl⟩ := orderFor_eq_ok h
      rfl
  | terminate number =>
      cases number with
      | none =>
          obtain ⟨_, -, rfl⟩ := orderFor_eq_ok h
          rfl
      | some number =>
          obtain ⟨_, -, rfl⟩ := orderFor_eq_ok (enabling_eq_ok h).2
          rfl
  | privateMode number =>
      obtain ⟨_, -, rfl⟩ := orderFor_eq_ok (enabling_eq_ok h).2
      rfl
  | transfer =>
      obtain ⟨_, -, rfl⟩ := orderFor_eq_ok (enabling_eq_ok h).2
      rfl
  | _ => cases h

/-! ### The record -/

/-- A way to accept a call that was tried. -/
structure Attempt where
  /-- The request that it was tried for: how many requests to accept a call there were before. -/
  request : Nat
  action : CallControl
  mode : AcceptMode
  /-- Whether another way was tried before. -/
  again : Bool
  deriving DecidableEq

/-- The order that an attempt is made by. -/
def Attempt.order (attempt : Attempt) : Order := .accept attempt.action attempt.mode attempt.again

/-- What someone knows of the requests to accept a call who hears what a link is handed, and sees
what leaves it. -/
structure Attempts where
  /-- How many requests to accept a call there were. -/
  requests : Nat
  /-- What was tried. -/
  tried : List Attempt
  /-- The commands that the transport took and the gateway has not answered, the oldest first, each
  with the attempt that it is, if it is one. -/
  waiting : List (Option Attempt)
  deriving DecidableEq

namespace Attempts

/-- Nothing was asked for yet. -/
def blank : Attempts := ⟨0, [], []⟩

/-- What was tried for a request. -/
def of (attempts : Attempts) (request : Nat) : List Attempt :=
  attempts.tried.filter (·.request == request)

/-- The attempts without an answer. -/
def pending (attempts : Attempts) : List Attempt := attempts.waiting.filterMap id

/-- The attempt that an action is if it is handed over at an impulse: what the user has asked for
just now, or another way to do what the oldest command was to do. -/
def cause? (attempts : Attempts) : Impulse Request → Option (CallControl → Attempt)
  | .hand _ (.request (.accept mode)) => some fun action => ⟨attempts.requests, action, mode, false⟩
  | .hand _ (.event (.commandResult _ _)) =>
      attempts.waiting.head?.join.map fun first action =>
        ⟨first.request, action, first.mode, true⟩
  | _ => none

/-- A request is counted, and an answer is taken for that of the oldest command. -/
def hear (attempts : Attempts) (link : Link Handsfree Request AlarmKind) :
    Impulse Request → Attempts
  | .hand _ (.request (.accept _)) => { attempts with requests := attempts.requests + 1 }
  | .hand _ (.event (.commandResult _ _)) =>
      if link.state = .disconnected then attempts
      else { attempts with waiting := attempts.waiting.tail }
  | _ => attempts

/-- What leaves the link is noted; when it comes to be disconnected, there will be no more
answers. -/
def note (cause? : Option (CallControl → Attempt)) (attempts : Attempts) : Effect → Attempts
  | .call (.command command) accepted =>
      let attempt := cause?.bind fun cause => command.action?.map cause
      { attempts with
        tried := attempts.tried ++ attempt.toList
        waiting := if accepted && !command.isAudio then attempts.waiting ++ [attempt]
          else attempts.waiting }
  | .notice (.linkChanged _ .disconnected) => { attempts with waiting := [] }
  | _ => attempts

/-- When the oldest command was none to accept a call, its answer leads to no attempt. -/
theorem cause?_other (attempts : Attempts) {scene : Scene} {outcome : Outcome} {code : Option Nat}
    (hother : ∀ attempt, attempts.waiting.head? ≠ some (some attempt)) :
    attempts.cause? (.hand scene (.event (.commandResult outcome code))) = none := by
  rw [cause?]
  cases holdest : attempts.waiting.head? with
  | none => rfl
  | some oldest =>
      cases oldest with
      | none => rfl
      | some attempt => exact absurd holdest (hother attempt)

/-- A message that neither asks for a call to be accepted nor is an answer is no matter of the
record. -/
theorem unconcerned (attempts : Attempts) (link : Link Handsfree Request AlarmKind) (scene : Scene)
    (message : Message Request) (haccept : ∀ mode, message ≠ .request (.accept mode))
    (hanswer : ∀ outcome code, message ≠ .event (.commandResult outcome code)) :
    attempts.cause? (.hand scene message) = none ∧
      attempts.hear link (.hand scene message) = attempts := by
  cases message with
  | event event =>
      cases event with
      | commandResult outcome code => exact absurd rfl (hanswer outcome code)
      | _ => exact ⟨rfl, rfl⟩
  | request request =>
      cases request with
      | accept mode => exact absurd rfl (haccept mode)
      | _ => exact ⟨rfl, rfl⟩
  | _ => exact ⟨rfl, rfl⟩

end Attempts

/-- The record after an impulse. -/
def noteAttempts (link : Link Handsfree Request AlarmKind) (impulse : Impulse Request)
    (log : List Effect) (attempts : Attempts) : Attempts :=
  log.foldl (Attempts.note (attempts.cause? impulse)) (attempts.hear link impulse)

/-- The record of a life. -/
def keepAttempts (link : Link Handsfree Request AlarmKind) (impulses : List (Impulse Request)) :
    Attempts :=
  link.keep noteAttempts impulses .blank

/-! ### What the record tells -/

/-- Nothing was tried, or one way, or one way and then another. -/
inductive Tried : List Attempt → Prop
  | nothing : Tried []
  | once {first : Attempt} (new : first.again = false) : Tried [first]
  | twice {first second : Attempt} (new : first.again = false) (again : second.again = true)
      (other : second.action ≠ first.action) (mode : second.mode = first.mode) :
      Tried [first, second]

/-- A record of a life: the attempts without an answer belong to different requests, and where one
of them was the first, nothing else was tried yet. -/
structure Attempts.Sound (attempts : Attempts) : Prop where
  tried : ∀ request, Tried (attempts.of request)
  first : ∀ attempt ∈ attempts.pending, attempt.again = false →
    attempts.of attempt.request = [attempt]
  distinct : (attempts.pending.map Attempt.request).Nodup
  known : ∀ attempt ∈ attempts.pending, attempt.request < attempts.requests
  fresh : ∀ request, attempts.requests ≤ request → attempts.of request = []

/-- What an impulse adds to the record, and on what occasion. -/
inductive Develops (link : Link Handsfree Request AlarmKind) (attempts : Attempts) :
    Impulse Request → Attempts → Prop
  | aside {impulse : Impulse Request} {after : Attempts} (tried : after.tried = attempts.tried)
      (requests : attempts.requests ≤ after.requests)
      (pending : after.pending.Sublist attempts.pending) : Develops link attempts impulse after
  /-- The user asks for a call to be accepted, and there is one. -/
  | chosen {scene : Scene} {mode : AcceptMode} {action : CallControl} {after : Attempts}
      (connected : link.state = .connected)
      (chosen : link.session.roster.acceptWith mode = some action)
      (tried : after.tried = attempts.tried ++ [⟨attempts.requests, action, mode, false⟩])
      (requests : after.requests = attempts.requests + 1)
      (pending : after.pending.Sublist
        (attempts.pending ++ [⟨attempts.requests, action, mode, false⟩])) :
      Develops link attempts (.hand scene (.request (.accept mode))) after
  /-- The oldest command was the first attempt to accept a call, and it has failed while no call is
  active. -/
  | another {scene : Scene} {outcome : Outcome} {code : Option Nat} {first : Attempt}
      {rest : List (Option Attempt)} {action : CallControl} {after : Attempts}
      (oldest : attempts.waiting = some first :: rest) (new : first.again = false)
      (failed : outcome.isOk = false) (idle : link.session.roster.hasState .active = false)
      (other : action ≠ first.action)
      (settled : link.session.settings.acceptRetry.fallback first.action link.session.roster =
        some action)
      (tried : after.tried = attempts.tried ++ [⟨first.request, action, first.mode, true⟩])
      (requests : after.requests = attempts.requests)
      (pending : after.pending.Sublist
        (rest.filterMap id ++ [⟨first.request, action, first.mode, true⟩])) :
      Develops link attempts (.hand scene (.event (.commandResult outcome code))) after

section Record

variable {attempts after : Attempts}

theorem of_append {new : Attempt} (htried : after.tried = attempts.tried ++ [new])
    (request : Nat) :
    after.of request =
      attempts.of request ++ if new.request = request then [new] else [] := by
  rw [Attempts.of, htried, List.filter_append, Attempts.of]
  congr 1
  by_cases hsame : new.request = request
  · rw [if_pos hsame]
    exact List.filter_cons_of_pos (beq_iff_eq.2 hsame)
  · rw [if_neg hsame]
    exact List.filter_cons_of_neg (mt beq_iff_eq.1 hsame)

/-- Nothing was tried between two records. -/
structure Untried (attempts after : Attempts) : Prop where
  tried : after.tried = attempts.tried
  requests : attempts.requests ≤ after.requests
  pending : after.pending.Sublist attempts.pending

theorem Untried.refl (attempts : Attempts) : Untried attempts attempts :=
  ⟨rfl, Nat.le_refl _, .refl _⟩

theorem Untried.trans {last : Attempts} (h : Untried attempts after) (hlast : Untried after last) :
    Untried attempts last :=
  ⟨hlast.tried.trans h.tried, Nat.le_trans h.requests hlast.requests,
    hlast.pending.trans h.pending⟩

theorem sound_blank : Attempts.blank.Sound :=
  ⟨fun _ => .nothing, nofun, .nil, nofun, fun _ _ => rfl⟩

namespace Attempts.Sound

variable (h : attempts.Sound)

include h

theorem aside (huntried : Untried attempts after) : after.Sound := by
  have hof (request : Nat) : after.of request = attempts.of request :=
    congrArg (List.filter _) huntried.tried
  refine ⟨fun request => hof request ▸ h.tried request, fun attempt hattempt hnew => ?_, ?_,
    fun attempt hattempt => ?_, fun request hrequest => ?_⟩
  · rw [hof]
    exact h.first attempt (huntried.pending.subset hattempt) hnew
  · exact h.distinct.sublist (huntried.pending.map _)
  · exact Nat.lt_of_lt_of_le (h.known attempt (huntried.pending.subset hattempt)) huntried.requests
  · rw [hof]
    exact h.fresh request (Nat.le_trans huntried.requests hrequest)

/-- Another attempt is made for a request that none of the others without an answer is about. -/
theorem extend {new : Attempt} {others : List Attempt} (hothers : others.Sublist attempts.pending)
    (hapart : ∀ attempt ∈ others, new.request ≠ attempt.request)
    (htries : Tried (attempts.of new.request ++ [new]))
    (hfirst : new.again = false → attempts.of new.request = [])
    (hknown : new.request < after.requests) (hrequests : attempts.requests ≤ after.requests)
    (htried : after.tried = attempts.tried ++ [new])
    (hpending : after.pending.Sublist (others ++ [new])) : after.Sound := by
  have hof := of_append htried
  have hmem (attempt : Attempt) (hattempt : attempt ∈ after.pending) :
      attempt ∈ others ∨ attempt = new := by
    rcases List.mem_append.1 (hpending.subset hattempt) with hattempt | hattempt
    · exact .inl hattempt
    · exact .inr (List.mem_singleton.1 hattempt)
  refine ⟨fun request => ?_, fun attempt hattempt hnew => ?_, ?_, fun attempt hattempt => ?_,
    fun request hrequest => ?_⟩
  · rw [hof]
    split
    · next heq => exact heq ▸ htries
    · rw [List.append_nil]
      exact h.tried request
  · rw [hof]
    rcases hmem attempt hattempt with hattempt | rfl
    · rw [if_neg (hapart attempt hattempt), List.append_nil]
      exact h.first attempt (hothers.subset hattempt) hnew
    · rw [if_pos rfl, hfirst hnew, List.nil_append]
  · refine List.Nodup.sublist (hpending.map _) ?_
    rw [List.map_append, List.nodup_append]
    refine ⟨h.distinct.sublist (hothers.map _), List.pairwise_singleton .., ?_⟩
    rintro _ hold _ hnew rfl
    obtain ⟨attempt, hattempt, heq⟩ := List.mem_map.1 hold
    exact hapart attempt hattempt ((List.mem_singleton.1 hnew).symm.trans heq.symm)
  · rcases hmem attempt hattempt with hattempt | rfl
    · exact Nat.lt_of_lt_of_le (h.known attempt (hothers.subset hattempt)) hrequests
    · exact hknown
  · have hother : new.request ≠ request := Nat.ne_of_lt (Nat.lt_of_lt_of_le hknown hrequest)
    rw [hof, if_neg hother, List.append_nil]
    exact h.fresh request (Nat.le_trans hrequests hrequest)

/-- The first attempt for a new request. -/
theorem begin {new : Attempt} (hnew : new.again = false)
    (hrequest : new.request = attempts.requests) (htried : after.tried = attempts.tried ++ [new])
    (hrequests : after.requests = attempts.requests + 1)
    (hpending : after.pending.Sublist (attempts.pending ++ [new])) : after.Sound := by
  have hfresh : attempts.of new.request = [] := h.fresh _ (Nat.le_of_eq hrequest.symm)
  refine h.extend (.refl _) (fun attempt hattempt => ?_) ?_ (fun _ => hfresh) ?_ ?_ htried hpending
  · rw [hrequest]
    exact (Nat.ne_of_lt (h.known attempt hattempt)).symm
  · rw [hfresh]
    exact .once hnew
  · rw [hrequest, hrequests]
    exact Nat.lt_succ_self _
  · rw [hrequests]
    exact Nat.le_succ _

/-- Another attempt for the request that the oldest one was the first for. -/
theorem again {first second : Attempt} {others : List Attempt}
    (holdest : attempts.pending = first :: others)
    (htried : after.tried = attempts.tried ++ [second]) (hnew : first.again = false)
    (hagain : second.again = true) (hrequest : second.request = first.request)
    (hother : second.action ≠ first.action) (hmode : second.mode = first.mode)
    (hrequests : after.requests = attempts.requests)
    (hpending : after.pending.Sublist (others ++ [second])) : after.Sound := by
  have hmem : first ∈ attempts.pending := holdest ▸ List.mem_cons_self ..
  have hdistinct := h.distinct
  rw [holdest, List.map_cons, List.nodup_cons] at hdistinct
  refine h.extend (holdest ▸ List.sublist_cons_self ..) (fun attempt hattempt heq => ?_) ?_
    (fun hfirst => absurd (hagain.symm.trans hfirst) nofun) ?_ (Nat.le_of_eq hrequests.symm) htried
    hpending
  · exact hdistinct.1 (List.mem_map.2 ⟨attempt, hattempt, heq.symm.trans hrequest⟩)
  · rw [hrequest, h.first first hmem hnew]
    exact .twice hnew hagain hother hmode
  · rw [hrequest, hrequests]
    exact h.known first hmem

end Attempts.Sound

variable {link : Link Handsfree Request AlarmKind} {impulse : Impulse Request}

/-- **An impulse keeps the record sound.** -/
theorem Develops.sound (h : Develops link attempts impulse after) (hsound : attempts.Sound) :
    after.Sound := by
  cases h with
  | aside tried requests pending => exact hsound.aside ⟨tried, requests, pending⟩
  | chosen _ _ tried requests pending => exact hsound.begin rfl rfl tried requests pending
  | another oldest new _ _ other _ tried requests pending =>
      have holdest := congrArg (List.filterMap id) oldest
      exact hsound.again holdest tried new rfl rfl other rfl requests pending

end Record

/-! ### The ledger and the record -/

/-- The commands without an answer are the pending orders, and the attempts are those to accept a
call. -/
def Matched (attempts : Attempts) (ledger : Ledger Order) : Prop :=
  attempts.waiting.map (·.map Attempt.order) = ledger.actions.map Order.accepting?

theorem matched_blank : Matched .blank .empty := rfl

namespace Matched

variable {attempts : Attempts} {ledger : Ledger Order} {order : Order}

theorem issue (h : Matched attempts ledger) (now : Instant) (accepted : Bool)
    {cause? : Option (CallControl → Attempt)}
    (hcause : (cause?.bind fun cause => order.command.action?.map cause).map Attempt.order =
      order.accepting?) :
    Matched (attempts.note cause? (.call (.command order.command) accepted))
      (ledger.issue order now accepted).2 := by
  rw [Matched, Ledger.actions_issue]
  cases accepted with
  | false => exact h
  | true =>
      show (if !order.command.isAudio then _ else _ : List (Option Attempt)).map _ = _
      rw [isAudio_command, Bool.not_false, if_pos rfl, if_pos rfl, List.map_append, List.map_append,
        h]
      exact congrArg (_ ++ [·]) hcause

/-- An order that is not one to accept a call is no attempt. -/
theorem issue_other (h : Matched attempts ledger) (now : Instant) (accepted : Bool)
    (hother : order.accepting? = none) :
    Matched (attempts.note none (.call (.command order.command) accepted))
      (ledger.issue order now accepted).2 :=
  h.issue now accepted hother.symm

theorem resolve (h : Matched attempts ledger) :
    Matched { attempts with waiting := attempts.waiting.tail } ledger.resolve.2 := by
  rw [Matched, Ledger.actions_resolve, List.map_tail, List.map_tail, h]

/-- The oldest command is an attempt exactly if the oldest order is one to accept a call. -/
theorem head_map (h : Matched attempts ledger) :
    attempts.waiting.head?.map (·.map Attempt.order) = ledger.front?.map Order.accepting? := by
  rw [Ledger.front?, ← List.head?_map, ← List.head?_map, h]

theorem front (h : Matched attempts ledger) {attempt : Attempt}
    (holdest : attempts.waiting.head? = some (some attempt)) :
    ledger.front? = some attempt.order := by
  have hfront := h.head_map
  rw [holdest] at hfront
  obtain ⟨order, horder, haccepting⟩ := Option.map_eq_some_iff.1 hfront.symm
  rw [horder, (Order.accepting?_eq_some haccepting).1]

theorem oldest (h : Matched attempts ledger) {action : CallControl} {mode : AcceptMode}
    {retried : Bool} (hfront : ledger.front? = some (.accept action mode retried)) :
    ∃ request, attempts.waiting.head? = some (some ⟨request, action, mode, retried⟩) := by
  have hhead := h.head_map
  rw [hfront] at hhead
  obtain ⟨oldest, holdest, hattempt⟩ := Option.map_eq_some_iff.1 hhead
  obtain ⟨attempt, rfl, horder⟩ := Option.map_eq_some_iff.1 hattempt
  obtain ⟨request, action, mode, again⟩ := attempt
  cases horder
  exact ⟨request, holdest⟩

end Matched

section Quiet

variable {attempts : Attempts} {log : List Effect}

theorem foldl_note_snoc (cause? : Option (CallControl → Attempt)) (attempts : Attempts)
    (log : List Effect) (effect : Effect) :
    (log ++ [effect]).foldl (Attempts.note cause?) attempts =
      (log.foldl (Attempts.note cause?) attempts).note cause? effect := by
  rw [List.foldl_append]
  rfl

theorem foldl_note_told (cause? : Option (CallControl → Attempt)) (attempts : Attempts)
    (verdict : Verdict) : verdict.told.foldl (Attempts.note cause?) attempts = attempts := by
  cases verdict with
  | ok _ => rfl
  | error fault =>
      rw [Verdict.told]
      split
      · rfl
      · rfl

/-- Without a cause nothing is tried. -/
theorem untried_note (attempts : Attempts) (effect : Effect) :
    Untried attempts (attempts.note none effect) := by
  unfold Attempts.note
  split
  · refine ⟨List.append_nil _, Nat.le_refl _, ?_⟩
    dsimp only [Attempts.pending]
    split
    · rw [List.filterMap_append]
      exact (List.append_nil _).symm ▸ .refl _
    · exact .refl _
  · exact ⟨rfl, Nat.le_refl _, List.nil_sublist _⟩
  · exact .refl _

theorem untried_foldl (log : List Effect) (attempts : Attempts) :
    Untried attempts (log.foldl (Attempts.note none) attempts) := by
  induction log generalizing attempts with
  | nil => exact .refl _
  | cons effect log ih => exact (untried_note attempts effect).trans (ih _)

end Quiet

section Acts

variable {attempts : Attempts}

/-- The ledger matches the record in which all that has left the link was noted, none of it as an
attempt. -/
def MatchedAfter (attempts : Attempts) (log : List Effect) (ledger : Ledger Order) : Prop :=
  Matched (log.foldl (Attempts.note none) attempts) ledger

namespace MatchedAfter

variable {log : List Effect} {ledger : Ledger Order} (h : MatchedAfter attempts log ledger)

include h

/-- What is neither a command nor the end of the link is no matter of the record. -/
theorem snoc {effect : Effect}
    (hother : ∀ attempts : Attempts, attempts.note none effect = attempts) :
    MatchedAfter attempts (log ++ [effect]) ledger := by
  rw [MatchedAfter, foldl_note_snoc, hother]
  exact h

theorem announced (calls : List Call) :
    MatchedAfter attempts (log ++ calls.map announcement) ledger :=
  Handsfree.announced (J := fun log => MatchedAfter attempts log ledger)
    (fun _ _ h => h.snoc fun _ => rfl) calls h

theorem order {order : Order} (now : Instant) (accepted : Bool) (hother : order.accepting? = none) :
    MatchedAfter attempts (log ++ [.call (.command order.command) accepted])
      (ledger.issue order now accepted).2 := by
  rw [MatchedAfter, foldl_note_snoc]
  exact h.issue_other now accepted hother

/-- What the link asks on its own account is no matter of the record either. -/
theorem asked {request : Outgoing} (own : Link.IsOwn request) (accepted : Bool) :
    MatchedAfter attempts (log ++ [.call request accepted]) ledger := by
  rw [MatchedAfter, foldl_note_snoc]
  cases own <;> cases accepted <;> exact h

theorem linkChanged (previous : LinkState) {current : LinkState} (hup : current ≠ .disconnected) :
    MatchedAfter attempts (log ++ [.notice (.linkChanged previous current)]) ledger := by
  rw [MatchedAfter, foldl_note_snoc]
  cases current with
  | disconnected => exact absurd rfl hup
  | _ => exact h

omit h in
/-- With the link all orders are gone, and so are the commands without an answer. -/
theorem disconnected (log : List Effect) (previous : LinkState) (ledger : Ledger Order) :
    MatchedAfter attempts (log ++ [.notice (.linkChanged previous .disconnected)])
      ledger.clear := by
  rw [MatchedAfter, foldl_note_snoc]
  exact rfl

end MatchedAfter

theorem minor_matched :
    Minor fun desk => MatchedAfter attempts desk.log desk.session.ledger where
  note f hf := fun _ desk h => by
    show MatchedAfter attempts desk.log (f desk.session).ledger
    rw [hf.ledger]
    exact h
  announce _ _ _ := fun _ _ h => h.snoc fun _ => rfl
  issue order _ hother := fun view _ h => h.order view.now _ (by
    cases order with
    | accept _ _ _ => cases hother
    | _ => rfl)
  record _ _ := fun _ _ h => h
  abandonDial := fun _ _ h => yields_abandonDial.2 (h.announced _)

/-- **Nothing but the control of the calls and the answers touches the record.** -/
theorem aloof_matched (attempts : Attempts) :
    Aloof fun s log => MatchedAfter attempts log s.ledger where
  audioChanged _ _ _ _ _ h := h.snoc fun _ => rfl
  onAudioChanged :=
    upholds_onAudio (fun _ _ _ h => h) (fun _ _ _ h => h.snoc fun _ => rfl) fun _ _ h => h
  onConnected := minor_matched.upholds_onConnected
  asked _ _ _ accepted own h := h.asked own accepted
  linkChanged _ _ previous _ hup h := h.linkChanged previous hup
  onLinkUp _ _ _ h := h
  onDisconnected previous _ desk _ :=
    yields_onDisconnected.2 ((MatchedAfter.disconnected desk.log previous _).announced _)
  failed _ _ _ h := h.snoc fun _ => rfl
  minor := minor_matched
  enter _ _ _ call _ _ h := h.announced [call]
  order _ := fun view _ h => h.order view.now _ rfl
  queryCalls := upholds_queryCalls (fun _ _ h => h) fun view _ h => h.order view.now _ rfl
  allowAudioRoute _ := fun _ _ h => yields_allowAudioRoute.2 h

/-- Nor does the end of a list of calls, even if it leads to an order to hang up. -/
theorem yields_finishQuery_matched {view : View} {desk : Desk Handsfree AlarmKind}
    (h : MatchedAfter attempts desk.log desk.session.ledger) :
    finishQuery.Yields view desk fun _ after =>
      MatchedAfter attempts after.log after.session.ledger := by
  rw [yields_finishQuery]
  split
  · rw [yields_issueQuietly]
    exact (h.order view.now _ rfl).announced _
  · exact h.announced _

end Acts

/-! ### Impulses -/

section Impulses

variable {link after : Link Handsfree Request AlarmKind} {attempts : Attempts} {scene : Scene}
  {impulse : Impulse Request} {log : List Effect} {cause? : Option (CallControl → Attempt)}

/-- What is not about the control of the calls is no attempt. -/
theorem note_uncontrolled {effect : Effect} (h : AudioLink.isControl effect = false)
    (attempts : Attempts) : attempts.note cause? effect = attempts.note none effect := by
  cases effect with
  | notice notice =>
      cases notice with
      | linkChanged _ current => cases current <;> rfl
      | _ => rfl
  | call request accepted =>
      cases request with
      | command command =>
          cases command with
          | call action => cases h
          | _ => cases cause? <;> rfl
      | _ => rfl

theorem foldl_note_uncontrolled (h : Uncontrolled log) (attempts : Attempts) :
    log.foldl (Attempts.note cause?) attempts = log.foldl (Attempts.note none) attempts := by
  induction log generalizing attempts with
  | nil => rfl
  | cons effect log ih =>
      rw [List.foldl_cons, List.foldl_cons, note_uncontrolled (h effect (List.mem_cons_self ..)),
        ih fun other hother => h other (List.mem_cons_of_mem _ hother)]

/-- Where nothing is tried, the cause does not matter. -/
theorem noteAttempts_quiet (hquiet : attempts.cause? impulse = none ∨ Uncontrolled log) :
    noteAttempts link impulse log attempts =
      log.foldl (Attempts.note none) (attempts.hear link impulse) := by
  rcases hquiet with hnone | huncontrolled
  · rw [noteAttempts, hnone]
  · exact foldl_note_uncontrolled huncontrolled _

/-- Hearing an impulse tries nothing. -/
theorem untried_hear (link : Link Handsfree Request AlarmKind) (attempts : Attempts)
    (impulse : Impulse Request) : Untried attempts (attempts.hear link impulse) := by
  unfold Attempts.hear
  split
  · exact ⟨rfl, Nat.le_succ _, .refl _⟩
  · split
    · exact .refl _
    · exact ⟨rfl, Nat.le_refl _, (List.tail_sublist _).filterMap _⟩
  · exact .refl _

/-- An impulse at which nothing is tried. -/
theorem develops_aside (hquiet : attempts.cause? impulse = none ∨ Uncontrolled log) :
    Develops link attempts impulse (noteAttempts link impulse log attempts) := by
  obtain ⟨htried, hrequests, hpending⟩ :=
    (untried_hear link attempts impulse).trans (untried_foldl log (attempts.hear link impulse))
  rw [noteAttempts_quiet hquiet]
  exact .aside htried hrequests hpending

/-- When a choice was followed, the record matches the ledger, if the order is an attempt exactly
when it is one to accept a call. -/
theorem Followed.matched {ledger : Ledger Order} {choice : Except Fault Order}
    (h : Followed link scene ledger choice ⟨after, log⟩) (hmatched : Matched attempts ledger)
    (hcause : ∀ order, choice = .ok order →
      (cause?.bind fun cause => order.command.action?.map cause).map Attempt.order =
        order.accepting?) :
    Matched (log.foldl (Attempts.note cause?) attempts) after.session.ledger := by
  cases choice with
  | error fault =>
      obtain ⟨hsession, hlog⟩ := h
      dsimp only at hsession hlog
      rw [hlog, foldl_note_told, hsession]
      exact hmatched
  | ok order =>
      obtain ⟨hsession, hlog⟩ := h
      dsimp only at hsession hlog
      rw [hlog, List.foldl_cons, foldl_note_told, hsession]
      exact hmatched.issue scene.now _ (hcause order rfl)

/-- An action that is handed over is an attempt when there is a cause for one. -/
theorem note_attempt (cause : CallControl → Attempt) (action : CallControl) (accepted : Bool)
    (attempts : Attempts) :
    let after := attempts.note (some cause) (.call (.command (.call action)) accepted)
    after.tried = attempts.tried ++ [cause action] ∧ after.requests = attempts.requests ∧
      after.pending.Sublist (attempts.pending ++ [cause action]) := by
  refine ⟨rfl, rfl, ?_⟩
  cases accepted with
  | false => exact List.sublist_append_left _ _
  | true =>
      show (List.filterMap id (attempts.waiting ++ [some (cause action)])).Sublist _
      rw [List.filterMap_append]
      exact .refl _

/-- An impulse adds to the record what it should, and the record matches the ledger again. -/
structure Recorded (link : Link Handsfree Request AlarmKind) (attempts : Attempts)
    (impulse : Impulse Request) : Prop where
  develops : Develops link attempts impulse
    (noteAttempts link impulse (link.respond impulse).2 attempts)
  matched : Matched (noteAttempts link impulse (link.respond impulse).2 attempts)
    (link.respond impulse).1.session.ledger

/-- Where nothing is tried, it is enough to look at the commands without an answer. -/
theorem recorded_aside
    (hquiet : attempts.cause? impulse = none ∨ Uncontrolled (link.respond impulse).2)
    (h : MatchedAfter (attempts.hear link impulse) (link.respond impulse).2
      (link.respond impulse).1.session.ledger) : Recorded link attempts impulse := by
  refine ⟨develops_aside hquiet, ?_⟩
  rw [noteAttempts_quiet hquiet]
  exact h

variable (hlink : Link.Between link) (h : Matched attempts link.session.ledger)

include hlink h

/-! Requests -/

omit h in
/-- A request to accept a call follows the choice among the calls there are. -/
theorem followed_accept (scene : Scene) (hconnected : link.state = .connected) (mode : AcceptMode) :
    Followed link scene link.session.ledger
      (orderFor "accept" (link.session.roster.acceptWith mode) (.accept · mode false))
      ⟨(link.respond (.hand scene (.request (.accept mode)))).1,
        (link.respond (.hand scene (.request (.accept mode)))).2⟩ := by
  have hcontrol : (Request.accept mode).isControl = true := rfl
  exact respond_request_control scene hlink.queue hconnected hcontrol

/-- A request to accept a call. -/
theorem recorded_accept (mode : AcceptMode) :
    Recorded link attempts (.hand scene (.request (.accept mode))) := by
  by_cases hconnected : link.state = .connected
  · have hfollowed := followed_accept hlink scene hconnected mode
    refine ⟨?_, hfollowed.matched h fun order hchoice => ?_⟩
    · cases hchosen : link.session.roster.acceptWith mode with
      | none =>
          rw [hchosen] at hfollowed
          obtain ⟨-, hlog⟩ := hfollowed
          dsimp only at hlog
          exact develops_aside (.inr (hlog ▸ uncontrolled_told _))
      | some action =>
          rw [hchosen] at hfollowed
          obtain ⟨-, hlog⟩ := hfollowed
          dsimp only at hlog
          rw [hlog, noteAttempts, List.foldl_cons, foldl_note_told]
          obtain ⟨htried, hrequests, hpending⟩ := note_attempt
            (fun action => ⟨attempts.requests, action, mode, false⟩) action
            (scene.transport [] (.command (.call action)))
            { attempts with requests := attempts.requests + 1 }
          exact .chosen hconnected hchosen htried hrequests hpending
    · obtain ⟨action, -, rfl⟩ := orderFor_eq_ok hchoice
      rfl
  · have hrefused : link.respond (.hand scene (.request (.accept mode))) = _ :=
      Link.respond_request_unheard hlink.queue hconnected
    refine recorded_aside (.inr ?_) ?_
    · rw [hrefused]
      exact uncontrolled_nil.snoc rfl
    · rw [hrefused]
      exact h

/-- Another request to control the calls. -/
theorem recorded_control {request : Request} (hcontrol : request.isControl = true)
    (hother : ∀ mode, request ≠ .accept mode) :
    Recorded link attempts (.hand scene (.request request)) := by
  obtain ⟨hcause, hheard⟩ := attempts.unconcerned link scene (.request request)
    (fun mode heq => hother mode (Message.request.inj heq)) nofun
  refine recorded_aside (.inl hcause) ?_
  rw [hheard]
  by_cases hconnected : link.state = .connected
  · refine (respond_request_control scene hlink.queue hconnected hcontrol).matched h ?_
    exact fun order hchoice => (Request.accepting?_choice hother hchoice).symm
  · rw [Link.respond_request_unheard hlink.queue hconnected]
    exact h

/-! Answers -/

/-- The answer to an attempt, the failure of which may lead to another one. -/
theorem recorded_attempt (hup : link.state ≠ .disconnected) {attempt : Attempt}
    (holdest : attempts.waiting.head? = some (some attempt)) (outcome : Outcome)
    (code : Option Nat) :
    Recorded link attempts (.hand scene (.event (.commandResult outcome code))) := by
  have hheard : attempts.hear link (.hand scene (.event (.commandResult outcome code))) =
      { attempts with waiting := attempts.waiting.tail } := if_neg hup
  have hcause : attempts.cause? (.hand scene (.event (.commandResult outcome code))) =
      some fun action => ⟨attempt.request, action, attempt.mode, true⟩ := by
    rw [Attempts.cause?, holdest]
    rfl
  have hanswer : Accepted link scene attempt.action attempt.mode attempt.again outcome code
      ⟨_, _⟩ := respond_acceptResult hlink.queue hup (h.front holdest)
  rw [Accepted] at hanswer
  split at hanswer
  · -- the attempt has succeeded, and nothing more is tried
    obtain ⟨hsession, hlog⟩ := hanswer
    dsimp only at hsession hlog
    refine recorded_aside (.inr (hlog ▸ uncontrolled_nil)) ?_
    rw [hheard, hsession, hlog]
    exact h.resolve
  · next hfailed =>
      split at hanswer
      · next action hretry =>
          -- it has failed, and another way is tried
          obtain ⟨hnew, hidle, hother⟩ := retryFor_eq_some hretry
          constructor
          · obtain ⟨-, hlog⟩ := hanswer
            dsimp only at hlog
            rw [noteAttempts, hheard, hcause, hlog, List.foldl_cons, foldl_note_told]
            obtain ⟨htried, hrequests, hpending⟩ := note_attempt
              (fun action => ⟨attempt.request, action, attempt.mode, true⟩) action
              (scene.transport [] (.command (.call action)))
              { attempts with waiting := attempts.waiting.tail }
            obtain ⟨rest, hrest⟩ := List.head?_eq_some_iff.1 holdest
            have hothers : ({ attempts with
                waiting := attempts.waiting.tail } : Attempts).pending = rest.filterMap id :=
              congrArg (fun waiting => waiting.tail.filterMap id) hrest
            rw [hothers] at hpending
            exact .another hrest hnew (Bool.eq_false_iff.2 hfailed) hidle hother
              (retryFor_fallback hretry) htried hrequests hpending
          · rw [noteAttempts, hheard, hcause]
            refine hanswer.matched h.resolve ?_
            rintro order ⟨⟩
            rfl
      · -- it has failed, and there is no other way
        obtain ⟨hsession, hlog⟩ := hanswer
        dsimp only at hsession hlog
        refine recorded_aside (.inr (hlog ▸ uncontrolled_refusal _ _ _ _)) ?_
        rw [hheard, hsession, hlog]
        cases attempt.again with
        | true => exact h.resolve
        | false => exact h.resolve

/-- The answer to any other command, or to none. -/
theorem recorded_answer (outcome : Outcome) (code : Option Nat) :
    Recorded link attempts (.hand scene (.event (.commandResult outcome code))) := by
  by_cases hdown : link.state = .disconnected
  · have hunheard : link.respond (.hand scene (.event (.commandResult outcome code))) = _ :=
      Accountable.respond_unheard hlink.queue hdown
    have hheard : attempts.hear link (.hand scene (.event (.commandResult outcome code))) =
        attempts := if_pos hdown
    refine recorded_aside (.inr ?_) ?_
    · rw [hunheard]
      exact uncontrolled_nil
    · rw [hunheard, hheard]
      exact h
  by_cases haccept : ∃ attempt, attempts.waiting.head? = some (some attempt)
  · obtain ⟨attempt, holdest⟩ := haccept
    exact recorded_attempt hlink h hdown holdest outcome code
  have hcause : attempts.cause? (.hand scene (.event (.commandResult outcome code))) = none :=
    attempts.cause?_other fun attempt holdest => haccept ⟨attempt, holdest⟩
  have hheard : attempts.hear link (.hand scene (.event (.commandResult outcome code))) =
      { attempts with waiting := attempts.waiting.tail } := if_neg hdown
  refine recorded_aside (.inl hcause) ?_
  rw [hheard]
  cases hfront : link.session.ledger.front? with
  | none =>
      have hcounted : (overhear link.session).ledger = link.session.ledger.resolve.2 :=
        (Ledger.resolve_of_front?_eq_none hfront).symm
      rw [accountable.respond_unmatched hlink.queue hdown hfront, hcounted]
      exact h.resolve
  | some order =>
      by_cases hquery : order = .queryCalls
      · subst hquery
        refine respond_answer_told (P := fun after =>
          MatchedAfter { attempts with waiting := attempts.waiting.tail } after.log
            after.link.session.ledger) hlink.queue hdown hfront ?_
        refine Work.yields_mono (yields_finishQuery_matched h.resolve) ?_
        intro verdict after hafter
        exact verdict.of_told (P := fun log => MatchedAfter _ log after.session.ledger) hafter
          fun fault _ => hafter.snoc fun _ => rfl
      · refine (aloof_matched _).respond_answer hlink hdown hfront hquery ?_ h.resolve
        rintro action mode retried rfl
        obtain ⟨request, holdest⟩ := h.oldest hfront
        exact haccept ⟨_, holdest⟩

/-- **An impulse keeps the record right.** -/
theorem recorded_respond (impulse : Impulse Request) : Recorded link attempts impulse := by
  cases impulse with
  | wake scene => exact recorded_aside (.inl rfl) ((aloof_matched _).respond hlink h nofun nofun)
  | hand scene message =>
      by_cases hanswer : ∃ outcome code, message = .event (.commandResult outcome code)
      · obtain ⟨outcome, code, rfl⟩ := hanswer
        exact recorded_answer hlink h outcome code
      by_cases haccept : ∃ mode, message = .request (.accept mode)
      · obtain ⟨mode, rfl⟩ := haccept
        exact recorded_accept hlink h mode
      by_cases hcontrol : ∃ request : Request, message = .request request ∧ request.isControl = true
      · obtain ⟨request, rfl, hcontrol⟩ := hcontrol
        refine recorded_control hlink h hcontrol ?_
        rintro mode rfl
        exact haccept ⟨mode, rfl⟩
      obtain ⟨hcause, hheard⟩ := attempts.unconcerned link scene message
        (fun mode heq => haccept ⟨mode, heq⟩) fun outcome code heq => hanswer ⟨outcome, code, heq⟩
      refine recorded_aside (.inl hcause) ?_
      rw [hheard]
      refine (aloof_matched _).respond hlink h (fun _ request told => ?_) ?_
      · exact Bool.eq_false_iff.2 fun htrue => hcontrol ⟨request, (Impulse.hand.inj told).2, htrue⟩
      · exact fun _ outcome code told => hanswer ⟨outcome, code, (Impulse.hand.inj told).2⟩

end Impulses

end Handsfree

end AudioLink
