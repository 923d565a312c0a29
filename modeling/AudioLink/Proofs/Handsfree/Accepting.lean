/-
**Another way to accept a call.**

When a gateway refuses to accept a call, another way is tried, but only once, and only while no call
is active.  When that is refused as well, the user is told so.

Main definitions:

* `AudioLink.Handsfree.Settles` — what leaves the link when a way to accept a call was answered;
* `AudioLink.Handsfree.Exhausts` — another way has failed as well.

Main results:

* `AudioLink.Handsfree.chosen_accept`, `AudioLink.Handsfree.settles_attempt` — what the request to
  accept a call, and the answer to an attempt, lead to;
* `AudioLink.Handsfree.exhausts_iff` — when it is announced that there is no other way;
* `AudioLink.Handsfree.accepts_once_more` — **to accept a call, no more than two ways are tried**,
  and every failure leads to another way or is announced.
-/

import AudioLink.Proofs.Handsfree.Attempts
import AudioLink.Proofs.Handsfree.Indicators
import AudioLink.Proofs.Profiles
import AudioLink.Proofs.Verdicts

set_option relaxedAutoImplicit false
set_option autoImplicit false

namespace AudioLink

/-- Whether a fault is that another way was tried in vain. -/
def Fault.isExhausted : Fault → Bool
  | retryExhausted _ => true
  | _ => false

theorem Fault.isExhausted_common (fault : Fault) (h : fault.isCommon = true) :
    fault.isExhausted = false := by
  cases fault with
  | retryExhausted _ => cases h
  | _ => rfl

namespace Handsfree

/-- When no other way is tried for the first time, a call is active, or the settings have none. -/
theorem retryFor_eq_none {s : Handsfree} {action : CallControl}
    (h : retryFor s action false = none) :
    s.roster.hasState .active = true ∨
      s.settings.acceptRetry.fallback action s.roster = none := by
  unfold retryFor at h
  split at h
  · next hactive => exact .inl hactive
  · exact .inr h

/-! ### Answers to attempts -/

/-- What leaves the link when an attempt was answered. -/
inductive Settles (link : Link Handsfree Request AlarmKind) (attempt : Attempt) (outcome : Outcome)
    (code : Option Nat) : List Effect → Prop
  | succeeded (ok : outcome.isOk = true) : Settles link attempt outcome code []
  /-- Another way is tried; that the transport refuses it is announced. -/
  | another {action : CallControl} {accepted : Bool} (failed : outcome.isOk = false)
      (new : attempt.again = false) (idle : link.session.roster.hasState .active = false)
      (settled : link.session.settings.acceptRetry.fallback attempt.action link.session.roster =
        some action) :
      Settles link attempt outcome code (.call (.command (.call action)) accepted ::
        if accepted then []
        else [.notice (.requestFailed
          (.rejected (describe (Order.accept action attempt.mode true))))])
  /-- The failure is announced. -/
  | reported (failed : outcome.isOk = false) (new : attempt.again = false)
      (settled : link.session.roster.hasState .active = true ∨
        link.session.settings.acceptRetry.fallback attempt.action link.session.roster = none) :
      Settles link attempt outcome code [.notice (.report (.commandResult outcome code))]
  /-- The failure is announced, and that there is no other way. -/
  | exhausted (failed : outcome.isOk = false) (again : attempt.again = true) :
      Settles link attempt outcome code [.notice (.report (.commandResult outcome code)),
        .notice (.requestFailed (.retryExhausted ("accept (" ++ attempt.action.code ++ ")")))]

/-- That the transport refuses an order is told, and nothing else. -/
theorem told_issue (ledger : Ledger Order) (order : Order) (now : Instant) (accepted : Bool) :
    Verdict.told (ledger.issue order now accepted).1 =
      if accepted then [] else [.notice (.requestFailed (.rejected (describe order)))] := by
  cases accepted with
  | true => rfl
  | false => rfl

/-- That there is no other way is announced exactly if another way has failed. -/
theorem Settles.exhausted_iff {link : Link Handsfree Request AlarmKind} {attempt : Attempt}
    {outcome : Outcome} {code : Option Nat} {log : List Effect}
    (h : Settles link attempt outcome code log) :
    log.any (tells Fault.isExhausted) = true ↔ outcome.isOk = false ∧ attempt.again = true := by
  cases h with
  | succeeded ok => simp [ok]
  | @another _ accepted failed new =>
      cases accepted <;> simp [new, tells, Fault.isExhausted]
  | reported failed new => simp [new, tells]
  | exhausted failed again => simp [failed, again, tells, Fault.isExhausted]

section Settles

variable {link : Link Handsfree Request AlarmKind} {attempts : Attempts} {scene : Scene}

/-- **What the answer to an attempt leads to.** -/
theorem settles_attempt (hlink : Link.Between link) (h : Matched attempts link.session.ledger)
    (hup : link.state ≠ .disconnected) {attempt : Attempt}
    (holdest : attempts.waiting.head? = some (some attempt)) (outcome : Outcome)
    (code : Option Nat) :
    Settles link attempt outcome code
      (link.respond (.hand scene (.event (.commandResult outcome code)))).2 := by
  have hanswer : Accepted link scene attempt.action attempt.mode attempt.again outcome code
      ⟨_, _⟩ := respond_acceptResult hlink.queue hup (h.front holdest)
  rw [Accepted] at hanswer
  split at hanswer
  · next hok =>
      obtain ⟨-, hlog⟩ := hanswer
      dsimp only at hlog
      rw [hlog]
      exact .succeeded hok
  · next hfailed =>
      have hfailed := Bool.eq_false_iff.2 hfailed
      split at hanswer
      · next action hretry =>
          obtain ⟨hnew, hidle, -⟩ := retryFor_eq_some hretry
          obtain ⟨-, hlog⟩ := hanswer
          dsimp only at hlog
          rw [hlog, told_issue]
          exact .another hfailed hnew hidle (retryFor_fallback hretry)
      · next hretry =>
          obtain ⟨-, hlog⟩ := hanswer
          dsimp only at hlog
          rw [hlog]
          cases hagain : attempt.again with
          | true => exact .exhausted hfailed hagain
          | false => exact .reported hfailed hagain (retryFor_eq_none (hagain ▸ hretry))

/-- A request to accept a call that there is hands over what is chosen for it. -/
theorem chosen_accept (hlink : Link.Between link) (hconnected : link.state = .connected)
    {mode : AcceptMode} {action : CallControl}
    (hchosen : link.session.roster.acceptWith mode = some action) :
    (link.respond (.hand scene (.request (.accept mode)))).2 =
      .call (.command (.call action)) (scene.transport [] (.command (.call action))) ::
        if scene.transport [] (.command (.call action)) then []
        else [.notice (.requestFailed
          (.rejected (describe (Order.accept action mode false))))] := by
  have hfollowed := followed_accept hlink scene hconnected mode
  rw [hchosen] at hfollowed
  obtain ⟨-, hlog⟩ := hfollowed
  dsimp only at hlog
  rw [hlog, told_issue]
  rfl

/-- An answer to an order tells of no fault that it never ends with. -/
theorem untold_answer {kind : Fault → Bool} {order : Order} {outcome : Outcome} {code : Option Nat}
    (hlink : Link.Between link) (hup : link.state ≠ .disconnected)
    (hfront : link.session.ledger.front? = some order)
    (hspares : (onAnswer order outcome code).Spares kind) :
    (link.respond (.hand scene (.event (.commandResult outcome code)))).2.any (tells kind) =
      false := by
  refine respond_answer_told (P := fun after => after.log.any (tells kind) = false) hlink.queue hup
    hfront ?_
  have hprofile (log : List Effect) (effect : Effect) (own : Effect.IsProfile effect)
      (h : log.any (tells kind) = false) : (log ++ [effect]).any (tells kind) = false :=
    Link.untold_profile own h
  have hlog := (acts_log hprofile).upholds_onAnswer order outcome code fun _ =>
    upholds_finishQuery_log hprofile
  refine Work.yields_mono (Work.yields_and.2 ⟨hlog _ _ rfl, hspares _ _⟩) ?_
  rintro verdict after ⟨hafter, hspared⟩
  refine verdict.of_told (P := fun log => log.any (tells kind) = false) hafter ?_
  rintro fault rfl
  exact Link.untold_snoc hspared hafter

/-- The oldest command was another way to accept a call, and it has failed too. -/
def Exhausts (link : Link Handsfree Request AlarmKind) (attempts : Attempts) :
    Impulse Request → Prop
  | .hand _ (.event (.commandResult outcome _)) =>
      link.state ≠ .disconnected ∧ outcome.isOk = false ∧
        ∃ attempt rest, attempts.waiting = some attempt :: rest ∧ attempt.again = true
  | _ => False

/-- An impulse that is no answer does not announce that there is no other way. -/
theorem unexhausted_respond (hlink : Link.Between link) {impulse : Impulse Request}
    (hother : ∀ scene outcome code, impulse ≠ .hand scene (.event (.commandResult outcome code))) :
    (link.respond impulse).2.any (tells Fault.isExhausted) = false := by
  have hplace (state : LinkState) (event : String) :
      (Fault.unexpected state event).isExhausted = false := rfl
  cases impulse with
  | wake scene =>
      refine Link.untold_wake Fault.isExhausted_common hplace discreet hlink fun own => ?_
      cases own with
      | poll => exact spares_queryCalls Fault.isExhausted_common
  | hand scene message =>
      refine Link.untold_hand Fault.isExhausted_common hplace discreet hlink
        (Link.spares_onErrand Fault.isExhausted_common hplace (fun event htold hforeign => ?_)
          (fun request _ => spares_onRequest Fault.isExhausted_common request) nofun)
      refine spares_onEvent Fault.isExhausted_common hforeign (fun _ _ _ => rfl) ?_
      rintro outcome code rfl
      exact absurd (congrArg (Impulse.hand scene) (Errand.message.inj htold)) (hother _ _ _)

/-- Nor does the answer to a command that was none to accept a call. -/
theorem unexhausted_answer (hlink : Link.Between link)
    (h : Matched attempts link.session.ledger) (hup : link.state ≠ .disconnected)
    (hother : ∀ attempt, attempts.waiting.head? ≠ some (some attempt)) (outcome : Outcome)
    (code : Option Nat) :
    (link.respond (.hand scene (.event (.commandResult outcome code)))).2.any
      (tells Fault.isExhausted) = false := by
  cases hfront : link.session.ledger.front? with
  | none =>
      rw [accountable.respond_unmatched hlink.queue hup hfront]
      rfl
  | some order =>
      refine untold_answer hlink hup hfront
        (spares_onAnswer Fault.isExhausted_common order outcome code ?_)
      rintro action mode retried rfl
      obtain ⟨request, holdest⟩ := h.oldest hfront
      exact absurd holdest (hother _)

/-- **That there is no other way is announced exactly if another way has failed.** -/
theorem exhausts_iff (hlink : Link.Between link) (h : Matched attempts link.session.ledger)
    (impulse : Impulse Request) :
    (link.respond impulse).2.any (tells Fault.isExhausted) = true ↔
      Exhausts link attempts impulse := by
  by_cases hanswer : ∃ scene outcome code,
      impulse = .hand scene (.event (.commandResult outcome code))
  · obtain ⟨scene, outcome, code, rfl⟩ := hanswer
    by_cases hdown : link.state = .disconnected
    · rw [Accountable.respond_unheard hlink.queue hdown]
      exact ⟨nofun, fun hexhausts => absurd hdown hexhausts.1⟩
    by_cases haccept : ∃ attempt, attempts.waiting.head? = some (some attempt)
    · obtain ⟨attempt, holdest⟩ := haccept
      obtain ⟨rest, hrest⟩ := List.head?_eq_some_iff.1 holdest
      rw [(settles_attempt hlink h hdown holdest outcome code).exhausted_iff]
      constructor
      · exact fun ⟨hfailed, hagain⟩ => ⟨hdown, hfailed, attempt, rest, hrest, hagain⟩
      · rintro ⟨-, hfailed, other, _, hwaiting, hagain⟩
        cases hrest.symm.trans hwaiting
        exact ⟨hfailed, hagain⟩
    · rw [unexhausted_answer hlink h hdown fun attempt holdest => haccept ⟨attempt, holdest⟩]
      refine ⟨nofun, fun ⟨_, _, attempt, rest, hwaiting, _⟩ => absurd ⟨attempt, ?_⟩ haccept⟩
      rw [hwaiting]
      rfl
  · rw [unexhausted_respond hlink fun scene outcome code heq => hanswer ⟨scene, outcome, code, heq⟩]
    refine ⟨nofun, fun hexhausts => ?_⟩
    unfold Exhausts at hexhausts
    split at hexhausts
    · exact absurd ⟨_, _, _, rfl⟩ hanswer
    · exact hexhausts.elim

end Settles

/-! ### Lives -/

/-- What is known of a link and of the record of its life. -/
structure Accepting (link : Link Handsfree Request AlarmKind) (attempts : Attempts) : Prop where
  /-- The commands without an answer are the pending orders. -/
  matched : Matched attempts link.session.ledger
  /-- For each request to accept a call nothing was tried, or one way, or one way and another. -/
  tried : ∀ request, Tried (attempts.of request)
  /-- An impulse adds nothing to that, or what the user asks for, or another way after a failure. -/
  develops : ∀ impulse, Develops link attempts impulse
    (noteAttempts link impulse (link.respond impulse).2 attempts)
  /-- What is chosen when the user asks for it is handed over. -/
  chooses : ∀ scene mode action, link.state = .connected →
    link.session.roster.acceptWith mode = some action →
      (link.respond (.hand scene (.request (.accept mode)))).2 =
        .call (.command (.call action)) (scene.transport [] (.command (.call action))) ::
          if scene.transport [] (.command (.call action)) then []
          else [.notice (.requestFailed (.rejected (describe (Order.accept action mode false))))]
  /-- When an attempt has failed, either another way is tried or the failure is announced. -/
  settles : ∀ scene outcome code attempt rest, link.state ≠ .disconnected →
    attempts.waiting = some attempt :: rest →
      Settles link attempt outcome code
        (link.respond (.hand scene (.event (.commandResult outcome code)))).2
  /-- That there is no other way is announced exactly if another way has failed. -/
  exhausts : ∀ impulse, (link.respond impulse).2.any (tells Fault.isExhausted) = true ↔
    Exhausts link attempts impulse

/-- **To accept a call, no more than two ways are tried**, throughout the life of a link, whatever
the settings, and whatever the clock, the transport and the preferences were each time.  The first
is the one that suits the calls there are.  The second is tried only when the first one has failed
while no call was active, and it is another one; every failure leads to that or is announced, and a
success leads to nothing. -/
theorem accepts_once_more (settings : HandsfreeSettings) (issuer : Nat) (peer : Address)
    (impulses : List (Impulse Request)) :
    let link := Link.start peer (start settings issuer)
    Accepting (link.live impulses).1 (keepAttempts link impulses) := by
  intro link
  have hkept : let attempts := keepAttempts link impulses
      Link.Between (link.live impulses).1 ∧
        Matched attempts (link.live impulses).1.session.ledger ∧ attempts.Sound :=
    Link.keep_induction (P := fun (link : Link Handsfree Request AlarmKind) attempts =>
        Link.Between link ∧ Matched attempts link.session.ledger ∧ attempts.Sound)
      (fun link impulse attempts ⟨hlink, hmatched, hsound⟩ =>
        have hrecorded := recorded_respond hlink hmatched impulse
        ⟨Link.between_respond hlink impulse, hrecorded.matched, hrecorded.develops.sound hsound⟩)
      ⟨Link.between_start peer _, matched_blank, sound_blank⟩ impulses
  obtain ⟨hlink, hmatched, hsound⟩ := hkept
  exact {
    matched := hmatched
    tried := hsound.tried
    develops := fun impulse => (recorded_respond hlink hmatched impulse).develops
    chooses := fun _ _ _ hconnected hchosen => chosen_accept hlink hconnected hchosen
    settles := fun scene outcome code attempt rest hup hwaiting =>
      settles_attempt hlink hmatched hup (congrArg List.head? hwaiting) outcome code
    exhausts := exhausts_iff hlink hmatched }

/-- A gateway lists a call that comes in, and then refuses to answer it. -/
def unanswerable : List (Impulse Request) :=
  [.hand (obliging 0) .connect,
    .hand (obliging 1) (.event (.linkChanged .connected ⟨Capabilities.enhancedCallStatus, 0⟩)),
    .hand (obliging 2) (.event (.commandResult .ok none)),
    .hand (obliging 3) (.request .queryCalls),
    .hand (obliging 4) (.event (.callListed ⟨1, .incoming, .incoming, false, "5551"⟩)),
    .hand (obliging 5) (.event (.commandResult .ok none)),
    .hand (obliging 6) (.request (.accept .none)),
    .hand (obliging 7) (.event (.commandResult .error none))]

/-- The active calls were released in its place then, if there were any; when that fails too, the
user is told so. -/
example : ((fresh.live unanswerable).1.respond
      (.hand (obliging 8) (.event (.commandResult .error none)))).2 =
    [.notice (.report (.commandResult .error none)),
      .notice (.requestFailed (.retryExhausted "accept (CHLD=1)"))] := by
  have hlive : fresh.live unanswerable = (Link.liveFor 1 fresh unanswerable).get rfl :=
    Link.live_eq_get 1 rfl
  rw [hlive, Link.respond_eq_get 1 rfl]
  rfl

end Handsfree

end AudioLink
