/-
**How often the list of calls is asked for.**

Indicators, dialled calls, the user and the alarm of the next question all lead to the same
question, on a link on its way up, on a connected one and on one on its way down.  A gateway that is
asked too often gets nothing else done, and one that is asked again before it has answered could be
answering either question.  So two things are kept to.  After a question an interval passes before
the next one, whether or not the transport took it; only when the link has dropped out in between
may the gateway be asked at once.  And no question is put while one is pending.

The instant of a question is not part of what leaves the link, so the log of a life is kept here
together with the instants at which it was written.

Main definitions:

* `AudioLink.Link.dated` — what leaves a link in the course of a life, with the instants;
* `AudioLink.asksCalls`, `AudioLink.asked` — the question for the list of calls, and when it was put
  since the link last dropped out;
* `AudioLink.Spaced` — between two questions an interval passes, unless the link drops out;
* `AudioLink.Handsfree.Paced`, `AudioLink.Handsfree.KeepsPace` — the next question is put off long
  enough;
* `AudioLink.Handsfree.Throttled` — a link on which both things are kept to.

Main results:

* `AudioLink.Handsfree.upholdsAt_queryCalls_keepsPace` — whatever leads to the question, it is put
  when the interval has passed, or put off;
* `AudioLink.Handsfree.keepsPace_moment` — nothing that a link does spoils the pace;
* `AudioLink.Handsfree.profile_single` — nor does any occasion lead to a second pending question;
* `AudioLink.Handsfree.throttled` — **questions are throttled throughout a life**, whatever the
  clock says.
-/

import AudioLink.Proofs.Handsfree.Indicators
import AudioLink.Proofs.Instants
import AudioLink.Proofs.Link.Turns

set_option relaxedAutoImplicit false
set_option autoImplicit false

namespace AudioLink

/-! ### Dates -/

/-- What leaves a link at one instant. -/
def date (now : Instant) (log : List Effect) : List (Instant × Effect) := log.map (Prod.mk now)

theorem date_append (now : Instant) (log more : List Effect) :
    date now (log ++ more) = date now log ++ date now more :=
  List.map_append

namespace Link

variable {σ ρ τ : Type} [ProfileSession σ ρ τ] [DecidableEq τ] [Outlined ρ]

/-- What leaves a link in the course of a life, each thing with the instant of its impulse. -/
def dated (link : Link σ ρ τ) (impulses : List (Impulse ρ)) : List (Instant × Effect) :=
  link.keep (fun _ impulse log past => past ++ date impulse.scene.now log) impulses []

/-- Without the dates it is what leaves the link. -/
theorem map_dated (link : Link σ ρ τ) (impulses : List (Impulse ρ)) :
    (link.dated impulses).map Prod.snd = (link.live impulses).2 := by
  induction impulses using List.reverseRecOn with
  | nil => rfl
  | append_singleton before impulse ih =>
      have hundated (log : List Effect) :
          (date impulse.scene.now log).map Prod.snd = log := by
        rw [date, List.map_map]
        exact List.map_id log
      rw [dated, keep_snoc, List.map_append, hundated, live_snoc]
      exact congrArg (· ++ _) ih

end Link

/-! ### Questions -/

/-- Whether an effect is the question for the list of calls. -/
def asksCalls : Effect → Bool
  | .call (.command .queryCurrentCalls) _ => true
  | _ => false

/-- The questions that count, after one more effect: they are forgotten when the link drops out. -/
def noteAsked (asked : List Instant) : Instant × Effect → List Instant
  | (now, effect) =>
      if Link.dropsOut effect then [] else if asksCalls effect then asked ++ [now] else asked

/-- When the list of calls was asked for since the link last dropped out. -/
def asked (dated : List (Instant × Effect)) : List Instant := dated.foldl noteAsked []

/-- Between two questions an interval passes, unless the link drops out. -/
def Spaced (interval : Duration) (dated : List (Instant × Effect)) : Prop :=
  ∀ before now effect later, dated = before ++ (now, effect) :: later → asksCalls effect = true →
    ∀ earlier ∈ asked before, earlier + interval ≤ now

section Questions

variable {interval : Duration} {dated : List (Instant × Effect)} {now : Instant} {effect : Effect}

theorem asked_snoc : asked (dated ++ [(now, effect)]) = noteAsked (asked dated) (now, effect) :=
  List.foldl_append

/-- When something else than the question leaves the link, none counts that did not count before. -/
theorem mem_asked_of_snoc (hother : asksCalls effect = false) {earlier : Instant}
    (h : earlier ∈ asked (dated ++ [(now, effect)])) : earlier ∈ asked dated := by
  rw [asked_snoc, noteAsked, hother, if_neg Bool.false_ne_true] at h
  split at h
  · cases h
  · exact h

/-- The question is no word of the link's own, and so not that it drops out. -/
theorem asked_snoc_question (hquestion : asksCalls effect = true) :
    asked (dated ++ [(now, effect)]) = asked dated ++ [now] := by
  have hstays : Link.dropsOut effect = false := by
    cases effect with
    | call request accepted => rfl
    | notice notice => cases hquestion
  rw [asked_snoc, noteAsked, hstays, hquestion, if_neg Bool.false_ne_true, if_pos rfl]

theorem spaced_nil : Spaced interval [] := by
  intro before now effect later hsplit
  cases List.append_eq_nil_iff.1 hsplit.symm with
  | intro _ hnil => cases hnil

/-- What leaves the link next is not the question, or comes an interval after those that count. -/
theorem Spaced.snoc (h : Spaced interval dated)
    (hlast : asksCalls effect = true → ∀ earlier ∈ asked dated, earlier + interval ≤ now) :
    Spaced interval (dated ++ [(now, effect)]) := by
  intro before instant other later hsplit hquestion
  rcases List.eq_nil_or_concat later with rfl | ⟨rest, last, rfl⟩
  · obtain ⟨rfl, hother⟩ := List.append_inj' hsplit rfl
    cases hother
    exact hlast hquestion
  · rw [List.concat_eq_append, ← List.cons_append, ← List.append_assoc] at hsplit
    exact h before instant other rest (List.append_inj' hsplit rfl).1 hquestion

end Questions

namespace Handsfree

/-! ### Pace -/

/-- Between questions an interval passes, and whoever asks again no earlier than `next` keeps to
it. -/
structure Paced (interval : Duration) (next : Option Instant) (dated : List (Instant × Effect)) :
    Prop where
  spaced : Spaced interval dated
  rested : ∀ now, (∀ instant, next = some instant → instant ≤ now) →
    ∀ earlier ∈ asked dated, earlier + interval ≤ now

namespace Paced

variable {interval : Duration} {next : Option Instant} {dated : List (Instant × Effect)}
  {now : Instant} {effect : Effect}

theorem nil : Paced interval next [] := ⟨spaced_nil, fun _ _ _ h => nomatch h⟩

theorem snoc (h : Paced interval next dated) (hother : asksCalls effect = false) :
    Paced interval next (dated ++ [(now, effect)]) where
  spaced := h.spaced.snoc fun hquestion => nomatch hother.symm.trans hquestion
  rested instant hready earlier hearlier :=
    h.rested instant hready earlier (mem_asked_of_snoc hother hearlier)

theorem append (h : Paced interval next dated) {more : List Effect}
    (hother : ∀ effect ∈ more, asksCalls effect = false) :
    Paced interval next (dated ++ date now more) := by
  induction more generalizing dated with
  | nil =>
      rw [date, List.map_nil, List.append_nil]
      exact h
  | cons effect more ih =>
      rw [date, List.map_cons, List.append_cons]
      exact ih (h.snoc (hother effect (List.mem_cons_self ..)))
        fun other hmem => hother other (List.mem_cons_of_mem _ hmem)

/-- When the link drops out, the gateway may be asked at once. -/
theorem dropOut (h : Paced interval next dated) (previous : LinkState) (anew : Option Instant) :
    Paced interval anew (dated ++ [(now, .notice (.linkChanged previous .disconnected))]) where
  spaced := (h.snoc rfl).spaced
  rested _ _ _ hearlier := by
    rw [asked_snoc] at hearlier
    cases hearlier

/-- A question that is not put too early, and puts off the next one by an interval. -/
theorem question (h : Paced interval next dated)
    (hready : ∀ instant, next = some instant → instant ≤ now)
    (hquestion : asksCalls effect = true) :
    Paced interval (some (now + interval)) (dated ++ [(now, effect)]) where
  spaced := h.spaced.snoc fun _ => h.rested now hready
  rested instant hlater earlier hearlier := by
    have hafter : now + interval ≤ instant := hlater _ rfl
    rw [asked_snoc_question hquestion] at hearlier
    rcases List.mem_append.1 hearlier with hearlier | hlast
    · have hbefore : earlier + interval ≤ now := h.rested now hready earlier hearlier
      exact Nat.le_trans hbefore (Nat.le_trans (Nat.le_add_right now interval) hafter)
    · rw [List.mem_singleton.1 hlast]
      exact hafter

end Paced

/-- The question that is not put off is not put too early. -/
theorem le_of_throttle_eq_none {s : Handsfree} {now instant : Instant}
    (hfree : s.throttle now = none) (hnext : s.nextQueryAt = some instant) : instant ≤ now := by
  rw [throttle, hnext] at hfree
  by_contra hlate
  simp [Option.filter, Nat.lt_of_not_le hlate] at hfree

/-! ### Work that keeps the pace -/

/-- The profile keeps the pace at `now`, after all that has left the link before. -/
structure KeepsPace (interval : Duration) (past : List (Instant × Effect)) (now : Instant)
    (s : Handsfree) (log : List Effect) : Prop where
  same : s.settings.pollInterval = interval
  paced : Paced interval s.nextQueryAt (past ++ date now log)

section Work

variable {interval : Duration} {past : List (Instant × Effect)} {now : Instant}

theorem KeepsPace.append {s : Handsfree} {log more : List Effect}
    (h : KeepsPace interval past now s log) (hother : ∀ effect ∈ more, asksCalls effect = false) :
    KeepsPace interval past now s (log ++ more) where
  same := h.same
  paced := by
    rw [date_append, ← List.append_assoc]
    exact h.paced.append hother

theorem KeepsPace.snoc {s : Handsfree} {log : List Effect} (h : KeepsPace interval past now s log)
    {effect : Effect} (hother : asksCalls effect = false) :
    KeepsPace interval past now s (log ++ [effect]) :=
  h.append fun _ hmem => List.mem_singleton.1 hmem ▸ hother

theorem asksCalls_announcement (calls : List Call) :
    ∀ effect ∈ calls.map announcement, asksCalls effect = false := by
  intro effect heffect
  obtain ⟨call, -, rfl⟩ := List.mem_map.1 heffect
  rfl

/-- Only the order that asks for the list of calls is that question. -/
theorem asksCalls_command {order : Order} (hother : order ≠ .queryCalls) (accepted : Bool) :
    asksCalls (.call (.command order.command) accepted) = false := by
  cases order <;> first | rfl | exact absurd rfl hother

theorem upholds_issue_keepsPace {order : Order} (hother : order ≠ .queryCalls) :
    Work.Upholds (fun desk => KeepsPace interval past now desk.session desk.log) (issue order) := by
  intro view desk h
  rw [yields_issue]
  have hsent := h.snoc (asksCalls_command hother
    (view.transport desk.log (.command order.command)))
  exact ⟨hsent.same, hsent.paced⟩

/-- No act but the question itself is about the pace. -/
theorem routine_keepsPace :
    Routine fun desk => KeepsPace interval past now desk.session desk.log where
  note f haside view desk h := by
    refine ⟨(congrArg _ (haside.settings desk.session)).trans h.same, ?_⟩
    show Paced interval (f desk.session).nextQueryAt _
    rw [haside.nextQueryAt]
    exact h.paced
  announce report _ := fun _ _ h => h.snoc rfl
  dropAudio := fun _ _ h => h
  issue order hroutine := upholds_issue_keepsPace (by rintro rfl; cases hroutine)
  record report now := fun _ _ h => ⟨h.same, h.paced⟩
  abandonDial := by
    intro view desk h
    rw [yields_abandonDial]
    have htold := h.append (asksCalls_announcement desk.session.survey.abandon.1.toList)
    exact ⟨htold.same, htold.paced⟩

/-- **Whatever leads to the question, it is put when the interval has passed, or put off.** -/
theorem upholdsAt_queryCalls_keepsPace : Work.UpholdsAt now
    (fun desk => KeepsPace interval past now desk.session desk.log) queryCalls := by
  rintro view desk rfl h
  rw [yields_queryCalls]
  split
  · exact ⟨h.same, h.paced⟩
  · split
    · exact ⟨h.same, h.paced⟩
    · next hfree =>
        rw [yields_issue]
        refine ⟨h.same, ?_⟩
        show Paced interval (some (view.now + desk.session.settings.pollInterval)) _
        rw [h.same, date_append, ← List.append_assoc]
        exact h.paced.question (fun _ => le_of_throttle_eq_none hfree) rfl

theorem upholds_finishQuery_keepsPace :
    Work.Upholds (fun desk => KeepsPace interval past now desk.session desk.log) finishQuery := by
  intro view desk h
  have hannounced := asksCalls_announcement (desk.session.survey.complete view.now).1.changed
  rw [yields_finishQuery]
  split
  · have hsurveyed : KeepsPace interval past now (surveyed desk view.now).session
        (surveyed desk view.now).log := ⟨h.same, h.paced⟩
    refine Work.yields_mono (upholds_issueQuietly (routine_keepsPace.issue _ rfl) view _ hsurveyed) ?_
    intro _ after hafter
    have htold := hafter.append hannounced
    exact ⟨htold.same, htold.paced⟩
  · have htold := h.append hannounced
    exact ⟨htold.same, htold.paced⟩

theorem actsAt_keepsPace :
    ActsAt now fun desk => KeepsPace interval past now desk.session desk.log where
  toRoutine := routine_keepsPace
  queryCalls := upholdsAt_queryCalls_keepsPace
  finishQuery := upholds_finishQuery_keepsPace.upholdsAt
  enter _ _ _ _ _ _ h := ⟨h.same, (h.snoc rfl).paced⟩
  order _ := upholds_issue_keepsPace nofun
  strike := fun _ _ h => ⟨h.same, h.paced⟩

/-- When the link drops out, what was put off may be done at once. -/
theorem yields_onDisconnected_keepsPace {view : View} {desk : Desk Handsfree AlarmKind}
    (previous : LinkState) (h : KeepsPace interval past now desk.session desk.log) :
    onDisconnected.Yields view
      { desk with log := desk.log ++ [.notice (.linkChanged previous .disconnected)] }
      fun _ after => KeepsPace interval past now after.session after.log := by
  rw [yields_onDisconnected]
  refine KeepsPace.append ⟨h.same, ?_⟩ (asksCalls_announcement _)
  rw [date_append, ← List.append_assoc]
  exact h.paced.dropOut previous none

/-! ### Links that keep the pace -/

theorem calm_keepsPace :
    Link.Calm (ρ := Request) (τ := AlarmKind) (KeepsPace interval past now) where
  audioChanged _ _ _ _ _ h := h.snoc rfl
  onAudioChanged := routine_keepsPace.upholds_onAudio
  onConnected := routine_keepsPace.upholds_onConnected

/-- Nothing that a link does spoils the pace. -/
theorem holdsAt_keepsPace : Link.HoldsAt (ρ := Request) (τ := AlarmKind) now
    (Link.AtLink (KeepsPace interval past now)) where
  ask request own := fun _ _ h => KeepsPace.snoc h (by cases own <;> rfl)
  introduce _ _ h := ⟨h.same, h.paced⟩
  transition next := (calm_keepsPace.upholds_transition next (fun _ _ _ _ h => h.snoc rfl)
    fun _ _ _ _ h => yields_onDisconnected_keepsPace _ h).upholdsAt
  setAudio audio wideband := (calm_keepsPace.turning.upholds_setAudio audio wideband).upholdsAt
  defer _ h := h
  giveUp := fun _ _ h => h
  failed _ _ h := h.snoc rfl
  onRequest request :=
    .consult (actsAt_keepsPace.upholdsAt_onRequest request) (fun _ h => h) fun _ _ h => h
  onEvent event :=
    .consult (actsAt_keepsPace.upholdsAt_onEvent event) (fun _ h => h) fun _ _ h => h
  onAlarm kind :=
    .consult (actsAt_keepsPace.upholdsAt_onAlarm kind) (fun _ h => h) fun _ _ h => h

end Work

/-- **No moment of an impulse spoils the pace.** -/
theorem keepsPace_moment {interval : Duration} {past : List (Instant × Effect)}
    {link : Link Handsfree Request AlarmKind} {impulse : Impulse Request}
    {progress : Progress Handsfree Request AlarmKind}
    (h : KeepsPace interval past impulse.scene.now link.session [])
    (hmoment : Link.Moment link impulse progress) :
    Link.AtLink (KeepsPace interval past impulse.scene.now) progress :=
  holdsAt_keepsPace.of_moment (fun _ _ _ h => h) h hmoment

/-! ### Pending questions -/

/-- At most one question is pending at the desk. -/
def Single (desk : Desk Handsfree AlarmKind) : Prop :=
  desk.session.ledger.actions.count .queryCalls ≤ 1

theorem upholds_issue_single {order : Order} (hother : order ≠ .queryCalls) :
    Work.Upholds Single (issue order) := by
  intro view desk h
  rw [yields_issue]
  show (Ledger.issue _ _ _ _).2.actions.count _ ≤ 1
  rw [Ledger.actions_issue]
  split
  · rw [List.count_append, List.count_singleton, beq_eq_false_iff_ne.2 hother,
      if_neg Bool.false_ne_true, Nat.add_zero]
    exact h
  · exact h

/-- The question is put when none is pending. -/
theorem upholds_queryCalls_single : Work.Upholds Single queryCalls := by
  intro view desk h
  rw [yields_queryCalls]
  split
  · exact h
  · next hfree =>
      split
      · exact h
      · have hnone : desk.session.ledger.actions.count .queryCalls = 0 := by
          rw [isQuerying, List.contains_iff_mem] at hfree
          exact List.count_eq_zero.2 hfree
        rw [yields_issue]
        show (Ledger.issue _ _ _ _).2.actions.count _ ≤ 1
        rw [Ledger.actions_issue]
        split
        · rw [List.count_append]
          show desk.session.ledger.actions.count .queryCalls + _ ≤ 1
          rw [hnone]
          exact Nat.le_refl 1
        · exact h

theorem acts_single : Acts Single where
  note f haside := by
    intro view desk h
    show (f desk.session).ledger.actions.count _ ≤ 1
    rw [haside.ledger]
    exact h
  announce _ _ := fun _ _ h => h
  dropAudio := fun _ _ h => h
  issue order hroutine := upholds_issue_single (by rintro rfl; cases hroutine)
  queryCalls := upholds_queryCalls_single
  record _ _ := fun _ _ h => h
  enter _ _ _ _ _ _ h := h
  order number := upholds_issue_single (by nofun)
  abandonDial := by
    intro view desk h
    rw [yields_abandonDial]
    exact h
  strike := by
    intro view desk h
    show desk.session.ledger.resolve.2.actions.count _ ≤ 1
    rw [Ledger.actions_resolve]
    exact Nat.le_trans ((List.tail_sublist _).count_le _) h

/-- **No occasion leads to a second pending question.** -/
theorem profile_single : ProfileUpholds Handsfree Single := by
  refine acts_single.profile ?_ ?_
  · intro view desk h
    rw [yields_finishQuery]
    split
    · exact Work.yields_mono
        (upholds_issueQuietly (acts_single.issue _ rfl) view (surveyed desk view.now) h) fun _ _ h => h
    · exact h
  · intro view desk _
    rw [yields_onDisconnected]
    exact Nat.zero_le 1

theorem steady_single : Link.Steady fun (link : Link Handsfree Request AlarmKind) _ =>
    link.session.ledger.actions.count .queryCalls ≤ 1 where
  aside _ _ _ _ h := h
  handle _ errand :=
    Link.Lasting.upholds_handle
      (J := fun (s : Handsfree) _ => s.ledger.actions.count .queryCalls ≤ 1)
      { asked := fun _ _ _ _ _ h => h
        linkChanged := fun _ _ _ _ h => h
        audioChanged := fun _ _ _ _ _ h => h
        failed := fun _ _ _ h => h
        onLinkUp := fun _ _ _ h => h
        consulted := profile_single } errand

/-! ### Lives -/

/-- Throughout the life that begins here the question for the list of calls is throttled. -/
structure Throttled (interval : Duration) (start : Link Handsfree Request AlarmKind) : Prop where
  /-- Unless the link drops out in between, every question comes an interval after all those before
  it, whether or not the transport takes any of them. -/
  spaced : ∀ impulses, Spaced interval (start.dated impulses)
  /-- At any moment between two errands, at most one question is pending. -/
  single : ∀ before impulse moment, Link.Moment (start.live before).1 impulse moment →
    moment.link.session.ledger.actions.count .queryCalls ≤ 1

/-- Between two impulses, the profile keeps the pace after all that has left the link. -/
structure InPace (interval : Duration) (past : List (Instant × Effect))
    (link : Link Handsfree Request AlarmKind) : Prop where
  queue : link.queue = []
  same : link.session.settings.pollInterval = interval
  paced : Paced interval link.session.nextQueryAt past

theorem InPace.respond {interval : Duration} {past : List (Instant × Effect)}
    {link : Link Handsfree Request AlarmKind} (h : InPace interval past link)
    (impulse : Impulse Request) :
    InPace interval (past ++ date impulse.scene.now (link.respond impulse).2)
      (link.respond impulse).1 := by
  have hbegun : KeepsPace interval past impulse.scene.now link.session [] := by
    refine ⟨h.same, ?_⟩
    rw [date, List.map_nil, List.append_nil]
    exact h.paced
  have hlast := keepsPace_moment hbegun (Link.moment_respond h.queue impulse)
  exact ⟨Link.queue_respond h.queue impulse, hlast.same, hlast.paced⟩

theorem inPace_live (settings : HandsfreeSettings) (issuer : Nat) (peer : Address)
    (impulses : List (Impulse Request)) :
    InPace settings.pollInterval ((Link.start peer (start settings issuer)).dated impulses)
      ((Link.start peer (start settings issuer)).live impulses).1 := by
  have hbegun : InPace settings.pollInterval [] (Link.start peer (start settings issuer)) :=
    ⟨rfl, rfl, .nil⟩
  exact Link.keep_induction (P := fun link past => InPace settings.pollInterval past link)
    (fun _ impulse _ h => h.respond impulse) hbegun impulses

/-- **The question for the list of calls is throttled**, whatever leads to it, whatever the
transport answers, and whatever the clock says. -/
theorem throttled (settings : HandsfreeSettings) (issuer : Nat) (peer : Address) :
    Throttled settings.pollInterval (Link.start peer (start settings issuer)) where
  spaced impulses := (inPace_live settings issuer peer impulses).paced.spaced
  single _ _ _ hmoment := by
    have hbegun : (start settings issuer).ledger.actions.count .queryCalls ≤ 1 := Nat.zero_le 1
    exact steady_single.moment rfl hbegun hmoment

/-- In the introduction of a gateway it is asked once, on account of an indicator. -/
example : asked (fresh.dated introduction) = [3] := by
  rw [Link.dated, Link.keep_eq_get 1 rfl]
  rfl

end Handsfree

end AudioLink
