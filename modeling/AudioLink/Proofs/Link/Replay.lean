/-
**Taking up the requests that wait.**

Requests to connect that come at a bad moment wait for the next stable state.  When the link drops
out they are all taken up at once, one after the other: the transport is asked to connect until it
agrees, and each time that it refuses the user is told.  Once it has agreed the link is on its way
again, so that the requests that are left wait once more.  None is lost and none is made twice.
When the link comes to be connected instead, there is nothing left to ask for, and all of them are
dropped.

Much else leaves the link meanwhile.  What is about its course can be told apart: that it moves to
another state, that the transport is asked to connect, and that this was refused.  What of this
leaves the link while it handles one message, or serves one alarm, is known exactly.

Main definitions:

* `AudioLink.Link.course` — what is about the course of a link, of all that has left it;
* `AudioLink.Link.refusals`, `AudioLink.Link.agreement` — attempts to connect, and what comes of
  them;
* `AudioLink.Link.Conserved`, `AudioLink.Link.Conserving` — what becomes of the requests that wait
  at one message or alarm, and that it does at each;
* `AudioLink.Link.Fresh`, `AudioLink.Link.Stage` — how far a link has got with them.

Main results:

* `AudioLink.Link.yields_transition_course` — moving to another state is all that a move adds to the
  course;
* `AudioLink.Link.yields_message_stage`, `AudioLink.Link.yields_alarm_stage`,
  `AudioLink.Link.yields_own_stage` — the message or the alarm comes first, and then the errands
  that the link makes for itself;
* `AudioLink.Link.conserved_hand`, `AudioLink.Link.conserved_alarm` — a message and an alarm conserve
  the requests that wait;
* `AudioLink.Link.not_dropsOut_respond` — a link that is connected after an impulse has not dropped
  out in the course of it;
* `AudioLink.requests_conserved` — **so it is with either profile throughout the life of a link**.
-/

import AudioLink.Proofs.Link.Errands
import AudioLink.Proofs.Link.Turns
import AudioLink.Proofs.Profiles
import AudioLink.Proofs.Verdicts

set_option relaxedAutoImplicit false
set_option autoImplicit false

namespace AudioLink

namespace Link

variable {σ ρ τ : Type}

/-! ### The course of a link -/

/-- Whether a fault is that the transport has refused to connect. -/
def isRefusal : Fault → Bool
  | .rejected command => command == "connect"
  | _ => false

/-- Whether an effect is about the course of a link: it moves to another state, the transport is
asked to connect, or the user is told that this was refused. -/
def isCourse : Effect → Bool
  | .notice (.linkChanged _ _) | .call .connect _ => true
  | .notice (.requestFailed fault) => isRefusal fault
  | _ => false

/-- What is about the course of a link, of all that has left it. -/
def course (log : List Effect) : List Effect := log.filter isCourse

/-- Whether an effect announces that the link has come to be in a stable state. -/
def settles : Effect → Bool
  | .notice (.linkChanged _ next) => next.isStable
  | _ => false

/-- The transport refuses to connect, and the user is told. -/
def refusal : List Effect := [.call .connect false, .notice (.requestFailed (.rejected "connect"))]

/-- The transport refuses a number of times. -/
def refusals (count : Nat) : List Effect := (List.replicate count refusal).flatten

/-- The transport agrees, and the link is on its way. -/
def agreement : List Effect :=
  [.call .connect true, .notice (.linkChanged .disconnected .connecting)]

theorem course_append (log more : List Effect) : course (log ++ more) = course log ++ course more :=
  List.filter_append ..

/-- What is not about the course adds nothing to it. -/
theorem course_snoc_of_false {effect : Effect} (h : isCourse effect = false) (log : List Effect) :
    course (log ++ [effect]) = course log := by
  rw [course_append, course, course, List.filter_cons, h]
  exact List.append_nil _

theorem course_snoc_of_true {effect : Effect} (h : isCourse effect = true) (log : List Effect) :
    course (log ++ [effect]) = course log ++ [effect] := by
  rw [course_append]
  exact congrArg (course log ++ ·) (List.filter_cons_of_pos h)

theorem refusals_succ (count : Nat) : refusals (count + 1) = refusals count ++ refusal := by
  rw [refusals, List.replicate_succ', List.flatten_append, List.flatten_singleton, refusals]

/-- What becomes of the requests that wait, when `log` leaves a link and it is `next` afterwards. -/
structure Conserved (link next : Link σ ρ τ) (log : List Effect) : Prop where
  /-- When the link drops out, they are taken up until the transport agrees, and those that are left
  wait once more; if it refuses every time, none is left. -/
  replayed : DropsOut log → ∃ previous,
    (course log = .notice (.linkChanged previous .disconnected) :: refusals link.deferred.length ∧
      next.state = .disconnected ∧ next.deferred = []) ∨
    ∃ refused < link.deferred.length,
      course log =
        .notice (.linkChanged previous .disconnected) :: (refusals refused ++ agreement) ∧
      next.state = .connecting ∧
      next.deferred = List.replicate (link.deferred.length - (refused + 1)) .connect
  /-- When the link comes to be connected, they are dropped, and the transport is not asked. -/
  dropped : (∃ previous, .notice (.linkChanged previous .connected) ∈ log) →
    (∃ previous, course log = [.notice (.linkChanged previous .connected)]) ∧ next.deferred = []

/-! ### What leaves the course alone -/

section Profile

variable [ProfileSession σ ρ τ] (hdiscreet : Discreet σ)

include hdiscreet

/-- A discreet profile has no say in the course. -/
theorem profile_course (past : List Effect) : ProfileUpholds σ fun desk => course desk.log = past := by
  refine hdiscreet (fun log => course log = past) ?_
  rintro log effect own hlog
  rw [course_snoc_of_false (by cases own <;> rfl), hlog]

theorem calm_course (past : List Effect) :
    Calm (ρ := ρ) (τ := τ) fun (_ : σ) log => course log = past :=
  (profile_course hdiscreet past).calm fun _ _ _ _ h => (course_snoc_of_false rfl _).trans h

variable [DecidableEq τ]

/-- All that moving to another state adds to the course is that the link is there now. -/
theorem yields_transition_course {scene : Scene} {before : Progress σ ρ τ} {next : LinkState}
    (hne : before.link.state ≠ next) :
    (transition next : Step σ ρ τ Unit).Yields scene before fun _ after =>
      course after.log =
        course before.log ++ [.notice (.linkChanged before.link.state next)] := by
  have hcalm := calm_course (ρ := ρ) (τ := τ) hdiscreet
  rw [yields_transition_of_ne hne]
  refine Step.yields_mono ((hcalm _).upholds_leave before.link.state scene before rfl) ?_
  intro _ left hleft
  have hannounced : course (left.log ++ [.notice (.linkChanged before.link.state next)]) =
      course before.log ++ [.notice (.linkChanged before.link.state next)] := by
    rw [course_snoc_of_true rfl]
    exact congrArg (· ++ _) hleft
  generalize course before.log ++ [.notice (.linkChanged before.link.state next)] = past
    at hannounced
  have hentered : Step.Upholds (AtLink fun (_ : σ) log => course log = past)
      (enter next : Step σ ρ τ Unit) := by
    by_cases hdown : next = .disconnected
    · subst hdown
      exact upholds_consult (profile_course hdiscreet past).onDisconnected
    · exact (hcalm past).upholds_enter next hdown
  refine Step.Upholds.bind hentered (fun _ => ?_) scene _ hannounced
  exact .ite (fun _ => upholds_change fun _ => rfl) fun _ => .pure _

end Profile

/-! ### Stages -/

/-- Nothing has been done about the `waiting` requests, and nothing was added to the course. -/
structure Fresh (waiting : Nat) (past : List Effect) (progress : Progress σ ρ τ) : Prop where
  deferred : progress.link.deferred = List.replicate waiting .connect
  queue : ∃ count, progress.link.queue = drops count
  course : course progress.log = past

/-- How far a link has got with the `waiting` requests, and what was added to the course. -/
inductive Stage (waiting : Nat) (past : List Effect) (progress : Progress σ ρ τ) : Prop
  /-- The link has come to no stable state. -/
  | going (queue : ∃ count, progress.link.queue = drops count) (more : List Effect)
      (course : course progress.log = past ++ more) (unsettled : ∀ effect ∈ more, settles effect = false)
  /-- The link will be given up next. -/
  | doomed (rest : List (Errand ρ τ))
      (queue : progress.link.queue = .message (.event .linkDown) :: rest)
      (fresh : Fresh waiting past ⟨{ progress.link with queue := rest }, progress.log⟩)
  /-- The link is connected, and no request is left. -/
  | connected (previous : LinkState) (queue : ∃ count, progress.link.queue = drops count)
      (state : progress.link.state = .connected) (deferred : progress.link.deferred = [])
      (course : course progress.log = past ++ [.notice (.linkChanged previous .connected)])
  /-- The link has dropped out, and the transport has refused so far. -/
  | trying (previous : LinkState) (refused left : Nat) (all : refused + left = waiting)
      (queue : ∃ count, progress.link.queue =
        List.replicate left (.message .connect) ++ drops count)
      (state : progress.link.state = .disconnected) (deferred : progress.link.deferred = [])
      (course : course progress.log =
        past ++ .notice (.linkChanged previous .disconnected) :: refusals refused)
  /-- The transport has agreed, and some of the requests that were left wait once more. -/
  | agreed (previous : LinkState) (refused held left : Nat)
      (all : refused + 1 + held + left = waiting)
      (queue : ∃ count, progress.link.queue =
        List.replicate left (.message .connect) ++ drops count)
      (state : progress.link.state = .connecting)
      (deferred : progress.link.deferred = List.replicate held .connect)
      (course : course progress.log =
        past ++ .notice (.linkChanged previous .disconnected) :: (refusals refused ++ agreement))

section Stages

variable {waiting : Nat} {past : List Effect} {progress before after : Progress σ ρ τ}

/-- What leaves the link next is not about its course. -/
theorem Fresh.snoc (h : Fresh waiting past progress) {effect : Effect}
    (hother : isCourse effect = false) :
    Fresh waiting past { progress with log := progress.log ++ [effect] } :=
  ⟨h.deferred, h.queue, (course_snoc_of_false hother _).trans h.course⟩

/-- Nothing is done about the requests, and nothing is added to the course. -/
theorem Fresh.aside (h : Fresh waiting past before) (hafter : Aside before after)
    (hcourse : Link.course after.log = Link.course before.log) : Fresh waiting past after where
  deferred := hafter.deferred.trans h.deferred
  queue := hafter.exists_drops h.queue
  course := hcourse.trans h.course

theorem Fresh.going (h : Fresh waiting past progress) : Stage waiting past progress :=
  .going h.queue [] (h.course.trans (List.append_nil past).symm) nofun

/-- Whatever the user is told, the link has come to no stable state. -/
theorem Fresh.told (h : Fresh waiting past progress) (fault : Fault) :
    Stage waiting past { progress with log := progress.log ++ [.notice (.requestFailed fault)] } := by
  refine .going h.queue (Link.course [.notice (.requestFailed fault)]) ?_ fun effect heffect => ?_
  · rw [course_append, h.course]
  · rw [List.mem_singleton.1 (List.mem_filter.1 heffect).1]
    rfl

/-- Only the link and its course matter. -/
theorem Stage.of_course (h : Stage waiting past before) (hlink : after.link = before.link)
    (hcourse : Link.course after.log = Link.course before.log) : Stage waiting past after := by
  obtain ⟨link, log⟩ := after
  obtain rfl : link = before.link := hlink
  cases h with
  | going queue more course unsettled => exact .going queue more (hcourse.trans course) unsettled
  | doomed rest queue fresh =>
      exact .doomed rest queue ⟨fresh.deferred, fresh.queue, hcourse.trans fresh.course⟩
  | connected previous queue state deferred course =>
      exact .connected previous queue state deferred (hcourse.trans course)
  | trying previous refused left all queue state deferred course =>
      exact .trying previous refused left all queue state deferred (hcourse.trans course)
  | agreed previous refused held left all queue state deferred course =>
      exact .agreed previous refused held left all queue state deferred (hcourse.trans course)

/-- What leaves the link next is of no matter, if it is not about the course. -/
theorem Stage.snoc (h : Stage waiting past progress) {effect : Effect}
    (hother : isCourse effect = false) :
    Stage waiting past { progress with log := progress.log ++ [effect] } :=
  h.of_course rfl (course_snoc_of_false hother _)

/-- The link moves to another state with all the requests still waiting. -/
theorem Fresh.moved {next : LinkState} (h : Fresh waiting past before)
    (hmoved : Moved next before after)
    (hcourse : Link.course after.log =
      Link.course before.log ++ [.notice (.linkChanged before.link.state next)]) :
    Stage waiting past after := by
  rw [h.course] at hcourse
  obtain ⟨more, hmore⟩ := hmoved.queue
  obtain ⟨count, hdrops⟩ := exists_drops_append h.queue more
  rw [hdrops] at hmore
  have hgoing (htransient : next.isStable = false) : Stage waiting past after := by
    have hne : next ≠ .disconnected := by
      rintro rfl
      cases htransient
    refine .going ⟨_, by rw [hmore, if_neg hne, List.nil_append]⟩ _ hcourse fun effect heffect => ?_
    rw [List.mem_singleton.1 heffect]
    exact htransient
  cases next with
  | disconnected =>
      refine .trying _ 0 waiting (Nat.zero_add _) ⟨count, ?_⟩ hmoved.state hmoved.deferred hcourse
      rw [hmore, if_pos rfl, h.deferred, List.map_replicate]
  | connected => exact .connected _ ⟨_, hmore⟩ hmoved.state hmoved.deferred hcourse
  | connecting => exact hgoing rfl
  | disconnecting => exact hgoing rfl

end Stages

/-! ### Moves -/

section Moves

variable [ProfileSession σ ρ τ] {waiting : Nat} {past : List Effect} {scene : Scene}
  {progress : Progress σ ρ τ}

omit [ProfileSession σ ρ τ] in
/-- Quiet work that is not about the course does nothing about the requests. -/
theorem fresh_consult {α : Type} {work : Work σ τ α} (hquiet : Quiet work)
    (hcourse : ∀ past, Work.Upholds (fun desk => course desk.log = past) work) :
    Step.Upholds (Fresh waiting past) (Step.consult work : Step σ ρ τ α) := by
  intro scene progress h
  have hsame : Step.Upholds (AtLink fun (_ : σ) log => course log = course progress.log)
      (Step.consult work : Step σ ρ τ α) := upholds_consult (hcourse _)
  refine Step.yields_mono (Step.yields_and.2 ⟨aside_consult hquiet scene _ (.refl progress),
    hsame scene progress rfl⟩) ?_
  rintro _ after ⟨haside, hafter⟩
  exact h.aside haside hafter

variable [DecidableEq τ]

/-- A link that is told to connect while it is disconnected asks the transport, and is on its way or
tells that this was refused. -/
theorem yields_connect_disconnected [Outlined ρ] {P : Progress σ ρ τ → Prop}
    (hstate : progress.link.state = .disconnected)
    (agreed : (transition .connecting : Step σ ρ τ Unit).Yields scene
      ⟨progress.link, progress.log ++ [.call .connect true]⟩ fun _ after => P after)
    (refused : P ⟨progress.link, progress.log ++ refusal⟩) :
    (handle (.message .connect) : Step σ ρ τ Unit).Yields scene progress fun _ after => P after := by
  rw [yields_handle_iff]
  show (onConnect : Step σ ρ τ Verdict).Yields scene progress _
  rw [onConnect, Step.yields_bind, Step.yields_link, hstate]
  show (do
    if ← Step.ask .connect then
      transition .connecting
      return .ok ()
    else return .error (.rejected "connect") : Step σ ρ τ Verdict).Yields scene progress _
  rw [Step.yields_bind, Step.yields_ask]
  cases scene.transport progress.log .connect with
  | true =>
      show (do transition .connecting; return .ok () : Step σ ρ τ Verdict).Yields scene _ _
      rw [Step.yields_bind]
      refine Step.yields_mono agreed ?_
      intro _ after hafter
      rw [Step.yields_pure, Verdict.told, List.append_nil]
      exact hafter
  | false =>
      rw [refusal, ← List.singleton_append, ← List.append_assoc] at refused
      exact refused

/-- A link that is told to connect while it is on its way lets the request wait. -/
theorem yields_connect_transient [Outlined ρ] {P : Progress σ ρ τ → Prop}
    (hstate : progress.link.state.isStable = false)
    (held : P { progress with link := { progress.link with
      deferred := progress.link.deferred ++ [.connect] } }) :
    (handle (.message .connect) : Step σ ρ τ Unit).Yields scene progress fun _ after => P after := by
  have hheld : P ⟨{ progress.link with deferred := progress.link.deferred ++ [.connect] },
      progress.log ++ Verdict.told (.ok ())⟩ := by
    rw [Verdict.told, List.append_nil]
    exact held
  rw [yields_handle_iff]
  show (onConnect : Step σ ρ τ Verdict).Yields scene progress _
  rw [onConnect, Step.yields_bind, Step.yields_link]
  cases hcase : progress.link.state with
  | disconnected | connected => cases (congrArg LinkState.isStable hcase).symm.trans hstate
  | connecting | disconnecting => exact hheld

/-- That the audio be dropped is nothing that the link or its course depends on. -/
theorem yields_dropAudio_course [Outlined ρ] :
    (handle (.message .disconnectAudio) : Step σ ρ τ Unit).Yields scene progress fun _ after =>
      after.link = progress.link ∧ course after.log = course progress.log := by
  have hdone : Step.Upholds
      (fun after => after.link = progress.link ∧ course after.log = course progress.log)
      (onDisconnectAudio : Step σ ρ τ Verdict) :=
    leads_onDisconnectAudio (fun _ _ h => ⟨h.1, (course_snoc_of_false rfl _).trans h.2⟩) fun _ => id
  have hspares : (onDisconnectAudio : Step σ ρ τ Verdict).Spares isRefusal :=
    .after fun _ => .ite (.error rfl) (.ite .ok (.after fun _ => .ite .ok (.error rfl)))
  refine yields_handle_told (Step.yields_mono
    (Step.yields_and.2 ⟨hdone scene progress ⟨rfl, rfl⟩, hspares scene progress⟩) ?_)
  rintro _ after ⟨⟨hlink, hcourse⟩, hspared⟩
  refine ⟨⟨hlink, hcourse⟩, ?_⟩
  rintro fault rfl
  have hother : isCourse (.notice (.requestFailed fault)) = false := hspared
  exact ⟨hlink, (course_snoc_of_false hother _).trans hcourse⟩

variable (hdiscreet : Discreet σ)

include hdiscreet

/-- Moving to another state takes up the requests, drops them, or lets them wait. -/
theorem yields_transition_stage {next : LinkState} (h : Fresh waiting past progress) :
    (transition next : Step σ ρ τ Unit).Yields scene progress fun _ after =>
      Stage waiting past after := by
  by_cases hsame : progress.link.state = next
  · rw [yields_transition_of_eq hsame]
    exact h.going
  · have hwaiting : ∀ message ∈ progress.link.deferred, message = .connect := by
      rw [h.deferred]
      exact fun message hmessage => List.eq_of_mem_replicate hmessage
    refine Step.yields_mono (Step.yields_and.2 ⟨yields_transition_moved hdiscreet hsame hwaiting,
      yields_transition_course hdiscreet hsame⟩) ?_
    rintro _ after ⟨hmoved, hcourse⟩
    exact h.moved hmoved hcourse

/-- Once the transport has agreed, the link is on its way, and what waits waits on. -/
theorem yields_agreed (hstate : progress.link.state = .disconnected)
    (hwaiting : ∀ message ∈ progress.link.deferred, message = .connect) :
    (transition .connecting : Step σ ρ τ Unit).Yields scene
      ⟨progress.link, progress.log ++ [.call .connect true]⟩ fun _ after =>
        after.link.state = .connecting ∧ after.link.deferred = progress.link.deferred ∧
          (∃ count, after.link.queue = progress.link.queue ++ drops count) ∧
          course after.log = course progress.log ++ agreement := by
  have hne : progress.link.state ≠ .connecting := by
    rw [hstate]
    nofun
  have hmoved : (transition .connecting : Step σ ρ τ Unit).Yields scene
      ⟨progress.link, progress.log ++ [.call .connect true]⟩ fun _ after =>
        Moved .connecting ⟨progress.link, progress.log ++ [.call .connect true]⟩ after :=
    yields_transition_moved hdiscreet hne hwaiting
  refine Step.yields_mono (Step.yields_and.2
    ⟨hmoved, yields_transition_course hdiscreet hne⟩) ?_
  rintro _ after ⟨hmoved, hcourse⟩
  refine ⟨hmoved.state, hmoved.deferred, hmoved.queue, ?_⟩
  rw [hcourse, hstate, course_snoc_of_true rfl, List.append_assoc]
  rfl

/-- What a link does on its own account, unless it is told to connect. -/
theorem passive_stage :
    PassiveMoves (Fresh waiting past : Progress σ ρ τ → Prop) (Stage waiting past) where
  ask request own hne := by
    intro scene progress h
    cases own with
    | connect => exact absurd rfl hne
    | disconnect | connectAudio | disconnectAudio => exact h.snoc rfl
  introduce _ _ h := ⟨h.deferred, h.queue, h.course⟩
  transition _ := fun _ _ h => yields_transition_stage hdiscreet h
  setAudio audio wideband scene progress _ h := by
    have haside : Step.Upholds (Aside progress) (Link.setAudio audio wideband : Step σ ρ τ Unit) :=
      (turning_aside hdiscreet).upholds_setAudio audio wideband
    have hsame : Step.Upholds (AtLink fun (_ : σ) log => course log = course progress.log)
        (Link.setAudio audio wideband : Step σ ρ τ Unit) :=
      (calm_course hdiscreet _).turning.upholds_setAudio audio wideband
    refine Step.yields_mono (Step.yields_and.2 ⟨haside scene _ (.refl progress),
      hsame scene progress rfl⟩) ?_
    rintro _ after ⟨hafter, hcourse⟩
    exact (h.aside hafter hcourse).going
  stay _ h := h.going

end Moves

/-! ### Errands -/

section Errands

variable [ProfileSession σ ρ τ] [DecidableEq τ] [Outlined ρ] {waiting : Nat} {past : List Effect}
  {scene : Scene} {progress : Progress σ ρ τ}

/-- What the user is told afterwards is of no matter, if it is not that the transport has refused to
connect. -/
theorem yields_handle_stage {errand : Errand ρ τ}
    (done : (onErrand errand : Step σ ρ τ Verdict).Yields scene progress fun _ after =>
      Stage waiting past after)
    (hspares : (onErrand errand : Step σ ρ τ Verdict).Spares isRefusal) :
    (handle errand : Step σ ρ τ Unit).Yields scene progress fun _ after =>
      Stage waiting past after := by
  refine yields_handle_told (Step.yields_mono
    (Step.yields_and.2 ⟨done, hspares scene progress⟩) ?_)
  rintro _ after ⟨hafter, hspared⟩
  refine ⟨hafter, ?_⟩
  rintro fault rfl
  exact hafter.snoc hspared

/-- While nothing is done about the requests, the user may be told anything. -/
theorem yields_handle_fresh {errand : Errand ρ τ}
    (done : (onErrand errand : Step σ ρ τ Verdict).Yields scene progress fun _ after =>
      Fresh waiting past after) :
    (handle errand : Step σ ρ τ Unit).Yields scene progress fun _ after =>
      Stage waiting past after := by
  refine yields_handle_told (Step.yields_mono done ?_)
  intro _ after hafter
  exact ⟨hafter.going, fun fault _ => hafter.told fault⟩

variable (hdiscreet : Discreet σ)

include hdiscreet

/-- A request to connect that comes from outside leads to no stable state. -/
theorem yields_connect_stage (h : Fresh waiting past progress) :
    (handle (.message .connect) : Step σ ρ τ Unit).Yields scene progress fun _ after =>
      Stage waiting past after := by
  cases hstate : progress.link.state with
  | disconnected =>
      have hwaiting : ∀ message ∈ progress.link.deferred, message = .connect := by
        rw [h.deferred]
        exact fun message hmessage => List.eq_of_mem_replicate hmessage
      refine yields_connect_disconnected hstate ?_ ?_
      · refine Step.yields_mono (yields_agreed hdiscreet hstate hwaiting) ?_
        rintro _ after ⟨-, -, ⟨more, hmore⟩, hcourse⟩
        refine .going ?_ agreement (by rw [hcourse, h.course]) (by decide)
        rw [hmore]
        exact exists_drops_append h.queue more
      · refine .going h.queue refusal ?_ ?_
        · rw [course_append, h.course]
          rfl
        · decide
  | connecting | disconnecting =>
      refine yields_connect_transient (by rw [hstate]; rfl) ?_
      exact .going h.queue [] (h.course.trans (List.append_nil past).symm) nofun
  | connected =>
      refine yields_handle_fresh ?_
      show (onConnect : Step σ ρ τ Verdict).Yields scene progress _
      rw [onConnect, Step.yields_bind, Step.yields_link, hstate]
      exact h

omit hdiscreet in
/-- What is neither for the profile nor a request to connect tells of no refusal to connect. -/
theorem spares_own {message : Message ρ} (hne : message ≠ .connect)
    (hrequest : ∀ request, message ≠ .request request)
    (hevent : ∀ event, message = .event event → event.isForProfile = false) :
    (onErrand (.message message) : Step σ ρ τ Verdict).Spares isRefusal := by
  cases message with
  | connect => exact absurd rfl hne
  | disconnect =>
      exact .after fun _ => .ite .ok (.after fun _ => .ite (.after fun _ => .ok)
        (.after fun _ => .error rfl))
  | connectAudio =>
      exact .after fun _ => .ite (.error rfl) (.ite .ok (.after fun _ =>
        .ite (.after fun _ => .ok) (.error rfl)))
  | disconnectAudio =>
      exact .after fun _ => .ite (.error rfl) (.ite .ok (.after fun _ => .ite .ok (.error rfl)))
  | event event =>
      cases event with
      | linkChanged report capabilities => exact .after fun _ => .ok
      | audioChanged report =>
          exact .after fun _ => .ite (.error rfl) (.ite (.after fun _ => .ok) .ok)
      | _ => cases hevent _ rfl
  | request request => exact absurd rfl (hrequest request)

/-- **The message comes first.**  It leads to a stable state or does not. -/
theorem yields_message_stage {message : Message ρ} (h : Fresh waiting past progress) :
    (handle (.message message) : Step σ ρ τ Unit).Yields scene progress fun _ after =>
      Stage waiting past after := by
  have hrequested (request : ρ) : Step.Upholds (Fresh waiting past)
      (Step.consult (ProfileSession.onRequest request) : Step σ ρ τ Verdict) :=
    fresh_consult (fun log => (quiet_of_discreet hdiscreet log).onRequest request)
      fun past => (profile_course hdiscreet past).onRequest request
  have hreported (event : Event) : Step.Upholds (Fresh waiting past)
      (Step.consult (ProfileSession.onEvent event) : Step σ ρ τ Verdict) :=
    fresh_consult (fun log => (quiet_of_discreet hdiscreet log).onEvent event)
      fun past => (profile_course hdiscreet past).onEvent event
  -- a request to connect comes first, then what the profile is to hear, then the rest
  by_cases hconnect : message = .connect
  · subst hconnect
    exact yields_connect_stage hdiscreet h
  by_cases hrequest : ∃ request, message = .request request
  · obtain ⟨request, rfl⟩ := hrequest
    refine yields_handle_fresh ?_
    by_cases hstate : progress.link.state = .connected
    · exact (yields_onErrand_request hstate).2 (hrequested request scene progress h)
    · exact (yields_onErrand_request_unheard hstate).2 h
  by_cases hevent : ∃ event, message = .event event ∧ event.isForProfile = true
  · obtain ⟨event, rfl, hforeign⟩ := hevent
    refine yields_handle_fresh ?_
    by_cases hstate : progress.link.state = .disconnected
    · exact (yields_onErrand_event_unheard hstate hforeign).2 h
    · exact (yields_onErrand_event hstate hforeign).2 (hreported event scene progress h)
  · refine yields_handle_stage ((passive_stage hdiscreet).leads_onMessage hconnect ?_ ?_ scene _ h) ?_
    · exact fun request _ => fun scene progress h =>
        Step.yields_mono (hrequested request scene progress h) fun _ _ hafter => hafter.going
    · exact fun event _ => fun scene progress h =>
        Step.yields_mono (hreported event scene progress h) fun _ _ hafter => hafter.going
    · refine spares_own hconnect (fun request heq => hrequest ⟨request, heq⟩) fun event heq => ?_
      exact Bool.eq_false_iff.2 fun hforeign => hevent ⟨event, heq, hforeign⟩

/-- **Or the alarm comes first.**  At most, it gives the link up. -/
theorem yields_alarm_stage {kind : AlarmKind τ} (h : Fresh waiting past progress) :
    (handle (.alarm kind) : Step σ ρ τ Unit).Yields scene progress fun _ after =>
      Stage waiting past after := by
  have hdown (after : Progress σ ρ τ) (h : Fresh waiting past after) :
      (giveUp : Step σ ρ τ Unit).Yields scene after fun _ last => Stage waiting past last :=
    .doomed after.link.queue rfl ⟨h.deferred, h.queue, h.course⟩
  cases kind with
  | session own =>
      refine yields_handle_fresh ?_
      have hserved : Step.Upholds (Fresh waiting past)
          (Step.consult (ProfileSession.onAlarm own) : Step σ ρ τ Verdict) :=
        fresh_consult (fun log => (quiet_of_discreet hdiscreet log).onAlarm own)
          fun past => (profile_course hdiscreet past).onAlarm own
      exact yields_onAlarm h nofun nofun fun other heq _ => by
        cases heq
        exact hserved scene progress h
  | connect =>
      refine yields_handle_stage (yields_onAlarm h.going ?_ nofun nofun) ?_
      · exact fun _ _ => hdown _ (h.snoc rfl)
      · exact .after fun _ => .ite (.after fun _ => .after fun _ => .error rfl) .ok
  | disconnect =>
      refine yields_handle_stage (yields_onAlarm h.going nofun ?_ nofun) ?_
      · exact fun _ _ => hdown _ h
      · exact .after fun _ => .ite (.after fun _ => .ok) .ok

/-- As long as the transport has refused, it is asked once more: it agrees, or it refuses again. -/
theorem yields_connect_trying {previous : LinkState} {refused left count : Nat}
    (all : refused + (left + 1) = waiting)
    (queue : progress.link.queue = List.replicate left (.message .connect) ++ drops count)
    (state : progress.link.state = .disconnected) (deferred : progress.link.deferred = [])
    (hcourse : course progress.log =
      past ++ .notice (.linkChanged previous .disconnected) :: refusals refused) :
    (handle (.message .connect) : Step σ ρ τ Unit).Yields scene progress fun _ after =>
      Stage waiting past after := by
  refine yields_connect_disconnected state ?_ ?_
  · refine Step.yields_mono (yields_agreed hdiscreet state ?_) ?_
    · rw [deferred]
      exact List.forall_mem_nil _
    · rintro _ after ⟨hstate, hdeferred, ⟨more, hmore⟩, hafter⟩
      refine .agreed previous refused 0 left (by omega) ⟨count + more, ?_⟩ hstate
        (hdeferred.trans deferred) ?_
      · rw [hmore, queue]
        exact drops_append _ count more
      · rw [hafter, hcourse, List.append_assoc]
        rfl
  · refine .trying previous (refused + 1) left (by omega) ⟨count, queue⟩ state deferred ?_
    rw [course_append, hcourse, refusals_succ, List.append_assoc]
    rfl

/-- **Then come the errands that the link makes for itself.** -/
theorem yields_own_stage {errand : Errand ρ τ} {rest : List (Errand ρ τ)}
    (h : Stage waiting past progress) (hcons : progress.link.queue = errand :: rest) :
    (handle errand : Step σ ρ τ Unit).Yields scene
      ⟨{ progress.link with queue := rest }, progress.log⟩ fun _ after =>
        Stage waiting past after := by
  -- that the audio be dropped comes when nothing else is left to do
  have hdropped {count : Nat} (hdrops : progress.link.queue = drops count)
      (hstage : (∃ others, rest = drops others) →
        Stage waiting past ⟨{ progress.link with queue := rest }, progress.log⟩) :
      (handle errand : Step σ ρ τ Unit).Yields scene
        ⟨{ progress.link with queue := rest }, progress.log⟩ fun _ after =>
          Stage waiting past after := by
    obtain ⟨rfl, hothers⟩ := of_drops_eq_cons (hdrops.symm.trans hcons)
    refine Step.yields_mono yields_dropAudio_course ?_
    rintro _ after ⟨hlink, hcourse⟩
    exact (hstage hothers).of_course hlink hcourse
  cases h with
  | going queue more course unsettled =>
      obtain ⟨count, hqueue⟩ := queue
      exact hdropped hqueue fun hothers => .going hothers more course unsettled
  | doomed others queue fresh =>
      obtain ⟨rfl, rfl⟩ := List.cons.inj (queue.symm.trans hcons)
      rw [yields_handle_iff]
      refine yields_linkDown.2 (Step.yields_mono (yields_transition_stage hdiscreet fresh) ?_)
      intro _ after hafter
      rw [Verdict.told, List.append_nil]
      exact hafter
  | connected previous queue state deferred course =>
      obtain ⟨count, hqueue⟩ := queue
      exact hdropped hqueue fun hothers => .connected previous hothers state deferred course
  | trying previous refused left all queue state deferred course =>
      obtain ⟨count, hqueue⟩ := queue
      cases left with
      | zero =>
          refine hdropped hqueue fun hothers => ?_
          exact .trying previous refused 0 all hothers state deferred course
      | succ left =>
          obtain ⟨rfl, rfl⟩ := List.cons.inj (hqueue.symm.trans hcons)
          exact yields_connect_trying hdiscreet all rfl state deferred course
  | agreed previous refused held left all queue state deferred course =>
      obtain ⟨count, hqueue⟩ := queue
      cases left with
      | zero =>
          refine hdropped hqueue fun hothers => ?_
          exact .agreed previous refused held 0 all hothers state deferred course
      | succ left =>
          obtain ⟨rfl, rfl⟩ := List.cons.inj (hqueue.symm.trans hcons)
          refine yields_connect_transient (congrArg LinkState.isStable state) ?_
          refine .agreed previous refused (held + 1) left (by omega) ⟨count, rfl⟩ state ?_ course
          rw [deferred, List.replicate_succ']

end Errands

/-! ### Messages and alarms -/

/-- Neither a refusal nor an agreement settles a link. -/
theorem settles_of_mem_attempts {refused : Nat} {effect : Effect}
    (h : effect ∈ refusals refused ++ agreement) : settles effect = false := by
  have hrefusal : ∀ effect ∈ refusal, settles effect = false := by decide
  have hagreement : ∀ effect ∈ agreement, settles effect = false := by decide
  rcases List.mem_append.1 h with h | h
  · obtain ⟨attempt, hattempt, heffect⟩ := List.mem_flatten.1 h
    rw [List.eq_of_mem_replicate hattempt] at heffect
    exact hrefusal effect heffect
  · exact hagreement effect h

theorem mem_course_of_dropsOut {log : List Effect} (h : DropsOut log) :
    ∃ previous, .notice (.linkChanged previous .disconnected) ∈ course log := by
  obtain ⟨effect, hmem, hdrops⟩ := List.any_eq_true.1 h
  unfold dropsOut at hdrops
  split at hdrops
  · exact ⟨_, List.mem_filter.2 ⟨hmem, rfl⟩⟩
  · cases hdrops

section Conserving

variable {link next : Link σ ρ τ} {log : List Effect}

/-- A link that comes to no stable state conserves what waits. -/
theorem conserved_of_unsettled (h : ∀ effect ∈ course log, settles effect = false) :
    Conserved link next log where
  replayed hdrops := by
    obtain ⟨previous, hmem⟩ := mem_course_of_dropsOut hdrops
    cases h _ hmem
  dropped hup := by
    obtain ⟨previous, hmem⟩ := hup
    cases h _ (List.mem_filter.2 ⟨hmem, rfl⟩)

/-- Once the link has dropped out, no attempt connects it. -/
theorem not_connected_of_attempts {previous : LinkState} {refused : Nat} {attempts : List Effect}
    (hattempts : attempts ⊆ refusals refused ++ agreement)
    (hcourse : course log = .notice (.linkChanged previous .disconnected) :: attempts) :
    ¬∃ previous, .notice (.linkChanged previous .connected) ∈ log := by
  rintro ⟨other, hmem⟩
  have hmem : .notice (.linkChanged other .connected) ∈ course log :=
    List.mem_filter.2 ⟨hmem, rfl⟩
  rw [hcourse] at hmem
  rcases List.mem_cons.1 hmem with hmem | hmem
  · cases hmem
  · cases settles_of_mem_attempts (hattempts hmem)

/-- With nothing left to do, the requests that waited are conserved. -/
theorem Stage.conserved (earlier : List Effect)
    (h : Stage link.deferred.length (course earlier) ⟨next, earlier ++ log⟩)
    (hqueue : next.queue = []) : Conserved link next log := by
  -- nothing is left in the queue, so no request to connect is
  have hnone {left count : Nat} (hleft : next.queue =
      List.replicate left (.message .connect) ++ drops count) : left = 0 := by
    rw [hqueue] at hleft
    exact (List.replicate_eq_nil_iff _).1 (List.append_eq_nil_iff.1 hleft.symm).1
  have hadded {more : List Effect} (hcourse : course (earlier ++ log) = course earlier ++ more) :
      course log = more := by
    rw [course_append] at hcourse
    exact List.append_cancel_left hcourse
  cases h with
  | going queue more hcourse unsettled =>
      refine conserved_of_unsettled ?_
      rw [hadded hcourse]
      exact unsettled
  | doomed rest queue fresh => cases hqueue.symm.trans queue
  | connected previous queue state deferred hcourse =>
      refine ⟨fun hdrops => ?_, fun _ => ⟨⟨previous, hadded hcourse⟩, deferred⟩⟩
      obtain ⟨other, hmem⟩ := mem_course_of_dropsOut hdrops
      rw [hadded hcourse] at hmem
      cases List.mem_singleton.1 hmem
  | trying previous refused left all queue state deferred hcourse =>
      obtain ⟨count, hleft⟩ := queue
      obtain rfl := hnone hleft
      obtain rfl : refused = link.deferred.length := all
      refine ⟨fun _ => ⟨previous, .inl ⟨hadded hcourse, state, deferred⟩⟩, fun hup => ?_⟩
      exact absurd hup (not_connected_of_attempts (List.subset_append_left ..) (hadded hcourse))
  | agreed previous refused held left all queue state deferred hcourse =>
      obtain ⟨count, hleft⟩ := queue
      obtain rfl := hnone hleft
      have hheld : link.deferred.length - (refused + 1) = held := by omega
      refine ⟨fun _ => ⟨previous, .inr ⟨refused, by omega, hadded hcourse, state, ?_⟩⟩, fun hup => ?_⟩
      · rw [hheld]
        exact deferred
      · exact absurd hup (not_connected_of_attempts (List.Subset.refl _) (hadded hcourse))

end Conserving

section Impulses

variable [ProfileSession σ ρ τ] [DecidableEq τ] [Outlined ρ] (hdiscreet : Discreet σ)
  {link : Link σ ρ τ}

omit [ProfileSession σ ρ τ] [DecidableEq τ] [Outlined ρ] in
/-- Between two impulses nothing has been done about the requests that wait. -/
theorem Between.fresh (hlink : Between link) (log : List Effect) :
    Fresh link.deferred.length (course log) ⟨link, log⟩ :=
  ⟨List.eq_replicate_iff.2 ⟨rfl, hlink.deferred⟩, ⟨0, hlink.queue⟩, rfl⟩

include hdiscreet

/-- **A message conserves the requests that wait.** -/
theorem conserved_hand (hlink : Between link) (scene : Scene) (message : Message ρ) :
    Conserved link (link.respond (.hand scene message)).1
      (link.respond (.hand scene message)).2 := by
  refine Stage.conserved [] ?_ (queue_respond hlink.queue (.hand scene message))
  refine respond_hand (P := Stage link.deferred.length (course [])) hlink.queue ?_ ?_
  · exact yields_message_stage hdiscreet (hlink.fresh [])
  · exact fun _ _ _ h hcons => yields_own_stage hdiscreet h hcons

omit hdiscreet in
theorem serveDue_of_none {scene : Scene} {progress : Progress σ ρ τ}
    (h : progress.link.alarms.popDue scene.now = none) (rounds : Nat) :
    serveDue scene rounds progress = progress := by
  cases rounds with
  | zero => rfl
  | succ rounds =>
      rw [serveDue, h]

omit hdiscreet in
theorem serveDue_of_some {scene : Scene} {progress : Progress σ ρ τ} {kind : AlarmKind τ}
    {others : Alarms (AlarmKind τ)}
    (h : progress.link.alarms.popDue scene.now = some (kind, others)) (rounds : Nat) :
    serveDue scene (rounds + 1) progress = serveDue scene rounds (drain scene
      ⟨{ progress.link with alarms := others, queue := progress.link.queue ++ [.alarm kind] },
        progress.log⟩) := by
  rw [serveDue, h]

omit hdiscreet in
/-- One alarm more is served after the others. -/
theorem serveDue_succ (scene : Scene) (rounds : Nat) (progress : Progress σ ρ τ) :
    serveDue scene (rounds + 1) progress = serveDue scene 1 (serveDue scene rounds progress) := by
  induction rounds generalizing progress with
  | zero => rfl
  | succ rounds ih =>
      cases hpop : progress.link.alarms.popDue scene.now with
      | none => rw [serveDue_of_none hpop, serveDue_of_none hpop, serveDue_of_none hpop]
      | some due => rw [serveDue_of_some hpop, ih, ← serveDue_of_some hpop]

omit hdiscreet in
/-- While alarms are served, a link is found between two impulses after each of them. -/
theorem between_serveDue (hlink : Between link) (scene : Scene) (rounds : Nat)
    (log : List Effect) : Between (serveDue scene rounds ⟨link, log⟩).link := by
  have hmade : SelfMade (serveDue scene rounds ⟨link, log⟩) := by
    refine serveDue_induction ?_ ?_ rounds hlink.queue (hlink.selfMade log)
    · rintro progress kind others hmade - -
      exact selfMade_handle (.alarm kind) scene _ ⟨nofun, hmade.deferred⟩
    · rintro progress errand rest hmade hcons
      exact selfMade_handle errand scene _ (hmade.of_cons hcons).2
  exact ⟨queue_serveDue scene rounds hlink.queue, hmade.deferred⟩

/-- What has left a link before an alarm is served has left it afterwards. -/
theorem prefix_serveDue (scene : Scene) (rounds : Nat) (progress : Progress σ ρ τ)
    (hqueue : progress.link.queue = []) :
    progress.log <+: (serveDue scene rounds progress).log := by
  have hlasting : Lasting (ρ := ρ) (τ := τ) fun (_ : σ) log => progress.log <+: log :=
    hdiscreet.lasting fun log more h => h.trans (List.prefix_append log more)
  refine serveDue_induction (P := fun after => progress.log <+: after.log) ?_ ?_ rounds hqueue
    (List.prefix_refl _)
  · rintro after kind others h - -
    exact hlasting.upholds_handle (.alarm kind) scene _ h
  · exact fun after errand rest h _ => hlasting.upholds_handle errand scene _ h

/-- The alarm that is due next comes first, and there may be none. -/
theorem stage_serveDue (hlink : Between link) (scene : Scene) (earlier : List Effect) :
    Stage link.deferred.length (course earlier) (serveDue scene 1 ⟨link, earlier⟩) := by
  cases hpop : link.alarms.popDue scene.now with
  | none =>
      rw [serveDue_of_none hpop]
      exact (hlink.fresh earlier).going
  | some due =>
      obtain ⟨kind, others⟩ := due
      rw [serveDue_of_some hpop]
      refine drain_of_yields (congrArg (· ++ [.alarm kind]) hlink.queue) ?_
      have hfresh : Fresh link.deferred.length (course earlier)
          ⟨{ link with alarms := others, queue := [] }, earlier⟩ :=
        ⟨(hlink.fresh earlier).deferred, ⟨0, rfl⟩, rfl⟩
      refine Step.yields_mono (yields_alarm_stage hdiscreet hfresh) ?_
      intro _ after hafter
      refine drain_induction ?_ after hafter
      exact fun _ _ _ h hcons => yields_own_stage hdiscreet h hcons

/-- **An alarm conserves the requests that wait.** -/
theorem conserved_alarm (hlink : Between link) (scene : Scene) (earlier : List Effect) :
    ∃ log, (serveDue scene 1 ⟨link, earlier⟩).log = earlier ++ log ∧
      Conserved link (serveDue scene 1 ⟨link, earlier⟩).link log := by
  have hstage := stage_serveDue hdiscreet hlink scene earlier
  have hprefix : earlier <+: (serveDue scene 1 ⟨link, earlier⟩).log :=
    prefix_serveDue hdiscreet scene 1 ⟨link, earlier⟩ hlink.queue
  have hidle : (serveDue scene 1 ⟨link, earlier⟩).link.queue = [] :=
    queue_serveDue scene 1 hlink.queue
  generalize serveDue scene 1 ⟨link, earlier⟩ = after at hstage hprefix hidle ⊢
  obtain ⟨next, said⟩ := after
  obtain ⟨log, rfl⟩ := hprefix
  exact ⟨log, rfl, hstage.conserved earlier hidle⟩

/-- What waits at a link is conserved at every message that it is handed, and at every alarm that it
serves, one after the other, when it is woken. -/
structure Conserving (link : Link σ ρ τ) : Prop where
  hand : ∀ scene message, Conserved link (link.respond (.hand scene message)).1
    (link.respond (.hand scene message)).2
  wake : ∀ scene rounds,
    let before := serveDue scene rounds ⟨link, []⟩
    let after := serveDue scene (rounds + 1) ⟨link, []⟩
    ∃ log, after.log = before.log ++ log ∧ Conserved before.link after.link log

theorem conserving_of_between (hlink : Between link) : Conserving link where
  hand := conserved_hand hdiscreet hlink
  wake scene rounds := by
    intro before after
    have hbefore : Between before.link := between_serveDue hlink scene rounds []
    have hafter : after = serveDue scene 1 before := serveDue_succ scene rounds ⟨link, []⟩
    rw [hafter]
    exact conserved_alarm hdiscreet hbefore scene before.log

end Impulses

/-! ### Links that have not dropped out -/

/-- If the link is connected, it has not dropped out. -/
def Unbroken (progress : Progress σ ρ τ) : Prop :=
  progress.link.state = .connected → ¬DropsOut progress.log

theorem Unbroken.aside {before after : Progress σ ρ τ} (h : Unbroken before)
    (hafter : Aside before after) : Unbroken after :=
  fun hconnected hdrops => h (hafter.state.symm.trans hconnected) (hafter.dropsOut.1 hdrops)

/-- What leaves the link next is not that it has dropped out. -/
theorem Unbroken.snoc {progress : Progress σ ρ τ} (h : Unbroken progress) {effect : Effect}
    (hother : dropsOut effect = false) :
    Unbroken { progress with log := progress.log ++ [effect] } := by
  intro hconnected hdrops
  rw [dropsOut_snoc, hother, or_iff_left Bool.false_ne_true] at hdrops
  exact h hconnected hdrops

theorem unbroken_consult {α : Type} {work : Work σ τ α} (hquiet : Quiet work) :
    Step.Upholds Unbroken (Step.consult work : Step σ ρ τ α) := by
  intro scene progress h
  exact Step.yields_mono (aside_consult hquiet scene progress (.refl progress))
    fun _ _ hafter => h.aside hafter

section Unbroken

variable [ProfileSession σ ρ τ] [DecidableEq τ] [Outlined ρ] (hdiscreet : Discreet σ)

include hdiscreet

/-- What does not report that the link is up does not connect a link that has dropped out. -/
theorem conduct_unbroken {scene : Scene} {message : Message ρ} (hother : message.reportsUp = false) :
    Conduct scene message (Unbroken : Progress σ ρ τ → Prop) Unbroken Unbroken where
  introduce _ _ _ h := h
  ask _ _ _ h := h.snoc rfl
  unasked _ h := h
  rise _ _ hreports _ _ := nomatch hother.symm.trans hreports.reportsUp
  transition next progress hup _ := by
    refine Step.yields_mono yields_transition_state ?_
    intro _ after hstate hconnected
    obtain rfl : next = .connected := hstate.symm.trans hconnected
    cases (hup rfl).2.1
  setAudio audio wideband progress _ _ h :=
    Step.yields_mono ((turning_aside hdiscreet).upholds_setAudio audio wideband scene progress
      (.refl progress)) fun _ _ hafter => h.aside hafter
  defer _ _ _ h := h
  stay _ h := h
  request request progress _ _ h :=
    unbroken_consult (fun log => (quiet_of_discreet hdiscreet log).onRequest request) scene progress h
  event event progress _ _ h :=
    unbroken_consult (fun log => (quiet_of_discreet hdiscreet log).onEvent event) scene progress h

/-- **A link that is connected after an impulse has not dropped out in the course of it.** -/
theorem not_dropsOut_respond {link : Link σ ρ τ} (hlink : Between link) (impulse : Impulse ρ)
    (hconnected : (link.respond impulse).1.state = .connected) :
    ¬DropsOut (link.respond impulse).2 := by
  cases impulse with
  | hand scene message =>
      intro hdrops
      obtain ⟨_, ⟨-, hstate, -⟩ | ⟨_, -, -, hstate, -⟩⟩ :=
        (conserved_hand hdiscreet hlink scene message).replayed hdrops
      · cases hstate.symm.trans hconnected
      · cases hstate.symm.trans hconnected
  | wake scene =>
      refine respond_wake_own (P := Unbroken) hlink (fun _ => Bool.false_ne_true) ?_ ?_ hconnected
      · intro progress kind others h _ _
        refine yields_handle ?_ fun _ _ h => h.snoc rfl
        refine upholds_onAlarm ?_ (fun _ _ h => h) (fun own => ?_) kind scene _ h
        · exact .bind (fun _ _ h => h.snoc rfl) fun _ => .pure _
        · exact unbroken_consult fun log => (quiet_of_discreet hdiscreet log).onAlarm own
      · intro progress errand rest h _ hown
        refine yields_handle ?_ fun _ _ h => h.snoc rfl
        cases hown with
        | connect | linkDown | dropAudio => exact (conduct_unbroken hdiscreet rfl).yields_onMessage h

end Unbroken

end Link

/-! ### Both profiles -/

/-- **The requests to connect that wait are conserved**, with either profile and at any moment in the
life of a link.  When a message or an alarm makes the link drop out, they are taken up at once: the
transport is asked to connect until it agrees or there is none left, and the user is told of every
refusal.  After an agreement the link is on its way, with those that are left waiting once more;
without one it stays disconnected, with none left.  When the link comes to be connected, all are
dropped, and the transport is not asked. -/
theorem requests_conserved (peer : Address) :
    (∀ (settings : StreamSettings) (impulses : List (Impulse Stream.Request)),
      ((Link.start peer (Stream.start settings)).live impulses).1.Conserving) ∧
    (∀ (settings : HandsfreeSettings) (issuer : Nat) (impulses : List (Impulse Handsfree.Request)),
      ((Link.start peer (Handsfree.start settings issuer)).live impulses).1.Conserving) :=
  ⟨fun _ impulses => Link.conserving_of_between Stream.discreet
      (Link.between_live (Link.between_start peer _) impulses),
    fun _ _ impulses => Link.conserving_of_between Handsfree.discreet
      (Link.between_live (Link.between_start peer _) impulses)⟩

end AudioLink
