/-
**How a link opens.**

A link that is down, or about to be, comes up on two occasions only.  Either it was told to connect
and the transport has agreed, or the transport reports that the device is there, and the device is
let in; what the user has said about the device counts as of that moment.  A device that is not let
in is sent away, and nothing else happens.

A request to connect may have waited, and be taken up in the middle of anything.  But a report is
the first thing that is handled after an impulse, so that nothing has left the link before it opens.

Main definitions:

* `AudioLink.opens` — a change by which a link opens;
* `AudioLink.Impulse.isAdmitted` — a report of a device that is let in;
* `AudioLink.Link.Warrant` — what a link may open upon;
* `AudioLink.Link.Guarded` — a link opens on no other occasion, and sends away who is not let in.

Main results:

* `AudioLink.Link.yields_transition_warranted` — a link that moves upon a warrant opens upon one;
* `AudioLink.Link.warranted_respond` — nothing in an impulse opens the link without a warrant;
* `AudioLink.Link.respond_refused` — what becomes of a device that is not let in;
* `AudioLink.Link.exists_opening` — no link comes up without announcing that it opens;
* `AudioLink.Link.guarded_live` — **a link is guarded throughout its life**, if its profile is
  reserved and leaves the alarms of the link alone.
-/

import AudioLink.Proofs.Link.Chronicle
import AudioLink.Proofs.Link.Errands
import AudioLink.Proofs.Link.Recall

set_option relaxedAutoImplicit false
set_option autoImplicit false

namespace AudioLink

/-- Whether an effect announces that a link opens: it was down, or about to be, and is up now, or
about to be. -/
def opens : Effect → Bool
  | .notice (.linkChanged previous current) => !previous.isUp && current.isUp
  | .notice (.audioChanged ..) | .notice (.requestFailed _) | .notice (.report _) | .call _ _ =>
      false

/-- Whether an impulse reports that a link is up, or about to be, to a device that is let in. -/
def Impulse.isAdmitted {ρ : Type} (peer : Address) : Impulse ρ → Bool
  | .hand scene message => message.reportsUp && scene.preferences.admits peer
  | .wake _ => false

theorem opens_linkChanged {previous current : LinkState} :
    opens (.notice (.linkChanged previous current)) = true ↔
      previous.isUp = false ∧ current.isUp = true := by
  rw [opens, Bool.and_eq_true, Bool.not_eq_true']

theorem Effect.IsProfile.opens_eq_false {effect : Effect} (h : effect.IsProfile) :
    opens effect = false := by
  cases h with
  | command command accepted _ => rfl
  | report report => rfl

namespace Link

variable {σ ρ τ : Type}

/-- What a link may open upon, after `earlier` has left it since the impulse. -/
inductive Warrant (admitted : Prop) : (earlier : List Effect) → Prop
  /-- The transport has just agreed to connect. -/
  | granted (before : List Effect) : Warrant admitted (before ++ [.call .connect true])
  /-- The impulse is a report that is heeded at once. -/
  | heard (h : admitted) : Warrant admitted []

/-- Whenever the link has opened, it had a warrant. -/
def Warranted (admitted : Prop) (log : List Effect) : Prop :=
  Throughout (fun earlier effect => opens effect = true → Warrant admitted earlier) log

theorem Warranted.snoc {admitted : Prop} {log : List Effect} (h : Warranted admitted log)
    {effect : Effect} (heffect : opens effect = false) : Warranted admitted (log ++ [effect]) :=
  throughout_snoc.2 ⟨h, fun hopens => nomatch heffect.symm.trans hopens⟩

/-! ### Moves -/

section Moves

variable [ProfileSession σ ρ τ] {admitted : Prop} {scene : Scene} {progress : Progress σ ρ τ}
  (hdiscreet : Discreet σ)

include hdiscreet

/-- The work of a discreet profile opens nothing. -/
theorem profile_warranted : ProfileUpholds σ fun desk => Warranted admitted desk.log :=
  hdiscreet (Warranted admitted) fun _ _ hprofile h => h.snoc hprofile.opens_eq_false

/-- Nor does a change of the audio, or the work of the profile when the link is connected. -/
theorem calm_warranted :
    Calm (ρ := ρ) (τ := τ) fun (_ : σ) log => Warranted admitted log :=
  (profile_warranted hdiscreet).calm fun _ _ _ _ h => h.snoc rfl

variable [DecidableEq τ]

omit hdiscreet in
/-- A link that is down, or about to be, is left without a word. -/
theorem yields_leave_silently (hdown : progress.link.state.isUp = false) :
    (leave progress.link.state : Step σ ρ τ Unit).Yields scene progress fun _ left =>
      left.log = progress.log := by
  cases hstate : progress.link.state with
  | disconnected | disconnecting => rfl
  | connecting | connected =>
      rw [hstate] at hdown
      cases hdown

/-- **A link that moves upon a warrant opens upon one.** -/
theorem yields_transition_warranted {next : LinkState} (h : Warranted admitted progress.log)
    (hwarrant : progress.link.state.isUp = false → next.isUp = true →
      Warrant admitted progress.log) :
    (transition next : Step σ ρ τ Unit).Yields scene progress fun _ after =>
      Warranted admitted after.log := by
  by_cases hsame : progress.link.state = next
  · rw [yields_transition_of_eq hsame]
    exact h
  · rw [yields_transition_of_ne hsame]
    have hcalm : Calm (ρ := ρ) (τ := τ) fun (_ : σ) log => Warranted admitted log :=
      calm_warranted hdiscreet
    have hleft : (leave progress.link.state : Step σ ρ τ Unit).Yields scene progress fun _ left =>
        Warranted admitted left.log ∧
          (progress.link.state.isUp = false → left.log = progress.log) :=
      Step.yields_and.2 ⟨hcalm.upholds_leave _ scene progress h, fun hdown =>
        yields_leave_silently hdown⟩
    refine Step.yields_mono hleft ?_
    rintro _ left ⟨hleft, hsilent⟩
    -- only the notice of the move may say that the link opens
    have hannounced : Warranted admitted
        (left.log ++ [.notice (.linkChanged progress.link.state next)]) := by
      refine throughout_snoc.2 ⟨hleft, fun hopens => ?_⟩
      obtain ⟨hdown, hup⟩ := opens_linkChanged.1 hopens
      rw [hsilent hdown]
      exact hwarrant hdown hup
    have hentered : Step.Upholds (AtLink fun (_ : σ) log => Warranted admitted log)
        (enter next : Step σ ρ τ Unit) := by
      by_cases hdown : next = .disconnected
      · subst hdown
        exact upholds_consult (profile_warranted hdiscreet).onDisconnected
      · exact hcalm.upholds_enter next hdown
    refine Step.Upholds.bind hentered (fun _ => ?_) scene _ hannounced
    exact .ite (fun _ => upholds_change fun _ => rfl) fun _ => .pure _

/-! ### Errands -/

/-- Whatever a message brings about, the link opens upon a warrant only.  When the message is a
report, it is the first thing that is handled. -/
theorem conduct_warranted [Outlined ρ] {message : Message ρ} (peer : Address)
    (hadmitted : message.reportsUp = true → scene.preferences.admits peer = true → admitted) :
    Conduct scene message
      (fun progress : Progress σ ρ τ => Warranted admitted progress.log ∧
        (message.reportsUp = true → progress.log = [] ∧ progress.link.peer = peer))
      (fun progress => Warranted admitted progress.log)
      fun progress => Warranted admitted progress.log where
  introduce _ _ _ h := h
  ask _ _ _ h := h.1.snoc rfl
  unasked _ h := h.1
  rise next progress hreports hlet h := by
    refine yields_transition_warranted hdiscreet h.1 fun hdown _ => ?_
    obtain ⟨hnothing, hpeer⟩ := h.2 hreports.reportsUp
    rw [hnothing]
    rcases hlet with hup | hlet
    · cases hdown.symm.trans hup
    · exact .heard (hadmitted hreports.reportsUp (hpeer ▸ hlet))
  transition next progress hgranted h := by
    refine yields_transition_warranted hdiscreet h fun _ hup => ?_
    obtain ⟨-, -, before, hlog⟩ := hgranted hup
    rw [hlog]
    exact .granted before
  setAudio audio wideband progress _ _ h :=
    (calm_warranted hdiscreet).turning.upholds_setAudio audio wideband scene progress h
  defer _ _ _ h := h
  stay _ h := h
  request request progress _ _ h :=
    upholds_consult (J := fun _ log => Warranted admitted log)
      ((profile_warranted hdiscreet).onRequest request) scene progress h
  event event progress _ _ h :=
    upholds_consult (J := fun _ log => Warranted admitted log)
      ((profile_warranted hdiscreet).onEvent event) scene progress h

variable [Outlined ρ]

/-- No alarm opens the link. -/
theorem yields_alarm_warranted {kind : AlarmKind τ} (h : Warranted admitted progress.log) :
    (handle (.alarm kind) : Step σ ρ τ Unit).Yields scene progress fun _ after =>
      Warranted admitted after.log := by
  refine yields_handle ?_ fun _ _ h => h.snoc rfl
  have hrefuse : Step.Upholds (AtLink fun _ log => Warranted admitted log)
      (refuse : Step σ ρ τ Unit) :=
    .bind (fun _ _ h => h.snoc rfl) fun _ => .pure _
  have hgiveUp : Step.Upholds (AtLink fun _ log => Warranted admitted log)
      (giveUp : Step σ ρ τ Unit) :=
    upholds_change fun _ => rfl
  refine upholds_onAlarm hrefuse hgiveUp (fun kind => ?_) kind scene progress h
  exact upholds_consult ((profile_warranted hdiscreet).onAlarm kind)

/-- Nothing that a link does by itself opens it without a warrant. -/
theorem yields_own_warranted {errand : Errand ρ τ} (hown : Incidental errand)
    (h : Warranted admitted progress.log) :
    (handle errand : Step σ ρ τ Unit).Yields scene progress fun _ after =>
      Warranted admitted after.log := by
  refine yields_handle ?_ fun _ _ h => h.snoc rfl
  have hdone {message : Message ρ} (hreports : message.reportsUp = false) :
      (onMessage message : Step σ ρ τ Verdict).Yields scene progress fun _ after =>
        Warranted admitted after.log := by
    have hnone (hup : message.reportsUp = true)
        (_ : scene.preferences.admits progress.link.peer = true) : admitted :=
      nomatch hreports.symm.trans hup
    have hconduct := conduct_warranted (ρ := ρ) hdiscreet progress.link.peer hnone
    exact hconduct.yields_onMessage ⟨h, fun hup => nomatch hreports.symm.trans hup⟩
  cases hown with
  | connect => exact hdone rfl
  | linkDown => exact hdone rfl
  | dropAudio => exact hdone rfl

/-- **Nothing in an impulse opens the link without a warrant.** -/
theorem warranted_respond {link : Link σ ρ τ} (hlink : Between link) (impulse : Impulse ρ) :
    Warranted (impulse.isAdmitted link.peer = true) (link.respond impulse).2 := by
  cases impulse with
  | hand scene message =>
      refine respond_hand_own (P := fun after => Warranted _ after.log) hlink ?_ ?_
      · refine yields_handle ?_ fun _ _ h => h.snoc rfl
        have hadmitted (hreports : message.reportsUp = true)
            (hadmits : scene.preferences.admits link.peer = true) :
            (Impulse.hand scene message).isAdmitted link.peer = true :=
          Bool.and_eq_true_iff.2 ⟨hreports, hadmits⟩
        have hconduct := conduct_warranted (ρ := ρ) hdiscreet link.peer hadmitted
        exact hconduct.yields_onMessage ⟨throughout_nil _, fun _ => ⟨rfl, rfl⟩⟩
      · exact fun _ _ _ h _ hown => yields_own_warranted hdiscreet hown h
  | wake scene =>
      refine respond_wake_own (P := fun after => Warranted _ after.log) hlink
        (throughout_nil _) ?_ ?_
      · exact fun _ _ _ h _ _ => yields_alarm_warranted hdiscreet h
      · exact fun _ _ _ h _ hown => yields_own_warranted hdiscreet hown h

end Moves

/-! ### Devices that are not let in -/

section Refusal

variable [ProfileSession σ ρ τ] [DecidableEq τ] [Outlined ρ] {link : Link σ ρ τ}

/-- A device that is not let in is sent away, and nothing else happens. -/
theorem respond_refused {scene : Scene} {report : LinkState} {capabilities : Capabilities}
    (hqueue : link.queue = []) (hdown : link.state.isUp = false) (hup : report.isUp = true)
    (hrefused : scene.preferences.admits link.peer = false) :
    link.respond (.hand scene (.event (.linkChanged report capabilities))) =
      (link, [.call .disconnect (scene.transport [] .disconnect)]) := by
  have hsent (next : Step σ ρ τ Unit) : (ifAdmitted next).Yields scene ⟨link, []⟩ fun _ after =>
      after = ⟨link, [.call .disconnect (scene.transport [] .disconnect)]⟩ := by
    rw [ifAdmitted, Step.yields_bind, Step.yields_read, Step.yields_bind, Step.yields_link,
      Step.yields_ite, if_neg (by rw [hrefused]; exact Bool.false_ne_true)]
    rfl
  refine respond_hand_eq hqueue hqueue ?_
  show (onLinkChanged report capabilities : Step σ ρ τ Unit).Yields scene ⟨link, []⟩ fun _ after =>
    after = ⟨link, [.call .disconnect (scene.transport [] .disconnect)]⟩
  rw [onLinkChanged, Step.yields_bind, Step.yields_link]
  cases hstate : link.state with
  | connecting | connected => cases (hstate ▸ hdown : LinkState.isUp _ = false)
  | disconnected | disconnecting =>
      cases report with
      | disconnected | disconnecting => cases hup
      | connecting => exact hsent _
      | connected => exact hsent _

end Refusal

/-! ### Lives -/

/-- Between two moments a listener has followed, a link that was down and is up has announced that
it opens. -/
theorem exists_opening {past log : List Effect}
    (hfits : Throughout (fun earlier effect => (Told.after earlier).Fits effect) (past ++ log))
    (hdown : (Told.after past).link.isUp = false)
    (hup : (Told.after (past ++ log)).link.isUp = true) : ∃ effect ∈ log, opens effect = true := by
  induction log generalizing past with
  | nil =>
      rw [List.append_nil] at hup
      cases hdown.symm.trans hup
  | cons effect log ih =>
      have hfit : (Told.after past).Fits effect := hfits past effect log rfl
      rw [List.append_cons] at hfits hup
      by_cases hnow : (Told.after (past ++ [effect])).link.isUp = true
      · refine ⟨effect, List.mem_cons_self .., ?_⟩
        rw [Told.after_snoc] at hnow
        cases effect with
        | call request accepted => cases hdown.symm.trans hnow
        | notice notice =>
            cases notice with
            | linkChanged previous current =>
                obtain ⟨rfl, -⟩ := hfit
                exact opens_linkChanged.2 ⟨hdown, hnow⟩
            | audioChanged | requestFailed | report => cases hdown.symm.trans hnow
      · obtain ⟨other, hmem, hopens⟩ := ih hfits (Bool.not_eq_true _ ▸ hnow) hup
        exact ⟨other, List.mem_cons_of_mem _ hmem, hopens⟩

/-- A link that opens upon a warrant only, and sends away who is not let in. -/
structure Guarded [ProfileSession σ ρ τ] [DecidableEq τ] [Outlined ρ] (link : Link σ ρ τ) :
    Prop where
  /-- A link that comes up announces that it opens. -/
  announced : ∀ impulse, link.state.isUp = false → (link.respond impulse).1.state.isUp = true →
    ∃ effect ∈ (link.respond impulse).2, opens effect = true
  /-- When it opens, then either upon a request to connect, to which the transport has just agreed,
  or because a device that is let in is reported to be there. -/
  warranted : ∀ impulse earlier effect later,
    (link.respond impulse).2 = earlier ++ effect :: later → opens effect = true →
    (impulse.isConnect = true ∨ .connect ∈ link.deferred) ∧
        (∃ before, earlier = before ++ [.call .connect true]) ∨
      impulse.isAdmitted link.peer = true ∧ earlier = []
  /-- A device that is not let in is sent away, and nothing else happens. -/
  refused : ∀ scene report capabilities, link.state.isUp = false → report.isUp = true →
    scene.preferences.admits link.peer = false →
    link.respond (.hand scene (.event (.linkChanged report capabilities))) =
      (link, [.call .disconnect (scene.transport [] .disconnect)])

section Lives

variable [ProfileSession σ ρ τ] [DecidableEq τ] [Outlined ρ]

/-- The transport is asked to connect only upon a request of the user, which may have waited. -/
theorem told_of_connects (hdiscreet : Discreet σ) {link : Link σ ρ τ} (hrest : AtRest link)
    {impulse : Impulse ρ} (hasked : Connects (link.respond impulse).2) :
    impulse.isConnect = true ∨ .connect ∈ link.deferred := by
  by_cases htold : impulse.isConnect = true
  · exact .inl htold
  · cases hwaiting : link.deferred with
    | nil =>
        have hsilent := not_connects_respond hdiscreet hrest.queue hwaiting
          (Bool.not_eq_true _ ▸ htold)
        exact absurd hasked hsilent
    | cons message rest =>
        have hmem : message ∈ link.deferred := hwaiting ▸ List.mem_cons_self ..
        rw [← hrest.deferred message hmem]
        exact .inr (List.mem_cons_self ..)

/-- **A link is guarded throughout its life.** -/
theorem guarded_live (hreserved : Reserved σ) (hcareful : Careful σ) (peer : Address) (session : σ)
    (impulses : List (Impulse ρ)) :
    Guarded ((start peer session : Link σ ρ τ).live impulses).1 := by
  have hrest := atRest_live hcareful rfl (bounded_start peer session) impulses
  constructor
  case announced =>
    intro impulse hdown hup
    have hpast := chronicle_live (ρ := ρ) hreserved peer session impulses
    have hnow := chronicle_live (ρ := ρ) hreserved peer session (impulses ++ [impulse])
    rw [live_snoc] at hnow
    refine exists_opening hnow.fits ?_ ?_
    · rw [hpast.after]
      exact hdown
    · rw [hnow.after]
      exact hup
  case warranted =>
    intro impulse earlier effect later hsplit hopens
    have hbetween := between_live (between_start peer session) impulses
    have hwarrant := warranted_respond hreserved.discreet hbetween impulse earlier effect later
      hsplit hopens
    generalize hadmitted : Impulse.isAdmitted _ impulse = admitted at hwarrant ⊢
    cases hwarrant with
    | heard h => exact .inr ⟨h, rfl⟩
    | granted before =>
        refine .inl ⟨told_of_connects hreserved.discreet hrest ?_, before, rfl⟩
        rw [hsplit, Connects]
        simp [connects]
  case refused =>
    intro scene report capabilities hdown hup hrefused
    exact respond_refused hrest.queue hdown hup hrefused

end Lives

end Link

end AudioLink
