/-
**Requests that come to nothing.**

A user asks something of a connected device, and the transport refuses whatever command this leads
to.  By then the profile may have done a good deal: a dialled call stands in the roster and was
announced, the next question for the list of calls is put off, a priority was assigned, or the audio
is to be dropped and this is tried once the request is done with.  Each of these ways has to be gone
back by itself, and none of them may be gone back twice.  What matters afterwards is as it was: the
link and its audio, the calls, the pending orders, and what the device last said about its codec and
about voice recognition.  The user hears of every refused command once; and a listener who has heard
of a dialled call hears that this very call has ended.

Main definitions:

* `AudioLink.isTaken`, `AudioLink.isRefused`, `AudioLink.tellsRefusal` — a command that the
  transport takes or refuses, and that the user hears of a refusal;
* `AudioLink.Settles` — what has left the link tells of every refusal once, and of no call but one
  that could not be dialled;
* `AudioLink.Declines` — work that, when all its commands are refused, changes nothing that matters;
* `AudioLink.Link.Declined` — a link on which a request has come to nothing;
* `AudioLink.Stream.matters`, `AudioLink.Handsfree.matters` — what matters of either profile.

Main results:

* `AudioLink.Roster.erase_insert` — a call that is put under a free index and taken away again
  leaves the roster as it was;
* `AudioLink.Handsfree.declines_dial`, `AudioLink.Handsfree.declines_onRequest`,
  `AudioLink.Stream.declines_onRequest` — every request declines;
* `AudioLink.Link.respond_declined` — so does the link when it is handed one;
* `AudioLink.refusals_undone` — **a request of which every command is refused comes to nothing**.
-/

import AudioLink.Proofs.Handsfree.Announcements
import AudioLink.Proofs.Handsfree.Indicators
import AudioLink.Proofs.Link.Rounds

set_option relaxedAutoImplicit false
set_option autoImplicit false

namespace AudioLink

/-! ### What has left the link -/

/-- Whether an effect is a command that the transport takes. -/
def isTaken : Effect → Bool
  | .call (.command _) accepted => accepted
  | _ => false

/-- Whether an effect is a command that the transport refuses. -/
def isRefused : Effect → Bool
  | .call (.command _) accepted => !accepted
  | _ => false

/-- Whether an effect tells the user of a refusal. -/
def tellsRefusal : Effect → Bool
  | .notice (.requestFailed (.rejected _)) => true
  | _ => false

/-- Whether a fault is that the transport refused a command. -/
def Fault.isRejection : Fault → Bool
  | rejected _ => true
  | _ => false

/-- Whether a verdict is that the transport refused a command. -/
def Verdict.isRejection : Verdict → Bool
  | .ok _ => false
  | .error fault => fault.isRejection

/-- The number that a command dials. -/
def Command.dialled? : Command → Option String
  | dial number => some number
  | _ => none

/-- How the log of a request that dials `dialled?` tells of refusals and of calls: of every refusal
once, and of no call, unless one could not be dialled; of that one it tells that it is being dialled
and that it has ended. -/
structure Settles (dialled? : Option String) (log : List Effect) : Prop where
  refusals : log.countP tellsRefusal = log.countP isRefused
  calls : (Handsfree.changes log = [] ∧
      ∀ number, .call (.command (.dial number)) false ∉ log) ∨
    ∃ number call, dialled? = some number ∧ .call (.command (.dial number)) false ∈ log ∧
      call.state = .dialing ∧ Handsfree.changes log = [call, call.ended]

/-- How a request that dials `dialled?` may end, and what leaves the link meanwhile, if every
command is refused. -/
inductive Ends (dialled? : Option String) : Verdict → List Effect → Prop
  /-- There was no command. -/
  | idle {verdict : Verdict} (other : verdict.isRejection = false) : Ends dialled? verdict []
  | refused {command : Command} (text : String) (other : command.dialled? = none) :
      Ends dialled? (.error (.rejected text)) [.call (.command command) false]
  /-- A call was announced, and ended when the command to dial it was refused. -/
  | undialled {number : String} {call : Call} (text : String) (wanted : dialled? = some number)
      (dialing : call.state = .dialing) :
      Ends dialled? (.error (.rejected text)) [Handsfree.announcement call,
        .call (.command (.dial number)) false, Handsfree.announcement call.ended]

section Logs

variable {dialled? : Option String} {log : List Effect}

/-- However a request ends, once the user is told of it, it is settled. -/
theorem Ends.settles {verdict : Verdict} (h : Ends dialled? verdict log) :
    Settles dialled? (log ++ verdict.told) := by
  cases h with
  | idle other =>
      cases verdict with
      | ok _ => exact ⟨rfl, .inl ⟨rfl, fun _ h => nomatch h⟩⟩
      | error fault =>
          cases fault with
          | rejected text => cases other
          | unexpected state event => exact ⟨rfl, .inl ⟨rfl, fun _ h => nomatch h⟩⟩
          | _ => exact ⟨rfl, .inl ⟨rfl, by simp [Verdict.told, Fault.isUnexpected]⟩⟩
  | @refused command text other =>
      refine ⟨rfl, .inl ⟨rfl, fun number hmem => ?_⟩⟩
      rcases List.mem_cons.1 hmem with heq | hmem
      · cases heq
        cases other
      · cases List.mem_singleton.1 hmem
  | @undialled number call text wanted dialing =>
      refine ⟨rfl, .inr ⟨number, call, wanted, ?_, dialing, rfl⟩⟩
      exact List.mem_cons_of_mem _ (List.mem_cons_self ..)

/-- A further refusal of which the user is told tells of no call, unless it is about dialling. -/
theorem Settles.refusal (h : Settles dialled? log) {command : Command}
    (hother : command.dialled? = none) (text : String) :
    Settles dialled?
      (log ++ [.call (.command command) false, .notice (.requestFailed (.rejected text))]) where
  refusals := by
    rw [List.countP_append, List.countP_append, h.refusals]
    rfl
  calls := by
    have hsame : Handsfree.changes (log ++
        [.call (.command command) false, .notice (.requestFailed (.rejected text))]) =
          Handsfree.changes log := by
      rw [Handsfree.changes_append]
      exact List.append_nil _
    rw [hsame]
    refine h.calls.imp ?_ ?_
    · rintro ⟨hquiet, hnone⟩
      refine ⟨hquiet, fun number hmem => ?_⟩
      rcases List.mem_append.1 hmem with hmem | hmem
      · exact hnone number hmem
      · rcases List.mem_cons.1 hmem with heq | hmem
        · cases heq
          cases hother
        · cases List.mem_singleton.1 hmem
    · rintro ⟨number, call, hwanted, hmem, hcall⟩
      exact ⟨number, call, hwanted, List.mem_append_left _ hmem, hcall⟩

end Logs

/-! ### Work that comes to nothing -/

/-- When every command is refused, the work of a request changes nothing that matters, and ends as
it should. -/
def Declines {σ τ κ : Type} (matters : σ → κ) (dialled? : Option String) (work : Work σ τ Verdict) :
    Prop :=
  ∀ view desk, work.Yields view desk fun verdict after => ∃ more, after.log = desk.log ++ more ∧
    (more.any isTaken = true ∨
      matters after.session = matters desk.session ∧ Ends dialled? verdict more)

namespace Declines

variable {σ τ κ : Type} {matters : σ → κ} {dialled? : Option String}

theorem pure {verdict : Verdict} (other : verdict.isRejection = false) :
    Declines matters dialled? (Pure.pure verdict : Work σ τ Verdict) :=
  fun _ desk => ⟨[], (List.append_nil desk.log).symm, .inr ⟨rfl, .idle other⟩⟩

theorem ok : Declines matters dialled? (return .ok () : Work σ τ Verdict) := pure rfl

theorem ite {c : Prop} [Decidable c] {yes no : Work σ τ Verdict}
    (hyes : c → Declines matters dialled? yes) (hno : ¬c → Declines matters dialled? no) :
    Declines matters dialled? (if c then yes else no) := by
  split
  · next h => exact hyes h
  · next h => exact hno h

theorem session {rest : σ → Work σ τ Verdict} (h : ∀ s, Declines matters dialled? (rest s)) :
    Declines matters dialled? (Work.session >>= rest) := fun view desk => h _ view desk

theorem read {rest : View → Work σ τ Verdict} (h : ∀ view, Declines matters dialled? (rest view)) :
    Declines matters dialled? (MonadReader.read >>= rest) := fun view desk => h _ view desk

/-- Something that does not matter is noted first. -/
theorem update {f : σ → σ} (same : ∀ s, matters (f s) = matters s) {rest : Work σ τ Verdict}
    (h : Declines matters dialled? rest) :
    Declines matters dialled? (Work.update f >>= fun _ => rest) := by
  intro view desk
  rw [Work.yields_bind, Work.yields_update]
  refine Work.yields_mono (h view { desk with session := f desk.session }) ?_
  rintro verdict after ⟨more, hlog, hends⟩
  exact ⟨more, hlog, hends.imp_right fun h => ⟨h.1.trans (same desk.session), h.2⟩⟩

end Declines

/-- A command that the transport takes is of no interest, and when it is refused the work ends as
it should. -/
theorem exists_of_sent {σ τ κ : Type} {matters : σ → κ} {dialled? : Option String}
    {verdict : Verdict} {desk after : Desk σ τ} {command : Command} {accepted : Bool}
    (text : String) (hlog : after.log = desk.log ++ [.call (.command command) accepted])
    (hother : command.dialled? = none)
    (hrefused : accepted = false →
      matters after.session = matters desk.session ∧ verdict = .error (.rejected text)) :
    ∃ more, after.log = desk.log ++ more ∧ (more.any isTaken = true ∨
      matters after.session = matters desk.session ∧ Ends dialled? verdict more) := by
  refine ⟨_, hlog, ?_⟩
  cases accepted with
  | true => exact .inl rfl
  | false =>
      obtain ⟨hsame, rfl⟩ := hrefused rfl
      exact .inr ⟨hsame, .refused text hother⟩

/-! ### Links -/

namespace Link

variable {σ ρ τ κ : Type}

/-- A request has come to nothing: the link is as before in all that matters, and what has left it
tells of every refusal. -/
structure Declined (matters : σ → κ) (dialled? : Option String) (link : Link σ ρ τ)
    (after : Progress σ ρ τ) : Prop where
  state : after.link.state = link.state
  audio : after.link.audio = link.audio
  wideband : after.link.wideband = link.wideband
  session : matters after.link.session = matters link.session
  settles : Settles dialled? after.log

/-- Between two errands of a request: a command was taken, or the request comes to nothing so far;
and there is nothing else to do than to drop the audio. -/
structure Declining (matters : σ → κ) (dialled? : Option String) (link : Link σ ρ τ)
    (progress : Progress σ ρ τ) : Prop where
  connected : progress.link.state = .connected
  drops : ∀ errand ∈ progress.link.queue, errand = .message .disconnectAudio
  declined : progress.log.any isTaken = true ∨ Declined matters dialled? link progress

variable [ProfileSession σ ρ τ] [DecidableEq τ] [Outlined ρ] {matters : σ → κ}
  {dialled? : Option String} {link : Link σ ρ τ} {scene : Scene} {progress : Progress σ ρ τ}

/-- To drop the audio after a request is one more command that may be refused. -/
theorem yields_handle_declining {errand : Errand ρ τ} {rest : List (Errand ρ τ)}
    (h : Declining matters dialled? link progress) (hqueue : progress.link.queue = errand :: rest) :
    (handle errand : Step σ ρ τ Unit).Yields scene
      ⟨{ progress.link with queue := rest }, progress.log⟩
      fun _ after => Declining matters dialled? link after := by
  have hdrops : ∀ other ∈ errand :: rest, other = .message .disconnectAudio := by
    rw [← hqueue]
    exact h.drops
  have hrest : ∀ other ∈ rest, other = .message .disconnectAudio :=
    fun other hmem => hdrops other (List.mem_cons_of_mem _ hmem)
  rw [hdrops errand (List.mem_cons_self ..), yields_handle_iff]
  show (onDisconnectAudio : Step σ ρ τ Verdict).Yields scene _ _
  rw [onDisconnectAudio, Step.yields_bind, Step.yields_link, if_neg (not_not.2 h.connected),
    Step.yields_ite]
  split
  · -- the audio is off already
    show Declining matters dialled? link ⟨{ progress.link with queue := rest }, progress.log ++ []⟩
    rw [List.append_nil]
    refine ⟨h.connected, hrest, h.declined.imp_right fun h => ?_⟩
    exact ⟨h.state, h.audio, h.wideband, h.session, h.settles⟩
  · rw [Step.yields_bind, Step.yields_ask]
    cases scene.transport progress.log (.command .disconnectAudio) with
    | true =>
        refine ⟨h.connected, hrest, .inl ?_⟩
        show (progress.log ++ [Effect.call (.command .disconnectAudio) true] ++ []).any isTaken =
          true
        rw [List.append_nil, List.any_append]
        exact Bool.or_true _
    | false =>
        show Declining matters dialled? link ⟨{ progress.link with queue := rest },
          progress.log ++ [.call (.command .disconnectAudio) false] ++
            [.notice (.requestFailed (.rejected "disconnect audio"))]⟩
        rw [List.append_assoc]
        refine ⟨h.connected, hrest, h.declined.imp (fun htaken => ?_) fun h => ?_⟩
        · rw [List.any_append, htaken, Bool.true_or]
        · exact ⟨h.state, h.audio, h.wideband, h.session, h.settles.refusal rfl _⟩

/-- **A connected link that is handed a request declines it**, if the profile does. -/
theorem respond_declined {request : ρ} (queue : link.queue = [])
    (connected : link.state = .connected)
    (hdeclines : Declines matters dialled? (ProfileSession.onRequest request : Work σ τ Verdict))
    (refused : (link.respond (.hand scene (.request request))).2.any isTaken = false) :
    Declined matters dialled? link ⟨(link.respond (.hand scene (.request request))).1,
      (link.respond (.hand scene (.request request))).2⟩ := by
  have hlast : Declining matters dialled? link
      ⟨(link.respond (.hand scene (.request request))).1,
        (link.respond (.hand scene (.request request))).2⟩ := by
    refine respond_hand queue ?_ fun _ _ _ => yields_handle_declining
    rw [yields_handle_iff]
    show (onRequest request : Step σ ρ τ Verdict).Yields scene _ _
    rw [onRequest, Step.yields_bind, Step.yields_link, if_pos connected, Step.yields_consult]
    refine Work.yields_mono (hdeclines _ _) ?_
    rintro verdict desk ⟨more, hlog, hends⟩
    have hlog : desk.log = more := hlog
    refine ⟨connected, ?_, ?_⟩
    · intro errand herrand
      have herrand : errand ∈ link.queue ++ List.replicate desk.drops _ := herrand
      rw [queue, List.nil_append] at herrand
      exact (List.mem_replicate.1 herrand).2
    · show (desk.log ++ verdict.told).any isTaken = true ∨ _
      rw [hlog]
      refine hends.imp (fun htaken => ?_) ?_
      · rw [List.any_append, htaken, Bool.true_or]
      · rintro ⟨hsame, hends⟩
        exact ⟨rfl, rfl, rfl, hsame, hlog ▸ hends.settles⟩
  refine hlast.declined.resolve_left fun htaken => ?_
  cases refused.symm.trans htaken

end Link

/-! ### Streaming -/

namespace Stream

/-- What a refused request to a streaming device must not touch: the pending orders, and what the
device last said about its codec. -/
def matters (s : Stream) : List (Pending Order) × Option CodecStatus := (s.ledger.pending, s.status)

theorem declines_issue (dialled? : Option String) (order : Order) :
    Declines matters dialled? (issue order) := by
  intro view desk
  rw [yields_issue]
  refine exists_of_sent (describe order) rfl (by cases order <;> rfl) fun hrefused => ?_
  rw [hrefused]
  exact ⟨rfl, rfl⟩

/-- What is worked out from the priorities is sent, if there is anything to send. -/
theorem declines_issueAny (order : List CodecConfig → Order) (configs : Option (List CodecConfig)) :
    Declines matters none
      (match configs with
        | some configs => Stream.issue (order configs)
        | none => return .ok ()) := by
  cases configs with
  | some configs => exact declines_issue none _
  | none => exact .ok

/-- **Every request to a streaming device declines.** -/
theorem declines_onRequest (request : Request) :
    Declines matters none (ProfileSession.onRequest (σ := Stream) request) := by
  cases request with
  | preferCodec config =>
      refine .session fun s => ?_
      cases config.decision s.status with
      | apply configs => exact declines_issue none _
      | unchanged => exact .ok
      | incomplete | notSelectable => exact .pure rfl
  | enableOptional =>
      refine .read fun view => .session fun s => ?_
      cases s.table.enableOptional view.preferences.codecs s.current with
      | mk configs table =>
          exact .update (f := fun s => { s with table := table }) (fun _ => rfl)
            (declines_issueAny .enableOptional configs)
  | disableOptional =>
      refine .read fun view => .session fun s => ?_
      cases s.table.disableOptional view.preferences.codecs s.current with
      | mk configs table =>
          exact .update (f := fun s => { s with table := table }) (fun _ => rfl)
            (declines_issueAny .disableOptional configs)

end Stream

/-! ### Handsfree -/

namespace Roster

/-- A call under a free index is placed where it can be taken away again. -/
theorem filter_place {call : Call} {calls : List Call} (hnew : ∀ c ∈ calls, c.index ≠ call.index) :
    (place call calls).filter (·.index != call.index) = calls := by
  have hkept : calls.filter (·.index != call.index) = calls :=
    List.filter_eq_self.2 fun c hc => bne_iff_ne.2 (hnew c hc)
  induction calls with
  | nil => simp [place]
  | cons other rest ih =>
      have hother : (other.index != call.index) = true :=
        bne_iff_ne.2 (hnew other (List.mem_cons_self ..))
      have hrest : ∀ c ∈ rest, c.index ≠ call.index :=
        fun c hc => hnew c (List.mem_cons_of_mem _ hc)
      rw [place]
      split
      · rw [List.filter_cons_of_neg (by simp)]
        exact hkept
      · rw [if_neg (Ne.symm (hnew other (List.mem_cons_self ..))), List.filter_cons, if_pos hother]
        refine congrArg (other :: ·) (ih hrest ?_)
        exact List.filter_eq_self.2 fun c hc => bne_iff_ne.2 (hrest c hc)

/-- **A call that is put under a free index and taken away again leaves the roster as it was.** -/
theorem erase_insert {r : Roster} {call : Call} (hnew : r.get? call.index = none) :
    (r.insert call).erase call.index = r := by
  have hfree : ∀ c ∈ r.calls, c.index ≠ call.index := by
    intro c hc heq
    rw [← heq, get?_of_mem hc] at hnew
    cases hnew
  cases r with
  | mk calls sorted => exact (Roster.mk.injEq ..).mpr (filter_place hfree)

end Roster

/-- A call that is dialled and given up leaves the roster as it was, and is handed back as ended. -/
theorem Survey.abandon_dial {s entered : Survey} {number : String} {now : Instant} {call : Call}
    (hdial : s.dial number now = .ok (call, entered)) :
    entered.abandon.1 = some call.ended ∧ entered.abandon.2.roster = s.roster := by
  obtain ⟨hnone, hcall, rfl⟩ := dial_eq_ok hdial
  have hindex : call.index = .localOrigin := by
    rw [hcall]
    rfl
  constructor
  · show ((s.roster.insert call).get? .localOrigin).map Call.ended = some call.ended
    rw [Roster.get?_insert, if_pos hindex]
    rfl
  · show (s.roster.insert call).erase .localOrigin = s.roster
    rw [← hindex]
    refine Roster.erase_insert ?_
    rw [hindex]
    exact hnone

namespace Handsfree

/-- What a refused request to a gateway must not touch: the calls, the pending orders, and whether
voice recognition is on. -/
def matters (s : Handsfree) : Roster × List (Pending Order) × Bool :=
  (s.roster, s.ledger.pending, s.voiceRecognition)

/-- The number that a request dials. -/
def Request.dialled? : Request → Option String
  | dial number => some number
  | _ => none

section Work

variable {dialled? : Option String}

theorem declines_issue {order : Order} (hother : order.command.dialled? = none) :
    Declines matters dialled? (issue order) := by
  intro view desk
  rw [yields_issue]
  refine exists_of_sent (describe order) rfl hother fun hrefused => ?_
  rw [hrefused]
  exact ⟨rfl, rfl⟩

/-- The question for the list of calls is put off, or put when nothing that matters has changed. -/
theorem declines_queryCalls : Declines matters dialled? queryCalls := by
  intro view desk
  have hputOff : ∀ deadline, ∃ more, (putOff desk deadline).log = desk.log ++ more ∧
      (more.any isTaken = true ∨ matters (putOff desk deadline).session = matters desk.session ∧
        Ends dialled? (.ok ()) more) :=
    fun _ => ⟨[], (List.append_nil _).symm, .inr ⟨rfl, .idle rfl⟩⟩
  rw [yields_queryCalls]
  split
  · exact hputOff _
  · split
    · exact hputOff _
    · exact declines_issue rfl view (asking desk view.now)

/-- **A call that cannot be dialled is taken out of the roster again.** -/
theorem declines_dial (number : String) : Declines matters (some number) (dial number) := by
  intro view desk
  rw [yields_dial]
  split
  · exact Declines.pure rfl view desk
  · split
    · next fault hfault =>
        -- dialling fails only because another call is being dialled
        rw [Survey.dial] at hfault
        split at hfault
        · cases hfault
          exact Declines.pure rfl view desk
        · cases hfault
    · next call entered hdial =>
        obtain ⟨hended, hroster⟩ := Survey.abandon_dial hdial
        rw [yields_issue]
        cases view.transport (Handsfree.entered desk call entered).log
            (.command (Order.dial number).command) with
        | true =>
            -- what comes of it is of no interest any more
            have hquery : Declines matters none queryCalls := declines_queryCalls
            refine Work.yields_mono (hquery view _) ?_
            rintro _ after ⟨more, hlog, -⟩
            have hdialled := hlog.trans
              (by rw [Handsfree.entered, List.append_assoc, List.append_assoc])
            exact ⟨_, hdialled, .inl rfl⟩
        | false =>
            show abandonDial.Yields view _ _
            rw [yields_abandonDial]
            refine ⟨[announcement call, .call (.command (.dial number)) false,
              announcement call.ended], ?_, .inr ⟨?_, .undialled _ rfl ?_⟩⟩
            · show desk.log ++ [_] ++ [_] ++ entered.abandon.1.toList.map announcement = _
              rw [hended, List.append_assoc, List.append_assoc]
              rfl
            · exact congrArg (·, desk.session.ledger.pending, desk.session.voiceRecognition) hroster
            · obtain ⟨-, rfl, -⟩ := Survey.dial_eq_ok hdial
              rfl

theorem declines_control {operation : String} {choose : Roster → Option CallControl}
    {order : CallControl → Order}
    (hother : ∀ action, (order action).command.dialled? = none) :
    Declines matters dialled? (control operation choose order) := by
  refine .session fun s => ?_
  cases choose s.roster with
  | none => exact .pure rfl
  | some action => exact declines_issue (hother action)

theorem declines_requiring {ability : UInt32} {operation : String}
    {next : Work Handsfree AlarmKind Verdict} (hnext : Declines matters dialled? next) :
    Declines matters dialled? (requiring ability operation next) :=
  .session fun _ => .ite (fun _ => hnext) fun _ => .pure rfl

theorem declines_setVoiceRecognition (active : Bool) :
    Declines matters dialled? (setVoiceRecognition active) := by
  refine .session fun s => .ite (fun _ => .pure rfl) fun _ => .ite (fun _ => .ok) fun _ => ?_
  cases active with
  | true => exact declines_issue rfl
  | false => exact declines_issue rfl

/-- What only echoes the gateway is noted, and nothing is sent. -/
theorem declines_setVolume (channel : VolumeChannel) (level : Nat) :
    Declines matters dialled? (setVolume channel level) := by
  refine .ite (fun _ => .pure rfl) fun _ => .session fun s => .ite (fun _ => ?_) fun _ => ?_
  · refine .update (fun s => ?_) .ok
    cases channel <;> rfl
  · exact declines_issue rfl

/-- Whether the sound of calls may come here does not matter, and dropping the audio comes later. -/
theorem declines_allowAudioRoute (allowed : Bool) :
    Declines matters dialled? (do
      allowAudioRoute allowed
      return .ok ()) := by
  intro view desk
  rw [allowAudioRoute, Work.yields_bind, Work.yields_bind, Work.yields_read, Work.yields_bind,
    Work.yields_update, Work.yields_ite]
  split
  · exact ⟨[], (List.append_nil _).symm, .inr ⟨rfl, .idle rfl⟩⟩
  · exact ⟨[], (List.append_nil _).symm, .inr ⟨rfl, .idle rfl⟩⟩

/-- **Every request to a gateway declines.** -/
theorem declines_onRequest (request : Request) :
    Declines matters request.dialled? (onRequest request) := by
  cases request with
  | dial number => exact declines_dial number
  | accept mode => exact declines_control fun _ => rfl
  | reject => exact declines_control fun _ => rfl
  | hold => exact declines_control fun _ => rfl
  | terminate number =>
      have hending : Declines matters none (control "terminate" (·.terminate number) .terminate) :=
        declines_control fun _ => rfl
      exact .ite (fun _ => declines_requiring hending) fun _ => hending
  | privateMode number => exact declines_requiring (declines_control fun _ => rfl)
  | transfer => exact declines_requiring (declines_control fun _ => rfl)
  | sendTone code => exact .ite (fun _ => declines_issue rfl) fun _ => .pure rfl
  | startVoiceRecognition => exact declines_setVoiceRecognition true
  | stopVoiceRecognition => exact declines_setVoiceRecognition false
  | setSpeakerVolume level => exact declines_setVolume .speaker level
  | setMicrophoneVolume level => exact declines_setVolume .microphone level
  | allowAudioRoute allowed => exact declines_allowAudioRoute allowed
  | queryCalls => exact declines_queryCalls
  | queryOperator => exact declines_issue rfl

end Work

end Handsfree

/-! ### Both profiles -/

/-- **A request of which every command is refused comes to nothing.**  Whatever was done to a link
of either profile before, if it is connected and handed a request, and the transport takes none of
the commands that this leads to, then link and audio are as before, and so is what matters of the
profile; the user is told of every refusal once; and a call is announced only if it could not be
dialled, once as being dialled and once as ended. -/
theorem refusals_undone (peer : Address) (scene : Scene) :
    (∀ (settings : StreamSettings) (impulses : List (Impulse Stream.Request))
      (request : Stream.Request),
      let link := ((Link.start peer (Stream.start settings)).live impulses).1
      let told := link.respond (.hand scene (.request request))
      link.state = .connected → told.2.any isTaken = false →
        Link.Declined Stream.matters none link ⟨told.1, told.2⟩) ∧
    (∀ (settings : HandsfreeSettings) (issuer : Nat) (impulses : List (Impulse Handsfree.Request))
      (request : Handsfree.Request),
      let link := ((Link.start peer (Handsfree.start settings issuer)).live impulses).1
      let told := link.respond (.hand scene (.request request))
      link.state = .connected → told.2.any isTaken = false →
        Link.Declined Handsfree.matters request.dialled? link ⟨told.1, told.2⟩) :=
  ⟨fun _ impulses request connected refused => Link.respond_declined (Link.queue_live rfl impulses)
      connected (Stream.declines_onRequest request) refused,
    fun _ _ impulses request connected refused => Link.respond_declined
      (Link.queue_live rfl impulses) connected (Handsfree.declines_onRequest request) refused⟩

/-- A scene in which the transport takes nothing. -/
def unwilling (now : Instant) : Scene := ⟨now, fun _ _ => false, .empty⟩

/-- A device that streams is connected. -/
def Stream.introduction : List (Impulse Stream.Request) :=
  [.hand (Handsfree.obliging 0) .connect,
    .hand (Handsfree.obliging 1) (.event (.linkChanged .connected .none))]

/-- The user wants the optional codecs of a device, and dials a number on a gateway, and the
transport refuses both. -/
theorem refusals_undone_unwilling :
    let player := ((Link.start Handsfree.fresh.peer (Stream.start Settings.standard.stream)).live
      Stream.introduction).1
    let heard := player.respond (.hand (unwilling 5) (.request .enableOptional))
    let gateway := (Handsfree.fresh.live Handsfree.introduction).1
    let told := gateway.respond (.hand (unwilling 5) (.request (.dial "5551")))
    player.state = .connected ∧ heard.2.any isTaken = false ∧ heard.2.any isRefused = true ∧
      Link.Declined Stream.matters none player ⟨heard.1, heard.2⟩ ∧
      gateway.state = .connected ∧ told.2.any isTaken = false ∧ told.2.any isRefused = true ∧
      Link.Declined Handsfree.matters (some "5551") gateway ⟨told.1, told.2⟩ := by
  intro player heard gateway told
  have hplayer : player.state = .connected := by
    show (Link.live _ _).1.state = _
    rw [Link.live_eq_get 1 rfl]
    rfl
  have hheard : heard.2.any isTaken = false ∧ heard.2.any isRefused = true := by
    show (Link.respond (Link.live _ _).1 _).2.any isTaken = false ∧
      (Link.respond (Link.live _ _).1 _).2.any isRefused = true
    rw [Link.live_eq_get 1 rfl, Link.respond_eq_get 1 rfl]
    exact ⟨rfl, rfl⟩
  have htold : told.2.any isTaken = false ∧ told.2.any isRefused = true := by
    show (Link.respond (Link.live _ _).1 _).2.any isTaken = false ∧
      (Link.respond (Link.live _ _).1 _).2.any isRefused = true
    rw [Handsfree.live_introduction, Link.respond_eq_get 1 rfl]
    exact ⟨rfl, rfl⟩
  obtain ⟨hstream, hhandsfree⟩ := refusals_undone Handsfree.fresh.peer (unwilling 5)
  refine ⟨hplayer, hheard.1, hheard.2, hstream _ _ .enableOptional hplayer hheard.1,
    Handsfree.state_introduction, htold.1, htold.2, ?_⟩
  exact hhandsfree _ _ _ (.dial "5551") Handsfree.state_introduction htold.1

end AudioLink
