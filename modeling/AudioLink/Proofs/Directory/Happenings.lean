/-
**What happens in the hall.**

Whatever move is made, one of a few things happens: a client comes in or goes to its next stage, a
message is put into an inbox by a client or by the reaper, a message is handled, a worker hands back
its messages, or nothing happens that concerns a message.  They are gone through once, here; what
holds of the hall at any moment is then a matter of these.

Main definitions:

* `AudioLink.Hall.Posted` — the books agree with the inboxes and with what was handled;
* `AudioLink.Hall.Sound` — what holds of the hall at any moment;
* `AudioLink.Hall.Happens` — what may happen in a sound hall, and what the hall is afterwards.

Main results:

* `AudioLink.Hall.exists_first`, `AudioLink.Hall.ofWorker_filter` — the books, when a client is struck
  out, or all clients of a worker;
* `AudioLink.Hall.Sound.happens` — **whatever move is made in a sound hall, one of these things
  happens**.
-/

import AudioLink.Proofs.Directory.Retiring

set_option relaxedAutoImplicit false
set_option autoImplicit false

namespace AudioLink

variable {σ ρ τ : Type}

namespace Directory

variable {d : Directory σ ρ τ} {i : Nat}

theorem Open.isClosed_eq (h : d.Open i) : d.isClosed i = false := by
  obtain ⟨w, hw, hopen⟩ := h
  simp [isClosed, hw, hopen]

theorem Stopped.isClosed_eq (h : d.Stopped i) : d.isClosed i = true := by
  obtain ⟨w, hw, hclosed⟩ := h
  simp [isClosed, hw, hclosed]

end Directory

namespace Hall

variable {h h' : Hall σ ρ τ}

/-! ### The books -/

theorem ofWorker_append (i : Nat) (book more : List (Nat × Nat)) :
    ofWorker i (book ++ more) = ofWorker i book ++ ofWorker i more := by
  rw [ofWorker, List.filter_append, List.map_append]
  rfl

theorem ofWorker_single (i j k : Nat) : ofWorker i [(j, k)] = if i = j then [k] else [] := by
  by_cases heq : i = j
  · simp [ofWorker, heq]
  · simp [ofWorker, heq, Ne.symm heq]

/-- The first client that is written down for a worker is struck out. -/
theorem exists_first {book : List (Nat × Nat)} {i k : Nat} {rest : List Nat}
    (hfirst : ofWorker i book = k :: rest) :
    ∃ before after, book = before ++ (i, k) :: after ∧ (∀ pair ∈ before, pair.1 ≠ i) ∧
      book.find? (·.1 == i) = some (i, k) ∧ book.eraseP (·.1 == i) = before ++ after := by
  induction book with
  | nil => cases hfirst
  | cons pair book ih =>
      obtain ⟨j, l⟩ := pair
      by_cases heq : j = i
      · subst heq
        have hkl : l = k := by
          simp only [ofWorker, List.filter_cons, BEq.rfl, if_true, List.map_cons] at hfirst
          exact (List.cons.inj hfirst).1
        subst hkl
        exact ⟨[], book, rfl, nofun, by simp, by simp⟩
      · have hskip : ofWorker i book = k :: rest := by
          simpa [ofWorker, heq] using hfirst
        obtain ⟨before, after, hbook, hbefore, hfind, herase⟩ := ih hskip
        refine ⟨(j, l) :: before, after, by rw [hbook]; rfl, ?_, ?_, ?_⟩
        · intro pair hpair
          rcases List.mem_cons.1 hpair with rfl | hold
          · exact heq
          · exact hbefore pair hold
        · simpa [heq] using hfind
        · simpa [heq] using herase

/-- Striking out the first client of one worker strikes out no client of another. -/
theorem ofWorker_first {before after : List (Nat × Nat)} {i j k : Nat}
    (hskipped : ∀ pair ∈ before, pair.1 ≠ i) :
    ofWorker j (before ++ (i, k) :: after) =
      if j = i then k :: ofWorker j (before ++ after) else ofWorker j (before ++ after) := by
  rw [ofWorker_append, ofWorker_append]
  by_cases hji : j = i
  · subst hji
    have hnone : ofWorker j before = [] := by
      rw [ofWorker, List.filter_eq_nil_iff.2 fun pair hpair => by simpa using hskipped pair hpair]
      rfl
    rw [hnone, if_pos rfl]
    simp [ofWorker]
  · simp [hji, ofWorker, Ne.symm hji]

/-- When all clients of one worker are struck out, those of another stay. -/
theorem ofWorker_filter (i j : Nat) (book : List (Nat × Nat)) :
    ofWorker j (book.filter (·.1 != i)) = if j = i then [] else ofWorker j book := by
  rw [ofWorker, List.filter_filter]
  split
  · next heq =>
      subst heq
      rw [List.filter_eq_nil_iff.2 (by simp)]
      rfl
  · next hne =>
      refine congrArg _ (List.filter_congr fun pair _ => ?_)
      by_cases hpair : pair.1 = j
      · simp [hpair, hne]
      · simp [hpair]

/-- The books agree with the inboxes and with what was handled. -/
structure Posted (h : Hall σ ρ τ) : Prop where
  waiting : ∀ i, List.Forall₂ (h.Bears i) (h.waitingFor i) (h.directory.letters i)
  served : List.Forall₂ (fun (served : Nat × Nat) (handled : Nat × Message ρ) =>
    served.1 = handled.1 ∧ h.Bears served.1 served.2 handled.2) h.served h.directory.handled

/-! ### What holds at any moment -/

/-- What holds of the hall at any moment. -/
structure Sound (h : Hall σ ρ τ) : Prop where
  kept : h.directory.Kept
  fresh : Plan.Fresh h.directory
  /-- Every client is at some stage. -/
  routing : ∀ client ∈ h.clients,
    Plan.Routing h.directory client.peer client.message client.plan
  /-- A client whose message was put into an inbox was told that all went well. -/
  told : ∀ k ∈ h.handed, h.result? k = some (.ok ())
  posted : Posted h
  /-- The reaper is at some stage, and carries the messages that are written down. -/
  round : ∃ carried, Plan.OnRound h.directory h.reaper carried ∧
    List.Forall₂ h.Wants h.held carried
  /-- Every message that was put into an inbox is somewhere, and in one place only. -/
  placed : h.handed.Perm h.line
  once : h.handed.Nodup

/-- What may happen in a sound hall, and what the hall is afterwards. -/
inductive Happens (h : Hall σ ρ τ) : Hall σ ρ τ → Prop
  | nothing : Happens h h
  | come (peer : Address) (message : Message ρ) : Happens h (h.arrive peer message)
  /-- Nobody is disturbed. -/
  | still {d : Directory σ ρ τ} (still : Directory.Still h.directory d) (kept : d.Kept) :
      Happens h { h with directory := d }
  /-- A client goes to its next stage. -/
  | visit {k : Nat} {client : Client σ ρ τ} {plan : Plan σ ρ τ (Except Fault Unit)}
      {d : Directory σ ρ τ} (there : h.clients[k]? = some client) (new : k ∉ h.handed)
      (still : Directory.Still h.directory d) (kept : d.Kept)
      (routing : Plan.Routing d client.peer client.message plan) :
      Happens h { h with directory := d, clients := h.clients.set k { client with plan := plan } }
  /-- A client puts its message into the inbox of a worker of the device. -/
  | put {k i : Nat} {client : Client σ ρ τ} {w : Worker σ ρ τ} (there : h.clients[k]? = some client)
      (new : k ∉ h.handed) (known : h.directory.Knows client.peer i)
      (worker : h.directory.workers[i]? = some w) (takes : w.closed = false) :
      Happens h { h with
        directory := h.directory.push i w (.message client.message)
        clients := h.clients.set k { client with plan := .finished (.ok ()) }
        handed := h.handed ++ [k]
        waiting := h.waiting ++ [(i, k)] }
  /-- The reaper goes to its next stage; or a worker tells it that it goes on. -/
  | round {plan : Plan σ ρ τ Nat} {d : Directory σ ρ τ} {carried : List (Address × Message ρ)}
      (calm : Directory.Calm h.directory d) (kept : d.Kept) (fresh : Plan.Fresh d)
      (stage : Plan.OnRound d plan carried) (held : List.Forall₂ h.Wants h.held carried) :
      Happens h { h with directory := d, reaper := plan }
  /-- The reaper puts the first message that it holds into the inbox of a worker of the device. -/
  | place {k i : Nat} {held : List Nat} {w : Worker σ ρ τ} {peer : Address} {message : Message ρ}
      {rest : List (Address × Message ρ)} {plan : Plan σ ρ τ Nat} (first : h.held = k :: held)
      (wants : h.Wants k (peer, message)) (others : List.Forall₂ h.Wants held rest)
      (known : h.directory.Knows peer i) (worker : h.directory.workers[i]? = some w)
      (takes : w.closed = false)
      (stage : Plan.OnRound (h.directory.push i w (.message message)) plan rest) :
      Happens h { h with
        directory := h.directory.push i w (.message message)
        reaper := plan
        waiting := h.waiting ++ [(i, k)]
        held := held }
  /-- A worker handles the first message of its inbox. -/
  | serve {i k : Nat} {message : Message ρ} {before after : List (Nat × Nat)}
      {d : Directory σ ρ τ} (quiet : Directory.Quiet h.directory d) (kept : d.Kept)
      (letters : ∀ j, h.directory.letters j =
        if j = i then message :: d.letters j else d.letters j)
      (handled : d.handled = h.directory.handled ++ [(i, message)])
      (first : h.waiting = before ++ (i, k) :: after) (skipped : ∀ pair ∈ before, pair.1 ≠ i)
      (bears : h.Bears i k message) :
      Happens h { h with
        directory := d, waiting := before ++ after, served := h.served ++ [(i, k)] }
  /-- A worker retires, and hands back the messages in its inbox. -/
  | handBack {i : Nat} {peer : Address} {d : Directory σ ρ τ}
      (onward : Directory.Onward h.directory d) (kept : d.Kept) (fresh : Plan.Fresh d)
      (letters : ∀ j, d.letters j = if j = i then [] else h.directory.letters j)
      (handled : d.handled = h.directory.handled) (known : h.directory.Knows peer i)
      (stage : Plan.OnRound d h.reaper ((h.directory.letters i).map (peer, ·)))
      (none : h.held = []) :
      Happens h { h with
        directory := d
        waiting := h.waiting.filter (·.1 != i)
        held := h.waitingFor i }

namespace Sound

variable (hsound : Sound h)

include hsound

/-! ### Clients -/

/-- A client whose message was put into an inbox has finished, and does nothing any more. -/
theorem not_handed {k : Nat} {client : Client σ ρ τ} (hclient : h.clients[k]? = some client)
    {after : Plan σ ρ τ (Except Fault Unit) × Directory σ ρ τ}
    (hadvance : client.plan.advance h.directory = some after) : k ∉ h.handed := by
  intro hk
  obtain ⟨other, hother, hresult⟩ := Option.bind_eq_some_iff.1 (hsound.told k hk)
  cases hclient.symm.trans hother
  cases hplan : client.plan with
  | finished result =>
      rw [hplan] at hadvance
      cases hadvance
  | _ =>
      rw [hplan] at hresult
      cases hresult

theorem happens_proceed (k : Nat) : Happens h (h.proceed k) := by
  rw [proceed]
  cases hclient : h.clients[k]? with
  | none => exact .nothing
  | some client =>
      cases hadvance : client.plan.advance h.directory with
      | none =>
          simp only [hadvance]
          exact .nothing
      | some after =>
          obtain ⟨plan, d⟩ := after
          simp only [hadvance]
          have hnew := hsound.not_handed hclient hadvance
          have hstage := hsound.routing client (List.mem_of_getElem? hclient)
          rcases hstage.advance hsound.kept hadvance with
            ⟨hputs, hstill, hkept, hplan⟩ | ⟨i, w, hputs, hknown, hw, hopen, rfl, rfl⟩
          · simp only [hputs]
            exact .visit hclient hnew hstill hkept hplan
          · simp only [hputs]
            exact .put hclient hnew hknown hw hopen

/-! ### The reaper -/

theorem happens_reap : Happens h h.reap := by
  rw [reap]
  split
  · next hfinished =>
      obtain ⟨carried, hround, hheld⟩ := hsound.round
      exact .round (Directory.Still.refl h.directory).calm hsound.kept hsound.fresh
        (hround.setOut hfinished) hheld
  · exact .nothing

theorem happens_goOn : Happens h h.goOn := by
  rw [goOn]
  cases hadvance : h.reaper.advance h.directory with
  | none => exact .nothing
  | some after =>
      obtain ⟨plan, d⟩ := after
      obtain ⟨carried, hround, hheld⟩ := hsound.round
      rcases hround.advance hsound.kept hsound.fresh hadvance with
        ⟨hputs, hcalm, hkept, hfresh, hround'⟩ |
        ⟨i, w, peer, message, rest, hputs, rfl, hknown, hw, hopen, rfl, hround'⟩
      · simp only [hputs]
        exact .round hcalm hkept hfresh hround' hheld
      · cases hkheld : h.held with
        | nil =>
            rw [hkheld] at hheld
            cases hheld
        | cons k held =>
            rw [hkheld] at hheld
            obtain ⟨hwants, hrest⟩ := List.forall₂_cons.1 hheld
            simp only [hputs]
            exact .place hkheld hwants hrest hknown hw hopen hround'

/-! ### The clock and the workers -/

theorem happens_pass (duration : Duration) : Happens h (h.pass duration) := by
  have hkept := hsound.kept
  exact .still ⟨.of_workers_eq rfl, fun _ h => h, rfl, rfl, rfl, fun _ => rfl, fun _ h => .inl h⟩
    ⟨hkept.unique, hkept.known, hkept.listed, hkept.emptied⟩

variable [ProfileSession σ ρ τ] [DecidableEq τ] [Outlined ρ]

theorem happens_wake (s : Surroundings) (i : Nat) : Happens h (h.wake s i) := by
  rw [wake]
  rcases h.directory.wake_cases s i with heq | ⟨w, hw, hopen, -, heq⟩
  · rw [heq]
    exact .nothing
  · rw [heq]
    exact .still (Directory.still_wake s hw hopen)
      ((Directory.replaced_wake s hw hopen).kept hsound.kept)

/-- A worker handles the first message of its inbox. -/
theorem happens_turn_message (s : Surroundings) {i : Nat} {w : Worker σ ρ τ} {m : Message ρ}
    {rest : List (Item ρ)} (hw : h.directory.workers[i]? = some w)
    (hinbox : w.inbox = .message m :: rest) : Happens h (h.turn s i) := by
  obtain ⟨hopen, hreplaced⟩ := Directory.replaced_turn s hsound.kept hw hinbox
  generalize hresult : h.directory.enter i
    (w.handle (h.directory.scene s w.link.peer) (.message m) rest) = result at hreplaced
  obtain ⟨hquiet, hletters, hhandled⟩ := Directory.quiet_turn hinbox hresult.symm hreplaced hopen
  have hturn : h.directory.turn s i = result := (Directory.turn_eq s hw hinbox).trans hresult
  have hthere := hsound.posted.waiting i
  rw [hletters] at hthere
  obtain ⟨k, waiting, hbears, hrest, hwaiting⟩ := List.forall₂_cons_right_iff.1 hthere
  obtain ⟨before, after, hbook, hskipped, hfind, herase⟩ := exists_first hwaiting
  have heq : h.turn s i = { h with
      directory := result, waiting := before ++ after, served := h.served ++ [(i, k)] } := by
    have hfirst : h.directory.inbox i = .message m :: rest :=
      (Directory.inbox_eq hw).trans hinbox
    rw [turn, hfirst, hturn]
    simp only [hfind, herase]
    rfl
  rw [heq]
  refine .serve hquiet (hreplaced.kept hsound.kept) (fun j => ?_) hhandled hbook hskipped hbears
  split
  · next hji => exact hji ▸ hletters
  · next hne => rw [Directory.letters, Directory.letters, hreplaced.inbox_other hne]

/-- A worker replies to the reaper. -/
theorem happens_turn_other (s : Surroundings) {i : Nat} {w : Worker σ ρ τ} {item : Item ρ}
    {rest : List (Item ρ)} (hw : h.directory.workers[i]? = some w) (hinbox : w.inbox = item :: rest)
    (hother : item.message? = none) : Happens h (h.turn s i) := by
  obtain ⟨hopen, hreplaced⟩ := Directory.replaced_turn s hsound.kept hw hinbox
  generalize hresult : h.directory.enter i
    (w.handle (h.directory.scene s w.link.peer) item rest) = result at hreplaced
  have hturn : h.directory.turn s i = result := (Directory.turn_eq s hw hinbox).trans hresult
  have hfirst : h.directory.inbox i = item :: rest := (Directory.inbox_eq hw).trans hinbox
  have heq : h.turn s i = if result.isClosed i then { h with
      directory := result
      waiting := h.waiting.filter (·.1 != i)
      held := h.held ++ h.waitingFor i } else { h with directory := result } := by
    rw [turn, hfirst, hturn]
    cases item with
    | message m => cases hother
    | question question ticket => rfl
    | stop => rfl
  rw [heq]
  obtain ⟨carried, hround, hheld⟩ := hsound.round
  obtain ⟨rfl, hfresh, hhandled, hanswer⟩ :=
    hround.answer hsound.fresh hw hinbox hother hresult.symm hreplaced hopen
  have hnone : h.held = [] := List.forall₂_nil_right_iff.1 hheld
  have hsame {j : Nat} (hne : j ≠ i) : result.letters j = h.directory.letters j := by
    rw [Directory.letters, Directory.letters, hreplaced.inbox_other hne]
  -- the worker goes on, or it retires and hands back what waits for it
  rcases hanswer with ⟨hstays, hletters, hround'⟩ | ⟨hstopped, hletters, peer, hknown, hround'⟩
  · rw [if_neg (Bool.eq_false_iff.1 hstays.isClosed_eq)]
    refine .round ⟨hreplaced.onward, fun j => ?_, hhandled⟩ (hreplaced.kept hsound.kept) hfresh
      hround' hheld
    by_cases hji : j = i
    · exact hji ▸ hletters
    · exact hsame hji
  · rw [if_pos hstopped.isClosed_eq, hnone, List.nil_append]
    refine .handBack hreplaced.onward (hreplaced.kept hsound.kept) hfresh (fun j => ?_) hhandled
      hknown hround' hnone
    split
    · next hji => exact hji ▸ hletters
    · next hne => exact hsame hne

theorem happens_turn (s : Surroundings) (i : Nat) : Happens h (h.turn s i) := by
  rcases h.directory.turn_cases s i with ⟨hempty, -⟩ | ⟨w, item, rest, hw, hinbox, -⟩
  · have hsame : h.turn s i = h := by rw [turn, hempty]
    rw [hsame]
    exact .nothing
  · cases hitem : item.message? with
    | none => exact hsound.happens_turn_other s hw hinbox hitem
    | some m =>
        cases item with
        | message m => exact hsound.happens_turn_message s hw hinbox
        | question question ticket => cases hitem
        | stop => cases hitem

/-- **Whatever move is made in a sound hall, one of these things happens.** -/
theorem happens (move : Move ρ) : Happens h (h.step move) := by
  cases move with
  | arrive peer message => exact .come peer message
  | proceed client => exact hsound.happens_proceed client
  | reap => exact hsound.happens_reap
  | goOn => exact hsound.happens_goOn
  | turn s worker => exact hsound.happens_turn s worker
  | wake s worker => exact hsound.happens_wake s worker
  | pass duration => exact hsound.happens_pass duration

end Sound

end Hall

end AudioLink
