/-
**Which settings are usable.**

A bound of zero would leave a link waiting for ever or not at all, so that settings are checked
before they are used.

* `AudioLink.Settings.problem?` — the first thing that is wrong with settings;
* `AudioLink.Settings.validate` — the fault it amounts to;
* `AudioLink.LogSettings.install` — taking up the log settings, which a process can do only once;
* `AudioLink.Settings.withStreamTimeout` and its companions — settings changed from lengths of
  time.
-/
import AudioLink.Fault
import AudioLink.Settings.Basic
import AudioLink.Settings.LogFilter

set_option relaxedAutoImplicit false
set_option autoImplicit false

namespace AudioLink

namespace LogSettings

/-- A filter that is none is the only thing that can be wrong with log settings.  What is wrong
inside the filter is left out. -/
def validate (s : LogSettings) : Except Fault Unit :=
  if LogFilter.isValid s.filter then .ok ()
  else .error (.configuration ("Invalid log filter '" ++ s.filter ++ "': ..."))

/-- The log settings are taken up.  They are checked first; then this fails if messages are
logged already. -/
def install (s : LogSettings) (logging : Bool) : Except Fault Unit := do
  s.validate
  if logging then .error (.configuration "Failed to install subscriber: ...") else .ok ()

end LogSettings

namespace Settings

/-- The first thing that is wrong with the bounds. -/
def problem? (s : Settings) : Option String :=
  if s.stream.connectTimeoutMs = 0 ∨ s.handsfree.connectTimeoutMs = 0 then
    some "connect timeouts must be non-zero"
  else if s.handsfree.pollIntervalMs = 0 then some "call poll interval must be non-zero"
  else if s.handsfree.outgoingTimeoutMs = 0 then some "outgoing call timeout must be non-zero"
  else if s.inboxCapacity = 0 then some "inbox capacity must be non-zero"
  else none

/-- The bounds are checked before the log settings. -/
def validate (s : Settings) : Except Fault Unit :=
  match s.problem? with
  | some problem => .error (.configuration problem)
  | none => s.log.validate

/-- Nothing is wrong with the bounds exactly when none of them is zero. -/
theorem problem?_eq_none_iff {s : Settings} :
    s.problem? = none ↔ 0 < s.stream.connectTimeoutMs ∧ 0 < s.handsfree.connectTimeoutMs ∧
      0 < s.handsfree.pollIntervalMs ∧ 0 < s.handsfree.outgoingTimeoutMs ∧
      0 < s.inboxCapacity := by
  unfold problem?
  split
  · simp only [reduceCtorEq, false_iff]; omega
  · split
    · simp only [reduceCtorEq, false_iff]; omega
    · split
      · simp only [reduceCtorEq, false_iff]; omega
      · split
        · simp only [reduceCtorEq, false_iff]; omega
        · simp only [true_iff]; omega

theorem problem?_standard : standard.problem? = none := rfl

/-- Nothing is wrong with usable settings. -/
theorem problem?_of_validate {s : Settings} (h : s.validate = .ok ()) : s.problem? = none := by
  rw [validate] at h
  split at h
  · cases h
  · assumption

/-- Usable settings leave either profile some time to connect. -/
theorem connectTimeout_pos {s : Settings} (h : s.validate = .ok ()) :
    0 < s.stream.connectTimeout ∧ 0 < s.handsfree.connectTimeout := by
  obtain ⟨hstream, hhandsfree, -⟩ := problem?_eq_none_iff.1 (problem?_of_validate h)
  have hunit : 0 < Text.millisecond := by decide
  exact ⟨Nat.mul_pos hstream hunit, Nat.mul_pos hhandsfree hunit⟩

/-- They leave some time between two questions about the calls. -/
theorem pollInterval_pos {s : Settings} (h : s.validate = .ok ()) :
    0 < s.handsfree.pollInterval := by
  obtain ⟨-, -, hpoll, -⟩ := problem?_eq_none_iff.1 (problem?_of_validate h)
  have hunit : 0 < Text.millisecond := by decide
  exact Nat.mul_pos hpoll hunit

/-! ### Changing a setting -/

/-- The milliseconds of a length of time, as they are kept in sixty-four bits. -/
def keptMillis (d : Duration) : Nat := d.toMillis % UInt64.size

/-- The settings with another bound on connecting to a streaming device. -/
def withStreamTimeout (s : Settings) (timeout : Duration) : Settings :=
  { s with stream := { s.stream with connectTimeoutMs := keptMillis timeout } }

/-- The settings with another bound on connecting to a gateway. -/
def withHandsfreeTimeout (s : Settings) (timeout : Duration) : Settings :=
  { s with handsfree := { s.handsfree with connectTimeoutMs := keptMillis timeout } }

/-- The settings with another time between two questions about the calls. -/
def withPollInterval (s : Settings) (interval : Duration) : Settings :=
  { s with handsfree := { s.handsfree with pollIntervalMs := keptMillis interval } }

/-- The settings with other alternatives for accepting a call. -/
def withAcceptRetry (s : Settings) (policy : AcceptRetry) : Settings :=
  { s with handsfree := { s.handsfree with acceptRetry := policy } }

end Settings

end AudioLink
