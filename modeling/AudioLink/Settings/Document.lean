/-
**Settings as documents.**

Settings are read from a document in which every part may be missing; a missing part has its
default.  What was read is checked before it is used.

* the instances of `AudioLink.Json.Coded` for the settings;
* `AudioLink.Settings.ofText` — the settings that a text holds, or what is wrong with it.
-/
import AudioLink.Json.Forms
import AudioLink.Json.Reader
import AudioLink.Settings.Validation

set_option relaxedAutoImplicit false
set_option autoImplicit false

namespace AudioLink

open Json (Coded encode decode? orElse record)

/-- A number of milliseconds, or of items, has sixty-four bits. -/
def Json.count? (json : Json) : Option Nat := json.natBelow? UInt64.size

/-- A number that has a default. -/
def Json.countOr (default : Nat) : Option Json → Option Nat
  | none => some default
  | some json => json.count?

instance : Coded StreamSettings where
  encode s := record [("connect_timeout_ms", .int s.connectTimeoutMs)]
  decode? json := do
    let [connectTimeout] ← json.slots ["connect_timeout_ms"] true | none
    return ⟨← Json.countOr StreamSettings.standard.connectTimeoutMs connectTimeout⟩

instance : Coded HandsfreeSettings where
  encode s := record
    [("connect_timeout_ms", .int s.connectTimeoutMs),
      ("call_poll_interval_ms", .int s.pollIntervalMs),
      ("outgoing_call_timeout_ms", .int s.outgoingTimeoutMs),
      ("require_enhanced_call_status", encode s.requireCallStatus),
      ("disable_nrec", encode s.disableNoiseReduction),
      ("audio_route_allowed", encode s.audioRouteAllowed),
      ("accept_retry", encode s.acceptRetry)]
  decode? json := do
    let [connectTimeout, pollInterval, outgoingTimeout, requireCallStatus, disableNoiseReduction,
        audioRouteAllowed, acceptRetry] ← json.slots
      ["connect_timeout_ms", "call_poll_interval_ms", "outgoing_call_timeout_ms",
        "require_enhanced_call_status", "disable_nrec", "audio_route_allowed", "accept_retry"]
      true | none
    let default := HandsfreeSettings.standard
    return ⟨← Json.countOr default.connectTimeoutMs connectTimeout,
      ← Json.countOr default.pollIntervalMs pollInterval,
      ← Json.countOr default.outgoingTimeoutMs outgoingTimeout,
      ← orElse default.requireCallStatus requireCallStatus,
      ← orElse default.disableNoiseReduction disableNoiseReduction,
      ← orElse default.audioRouteAllowed audioRouteAllowed,
      ← orElse default.acceptRetry acceptRetry⟩

instance : Coded LogSettings where
  encode s := record
    [("filter", encode s.filter), ("json", encode s.json), ("peer_spans", encode s.peerSpans)]
  decode? json := do
    let [filter, lines, peerSpans] ← json.slots ["filter", "json", "peer_spans"] true | none
    let default := LogSettings.standard
    return ⟨← orElse default.filter filter, ← orElse default.json lines,
      ← orElse default.peerSpans peerSpans⟩

instance : Coded Settings where
  encode s := record
    [("a2dp", encode s.stream), ("hfp_client", encode s.handsfree),
      ("inbox_capacity", .int s.inboxCapacity), ("logging", encode s.log)]
  decode? json := do
    let [stream, handsfree, inboxCapacity, log] ←
      json.slots ["a2dp", "hfp_client", "inbox_capacity", "logging"] true | none
    let default := Settings.standard
    return ⟨← orElse default.stream stream, ← orElse default.handsfree handsfree,
      ← Json.countOr default.inboxCapacity inboxCapacity, ← orElse default.log log⟩

/-- The settings that a text holds.  What is wrong with the text is left out. -/
def Settings.ofText (text : String) : Except Fault Settings :=
  match ((Json.parse? text).bind decode? : Option Settings) with
  | none => .error (.configuration "Invalid profile configuration: ...")
  | some settings => settings.validate.map fun _ => settings

/-- Settings that were read passed the check. -/
theorem Settings.validate_of_ofText {text : String} {settings : Settings}
    (h : ofText text = .ok settings) : settings.validate = .ok () := by
  unfold ofText at h
  split at h
  · simp at h
  · next found _ =>
      cases hv : found.validate with
      | error fault => simp [hv, Except.map] at h
      | ok checked =>
          simp only [hv, Except.map, Except.ok.injEq] at h
          exact h ▸ hv

end AudioLink
