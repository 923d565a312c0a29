/-
**The written forms of the values of a link.**

* the instances of `AudioLink.Json.Coded` for addresses, capabilities, codec configurations and
  their status, the places of calls, call control, and the retry policy.
-/
import AudioLink.Address
import AudioLink.Call.Control
import AudioLink.Capabilities
import AudioLink.Codec.Config
import AudioLink.Json.Coded

set_option relaxedAutoImplicit false
set_option autoImplicit false

namespace AudioLink.Json

/-- An address is the array of its octets. -/
instance : Coded Address where
  encode a := encode a.octets
  decode? json := do
    let octets : List UInt8 ← decode? json
    if h : octets.length = 6 then some ⟨octets, h⟩ else none

instance : Coded Capabilities where
  encode c := record [("features", encode c.features), ("call_hold", encode c.callHold)]
  decode? json := do
    let [features, callHold] ← json.slots ["features", "call_hold"] false | none
    return ⟨← required features, ← required callHold⟩

/-! ### Codecs -/

/-- A mask is the number of its bits. -/
instance : Coded Mask where
  encode m := encode m.bits
  decode? json := (decode? json).map Mask.mk

/-- The bounds of a priority. -/
def priority? (json : Json) : Option Int := json.intWithin? (-2147483648) 2147483647

/-- The bounds of a number that only the codec itself understands. -/
def parameter? (json : Json) : Option Int :=
  json.intWithin? (-9223372036854775808) 9223372036854775807

/-- The four numbers that only the codec itself understands. -/
def parameters? : Json → Option (Vector Int 4)
  | array [a, b, c, d] => do
      return #v[← parameter? a, ← parameter? b, ← parameter? c, ← parameter? d]
  | _ => none

instance : Coded CodecConfig where
  encode c := record
    [("codec_type", encode c.codec), ("priority", int c.priority),
      ("sample_rate", encode c.rate), ("bits_per_sample", encode c.depth),
      ("channel_mode", encode c.channels),
      ("codec_specific", array (c.parameters.toList.map int))]
  decode? json := do
    let [codec, priority, rate, depth, channels, parameters] ← json.slots
      ["codec_type", "priority", "sample_rate", "bits_per_sample", "channel_mode",
        "codec_specific"] false | none
    return ⟨← required codec, ← priority.bind priority?, ← required rate, ← required depth,
      ← required channels, ← parameters.bind parameters?⟩

instance : Coded CodecStatus where
  encode s := record
    [("config", encode s.config), ("selectable", encode s.selectable),
      ("local_capabilities", encode s.localCapabilities)]
  decode? json := do
    let [config, selectable, localCapabilities] ←
      json.slots ["config", "selectable", "local_capabilities"] false | none
    return ⟨← required config, ← required selectable, ← required localCapabilities⟩

/-! ### Calls -/

/-- The numbers of calls are below this bound. -/
def callNumberBound : Nat := UInt32.size

instance : Coded CallIndex where
  encode
    | .localOrigin => text (some "LocalOrigin")
    | .peer n => record [("Peer", int n)]
  decode? json :=
    match json.unitName? with
    | some name => if name = "LocalOrigin" then some .localOrigin else none
    | none =>
        match json.numbered? callNumberBound with
        | some (name, n) => if name = "Peer" then some (.peer n) else none
        | none => none

instance : Coded CallControl where
  encode c := match c.number? with
    | none => text (some c.title)
    | some n => record [(c.title, int n)]
  decode? json :=
    match json.unitName? with
    | some name => CallControl.ofTitle? name
    | none =>
        (json.numbered? callNumberBound).bind fun (name, n) =>
          CallControl.ofTitleAndNumber? name n

instance : Coded AcceptRetry where
  encode p := record [("incoming", encode p.incoming), ("waiting", encode p.waiting)]
  decode? json := do
    let [incoming, waiting] ← json.slots ["incoming", "waiting"] false | none
    return ⟨← optional incoming, ← optional waiting⟩

end AudioLink.Json
