/-
**Streaming.**

The profile of a link that streams to a device.  It follows which codec the device negotiated and
whether the stream plays, and turns what the user wants of the codecs into lists for the device.

* `AudioLink.Stream.Request`, `AudioLink.Stream.Order` — what the user may ask, and what is
  pending with the device;
* `AudioLink.Stream` — the state of the profile;
* the instance of `AudioLink.ProfileSession` — what it does on each occasion.
-/
import AudioLink.Codec.Preference
import AudioLink.Desk
import AudioLink.Ledger
import AudioLink.Settings.Basic

set_option relaxedAutoImplicit false
set_option autoImplicit false

namespace AudioLink

/-- What the user may ask of a streaming device. -/
inductive Stream.Request where
  | preferCodec (config : CodecConfig)
  | enableOptional
  | disableOptional
  deriving DecidableEq, Repr

instance : Outlined Stream.Request where
  outline
    | .preferCodec config => .tuple "SetCodecPreference" [Outlined.outline config]
    | .enableOptional => .word "EnableOptionalCodecs"
    | .disableOptional => .word "DisableOptionalCodecs"

/-- A list of configurations that the device has not answered, with the reason it was sent. -/
inductive Stream.Order where
  | preferCodec (configs : List CodecConfig)
  | enableOptional (configs : List CodecConfig)
  | disableOptional (configs : List CodecConfig)
  deriving DecidableEq, Repr

namespace Stream.Order

/-- The command that carries an order. -/
def command : Order → Command
  | preferCodec configs | enableOptional configs | disableOptional configs =>
      .preferCodecs configs

instance : Outlined Order where
  outline
    | preferCodec configs => .tuple "SetCodecPreference" [Outlined.outline configs]
    | enableOptional configs => .tuple "EnableOptionalCodecs" [Outlined.outline configs]
    | disableOptional configs => .tuple "DisableOptionalCodecs" [Outlined.outline configs]

end Stream.Order

/-- The state of the profile of a streaming link. -/
structure Stream where
  settings : StreamSettings
  /-- The priorities assigned last. -/
  table : CodecTable
  ledger : Ledger Stream.Order
  /-- What the device last said about its codec. -/
  status : Option CodecStatus
  playing : Bool

namespace Stream

/-- A profile that nothing has happened to. -/
def start (settings : StreamSettings) : Stream := ⟨settings, .empty, .empty, none, false⟩

/-- The configuration in use. -/
def current (s : Stream) : Option CodecConfig := s.status.map (·.config)

/-- An order is sent and, once the transport has taken it, pending. -/
def issue (order : Order) : Work Stream Empty Verdict := do
  let accepted ← Work.send order.command
  let now ← Work.now
  let (verdict, ledger) := (← Work.session).ledger.issue order now accepted
  Work.update fun s => { s with ledger := ledger }
  return verdict

/-! ### Events -/

/-- The device negotiated a codec.  The media path starts anew when it is fed differently. -/
def onCodecChanged (status : CodecStatus) : Work Stream Empty Unit := do
  let reroute := CodecConfig.needsReroute (← Work.session).current status.config
  Work.announce (.codecChanged status)
  if reroute then Work.announce (.audioRoute (.streamReconfigured status.config))
  Work.update fun s => { s with status := some status }

/-- The device answered a command; only failures are announced. -/
def onCommandResult (outcome : Outcome) (code : Option Nat) : Work Stream Empty Unit := do
  let (order, ledger) := (← Work.session).ledger.resolve
  Work.update fun s => { s with ledger := ledger }
  if order.isSome && !outcome.isOk then Work.announce (.commandResult outcome code)

/-- The stream starts or stops playing with the audio. -/
def onAudio (current : AudioState) : Work Stream Empty Unit := do
  let playing := current == .on
  if playing ≠ (← Work.session).playing then
    Work.update fun s => { s with playing := playing }
    Work.announce (.playingChanged playing)

/-! ### Requests -/

/-- The user wants one configuration. -/
def preferCodec (config : CodecConfig) : Work Stream Empty Verdict := do
  match config.decision (← Work.session).status with
  | .apply configs => issue (.preferCodec configs)
  | .unchanged => return .ok ()
  | .incomplete => return .error (.codecRejected "codec negotiation incomplete")
  | .notSelectable => return .error (.codecRejected (config.render ++ " is not selectable"))

/-- The user switches the optional codecs on. -/
def enableOptional : Work Stream Empty Verdict := do
  let view ← read
  let s ← Work.session
  let (configs, table) := s.table.enableOptional view.preferences.codecs s.current
  Work.update fun s => { s with table := table }
  match configs with
  | some configs => issue (.enableOptional configs)
  | none => return .ok ()

/-- The user switches the optional codecs off. -/
def disableOptional : Work Stream Empty Verdict := do
  let view ← read
  let s ← Work.session
  let (configs, table) := s.table.disableOptional view.preferences.codecs s.current
  Work.update fun s => { s with table := table }
  match configs with
  | some configs => issue (.disableOptional configs)
  | none => return .ok ()

/-! ### The profile -/

instance : ProfileSession Stream Stream.Request Empty where
  profile := .stream
  patience s := s.settings.connectTimeout
  onLinkUp _ s := (true, s)
  onConnected := do
    Work.update fun s => { s with playing := false }
    Work.announce (.playingChanged false)
  onDisconnected :=
    Work.update fun s => { s with ledger := s.ledger.clear, status := none, playing := false }
  onAudioChanged _ current _ := onAudio current
  onEvent
    | .codecChanged status => do
        onCodecChanged status
        return .ok ()
    | .commandResult outcome code => do
        onCommandResult outcome code
        return .ok ()
    | event => do
        let view ← read
        return .error (.unexpected view.link event.title)
  onRequest
    | .preferCodec config => preferCodec config
    | .enableOptional => enableOptional
    | .disableOptional => disableOptional
  onAlarm kind := nomatch kind

end Stream

end AudioLink
