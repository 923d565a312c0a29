/-
**Reading what was written.**

Every type has its own rules for how its values are written in a document and read from one.  They
go together by one law: a value that fits is read as it was written, and whatever is read fits.
Numbers fit within the bounds with which they are read, and what is made of parts fits if all of its
parts do.  No value is written like a missing one; therefore a part that may be missing needs no
rule of its own.

Main definitions:

* `AudioLink.Json.Readable` — the law, and which values fit.

Main results:

* `AudioLink.Json.encode_injective` — two values that fit are not written alike;
* `AudioLink.Json.slots_record` — the slots of a record that was written are its parts;
* the instances of `AudioLink.Json.Readable`, from numbers and texts up to the settings — **what is
  read is what was written**;
* `AudioLink.Settings.decode?_encode_of_ofText` — settings that were read from a text are read again
  as they are.
-/

import AudioLink.Proofs.Defaults

set_option relaxedAutoImplicit false
set_option autoImplicit false

namespace AudioLink

namespace Json

/-! ### The law -/

/-- A type whose values are read as they were written, if they fit. -/
class Readable (α : Type) [Coded α] where
  /-- The value is within the bounds with which it is read. -/
  Fits : α → Prop
  /-- A value is not written like a missing one. -/
  encode_ne_null : ∀ a : α, encode a ≠ null
  decode?_encode : ∀ {a : α}, Fits a → decode? (encode a) = some a
  fits_of_decode? : ∀ {json : Json} {a : α}, decode? json = some a → Fits a

open Readable (Fits encode_ne_null decode?_encode fits_of_decode?)

section Law

variable {α : Type} [Coded α] [Readable α] {json : Json} {part : Option Json} {default a b : α}
  {o : Option α}

/-- **Two values that fit are not written alike.** -/
theorem encode_injective (ha : Fits a) (hb : Fits b) (h : encode a = encode b) : a = b := by
  have hread := decode?_encode ha
  rw [h, decode?_encode hb] at hread
  exact (Option.some.inj hread).symm

/-- What was read may be written, and is read again as it is. -/
theorem decode?_encode_of_decode? (h : decode? json = some a) : decode? (encode a) = some a :=
  decode?_encode (fits_of_decode? h)

/-! ### Parts of records -/

theorem required_encode (ha : Fits a) : required (some (encode a)) = some a := decode?_encode ha

theorem orElse_encode (ha : Fits a) : orElse default (some (encode a)) = some a :=
  decode?_encode ha

theorem optional_encode (ho : ∀ a ∈ o, Fits a) : optional (some (encode o)) = some o := by
  cases o with
  | none => rfl
  | some a =>
      show optional (some (encode a)) = some (some a)
      unfold optional
      split
      · next hnone => cases hnone
      · next hnull => exact absurd (Option.some.inj hnull) (encode_ne_null a)
      · next json _ hjson =>
          obtain rfl := Option.some.inj hjson
          rw [decode?_encode (ho a rfl), Option.map_some]

theorem fits_of_required (h : required part = some a) : Fits a := by
  obtain ⟨json, -, hjson⟩ := Option.bind_eq_some_iff.1 h
  exact fits_of_decode? hjson

theorem fits_of_orElse (hdefault : Fits default) (h : orElse default part = some a) : Fits a := by
  cases part with
  | none => exact Option.some.inj h ▸ hdefault
  | some json => exact fits_of_decode? h

theorem fits_of_optional (h : optional part = some o) : ∀ a ∈ o, Fits a := by
  intro a ha
  unfold optional at h
  split at h
  · cases h; cases ha
  · cases h; cases ha
  · obtain ⟨b, hb, rfl⟩ := Option.map_eq_some_iff.1 h
    exact Option.mem_some.1 ha ▸ fits_of_decode? hb

end Law

theorem labels?_record (fields : List (String × Json)) :
    labels? (fields.map fun (label, value) => (some label, value)) = some (fields.map (·.1)) := by
  induction fields with
  | nil => rfl
  | cons field fields ih =>
      rw [labels?, List.map_cons, List.mapM_cons, ← labels?, ih]
      rfl

/-- **The slots of a record that was written are its parts.** -/
theorem slots_record {names : List String} {fields : List (String × Json)}
    (hnames : fields.map (·.1) = names) (hnodup : names.Nodup) (lenient : Bool) :
    (record fields).slots names lenient = some (fields.map fun field => some field.2) := by
  subst hnames
  have hcount (label : String) : (fields.map (·.1)).count label ≤ 1 :=
    List.nodup_iff_count_le_one.1 hnodup label
  have hfound : ∀ field ∈ fields, find? (fields.map fun (label, value) => (some label, value))
      field.1 = some field.2 := by
    intro field hfield
    refine (find?_eq_some_iff ?_).2 (List.mem_map.2 ⟨field, hfield, rfl⟩)
    rw [map_fst_of_labels? (labels?_record fields),
      List.count_map_of_injective _ _ (fun _ _ => Option.some.inj)]
    exact hcount field.1
  simp only [record, slots, labels?_record, Option.bind_eq_bind, Option.bind_some]
  rw [if_pos (List.all_eq_true.2 fun label _ => decide_eq_true (hcount label)), List.map_map]
  exact congrArg some (List.map_congr_left hfound)

/-! ### Numbers within bounds -/

section Bounds

variable {json : Json} {bound n : Nat} {low high k : Int}

theorem natBelow?_int (h : n < bound) : (int n).natBelow? bound = some n := if_pos h

theorem lt_of_natBelow? (h : json.natBelow? bound = some n) : n < bound := by
  unfold natBelow? at h
  split at h
  · obtain ⟨hbound, hn⟩ := Option.ite_none_right_eq_some.1 h
    exact Option.some.inj hn ▸ hbound
  · cases h

theorem intWithin?_int (h : low ≤ k ∧ k ≤ high) : (int k).intWithin? low high = some k := if_pos h

theorem within_of_intWithin? (h : json.intWithin? low high = some k) : low ≤ k ∧ k ≤ high := by
  unfold intWithin? at h
  split at h
  · obtain ⟨hbounds, hk⟩ := Option.ite_none_right_eq_some.1 h
    exact Option.some.inj hk ▸ hbounds
  · cases h

theorem lt_of_numbered? {name : String} (h : json.numbered? bound = some (name, n)) :
    n < bound := by
  unfold numbered? at h
  split at h
  · obtain ⟨m, hm, hpair⟩ := Option.map_eq_some_iff.1 h
    exact (Prod.mk.inj hpair).2 ▸ lt_of_natBelow? hm
  · cases h

end Bounds

/-! ### Simple values -/

instance : Readable Bool where
  Fits _ := True
  encode_ne_null _ := nofun
  decode?_encode _ := rfl
  fits_of_decode? _ := trivial

instance : Readable String where
  Fits _ := True
  encode_ne_null _ := nofun
  decode?_encode _ := rfl
  fits_of_decode? _ := trivial

instance : Readable Nat where
  Fits _ := True
  encode_ne_null _ := nofun
  decode?_encode _ := rfl
  fits_of_decode? _ := trivial

instance : Readable Int where
  Fits _ := True
  encode_ne_null _ := nofun
  decode?_encode _ := rfl
  fits_of_decode? _ := trivial

instance : Readable Char where
  Fits _ := True
  encode_ne_null _ := nofun
  decode?_encode _ := by simp [encode, decode?, text?]
  fits_of_decode? _ := trivial

/-- A value is found again by its name. -/
instance {α : Type} [Named α] : Readable α where
  Fits _ := True
  encode_ne_null _ := nofun
  decode?_encode _ := Named.ofName?_name _
  fits_of_decode? _ := trivial

instance : Readable UInt8 where
  Fits _ := True
  encode_ne_null _ := nofun
  decode?_encode {n} _ := by
    simp only [encode, decode?, natBelow?_int n.toNat_lt, Option.map_some, UInt8.ofNat_toNat]
  fits_of_decode? _ := trivial

instance : Readable UInt32 where
  Fits _ := True
  encode_ne_null _ := nofun
  decode?_encode {n} _ := by
    simp only [encode, decode?, natBelow?_int n.toNat_lt, Option.map_some, UInt32.ofNat_toNat]
  fits_of_decode? _ := trivial

/-- A list fits if its items do. -/
instance {α : Type} [Coded α] [Readable α] : Readable (List α) where
  Fits items := ∀ a ∈ items, Fits a
  encode_ne_null _ := nofun
  decode?_encode {items} h := by
    show (items.map encode).mapM decode? = some items
    induction items with
    | nil => rfl
    | cons a items ih =>
        obtain ⟨ha, hitems⟩ := List.forall_mem_cons.1 h
        rw [List.map_cons, List.mapM_cons, decode?_encode ha, ih hitems]
        rfl
  fits_of_decode? {json items} h := by
    cases json with
    | array parts =>
        have hparts : parts.mapM decode? = some items := h
        clear h
        induction parts generalizing items with
        | nil =>
            cases hparts
            exact List.forall_mem_nil _
        | cons part parts ih =>
            rw [List.mapM_cons] at hparts
            obtain ⟨a, ha, hrest⟩ := Option.bind_eq_some_iff.1 hparts
            obtain ⟨rest, hall, heq⟩ := Option.bind_eq_some_iff.1 hrest
            cases heq
            exact List.forall_mem_cons.2 ⟨fits_of_decode? ha, ih hall⟩
    | _ => cases h

/-! ### Addresses, capabilities and codecs -/

instance : Readable Address where
  Fits _ := True
  encode_ne_null _ := nofun
  decode?_encode {address} _ := by
    have hread : decode? (encode address.octets) = some address.octets :=
      decode?_encode fun _ _ => trivial
    show (decode? (encode address.octets)).bind _ = _
    rw [hread, Option.bind_some, dif_pos address.length_octets]
  fits_of_decode? _ := trivial

instance : Readable Capabilities where
  Fits _ := True
  encode_ne_null _ := nofun
  decode?_encode {c} _ := by
    have hslots : (encode c).slots ["features", "call_hold"] false =
        some [some (encode c.features), some (encode c.callHold)] :=
      slots_record (by rfl) (by decide) false
    have hfeatures := required_encode (a := c.features) trivial
    have hcallHold := required_encode (a := c.callHold) trivial
    simp only [decode?, hslots, Option.bind_eq_bind, Option.bind_some, hfeatures, hcallHold]
    rfl
  fits_of_decode? _ := trivial

instance : Readable Mask where
  Fits _ := True
  encode_ne_null _ := nofun
  decode?_encode {m} _ := congrArg (Option.map Mask.mk) (decode?_encode (a := m.bits) trivial)
  fits_of_decode? _ := trivial

/-- A number that only the codec itself understands has sixty-four bits. -/
def FitsParameter (n : Int) : Prop := -9223372036854775808 ≤ n ∧ n ≤ 9223372036854775807

theorem parameters?_array {numbers : Vector Int 4} (h : ∀ n ∈ numbers, FitsParameter n) :
    parameters? (array (numbers.toList.map int)) = some numbers := by
  obtain ⟨⟨items⟩, hsize⟩ := numbers
  match items, hsize with
  | [a, b, c, d], _ =>
      simp only [Vector.mem_mk, List.mem_toArray, List.forall_mem_cons, FitsParameter] at h
      obtain ⟨ha, hb, hc, hd, -⟩ := h
      simp [parameters?, parameter?, intWithin?_int ha, intWithin?_int hb, intWithin?_int hc,
        intWithin?_int hd]

theorem fits_of_parameters? {json : Json} {numbers : Vector Int 4}
    (h : parameters? json = some numbers) : ∀ n ∈ numbers, FitsParameter n := by
  unfold parameters? at h
  split at h
  · simp only [parameter?, Option.bind_eq_bind, Option.bind_eq_some_iff] at h
    obtain ⟨a, ha, b, hb, c, hc, d, hd, heq⟩ := h
    cases heq
    simp [FitsParameter, within_of_intWithin? ha, within_of_intWithin? hb,
      within_of_intWithin? hc, within_of_intWithin? hd]
  · cases h

/-- The priority of a configuration has thirty-two bits. -/
instance : Readable CodecConfig where
  Fits c := (-2147483648 ≤ c.priority ∧ c.priority ≤ 2147483647) ∧
    ∀ n ∈ c.parameters, FitsParameter n
  encode_ne_null _ := nofun
  decode?_encode {c} h := by
    obtain ⟨hpriority, hparameters⟩ := h
    have hslots : (encode c).slots ["codec_type", "priority", "sample_rate", "bits_per_sample",
        "channel_mode", "codec_specific"] false = some [some (encode c.codec),
          some (int c.priority), some (encode c.rate), some (encode c.depth),
          some (encode c.channels), some (array (c.parameters.toList.map int))] :=
      slots_record (by rfl) (by decide) false
    have hcodec := required_encode (a := c.codec) trivial
    have hrate := required_encode (a := c.rate) trivial
    have hdepth := required_encode (a := c.depth) trivial
    have hchannels := required_encode (a := c.channels) trivial
    simp only [decode?, hslots, Option.bind_eq_bind, Option.bind_some, hcodec, hrate, hdepth,
      hchannels, priority?, intWithin?_int hpriority, parameters?_array hparameters]
    rfl
  fits_of_decode? {json c} h := by
    simp only [decode?, Option.bind_eq_bind, Option.bind_eq_some_iff] at h
    obtain ⟨parts, -, h⟩ := h
    split at h
    · simp only [Option.bind_eq_some_iff] at h
      obtain ⟨codec, -, priority, ⟨number, -, hpriority⟩, rate, -, depth, -, channels, -,
        parameters, ⟨numbers, -, hparameters⟩, heq⟩ := h
      cases heq
      exact ⟨within_of_intWithin? hpriority, fits_of_parameters? hparameters⟩
    · cases h

instance : Readable CodecStatus where
  Fits s := Fits s.config ∧ Fits s.selectable ∧ Fits s.localCapabilities
  encode_ne_null _ := nofun
  decode?_encode {s} h := by
    obtain ⟨hconfig, hselectable, hcapabilities⟩ := h
    have hslots : (encode s).slots ["config", "selectable", "local_capabilities"] false =
        some [some (encode s.config), some (encode s.selectable),
          some (encode s.localCapabilities)] :=
      slots_record (by rfl) (by decide) false
    simp only [decode?, hslots, Option.bind_eq_bind, Option.bind_some, required_encode hconfig,
      required_encode hselectable, required_encode hcapabilities]
    rfl
  fits_of_decode? {json s} h := by
    simp only [decode?, Option.bind_eq_bind, Option.bind_eq_some_iff] at h
    obtain ⟨parts, -, h⟩ := h
    split at h
    · simp only [Option.bind_eq_some_iff] at h
      obtain ⟨config, hconfig, selectable, hselectable, capabilities, hcapabilities, heq⟩ := h
      cases heq
      exact ⟨fits_of_required hconfig, fits_of_required hselectable,
        fits_of_required hcapabilities⟩
    · cases h

/-! ### Calls -/

instance : Readable CallIndex where
  Fits index := ∀ n, index = .peer n → n < callNumberBound
  encode_ne_null index := by cases index <;> nofun
  decode?_encode {index} h := by
    cases index with
    | localOrigin => rfl
    | peer n =>
        simp [encode, decode?, record, unitName?, numbered?, natBelow?_int (h n rfl)]
  fits_of_decode? {json index} h := by
    rintro n rfl
    simp only [decode?] at h
    split at h
    · split at h <;> cases h
    · split at h
      · next name k hnumbered =>
          obtain ⟨-, heq⟩ := Option.ite_none_right_eq_some.1 h
          cases heq
          exact lt_of_numbered? hnumbered
      · cases h

instance : Readable CallControl where
  Fits c := ∀ n ∈ c.number?, n < callNumberBound
  encode_ne_null c := by
    cases hnumber : c.number? <;> simp [encode, hnumber, record]
  decode?_encode {c} h := by
    cases hnumber : c.number? with
    | none => simp [encode, decode?, hnumber, unitName?, CallControl.ofTitle?_title hnumber]
    | some n =>
        simp [encode, decode?, hnumber, record, unitName?, numbered?, natBelow?_int (h n hnumber),
          CallControl.ofTitleAndNumber?_title hnumber]
  fits_of_decode? {json c} h := by
    intro n hn
    simp only [decode?] at h
    split at h
    · cases (CallControl.title_of_ofTitle? h).1.symm.trans hn
    · obtain ⟨⟨name, k⟩, hnumbered, hc⟩ := Option.bind_eq_some_iff.1 h
      cases (CallControl.title_of_ofTitleAndNumber? hc).1.symm.trans hn
      exact lt_of_numbered? hnumbered

/-- A policy fits if the actions in it do. -/
instance : Readable AcceptRetry where
  Fits p := (∀ c ∈ p.incoming, Fits c) ∧ ∀ c ∈ p.waiting, Fits c
  encode_ne_null _ := nofun
  decode?_encode {p} h := by
    obtain ⟨hincoming, hwaiting⟩ := h
    have hslots : (encode p).slots ["incoming", "waiting"] false =
        some [some (encode p.incoming), some (encode p.waiting)] :=
      slots_record (by rfl) (by decide) false
    simp only [decode?, hslots, Option.bind_eq_bind, Option.bind_some,
      optional_encode hincoming, optional_encode hwaiting]
    rfl
  fits_of_decode? {json p} h := by
    simp only [decode?, Option.bind_eq_bind, Option.bind_eq_some_iff] at h
    obtain ⟨parts, -, h⟩ := h
    split at h
    · simp only [Option.bind_eq_some_iff] at h
      obtain ⟨incoming, hincoming, waiting, hwaiting, heq⟩ := h
      cases heq
      exact ⟨fits_of_optional hincoming, fits_of_optional hwaiting⟩
    · cases h

theorem fits_standardRetry : Fits AcceptRetry.standard := by
  constructor
  · rintro c ⟨⟩ n ⟨⟩
  · rintro c ⟨⟩ n ⟨⟩

/-! ### Settings -/

theorem countOr_int {default n : Nat} (h : n < UInt64.size) :
    countOr default (some (int n)) = some n :=
  natBelow?_int h

theorem lt_of_countOr {default n : Nat} {part : Option Json} (hdefault : default < UInt64.size)
    (h : countOr default part = some n) : n < UInt64.size := by
  cases part with
  | none => exact Option.some.inj h ▸ hdefault
  | some json => exact lt_of_natBelow? h

instance : Readable StreamSettings where
  Fits s := s.connectTimeoutMs < UInt64.size
  encode_ne_null _ := nofun
  decode?_encode {s} h := by
    have hslots : (encode s).slots ["connect_timeout_ms"] true =
        some [some (int s.connectTimeoutMs)] :=
      slots_record (by rfl) (by decide) true
    simp only [decode?, hslots, Option.bind_eq_bind, Option.bind_some, countOr_int h]
    rfl
  fits_of_decode? {json s} h := by
    simp only [decode?, Option.bind_eq_bind, Option.bind_eq_some_iff] at h
    obtain ⟨parts, -, h⟩ := h
    split at h
    · simp only [Option.bind_eq_some_iff] at h
      obtain ⟨connect, hconnect, heq⟩ := h
      cases heq
      exact lt_of_countOr (by decide) hconnect
    · cases h

theorem fits_standardStream : Fits StreamSettings.standard :=
  show StreamSettings.standard.connectTimeoutMs < UInt64.size by decide

instance : Readable HandsfreeSettings where
  Fits s := s.connectTimeoutMs < UInt64.size ∧ s.pollIntervalMs < UInt64.size ∧
    s.outgoingTimeoutMs < UInt64.size ∧ Fits s.acceptRetry
  encode_ne_null _ := nofun
  decode?_encode {s} h := by
    obtain ⟨hconnect, hpoll, houtgoing, hretry⟩ := h
    have hslots : (encode s).slots ["connect_timeout_ms", "call_poll_interval_ms",
        "outgoing_call_timeout_ms", "require_enhanced_call_status", "disable_nrec",
        "audio_route_allowed", "accept_retry"] true = some [some (int s.connectTimeoutMs),
          some (int s.pollIntervalMs), some (int s.outgoingTimeoutMs),
          some (encode s.requireCallStatus), some (encode s.disableNoiseReduction),
          some (encode s.audioRouteAllowed), some (encode s.acceptRetry)] :=
      slots_record (by rfl) (by decide) true
    have hswitch {default b : Bool} : orElse default (some (encode b)) = some b :=
      orElse_encode trivial
    simp only [decode?, hslots, Option.bind_eq_bind, Option.bind_some, countOr_int hconnect,
      countOr_int hpoll, countOr_int houtgoing, hswitch, orElse_encode hretry]
    rfl
  fits_of_decode? {json s} h := by
    simp only [decode?, Option.bind_eq_bind, Option.bind_eq_some_iff] at h
    obtain ⟨parts, -, h⟩ := h
    split at h
    · simp only [Option.bind_eq_some_iff] at h
      obtain ⟨connect, hconnect, poll, hpoll, outgoing, houtgoing, require, -, disable, -, allowed,
        -, retry, hretry, heq⟩ := h
      cases heq
      exact ⟨lt_of_countOr (by decide) hconnect, lt_of_countOr (by decide) hpoll,
        lt_of_countOr (by decide) houtgoing, fits_of_orElse fits_standardRetry hretry⟩
    · cases h

theorem fits_standardHandsfree : Fits HandsfreeSettings.standard :=
  ⟨by decide, by decide, by decide, fits_standardRetry⟩

instance : Readable LogSettings where
  Fits _ := True
  encode_ne_null _ := nofun
  decode?_encode {s} _ := by
    have hslots : (encode s).slots ["filter", "json", "peer_spans"] true =
        some [some (encode s.filter), some (encode s.json), some (encode s.peerSpans)] :=
      slots_record (by rfl) (by decide) true
    have hswitch {default b : Bool} : orElse default (some (encode b)) = some b :=
      orElse_encode trivial
    have hfilter {default : String} : orElse default (some (encode s.filter)) = some s.filter :=
      orElse_encode trivial
    simp only [decode?, hslots, Option.bind_eq_bind, Option.bind_some, hfilter, hswitch]
    rfl
  fits_of_decode? _ := trivial

instance : Readable Settings where
  Fits s := Fits s.stream ∧ Fits s.handsfree ∧ s.inboxCapacity < UInt64.size
  encode_ne_null _ := nofun
  decode?_encode {s} h := by
    obtain ⟨hstream, hhandsfree, hcapacity⟩ := h
    have hslots : (encode s).slots ["a2dp", "hfp_client", "inbox_capacity", "logging"] true =
        some [some (encode s.stream), some (encode s.handsfree), some (int s.inboxCapacity),
          some (encode s.log)] :=
      slots_record (by rfl) (by decide) true
    have hlog {default : LogSettings} : orElse default (some (encode s.log)) = some s.log :=
      orElse_encode trivial
    simp only [decode?, hslots, Option.bind_eq_bind, Option.bind_some, orElse_encode hstream,
      orElse_encode hhandsfree, countOr_int hcapacity, hlog]
    rfl
  fits_of_decode? {json s} h := by
    simp only [decode?, Option.bind_eq_bind, Option.bind_eq_some_iff] at h
    obtain ⟨parts, -, h⟩ := h
    split at h
    · simp only [Option.bind_eq_some_iff] at h
      obtain ⟨stream, hstream, handsfree, hhandsfree, capacity, hcapacity, log, -, heq⟩ := h
      cases heq
      exact ⟨fits_of_orElse fits_standardStream hstream,
        fits_of_orElse fits_standardHandsfree hhandsfree, lt_of_countOr (by decide) hcapacity⟩
    · cases h

end Json

/-- **Settings that were read from a text are read again as they are**, once they are written. -/
theorem Settings.decode?_encode_of_ofText {text : String} {settings : Settings}
    (h : ofText text = .ok settings) :
    Json.decode? (Json.encode settings) = some settings := by
  obtain ⟨json, -, hread, -⟩ := ofText_eq_ok_iff.1 h
  exact Json.decode?_encode_of_decode? hread

end AudioLink
