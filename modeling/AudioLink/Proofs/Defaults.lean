/-
**Defaults of settings.**

Settings are read from a document that gives some of their fields, at any depth.  What is given is
taken over as it stands, and what is not given has its default, with one exception: a document that
says something of the alternatives to a refused action has to name both, and one that it leaves out
is no alternative at all, instead of the usual one.

Main definitions:

* `AudioLink.Json.Gives` — a document gives a part of a record;
* `AudioLink.Json.Settles` — what becomes of one field: what the given part says, or the default;
* `AudioLink.Settings.Follows`, and the same for each section — what becomes of all of them;
* `AudioLink.Json.LeavesOpen` — a document says something of the alternatives, but not all.

Main results:

* `AudioLink.Json.gives_iff_of_slots` — the slots of a record are what its document gives;
* `AudioLink.Json.Settles.of_read` — a field is what is read from its slot, in three ways;
* `AudioLink.Settings.follows_of_decode?` — what the settings are that were read;
* `AudioLink.Settings.Follows.standard_iff` — when an alternative that is left out matters;
* `AudioLink.Settings.ofText_eq_ok_iff` — which settings are read from a text;
* `AudioLink.Settings.ofText_follows_iff` — **they have their defaults, unless an alternative is
  left open**.
-/

import AudioLink.Settings.Document
import Mathlib.Data.List.Permutation

set_option relaxedAutoImplicit false
set_option autoImplicit false

namespace AudioLink

namespace CallControl

/-- The action of a title, which carries no number. -/
theorem title_of_ofTitle? {s : String} {c : CallControl} (h : ofTitle? s = some c) :
    c.number? = none ∧ c.title = s :=
  ⟨mem_plain_iff.1 (List.mem_of_find?_eq_some h), by simpa using List.find?_some h⟩

/-- The action of a title and a number. -/
theorem title_of_ofTitleAndNumber? {s : String} {n : Nat} {c : CallControl}
    (h : ofTitleAndNumber? s n = some c) : c.number? = some n ∧ c.title = s := by
  refine ⟨?_, by simpa using List.find?_some h⟩
  have hmem := List.mem_of_find?_eq_some h
  simp only [List.mem_cons, List.not_mem_nil, or_false] at hmem
  rcases hmem with rfl | rfl <;> rfl

end CallControl

namespace Json

/-! ### What a document gives -/

/-- A document gives a part of a record with the given names: under its own name in an object, or at
its own place in an array. -/
inductive Gives (names : List String) (name : String) (part : Json) : Json → Prop
  | named {fields : List (Option String × Json)} (h : (some name, part) ∈ fields) :
      Gives names name part (.object fields)
  | placed {items : List Json} {n : Nat} (hname : names[n]? = some name)
      (hpart : items[n]? = some part) : Gives names name part (.array items)

variable {names : List String} {name : String} {part json : Json} {lenient : Bool}
  {parts : List (Option Json)} {n : Nat}

theorem map_fst_of_labels? {fields : List (Option String × Json)} {labels : List String}
    (h : labels? fields = some labels) : fields.map (·.1) = labels.map some := by
  induction fields generalizing labels with
  | nil =>
      obtain rfl : [] = labels := by simpa [labels?] using h
      rfl
  | cons field fields ih =>
      simp only [labels?, List.mapM_cons, Option.bind_eq_bind, Option.bind_eq_some_iff] at h
      obtain ⟨label, hlabel, rest, hrest, hall⟩ := h
      obtain rfl := Option.some.inj hall
      rw [List.map_cons, List.map_cons, hlabel, ih hrest]

/-- A value under a label that does not come twice is the only one. -/
theorem find?_eq_some_iff {fields : List (Option String × Json)}
    (hcount : (fields.map (·.1)).count (some name) ≤ 1) :
    find? fields name = some part ↔ (some name, part) ∈ fields := by
  induction fields with
  | nil => simp [find?]
  | cons field fields ih =>
      obtain ⟨label, value⟩ := field
      rw [List.map_cons, List.count_cons] at hcount
      by_cases hlabel : label = some name
      · -- no other field has this label
        have hnone : (some name, part) ∉ fields := by
          intro hmem
          have hpos : 0 < (fields.map (·.1)).count (some name) :=
            List.count_pos_iff.2 (List.mem_map_of_mem hmem)
          rw [hlabel, beq_self_eq_true, if_pos rfl] at hcount
          omega
        simp [find?, hlabel, hnone, eq_comm]
      · have ih := ih (by omega)
        rw [find?] at ih ⊢
        rw [List.find?_cons_of_neg (by simpa using hlabel), ih, List.mem_cons, Prod.mk.injEq]
        simp [Ne.symm hlabel]

/-- What an object gives is what is found in it, as long as a label does not come twice. -/
theorem gives_object_iff {fields : List (Option String × Json)} {labels : List String}
    (hlabels : labels? fields = some labels) (honce : labels.count name ≤ 1) :
    Gives names name part (.object fields) ↔ find? fields name = some part := by
  have hcount : (fields.map (·.1)).count (some name) ≤ 1 := by
    rwa [map_fst_of_labels? hlabels,
      List.count_map_of_injective _ _ (fun _ _ => Option.some.inj)]
  rw [find?_eq_some_iff hcount]
  exact ⟨fun hgives => by cases hgives; assumption, .named⟩

/-- What an array gives stands at the place of the name, which has no other. -/
theorem gives_array_iff {items : List Json} (hnodup : names.Nodup) (hname : names[n]? = some name) :
    Gives names name part (.array items) ↔ items[n]? = some part := by
  have hn : n < names.length := (List.getElem?_eq_some_iff.1 hname).1
  constructor
  · intro hgives
    cases hgives with
    | placed hplace hpart => rwa [(List.getElem?_inj hn hnodup).1 (hname.trans hplace.symm)]
  · exact .placed hname

/-- The slots of a record are what its document gives. -/
theorem gives_iff_of_slots (hnodup : names.Nodup) (h : json.slots names lenient = some parts)
    (hname : names[n]? = some name) :
    Gives names name part json ↔ parts[n]? = some (some part) := by
  cases json with
  | object fields =>
      simp only [slots, Option.bind_eq_bind, Option.bind_eq_some_iff] at h
      obtain ⟨labels, hlabels, h⟩ := h
      obtain ⟨hall, hparts⟩ := Option.ite_none_right_eq_some.1 h
      obtain rfl := Option.some.inj hparts
      have honce : labels.count name ≤ 1 := by
        simpa using List.all_eq_true.1 hall name (List.mem_of_getElem? hname)
      rw [gives_object_iff hlabels honce, List.getElem?_map, hname, Option.map_some,
        Option.some.injEq]
  | array items =>
      obtain ⟨-, hparts⟩ := Option.ite_none_right_eq_some.1 h
      obtain rfl := Option.some.inj hparts
      -- what is filled up at the end is not a part
      rw [gives_array_iff hnodup hname, List.getElem?_append, List.getElem?_map, List.length_map,
        List.getElem?_replicate]
      grind
  | _ => simp [slots] at h

/-! ### Fields -/

/-- What becomes of a field: what the given part means, or the default if no part is given. -/
structure Settles {α : Type} (names : List String) (name : String) (means : Json → α → Prop)
    (default value : α) (json : Json) : Prop where
  given : ∀ part, Gives names name part json → means part value
  missing : (∀ part, ¬Gives names name part json) → value = default

/-- A number as it stands. -/
def MeansCount (part : Json) (count : Nat) : Prop := part = .int count

/-- Yes or no. -/
def MeansWhether (part : Json) (b : Bool) : Prop := part = .bool b

/-- A text as it stands. -/
def MeansText (part : Json) (s : String) : Prop := part = .text (some s)

/-- An alternative: none at all, an action by its name, alone or as the label of nothing, or an
action with the number that it carries. -/
inductive MeansAlternative : Json → Option CallControl → Prop
  | nothing : MeansAlternative .null none
  | plain {c : CallControl} (h : c.number? = none) :
      MeansAlternative (.text (some c.title)) (some c)
  | labelled {c : CallControl} (h : c.number? = none) :
      MeansAlternative (.object [(some c.title, .null)]) (some c)
  | numbered {c : CallControl} {n : Nat} (h : c.number? = some n) :
      MeansAlternative (.object [(some c.title, .int n)]) (some c)

theorem meansCount_of_natBelow? {bound count : Nat} (h : part.natBelow? bound = some count) :
    MeansCount part count := by
  unfold natBelow? at h
  split at h
  · obtain ⟨-, hcount⟩ := Option.ite_none_right_eq_some.1 h
    obtain rfl := Option.some.inj hcount
    rfl
  · cases h

theorem meansWhether_of_decode? {b : Bool} (h : decode? part = some b) : MeansWhether part b := by
  cases part with
  | bool c =>
      obtain rfl := Option.some.inj h
      rfl
  | _ => cases h

theorem meansText_of_decode? {s : String} (h : decode? part = some s) : MeansText part s := by
  cases part with
  | text content =>
      obtain rfl : content = some s := h
      rfl
  | _ => cases h

theorem eq_of_unitName? {s : String} (h : part.unitName? = some s) :
    part = .text (some s) ∨ part = .object [(some s, .null)] := by
  unfold unitName? at h
  split at h
  · exact .inl (h ▸ rfl)
  · exact .inr (h ▸ rfl)
  · cases h

theorem eq_of_numbered? {bound : Nat} {s : String} (h : part.numbered? bound = some (s, n)) :
    part = .object [(some s, .int n)] := by
  unfold numbered? at h
  split at h
  · obtain ⟨k, hk, hpair⟩ := Option.map_eq_some_iff.1 h
    obtain ⟨rfl, rfl⟩ := Prod.mk.inj hpair
    rw [meansCount_of_natBelow? hk]
  · cases h

theorem meansAlternative_of_decode? {c : CallControl} (h : decode? part = some c) :
    MeansAlternative part (some c) := by
  simp only [decode?] at h
  split at h
  · next s hname =>
      obtain ⟨hplain, rfl⟩ := CallControl.title_of_ofTitle? h
      rcases eq_of_unitName? hname with rfl | rfl
      · exact .plain hplain
      · exact .labelled hplain
  · obtain ⟨⟨s, k⟩, hnumbered, h⟩ := Option.bind_eq_some_iff.1 h
    obtain ⟨hnumber, rfl⟩ := CallControl.title_of_ofTitleAndNumber? h
    rw [eq_of_numbered? hnumbered]
    exact .numbered hnumber

theorem meansAlternative_of_optional {alternative : Option CallControl}
    (h : optional (some part) = some alternative) : MeansAlternative part alternative := by
  unfold optional at h
  split at h
  · next hnone => cases hnone
  · next hnull =>
      obtain rfl := Option.some.inj hnull
      obtain rfl := Option.some.inj h
      exact .nothing
  · next json _ hjson =>
      obtain rfl := Option.some.inj hjson
      obtain ⟨c, hdecode, rfl⟩ := Option.map_eq_some_iff.1 h
      exact meansAlternative_of_decode? hdecode

section

variable {α : Type} {means : Json → α → Prop} {default value : α} {slot : Option Json}

/-- A field is what is read from its slot. -/
theorem Settles.of_read {read : Option Json → Option α} (hnodup : names.Nodup)
    (h : json.slots names lenient = some parts) (hname : names[n]? = some name)
    (hslot : parts[n]? = some slot) (hvalue : read slot = some value)
    (hdefault : read none = some default)
    (hmeans : ∀ part, read (some part) = some value → means part value) :
    json.Settles names name means default value := by
  have hgives : ∀ part, Gives names name part json ↔ slot = some part := fun part => by
    rw [gives_iff_of_slots hnodup h hname, hslot, Option.some.injEq]
  refine ⟨fun part hpart => hmeans part ((hgives part).1 hpart ▸ hvalue), fun hnone => ?_⟩
  obtain rfl : slot = none := Option.eq_none_iff_forall_ne_some.2 fun part hpart =>
    hnone part ((hgives part).2 hpart)
  exact Option.some.inj (hvalue.symm.trans hdefault)

theorem Settles.of_orElse [Coded α] (hnodup : names.Nodup)
    (h : json.slots names lenient = some parts) (hname : names[n]? = some name)
    (hslot : parts[n]? = some slot) (hvalue : orElse default slot = some value)
    (hmeans : ∀ part, decode? part = some value → means part value) :
    json.Settles names name means default value :=
  .of_read hnodup h hname hslot hvalue rfl hmeans

/-- A number is as given, or the default. -/
theorem Settles.of_countOr {default count : Nat} (hnodup : names.Nodup)
    (h : json.slots names lenient = some parts) (hname : names[n]? = some name)
    (hslot : parts[n]? = some slot) (hcount : countOr default slot = some count) :
    json.Settles names name MeansCount default count :=
  .of_read hnodup h hname hslot hcount rfl fun _ => meansCount_of_natBelow?

/-- An alternative that is left out is none. -/
theorem Settles.of_optional {alternative : Option CallControl} (hnodup : names.Nodup)
    (h : json.slots names lenient = some parts) (hname : names[n]? = some name)
    (hslot : parts[n]? = some slot) (hvalue : optional slot = some alternative) :
    json.Settles names name MeansAlternative none alternative :=
  .of_read hnodup h hname hslot hvalue rfl fun _ => meansAlternative_of_optional

/-- What a given part means may be said in other words. -/
theorem Settles.congr {means' : Json → α → Prop} (h : json.Settles names name means default value)
    (himp : ∀ part, Gives names name part json → means part value → means' part value) :
    json.Settles names name means' default value where
  given part hpart := himp part hpart (h.given part hpart)
  missing := h.missing

/-- The default of a field that is given does not matter. -/
theorem Settles.of_given {default' : α} (h : json.Settles names name means default value)
    (hgiven : ∃ part, Gives names name part json) :
    json.Settles names name means default' value where
  given := h.given
  missing hnone := by
    obtain ⟨part, hpart⟩ := hgiven
    exact absurd hpart (hnone part)

end

end Json

open Json (MeansCount MeansWhether MeansText MeansAlternative Gives decode?)

/-! ### Sections -/

namespace AcceptRetry

def labels : List String := ["incoming", "waiting"]

/-- The alternatives are those of a document; `bare` has what stands for one that is left out. -/
structure Follows (retry bare : AcceptRetry) (json : Json) : Prop where
  incoming : json.Settles labels "incoming" MeansAlternative bare.incoming retry.incoming
  waiting : json.Settles labels "waiting" MeansAlternative bare.waiting retry.waiting

/-- An alternative that is left out is none. -/
theorem follows_of_decode? {retry : AcceptRetry} {json : Json} (h : decode? json = some retry) :
    retry.Follows .disabled json := by
  simp only [decode?, Option.bind_eq_bind, Option.bind_eq_some_iff] at h
  obtain ⟨parts, hslots, h⟩ := h
  split at h
  · simp only [Option.bind_eq_some_iff] at h
    obtain ⟨incoming, hincoming, waiting, hwaiting, hretry⟩ := h
    obtain rfl := Option.some.inj hretry
    have hnodup : labels.Nodup := by decide
    exact
      { incoming := .of_optional hnodup hslots (n := 0) rfl rfl hincoming
        waiting := .of_optional hnodup hslots (n := 1) rfl rfl hwaiting }
  · cases h

end AcceptRetry

namespace StreamSettings

def labels : List String := ["connect_timeout_ms"]

/-- The settings of streaming are those of a document. -/
structure Follows (s : StreamSettings) (json : Json) : Prop where
  connectTimeoutMs : json.Settles labels "connect_timeout_ms" MeansCount
    standard.connectTimeoutMs s.connectTimeoutMs

theorem follows_of_decode? {s : StreamSettings} {json : Json} (h : decode? json = some s) :
    s.Follows json := by
  simp only [decode?, Option.bind_eq_bind, Option.bind_eq_some_iff] at h
  obtain ⟨parts, hslots, h⟩ := h
  split at h
  · simp only [Option.bind_eq_some_iff] at h
    obtain ⟨connectTimeout, hconnect, hs⟩ := h
    obtain rfl := Option.some.inj hs
    have hnodup : labels.Nodup := by decide
    exact { connectTimeoutMs := .of_countOr hnodup hslots (n := 0) rfl rfl hconnect }
  · cases h

end StreamSettings

namespace HandsfreeSettings

def labels : List String :=
  ["connect_timeout_ms", "call_poll_interval_ms", "outgoing_call_timeout_ms",
    "require_enhanced_call_status", "disable_nrec", "audio_route_allowed", "accept_retry"]

/-- The settings of telephony are those of a document; `bare` has what stands for an alternative
that is left out of the others. -/
structure Follows (s : HandsfreeSettings) (bare : AcceptRetry) (json : Json) : Prop where
  connectTimeoutMs : json.Settles labels "connect_timeout_ms" MeansCount
    standard.connectTimeoutMs s.connectTimeoutMs
  pollIntervalMs : json.Settles labels "call_poll_interval_ms" MeansCount
    standard.pollIntervalMs s.pollIntervalMs
  outgoingTimeoutMs : json.Settles labels "outgoing_call_timeout_ms" MeansCount
    standard.outgoingTimeoutMs s.outgoingTimeoutMs
  requireCallStatus : json.Settles labels "require_enhanced_call_status" MeansWhether
    standard.requireCallStatus s.requireCallStatus
  disableNoiseReduction : json.Settles labels "disable_nrec" MeansWhether
    standard.disableNoiseReduction s.disableNoiseReduction
  audioRouteAllowed : json.Settles labels "audio_route_allowed" MeansWhether
    standard.audioRouteAllowed s.audioRouteAllowed
  acceptRetry : json.Settles labels "accept_retry" (fun part retry => retry.Follows bare part)
    standard.acceptRetry s.acceptRetry

theorem follows_of_decode? {s : HandsfreeSettings} {json : Json} (h : decode? json = some s) :
    s.Follows .disabled json := by
  simp only [decode?, Option.bind_eq_bind, Option.bind_eq_some_iff] at h
  obtain ⟨parts, hslots, h⟩ := h
  split at h
  · simp only [Option.bind_eq_some_iff] at h
    obtain ⟨connectTimeout, hconnect, pollInterval, hpoll, outgoingTimeout, houtgoing,
      requireCallStatus, hrequire, disableNoiseReduction, hdisable, audioRouteAllowed, hroute,
      acceptRetry, hretry, hs⟩ := h
    obtain rfl := Option.some.inj hs
    have hnodup : labels.Nodup := by decide
    exact
      { connectTimeoutMs := .of_countOr hnodup hslots (n := 0) rfl rfl hconnect
        pollIntervalMs := .of_countOr hnodup hslots (n := 1) rfl rfl hpoll
        outgoingTimeoutMs := .of_countOr hnodup hslots (n := 2) rfl rfl houtgoing
        requireCallStatus := .of_orElse hnodup hslots (n := 3) rfl rfl hrequire
          fun _ => Json.meansWhether_of_decode?
        disableNoiseReduction := .of_orElse hnodup hslots (n := 4) rfl rfl hdisable
          fun _ => Json.meansWhether_of_decode?
        audioRouteAllowed := .of_orElse hnodup hslots (n := 5) rfl rfl hroute
          fun _ => Json.meansWhether_of_decode?
        acceptRetry := .of_orElse hnodup hslots (n := 6) rfl rfl hretry
          fun _ => AcceptRetry.follows_of_decode? }
  · cases h

end HandsfreeSettings

namespace LogSettings

def labels : List String := ["filter", "json", "peer_spans"]

/-- The log settings are those of a document. -/
structure Follows (s : LogSettings) (part : Json) : Prop where
  filter : part.Settles labels "filter" MeansText standard.filter s.filter
  json : part.Settles labels "json" MeansWhether standard.json s.json
  peerSpans : part.Settles labels "peer_spans" MeansWhether standard.peerSpans s.peerSpans

theorem follows_of_decode? {s : LogSettings} {part : Json} (h : decode? part = some s) :
    s.Follows part := by
  simp only [decode?, Option.bind_eq_bind, Option.bind_eq_some_iff] at h
  obtain ⟨parts, hslots, h⟩ := h
  split at h
  · simp only [Option.bind_eq_some_iff] at h
    obtain ⟨filter, hfilter, lines, hlines, peerSpans, hspans, hs⟩ := h
    obtain rfl := Option.some.inj hs
    have hnodup : labels.Nodup := by decide
    exact
      { filter := .of_orElse hnodup hslots (n := 0) rfl rfl hfilter
          fun _ => Json.meansText_of_decode?
        json := .of_orElse hnodup hslots (n := 1) rfl rfl hlines
          fun _ => Json.meansWhether_of_decode?
        peerSpans := .of_orElse hnodup hslots (n := 2) rfl rfl hspans
          fun _ => Json.meansWhether_of_decode? }
  · cases h

end LogSettings

/-! ### All settings -/

namespace Settings

def labels : List String := ["a2dp", "hfp_client", "inbox_capacity", "logging"]

/-- All settings are those of a document; `bare` has what stands for an alternative that is left out
of the others. -/
structure Follows (s : Settings) (bare : AcceptRetry) (document : Json) : Prop where
  stream : document.Settles labels "a2dp" (fun part s => s.Follows part)
    standard.stream s.stream
  handsfree : document.Settles labels "hfp_client" (fun part s => s.Follows bare part)
    standard.handsfree s.handsfree
  inboxCapacity : document.Settles labels "inbox_capacity" MeansCount
    standard.inboxCapacity s.inboxCapacity
  log : document.Settles labels "logging" (fun part s => s.Follows part) standard.log s.log

/-- Settings that were read are those of the document, where an alternative that is left out is
none. -/
theorem follows_of_decode? {s : Settings} {document : Json} (h : decode? document = some s) :
    s.Follows .disabled document := by
  simp only [decode?, Option.bind_eq_bind, Option.bind_eq_some_iff] at h
  obtain ⟨parts, hslots, h⟩ := h
  split at h
  · simp only [Option.bind_eq_some_iff] at h
    obtain ⟨stream, hstream, handsfree, hhandsfree, inboxCapacity, hinbox, log, hlog, hs⟩ := h
    obtain rfl := Option.some.inj hs
    have hnodup : labels.Nodup := by decide
    exact
      { stream := .of_orElse hnodup hslots (n := 0) rfl rfl hstream
          fun _ => StreamSettings.follows_of_decode?
        handsfree := .of_orElse hnodup hslots (n := 1) rfl rfl hhandsfree
          fun _ => HandsfreeSettings.follows_of_decode?
        inboxCapacity := .of_countOr hnodup hslots (n := 2) rfl rfl hinbox
        log := .of_orElse hnodup hslots (n := 3) rfl rfl hlog
          fun _ => LogSettings.follows_of_decode? }
  · cases h

end Settings

/-! ### Alternatives that are left open -/

/-- A document leaves an alternative open: in its section on telephony there is a part on the
alternatives, from which one of them is left out. -/
def Json.LeavesOpen (document : Json) : Prop :=
  ∃ telephony alternatives, Gives Settings.labels "hfp_client" telephony document ∧
    Gives HandsfreeSettings.labels "accept_retry" alternatives telephony ∧
    ∃ name ∈ AcceptRetry.labels, ∀ part, ¬Gives AcceptRetry.labels name part alternatives

/-- Alternatives that are all given do not depend on what stands for one that is left out. -/
theorem AcceptRetry.Follows.of_given {retry bare bare' : AcceptRetry} {json : Json}
    (h : retry.Follows bare json)
    (hgiven : ∀ name ∈ labels, ∃ part, Gives labels name part json) : retry.Follows bare' json where
  incoming := h.incoming.of_given (hgiven _ (by decide))
  waiting := h.waiting.of_given (hgiven _ (by decide))

/-- What was left out of the alternatives cannot be both none and the usual one. -/
theorem AcceptRetry.Follows.given {retry : AcceptRetry} {json : Json}
    (h : retry.Follows .disabled json) (hstandard : retry.Follows .standard json) {name : String}
    (hname : name ∈ labels) : ∃ part, Gives labels name part json := by
  refine Classical.not_forall_not.1 fun hnone => ?_
  simp only [labels, List.mem_cons, List.not_mem_nil, or_false] at hname
  rcases hname with rfl | rfl
  · exact Option.some_ne_none _ ((hstandard.incoming.missing hnone).symm.trans
      (h.incoming.missing hnone))
  · exact Option.some_ne_none _ ((hstandard.waiting.missing hnone).symm.trans
      (h.waiting.missing hnone))

namespace Settings

/-- Alternatives that are left out do not make a difference where there are none. -/
theorem Follows.standard_iff {s : Settings} {document : Json} (h : s.Follows .disabled document) :
    s.Follows .standard document ↔ ¬document.LeavesOpen := by
  constructor
  · rintro hstandard ⟨telephony, alternatives, htelephony, halternatives, name, hname, hnone⟩
    have hretry := (h.handsfree.given _ htelephony).acceptRetry.given _ halternatives
    have hretry' := (hstandard.handsfree.given _ htelephony).acceptRetry.given _ halternatives
    obtain ⟨part, hpart⟩ := hretry.given hretry' hname
    exact hnone part hpart
  · intro hclosed
    refine { h with handsfree := h.handsfree.congr fun telephony htelephony hhandsfree => ?_ }
    refine { hhandsfree with
      acceptRetry := hhandsfree.acceptRetry.congr fun alternatives halternatives hretry => ?_ }
    refine hretry.of_given fun name hname => Classical.not_forall_not.1 fun hnone => ?_
    exact hclosed ⟨telephony, alternatives, htelephony, halternatives, name, hname, hnone⟩

/-- Settings are accepted if they are read from a document and pass the check. -/
theorem ofText_eq_ok_iff {text : String} {settings : Settings} :
    ofText text = .ok settings ↔ ∃ document, Json.parse? text = some document ∧
      decode? document = some settings ∧ settings.validate = .ok () := by
  constructor
  · intro h
    have hvalidate := validate_of_ofText h
    unfold ofText at h
    split at h
    · cases h
    · next found hread =>
        obtain ⟨document, hparse, hdecode⟩ := Option.bind_eq_some_iff.1 hread
        obtain rfl : found = settings := by
          cases hfound : found.validate with
          | error => simp [hfound, Except.map] at h
          | ok => simpa [hfound, Except.map] using h
        exact ⟨document, hparse, hdecode, hvalidate⟩
  · rintro ⟨document, hparse, hdecode, hvalidate⟩
    simp [ofText, hparse, hdecode, hvalidate, Except.map]

/-- **What is left out of a document has its default.**  Settings that were read have what the
document gives and the defaults of all else, at any depth, exactly if the document does not leave an
alternative open.  In any case they have what the document gives, the defaults of what it leaves
out, and no alternative for one that it leaves open. -/
theorem ofText_follows_iff {text : String} {settings : Settings}
    (h : ofText text = .ok settings) :
    ∃ document, Json.parse? text = some document ∧
      (settings.Follows .standard document ↔ ¬document.LeavesOpen) ∧
      settings.Follows .disabled document := by
  obtain ⟨document, hparse, hdecode, -⟩ := ofText_eq_ok_iff.1 h
  have hfollows := follows_of_decode? hdecode
  exact ⟨document, hparse, hfollows.standard_iff, hfollows⟩

/-- The default settings with other alternatives. -/
def standardWith (retry : AcceptRetry) : Settings :=
  { standard with handsfree := { HandsfreeSettings.standard with acceptRetry := retry } }

theorem ofText_follows_iff_answering :
    (let text := "\x7b\"hfp_client\":\x7b\"accept_retry\":[\"Answer\",null]\x7d\x7d"
    let settings := standardWith ⟨some .answer, none⟩
    ofText text = .ok settings ∧ ∃ document, Json.parse? text = some document ∧
      (settings.Follows .standard document ↔ ¬document.LeavesOpen) ∧
      settings.Follows .disabled document) := by
  have hparse : Json.parse?
      "\x7b\"hfp_client\":\x7b\"accept_retry\":[\"Answer\",null]\x7d\x7d" =
      some (.object [(some "hfp_client", .object [(some "accept_retry",
        .array [.text (some "Answer"), .null])])]) := by cbv
  have htext : ofText _ = .ok (standardWith ⟨some .answer, none⟩) :=
    ofText_eq_ok_iff.2 ⟨_, hparse, by decide +kernel, by rfl⟩
  exact ⟨htext, ofText_follows_iff htext⟩

/-- A document that has an alternative to holding calls for a waiting one, and says nothing of an
alternative to answering: there is none, although the default is to have one. -/
theorem ofText_forgets : ¬∀ text settings, ofText text = .ok settings →
    ∃ document, Json.parse? text = some document ∧ settings.Follows .standard document := by
  intro hall
  have hparse : Json.parse?
      "\x7b\"hfp_client\":\x7b\"accept_retry\":\x7b\"waiting\":\"Answer\"\x7d\x7d\x7d" =
      some (.object [(some "hfp_client", .object [(some "accept_retry",
        .object [(some "waiting", .text (some "Answer"))])])]) := by cbv
  obtain ⟨document, hdocument, hfollows⟩ := hall _ (standardWith ⟨none, some .answer⟩)
    (ofText_eq_ok_iff.2 ⟨_, hparse, by decide +kernel, by rfl⟩)
  obtain rfl := Option.some.inj (hparse.symm.trans hdocument)
  have hretry := (hfollows.handsfree.given _ (.named (List.mem_cons_self ..))).acceptRetry.given _
    (.named (List.mem_cons_self ..))
  have hmissing := hretry.incoming.missing fun part hgives => by
    cases hgives with
    | named h => simp at h
  cases hmissing

end Settings

end AudioLink
