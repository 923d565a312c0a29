/-
**Switching the optional codecs.**

The optional codecs are switched on or off as often as the user likes, each time with the priorities
that are set by then.  A switch that finds what it wants in use already is declined and leaves the
table alone.  Any other builds the table anew, so that the table tells of the last switch that was
not declined and of none before it.

Main definitions:

* `AudioLink.CodecTable.Switch`, `AudioLink.CodecTable.answer` — a switch and what it comes to;
* `AudioLink.CodecTable.history` — the table after some switches, and the last that counted;
* `AudioLink.CodecTable.Switch.Grants` — the priority that a switch gives to a codec;
* `AudioLink.CodecTable.Stands` — the table is empty, or as the switch that counted has left it;
* `AudioLink.CodecTable.Switch.Idle`, `AudioLink.CodecTable.Answers` — a switch that has nothing to
  do is declined, and for any other the right list is sent.

Main results:

* `AudioLink.CodecTable.answer_cases` — a switch either leaves the table alone or builds it anew;
* `AudioLink.CodecTable.reflects_ofPriorities` — how the table is built;
* `AudioLink.CodecTable.Stands.serve`, `AudioLink.CodecTable.Stands.foldl` — how one more switch
  leaves the table, and any number of them;
* `AudioLink.CodecTable.history_stands` — **after any number of switches the table is as the last
  one that was not declined has left it, and what is sent next is a part of the table**.
-/

import AudioLink.Proofs.Codec.Preferring

set_option relaxedAutoImplicit false
set_option autoImplicit false

namespace AudioLink

namespace CodecTable

/-! ### Switches -/

/-- A user switches the optional codecs on or off, with the priorities that are set and the
configuration that is in use at that time. -/
structure Switch where
  on : Bool
  priorities : CodecPriorities
  current : Option CodecConfig

/-- What a switch comes to: the list to send, unless it is declined, and the table. -/
def answer (table : CodecTable) (switch : Switch) : Option (List CodecConfig) × CodecTable :=
  if switch.on then table.enableOptional switch.priorities switch.current
  else table.disableOptional switch.priorities switch.current

/-- One more switch: the table, and the last switch that was not declined. -/
def serve (kept : CodecTable × Option Switch) (switch : Switch) : CodecTable × Option Switch :=
  match kept.1.answer switch with
  | (some _, table) => (table, some switch)
  | (none, table) => (table, kept.2)

/-- How the table stands after some switches, and which of them counted last. -/
def history (switches : List Switch) : CodecTable × Option Switch :=
  switches.foldl serve (empty, none)

/-- A switch has nothing to do: an optional codec is in use already and the optional ones are to be
switched on, or the mandatory one is and they are to be switched off. -/
def Switch.Idle (switch : Switch) : Prop :=
  ∃ config, switch.current = some config ∧ (config.codec = .mandatory ↔ switch.on = false)

/-! ### What the table tells of a switch -/

/-- The priority that a switch gives to a codec: what the user has set for it if that is within
bounds, and zero if it is not, or nothing is set. -/
inductive Switch.Grants (switch : Switch) (codec : Codec) : Int → Prop
  | set {p : Int} (hset : switch.priorities codec = some p) (hlow : -1 ≤ p) (hhigh : p < 1000000) :
      switch.Grants codec p
  | unset (hunset : ∀ p, switch.priorities codec = some p → ¬(-1 ≤ p ∧ p < 1000000)) :
      switch.Grants codec 0

/-- The table is as a switch has left it. -/
structure Reflects (table : CodecTable) (switch : Switch) : Prop where
  /-- There is one entry for each codec, in table order. -/
  codecs : table.assigned.map (·.codec) = Named.values
  /-- Nothing is said of the audio parameters, nor of those that only the codec understands. -/
  blank : ∀ entry ∈ table.assigned, entry.rate = .none ∧ entry.depth = .none ∧
    entry.channels = .none ∧ entry.parameters = #v[0, 0, 0, 0]
  granted : ∀ entry ∈ table.assigned, entry.codec ≠ .mandatory ∨ switch.on = true →
    switch.Grants entry.codec entry.priority
  /-- The mandatory codec is raised above all others exactly when these are switched off. -/
  raised : ∀ entry ∈ table.assigned, entry.codec = .mandatory →
    (entry.priority = 1000000 ↔ switch.on = false)
  /-- Then it is the one that is preferred. -/
  preferred : switch.on = false → ∀ candidate ∈ table.assigned, ∀ active,
    candidate.preferred table.assigned active = .mandatory

/-- Nothing is assigned as long as every switch was declined; then the table is as the last one
that was not declined has left it. -/
def Stands (table : CodecTable) : Option Switch → Prop
  | none => table.assigned = []
  | some switch => table.Reflects switch

/-- What is sent for a switch: the optional entries of the table to switch them on, and the
mandatory one to switch them off. -/
structure Sends (table : CodecTable) (switch : Switch) (configs : List CodecConfig) : Prop where
  optional : switch.on = true → configs = table.assigned.filter (·.codec ≠ .mandatory)
  mandatory : switch.on = false → ∃ entry ∈ table.assigned, entry.codec = .mandatory ∧
    configs = [entry]

/-- A switch that has nothing to do is declined, and the table is left alone; the list that is sent
for any other is that of the table as it is from then on. -/
inductive Answers (table : CodecTable) (switch : Switch) :
    Option (List CodecConfig) × CodecTable → Prop
  | declined (hidle : switch.Idle) : table.Answers switch (none, table)
  | sent {configs : List CodecConfig} {next : CodecTable} (hnew : ¬switch.Idle)
      (hsends : next.Sends switch configs) : table.Answers switch (some configs, next)

variable {table : CodecTable} {switch : Switch} {last : Option Switch}

/-! ### How the table is built -/

/-- One entry for each codec, in table order, blank but for its priority. -/
def ofPriorities (priority : Codec → Int) : List CodecConfig :=
  (Named.values (α := Codec)).map fun codec => .plain codec (priority codec)

/-- An entry says nothing but the priority of its codec. -/
theorem eq_plain_of_mem {priority : Codec → Int} {entry : CodecConfig}
    (h : entry ∈ ofPriorities priority) : entry = .plain entry.codec (priority entry.codec) := by
  obtain ⟨codec, -, rfl⟩ := List.mem_map.1 h
  rfl

theorem priority_of_mem {priority : Codec → Int} {entry : CodecConfig}
    (h : entry ∈ ofPriorities priority) : entry.priority = priority entry.codec :=
  congrArg CodecConfig.priority (eq_plain_of_mem h)

/-- Every codec has an entry. -/
theorem plain_mem (priority : Codec → Int) (codec : Codec) :
    .plain codec (priority codec) ∈ ofPriorities priority :=
  List.mem_map.2 ⟨codec, List.mem_of_find?_eq_some (Named.find_name codec), rfl⟩

/-- The mandatory codec is raised by giving it the highest priority. -/
theorem raiseMandatory_ofPriorities (priority : Codec → Int) :
    raiseMandatory (ofPriorities priority) =
      ofPriorities fun codec => if codec = .mandatory then highest else priority codec := by
  simp only [raiseMandatory, ofPriorities, List.map_map]
  refine List.map_congr_left fun codec _ => ?_
  by_cases hmandatory : codec = .mandatory <;>
    simp [CodecConfig.plain, CodecConfig.isMandatory, Codec.isMandatory, hmandatory]

/-- What the user has set is granted if it is usable. -/
theorem grants_usable (switch : Switch) (codec : Codec) :
    switch.Grants codec (usable (switch.priorities codec)) := by
  cases hset : switch.priorities codec with
  | none =>
      refine .unset fun p hp => ?_
      rw [hset] at hp
      cases hp
  | some p =>
      by_cases hbounds : disabled ≤ p ∧ p < highest
      · rw [usable, if_pos hbounds]
        exact .set hset hbounds.1 hbounds.2
      · rw [usable, if_neg hbounds]
        refine .unset fun q hq => ?_
        rw [← Option.some.inj (hset.symm.trans hq)]
        exact hbounds

/-- The priority that a switch assigns to a codec, if it is not declined. -/
def Switch.assigns (switch : Switch) (codec : Codec) : Int :=
  if switch.on = false ∧ codec = .mandatory then highest else usable (switch.priorities codec)

theorem assigns_mandatory (hoff : switch.on = false) : switch.assigns .mandatory = highest :=
  if_pos ⟨hoff, rfl⟩

/-- Only the mandatory codec is raised, and only to switch the others off. -/
theorem assigns_ordinary {codec : Codec} (h : codec ≠ .mandatory ∨ switch.on = true) :
    switch.assigns codec = usable (switch.priorities codec) := by
  refine if_neg ?_
  rintro ⟨hoff, hmandatory⟩
  rcases h with hoptional | hon
  · exact hoptional hmandatory
  · rw [hon] at hoff
    cases hoff

/-- What is assigned to an optional codec is less than what the mandatory one is raised to. -/
theorem assigns_lt_highest {codec : Codec} (h : codec ≠ .mandatory ∨ switch.on = true) :
    switch.assigns codec < highest := by
  rw [assigns_ordinary h]
  exact (usable_bounds _).2

/-- The table that a switch builds is as it should be. -/
theorem reflects_ofPriorities (switch : Switch) :
    Reflects ⟨ofPriorities switch.assigns⟩ switch where
  codecs := by simp [ofPriorities, CodecConfig.plain, Named.values]
  blank entry hentry := by
    rw [eq_plain_of_mem hentry]
    exact ⟨rfl, rfl, rfl, rfl⟩
  granted entry hentry hordinary := by
    rw [priority_of_mem hentry, assigns_ordinary hordinary]
    exact grants_usable switch entry.codec
  raised entry hentry hmandatory := by
    rw [priority_of_mem hentry, hmandatory]
    cases hon : switch.on with
    | true =>
        have hlower : switch.assigns .mandatory < highest := assigns_lt_highest (.inr hon)
        exact iff_of_false (Int.ne_of_lt hlower) (by decide)
    | false => exact iff_of_true (assigns_mandatory hon) rfl
  preferred hoff candidate hcandidate active := by
    have htop : CodecConfig.plain .mandatory (switch.assigns .mandatory) ∈
        candidate :: ofPriorities switch.assigns :=
      List.mem_cons_of_mem _ (plain_mem switch.assigns .mandatory)
    refine CodecConfig.preferred_eq_of_dominant htop fun entry hentry hoptional => ?_
    have hmem : entry ∈ ofPriorities switch.assigns := by
      rcases List.mem_cons.1 hentry with rfl | hmem
      · exact hcandidate
      · exact hmem
    show entry.priority < switch.assigns .mandatory
    rw [priority_of_mem hmem, assigns_mandatory hoff]
    exact assigns_lt_highest (.inl hoptional)

/-- To switch the optional codecs on, the priorities are taken as they are. -/
theorem ofPriorities_assigns_on (hon : switch.on = true) :
    ofPriorities switch.assigns = build switch.priorities := by
  have hassigns : switch.assigns = fun codec => usable (switch.priorities codec) := by
    funext codec
    exact assigns_ordinary (.inr hon)
  rw [hassigns]
  rfl

/-- To switch them off, the mandatory codec is raised. -/
theorem ofPriorities_assigns_off (hoff : switch.on = false) :
    ofPriorities switch.assigns = raiseMandatory (build switch.priorities) := by
  have hbuilt : build switch.priorities =
      ofPriorities fun codec => usable (switch.priorities codec) := rfl
  rw [hbuilt, raiseMandatory_ofPriorities]
  congr 1
  funext codec
  simp [Switch.assigns, hoff]

/-! ### One switch after another -/

/-- What is sent to switch the optional codecs on. -/
theorem sends_optional (hon : switch.on = true) :
    table.Sends switch (table.assigned.filter (!·.isMandatory)) where
  optional _ := by
    refine List.filter_congr fun entry _ => Bool.eq_iff_iff.2 ?_
    simp [CodecConfig.isMandatory, Codec.isMandatory]
  mandatory hoff := by
    rw [hon] at hoff
    cases hoff

/-- What is sent to switch them off. -/
theorem sends_mandatory (hoff : switch.on = false) :
    Sends ⟨ofPriorities switch.assigns⟩ switch
      ((ofPriorities switch.assigns).filter (·.isMandatory)) where
  optional hon := by
    rw [hoff] at hon
    cases hon
  mandatory _ := ⟨_, plain_mem switch.assigns .mandatory, rfl, rfl⟩

/-- To switch the optional codecs on is idle when one of them is in use. -/
theorem any_optional_iff_idle (hon : switch.on = true) :
    switch.current.any (!·.isMandatory) = true ↔ switch.Idle := by
  cases hcurrent : switch.current with
  | none => simp [Switch.Idle, hcurrent]
  | some config =>
      simp [Switch.Idle, hcurrent, hon, CodecConfig.isMandatory, Codec.isMandatory]

/-- To switch them off is idle when the mandatory one is in use. -/
theorem any_mandatory_iff_idle (hoff : switch.on = false) :
    switch.current.any (·.isMandatory) = true ↔ switch.Idle := by
  cases hcurrent : switch.current with
  | none => simp [Switch.Idle, hcurrent]
  | some config =>
      simp [Switch.Idle, hcurrent, hoff, CodecConfig.isMandatory, Codec.isMandatory]

/-- A switch that has nothing to do is declined and leaves the table alone; any other builds the
table anew, and the part of it that it is about is sent. -/
theorem answer_cases (table : CodecTable) (switch : Switch) :
    switch.Idle ∧ table.answer switch = (none, table) ∨
      ¬switch.Idle ∧ ∃ configs,
        table.answer switch = (some configs, ⟨ofPriorities switch.assigns⟩) ∧
          Sends ⟨ofPriorities switch.assigns⟩ switch configs := by
  cases hon : switch.on with
  | true =>
      simp only [answer, hon, if_true, enableOptional, ← ofPriorities_assigns_on hon]
      have hidle := any_optional_iff_idle hon
      split
      · next hany => exact .inl ⟨hidle.1 hany, rfl⟩
      · next hany => exact .inr ⟨mt hidle.2 hany, _, rfl, sends_optional hon⟩
  | false =>
      simp only [answer, hon, Bool.false_eq_true, if_false, disableOptional,
        ← ofPriorities_assigns_off hon]
      have hidle := any_mandatory_iff_idle hon
      split
      · next hany => exact .inl ⟨hidle.1 hany, rfl⟩
      · next hany => exact .inr ⟨mt hidle.2 hany, _, rfl, sends_mandatory hon⟩

/-- A switch is answered in the right way. -/
theorem answers_answer (table : CodecTable) (switch : Switch) :
    table.Answers switch (table.answer switch) := by
  rcases answer_cases table switch with ⟨hidle, hdeclined⟩ | ⟨hnew, configs, hsent, hsends⟩
  · rw [hdeclined]
    exact .declined hidle
  · rw [hsent]
    exact .sent hnew hsends

/-- One more switch leaves the table as it should be. -/
theorem Stands.serve (h : table.Stands last) (switch : Switch) :
    (serve (table, last) switch).1.Stands (serve (table, last) switch).2 := by
  rcases answer_cases table switch with ⟨-, hdeclined⟩ | ⟨-, configs, hsent, -⟩
  · simpa only [CodecTable.serve, hdeclined] using h
  · simp only [CodecTable.serve, hsent]
    exact reflects_ofPriorities switch

/-- So do any number of them. -/
theorem Stands.foldl (h : table.Stands last) (switches : List Switch) :
    (switches.foldl CodecTable.serve (table, last)).1.Stands
      (switches.foldl CodecTable.serve (table, last)).2 := by
  induction switches generalizing table last with
  | nil => exact h
  | cons switch rest ih => exact ih (h.serve switch)

/-- **How the table stands after any number of switches, and what the next one comes to.**  The
table is empty if all of them were declined, and otherwise as the last one that was not has left it;
the next switch is declined without a change if it has nothing to do, and otherwise the part of its
table that it is about is sent. -/
theorem history_stands (switches : List Switch) (switch : Switch) :
    (history switches).1.Stands (history switches).2 ∧
      (history switches).1.Answers switch ((history switches).1.answer switch) := by
  have hempty : empty.Stands none := rfl
  exact ⟨hempty.foldl switches, answers_answer _ switch⟩

end CodecTable

end AudioLink
