/-
**Which codec is preferred.**

The codec of the highest priority is found by going through the entries one by one and keeping the
best so far.  What is kept depends on the entry at hand and on the one kept, but what comes out at
the end can be said of all entries at once: it has the greatest priority of all, and of those that
have it, one of the codec in use is taken, or else the first.

From this it is seen when a request for the very configuration in use changes nothing: as long as no
other codec is offered with a priority above that of every entry of the codec in use.

Main definitions:

* `AudioLink.CodecConfig.Leads` — the best of the entries seen so far;
* `AudioLink.CodecStatus.Outbid` — another codec is wanted more than the one in use.

Main results:

* `AudioLink.CodecConfig.Leads.better`, `AudioLink.CodecConfig.leads_foldl` — the next entry is
  compared with the best so far, and so are all that follow;
* `AudioLink.CodecConfig.preferred_eq_tieAware` — **the preferred codec is that in use if one of its
  entries has the greatest priority, and else that of the first entry that has it**;
* `AudioLink.CodecConfig.decision_inUse_iff` — **a request for the configuration in use is for
  nothing new unless another codec is offered with a greater priority**.
-/

import AudioLink.Codec.Preference
import Mathlib.Order.Bounds.Defs

set_option relaxedAutoImplicit false
set_option autoImplicit false

namespace AudioLink

/-- Another codec is offered with a greater priority than all entries of the codec in use. -/
def CodecStatus.Outbid (status : CodecStatus) : Prop :=
  ∃ other ∈ status.selectable, ∀ own ∈ status.config :: status.selectable,
    own.codec = status.config.codec → own.priority < other.priority

namespace CodecConfig

variable {active : Option Codec} {seen : List CodecConfig} {best entry candidate : CodecConfig}

/-! ### The best so far -/

/-- The best of the entries seen so far: no other has a greater priority, and of those that have
the same, it is one of the codec in use, or there is none of these and it is the first. -/
structure Leads (active : Option Codec) (seen : List CodecConfig) (best : CodecConfig) : Prop where
  mem : best ∈ seen
  greatest : ∀ c ∈ seen, c.priority ≤ best.priority
  tie : active = some best.codec ∨
    (∀ c ∈ seen, c.priority = best.priority → active ≠ some c.codec) ∧
      seen.find? (·.priority = best.priority) = some best

/-- What bounds the entries seen so far and the next one bounds them all. -/
theorem bounded_snoc {bound : Int} (hseen : ∀ c ∈ seen, c.priority ≤ bound)
    (hentry : entry.priority ≤ bound) : ∀ c ∈ seen ++ [entry], c.priority ≤ bound := by
  intro c hc
  rcases List.mem_append.1 hc with hc | hc
  · exact hseen c hc
  · rw [List.mem_singleton.1 hc]
    exact hentry

/-- A single entry is the best there is. -/
theorem leads_single : Leads active [candidate] candidate where
  mem := List.mem_singleton_self _
  greatest c hc := by
    obtain rfl := List.mem_singleton.1 hc
    exact Int.le_refl _
  tie := by
    by_cases hactive : active = some candidate.codec
    · exact .inl hactive
    · simp [hactive]

/-- An entry of greater priority than all before is the best from then on. -/
theorem Leads.surpass (h : Leads active seen best) (hgreater : best.priority < entry.priority) :
    Leads active (seen ++ [entry]) entry := by
  have hlower : ∀ c ∈ seen, c.priority < entry.priority := by
    intro c hc
    have := h.greatest c hc
    omega
  refine ⟨by simp, bounded_snoc (fun c hc => Int.le_of_lt (hlower c hc)) (Int.le_refl _), ?_⟩
  by_cases hactive : active = some entry.codec
  · exact .inl hactive
  · -- it is the only one of its priority
    refine .inr ⟨?_, ?_⟩
    · intro c hc hsame
      rcases List.mem_append.1 hc with hc | hc
      · have := hlower c hc
        omega
      · rw [List.mem_singleton.1 hc]
        exact hactive
    · have hnone : seen.find? (·.priority = entry.priority) = none := by
        refine List.find?_eq_none.2 fun c hc => ?_
        have := hlower c hc
        simp only [decide_eq_true_eq]
        omega
      simp [List.find?_append, hnone]

/-- An entry of the codec in use is the best from then on if none before has a greater priority. -/
theorem Leads.prevail (h : Leads active seen best) (hsame : entry.priority = best.priority)
    (hactive : active = some entry.codec) : Leads active (seen ++ [entry]) entry where
  mem := by simp
  greatest := bounded_snoc (hsame ▸ h.greatest) (Int.le_refl _)
  tie := .inl hactive

/-- The best so far stays the best if the next entry has no greater priority, and no equal one
either unless it is of another codec than the one in use or comes too late. -/
theorem Leads.remain (h : Leads active seen best) (hleast : entry.priority ≤ best.priority)
    (hkept : entry.priority = best.priority → active = some entry.codec →
      active = some best.codec) : Leads active (seen ++ [entry]) best := by
  refine ⟨List.mem_append_left _ h.mem, bounded_snoc h.greatest hleast, ?_⟩
  rcases h.tie with hactive | ⟨hothers, hfirst⟩
  · exact .inl hactive
  · by_cases hactive : active = some best.codec
    · exact .inl hactive
    · refine .inr ⟨?_, by simp [List.find?_append, hfirst]⟩
      intro c hc hsame hinUse
      rcases List.mem_append.1 hc with hc | hc
      · exact hothers c hc hsame hinUse
      · obtain rfl := List.mem_singleton.1 hc
        exact hactive (hkept hsame hinUse)

/-- The next entry is compared with the best so far, and the better of the two is the best. -/
theorem Leads.better (h : Leads active seen best) (entry : CodecConfig) :
    Leads active (seen ++ [entry]) (better active best entry) := by
  unfold CodecConfig.better
  split
  · next hgreater => exact h.surpass hgreater
  · next hgreater =>
      split
      · next htie => exact h.prevail htie.1 htie.2.1
      · next htie =>
          refine h.remain (by omega) fun hsame hinUse => ?_
          exact Classical.byContradiction fun hbest => htie ⟨hsame, hinUse, hbest⟩

/-- So it is with all the entries that follow. -/
theorem leads_foldl (h : Leads active seen best) (rest : List CodecConfig) :
    Leads active (seen ++ rest) (rest.foldl (better active) best) := by
  -- by induction on the entries to come, for any best so far
  induction rest generalizing seen best with
  | nil => simpa using h
  | cons entry rest ih => simpa using ih (h.better entry)

/-- The preferred codec is that of the best of all entries. -/
theorem exists_leads (candidate : CodecConfig) (selectable : List CodecConfig)
    (active : Option Codec) : ∃ best, Leads active (candidate :: selectable) best ∧
      candidate.preferred selectable active = best.codec :=
  ⟨_, leads_foldl leads_single selectable, rfl⟩

/-! ### The preferred codec -/

/-- **Which codec is preferred.**  Of the entries that have the greatest priority, the candidate
among them, one of the codec in use is preferred to the others, and otherwise the first. -/
theorem preferred_eq_tieAware (candidate : CodecConfig) (selectable : List CodecConfig)
    (active : Option Codec) :
    let entries := candidate :: selectable
    ∃ greatest, IsGreatest {p | ∃ c ∈ entries, c.priority = p} greatest ∧
      some (candidate.preferred selectable active) =
        if ∃ c ∈ entries, c.priority = greatest ∧ active = some c.codec then active
        else (entries.find? (·.priority = greatest)).map (·.codec) := by
  intro entries
  obtain ⟨best, hbest, hpreferred⟩ := exists_leads candidate selectable active
  refine ⟨best.priority, ⟨⟨best, hbest.mem, rfl⟩, ?_⟩, ?_⟩
  · rintro p ⟨c, hc, rfl⟩
    exact hbest.greatest c hc
  · rw [hpreferred]
    split
    · next hinUse =>
        obtain ⟨c, hc, hsame, hactive⟩ := hinUse
        rcases hbest.tie with htie | ⟨hothers, -⟩
        · exact htie.symm
        · exact absurd hactive (hothers c hc hsame)
    · next hunused =>
        rcases hbest.tie with htie | ⟨-, hfirst⟩
        · exact absurd ⟨best, hbest.mem, rfl, htie⟩ hunused
        · rw [hfirst]
          rfl

/-- When the candidate is of the codec in use, another codec is preferred only if one of its entries
has a greater priority than all entries of the codec in use. -/
theorem preferred_eq_inUse_iff {selectable : List CodecConfig} :
    candidate.preferred selectable (some candidate.codec) = candidate.codec ↔
      ¬∃ other ∈ selectable, ∀ own ∈ candidate :: selectable, own.codec = candidate.codec →
        own.priority < other.priority := by
  obtain ⟨best, hbest, hpreferred⟩ := exists_leads candidate selectable (some candidate.codec)
  rw [hpreferred]
  constructor
  · rintro hown ⟨other, hother, houtbids⟩
    have hlower := houtbids best hbest.mem hown
    have hgreatest := hbest.greatest other (List.mem_cons_of_mem _ hother)
    omega
  · intro hfree
    refine Classical.byContradiction fun hforeign => hfree ⟨best, ?_, ?_⟩
    · rcases List.mem_cons.1 hbest.mem with rfl | hmem
      · exact absurd rfl hforeign
      · exact hmem
    · intro own hown hcodec
      obtain ⟨hothers, -⟩ := hbest.tie.resolve_left fun htie => hforeign (Option.some.inj htie).symm
      have hle := hbest.greatest own hown
      have hne : own.priority ≠ best.priority := fun hsame =>
        hothers own hown hsame (congrArg some hcodec.symm)
      omega

/-- An entry with a greater priority than all those of other codecs decides which one is preferred,
whichever is in use. -/
theorem preferred_eq_of_dominant {selectable : List CodecConfig} {top : CodecConfig}
    (htop : top ∈ candidate :: selectable)
    (hdominant : ∀ c ∈ candidate :: selectable, c.codec ≠ top.codec → c.priority < top.priority) :
    candidate.preferred selectable active = top.codec := by
  obtain ⟨best, hbest, hpreferred⟩ := exists_leads candidate selectable active
  rw [hpreferred]
  refine Classical.byContradiction fun hforeign => ?_
  have hlower := hdominant best hbest.mem hforeign
  have hgreatest := hbest.greatest top htop
  omega

/-! ### A request for what is in use -/

/-- The configuration in use satisfies a request for itself unless another codec outbids it. -/
theorem isSatisfiedBy_inUse_iff {status : CodecStatus} :
    status.config.isSatisfiedBy status = true ↔ ¬status.Outbid := by
  rw [CodecStatus.Outbid, ← preferred_eq_inUse_iff]
  simp only [isSatisfiedBy, similar_self, sameParameters_self, Bool.and_self, Bool.or_true,
    Bool.and_true, beq_iff_eq]

/-- **When the configuration in use is asked for.**  Once the negotiation is complete, and the
device can use the configuration that is in use, a request for it is for nothing new exactly if no
codec is offered with a greater priority than all entries of the codec in use.  Otherwise the
configuration is sent to the device, which uses it already. -/
theorem decision_inUse_iff (status : CodecStatus) (hcomplete : status.isComplete = true)
    (hcovers : status.covers status.config = true) :
    (status.config.decision (some status) = .unchanged ↔ ¬status.Outbid) ∧
      (status.config.decision (some status) = .apply [status.config] ↔ status.Outbid) := by
  have hdecision : status.config.decision (some status) =
      if status.config.isSatisfiedBy status then .unchanged else .apply [status.config] := by
    simp [decision, hcomplete, hcovers]
  by_cases houtbid : status.Outbid
  · have hunsatisfied : ¬status.config.isSatisfiedBy status = true := fun hsatisfied =>
      isSatisfiedBy_inUse_iff.1 hsatisfied houtbid
    simp [hdecision, hunsatisfied, houtbid]
  · have hsatisfied := isSatisfiedBy_inUse_iff.2 houtbid
    simp [hdecision, hsatisfied, houtbid]

/-- The configuration in use is asked for while other codecs are offered with a greater priority: it
is for nothing new, since its codec is offered with that priority too. -/
theorem decision_inUse_iff_tied :
    let status : CodecStatus :=
      ⟨.plain .aac 0, [.plain .sbc 3, .plain .ldac 3, .plain .aac 3, .plain .sbc 1], []⟩
    status.isComplete = true ∧ status.covers status.config = true ∧
      (status.config.decision (some status) = .unchanged ↔ ¬status.Outbid) ∧
      (status.config.decision (some status) = .apply [status.config] ↔ status.Outbid) :=
  ⟨by decide, by decide, decision_inUse_iff _ (by decide) (by decide)⟩

/-- The mandatory codec is in use and asked for just as it is.  It is sent to the device all the
same, since another codec is offered with a greater priority. -/
theorem inUse_resent :
    ¬∀ status : CodecStatus, status.isComplete = true → status.covers status.config = true →
      status.config.decision (some status) = .unchanged := by
  intro hall
  have hunchanged := hall ⟨.plain .sbc 0, [.plain .sbc 0, .plain .aac 50], []⟩
    (by decide) (by decide)
  have hsent : (CodecConfig.plain .sbc 0).decision
      (some ⟨.plain .sbc 0, [.plain .sbc 0, .plain .aac 50], []⟩) = .apply [.plain .sbc 0] := by
    decide
  rw [hsent] at hunchanged
  cases hunchanged

end CodecConfig

end AudioLink
