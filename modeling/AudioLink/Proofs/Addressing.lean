/-
**Addresses and their texts.**

An address is written in one way, and read from every text of the same form in whatever case.  The
text that is written tells the address, and the order of addresses is that of their texts: colons
stand at the same places in all of them, and digits are ordered like their values.

Main definitions:

* `AudioLink.Text.IsHexDigit` — the hexadecimal digits, in either case;
* `AudioLink.Address.IsForm` — six groups of two such digits, joined by single colons;
* `AudioLink.Address.Complaint` — what is wrong with some groups of characters, and with which.

Main results:

* `AudioLink.Address.joinGroups_splitGroups` — joining undoes splitting;
* `AudioLink.Address.parse_eq_error_iff`, `AudioLink.Address.exists_parse_iff` — which texts are
  refused and why, and which are read;
* `AudioLink.Address.parse_render`, `AudioLink.Address.render_of_parse` — what was written reads
  back, and how what was read is written;
* `AudioLink.Address.lt_iff_render_lt` — addresses are ordered like their texts;
* `AudioLink.Address.pairwise_sorted` — sorting brings the same addresses into their order;
* `AudioLink.Address.text_faithful` — **all of it in one**.
-/

import AudioLink.Address

set_option relaxedAutoImplicit false
set_option autoImplicit false

namespace AudioLink

/-! ### Digits -/

namespace Text

/-- A hexadecimal digit, in either case. -/
def IsHexDigit (c : Char) : Prop :=
  '0' ≤ c ∧ c ≤ '9' ∨ 'A' ≤ c ∧ c ≤ 'F' ∨ 'a' ≤ c ∧ c ≤ 'f'

variable {c : Char} {m n : Nat}

/-- The hexadecimal digits are the characters that have a value. -/
theorem isSome_hexDigitOf?_iff : (hexDigitOf? c).isSome ↔ IsHexDigit c := by
  have hbounds : IsHexDigit c ↔ (0x30 ≤ c.toNat ∧ c.toNat ≤ 0x39) ∨
      (0x41 ≤ c.toNat ∧ c.toNat ≤ 0x46) ∨ (0x61 ≤ c.toNat ∧ c.toNat ≤ 0x66) := Iff.rfl
  rw [hbounds, hexDigitOf?]
  split
  · next h => simp [h]
  · next hdecimal =>
      split
      · next h => simp [h]
      · next hupper => split <;> simp_all

/-- The value of a digit is written as that digit in upper case. -/
theorem hexDigit_of_hexDigitOf? (h : hexDigitOf? c = some n) : hexDigit n = c.toUpper := by
  have hall : ∀ k < 128, ∀ n ∈ hexDigitOf? (Char.ofNat k), hexDigit n = (Char.ofNat k).toUpper := by
    decide
  have hlow : c.toNat < 128 := by
    unfold hexDigitOf? at h
    split at h
    · omega
    · split at h
      · omega
      · split at h
        · omega
        · cases h
  rw [← Char.ofNat_toNat c] at h ⊢
  exact hall c.toNat hlow n h

/-- Digits are ordered like their values. -/
theorem hexDigit_lt_iff (hm : m < 16) (hn : n < 16) : hexDigit m < hexDigit n ↔ m < n := by
  have hall : ∀ m < 16, ∀ n < 16, (hexDigit m < hexDigit n ↔ m < n) := by decide
  exact hall m hm n hn

theorem hexDigit_inj (hm : m < 16) (hn : n < 16) : hexDigit m = hexDigit n ↔ m = n := by
  have hall : ∀ m < 16, ∀ n < 16, (hexDigit m = hexDigit n ↔ m = n) := by decide
  exact hall m hm n hn

end Text

namespace Address

variable {group : List Char} {groups : List (List Char)} {text : String} {a b : Address}

/-! ### The form of a text -/

/-- A text has the form of an address: six groups of two hexadecimal digits, joined by single
colons. -/
def IsForm (text : String) : Prop :=
  ∃ groups : List String, groups.length = 6 ∧
    (∀ group ∈ groups, group.length = 2 ∧ ∀ c ∈ group.toList, Text.IsHexDigit c) ∧
    text = ":".intercalate groups

theorem joinGroups_cons (h : groups ≠ []) :
    joinGroups (group :: groups) = group ++ ':' :: joinGroups groups := by
  cases groups with
  | nil => exact absurd rfl h
  | cons next rest => rfl

/-- Groups are joined by putting colons between them. -/
theorem joinGroups_eq (groups : List (List Char)) :
    joinGroups groups = [':'].intercalate groups := by
  induction groups with
  | nil => rfl
  | cons group groups ih =>
      cases groups with
      | nil => exact List.intercalate_singleton.symm
      | cons next rest =>
          rw [joinGroups_cons (List.cons_ne_nil _ _), ih, List.intercalate_cons_cons]
          simp only [List.append_assoc, List.singleton_append]

/-- Joining undoes splitting. -/
theorem joinGroups_splitGroups (cs : List Char) : joinGroups (splitGroups cs) = cs := by
  induction cs with
  | nil => rfl
  | cons c cs ih =>
      simp only [splitGroups]
      split
      · next hcolon => rw [joinGroups_cons (splitGroups_ne_nil cs), ih, hcolon, List.nil_append]
      · cases hgroups : splitGroups cs with
        | nil => exact absurd hgroups (splitGroups_ne_nil cs)
        | cons first rest =>
            rw [hgroups] at ih
            cases rest with
            | nil => exact congrArg (c :: ·) ih
            | cons second rest => exact congrArg (c :: ·) ih

/-! ### Reading -/

/-- A group is read if it consists of two hexadecimal digits. -/
theorem isSome_octet?_iff :
    (octet? group).isSome ↔ group.length = 2 ∧ ∀ c ∈ group, Text.IsHexDigit c := by
  match group with
  | [] | [_] | _ :: _ :: _ :: _ => simp [octet?]
  | [high, low] =>
      simp only [← Text.isSome_hexDigitOf?_iff]
      cases hhigh : Text.hexDigitOf? high <;> cases hlow : Text.hexDigitOf? low <;>
        simp [octet?, hhigh, hlow]

/-- An octet is written as the group that it was read from, in upper case. -/
theorem octetDigits_of_octet? {octet : UInt8} (h : octet? group = some octet) :
    Text.octetDigits octet = group.map Char.toUpper := by
  match group with
  | [] | [_] | _ :: _ :: _ :: _ => simp [octet?] at h
  | [high, low] =>
      simp only [octet?, Option.bind_eq_bind, Option.bind_eq_some_iff] at h
      obtain ⟨m, hhigh, n, hlow, hsum⟩ := h
      have hm : m < 16 := Text.hexDigitOf?_lt hhigh
      have hn : n < 16 := Text.hexDigitOf?_lt hlow
      obtain rfl : UInt8.ofNat (16 * m + n) = octet := Option.some.inj hsum
      have hvalue : (UInt8.ofNat (16 * m + n)).toNat = 16 * m + n :=
        UInt8.toNat_ofNat_of_lt (by simp only [UInt8.size]; omega)
      have hquotient : (16 * m + n) / 16 = m := by omega
      have hremainder : (16 * m + n) % 16 = n := by omega
      simp only [Text.octetDigits, hvalue, hquotient, hremainder, List.map_cons, List.map_nil,
        Text.hexDigit_of_hexDigitOf? hhigh, Text.hexDigit_of_hexDigitOf? hlow]

/-- What is wrong with some groups from which `n` octets are to be read.  A group that is none is
what is complained about, unless it comes after all those that are wanted. -/
def Complaint (n : Nat) (groups : List (List Char)) : AddressError → Prop
  | .malformed => ∃ group ∈ groups.take n, octet? group = none
  | .tooShort => groups.length < n ∧ ∀ group ∈ groups, octet? group ≠ none
  | .tooLong => n < groups.length ∧ ∀ group ∈ groups.take n, octet? group ≠ none

section

variable {α β : Type} {f : α → β} {read : Except AddressError α}

theorem map_eq_error_iff {error : AddressError} :
    read.map f = .error error ↔ read = .error error := by
  cases read <;> simp [Except.map]

theorem map_eq_ok_iff {value : β} : read.map f = .ok value ↔ ∃ a, read = .ok a ∧ f a = value := by
  cases read <;> simp [Except.map]

end

/-- When no octets are read, and what is said then. -/
theorem readOctets_eq_error_iff {n : Nat} {error : AddressError} :
    readOctets n groups = .error error ↔ Complaint n groups error := by
  induction n generalizing groups with
  | zero => cases groups <;> cases error <;> simp [readOctets, Complaint]
  | succ n ih =>
      cases groups with
      | nil => cases error <;> simp [readOctets, Complaint]
      | cons group groups =>
          rw [readOctets]
          cases hgroup : octet? group with
          | none => cases error <;> simp [Complaint, hgroup]
          | some octet =>
              -- the first group is fine, so that any complaint is about the others
              refine map_eq_error_iff.trans (ih.trans ?_)
              cases error <;> simp [Complaint, hgroup]

/-- The octets that are read are those of the groups. -/
theorem map_octet?_of_readOctets {n : Nat} {octets : { octets : List UInt8 // octets.length = n }}
    (h : readOctets n groups = .ok octets) : groups.map octet? = octets.1.map some := by
  induction n generalizing groups with
  | zero =>
      cases groups with
      | nil =>
          cases h
          rfl
      | cons group groups => cases h
  | succ n ih =>
      cases groups with
      | nil => cases h
      | cons group groups =>
          rw [readOctets] at h
          cases hgroup : octet? group with
          | none =>
              rw [hgroup] at h
              cases h
          | some octet =>
              rw [hgroup] at h
              obtain ⟨rest, hrest, rfl⟩ := map_eq_ok_iff.1 h
              simp [hgroup, ih hrest]

/-- When no address is read, and what is said then. -/
theorem parse_eq_error_iff {error : AddressError} :
    parse text = .error error ↔ Complaint 6 (splitGroups text.toList) error :=
  map_eq_error_iff.trans readOctets_eq_error_iff

/-- The octets of the address that is read are those of the groups of its text. -/
theorem map_octet?_of_parse (h : parse text = .ok a) :
    (splitGroups text.toList).map octet? = a.octets.map some := by
  obtain ⟨octets, hread, rfl⟩ := map_eq_ok_iff.1 h
  exact map_octet?_of_readOctets hread

/-! ### Writing what was read, and reading what was written -/

/-- A colon is no digit. -/
theorem colon_not_mem (h : ∀ c ∈ group, Text.IsHexDigit c) : ':' ∉ group := by
  intro hmem
  have hcolon := Text.isSome_hexDigitOf?_iff.2 (h ':' hmem)
  cases hcolon

/-- A text is of the right form if it is split into six groups that can be read. -/
theorem isForm_iff : IsForm text ↔ (splitGroups text.toList).length = 6 ∧
    ∀ group ∈ splitGroups text.toList, (octet? group).isSome := by
  constructor
  · rintro ⟨groups, hlength, hdigits, rfl⟩
    have hsplit : splitGroups (":".intercalate groups).toList = groups.map String.toList := by
      rw [String.toList_intercalate]
      show splitGroups ([':'].intercalate (groups.map String.toList)) = groups.map String.toList
      rw [← joinGroups_eq]
      refine splitGroups_joinGroups ?_ ?_
      · rintro hnil
        rw [List.map_eq_nil_iff.1 hnil] at hlength
        cases hlength
      · intro group hgroup
        obtain ⟨g, hg, rfl⟩ := List.mem_map.1 hgroup
        exact colon_not_mem (hdigits g hg).2
    rw [hsplit, List.length_map]
    refine ⟨hlength, fun group hgroup => ?_⟩
    obtain ⟨g, hg, rfl⟩ := List.mem_map.1 hgroup
    exact isSome_octet?_iff.2 (hdigits g hg)
  · rintro ⟨hlength, hread⟩
    refine ⟨(splitGroups text.toList).map String.ofList, by simpa using hlength, ?_, ?_⟩
    · intro g hg
      obtain ⟨group, hgroup, rfl⟩ := List.mem_map.1 hg
      simpa using isSome_octet?_iff.1 (hread group hgroup)
    · refine String.toList_injective ?_
      have hgroups : ((splitGroups text.toList).map String.ofList).map String.toList =
          splitGroups text.toList := by simp
      rw [String.toList_intercalate, hgroups]
      exact (joinGroups_splitGroups _).symm.trans (joinGroups_eq _)

/-- Texts of the right form are read, and no others. -/
theorem exists_parse_iff : (∃ a, parse text = .ok a) ↔ IsForm text := by
  rw [isForm_iff]
  constructor
  · rintro ⟨a, ha⟩
    have hread := map_octet?_of_parse ha
    have hlength := congrArg List.length hread
    rw [List.length_map, List.length_map, a.length_octets] at hlength
    refine ⟨hlength, fun group hgroup => ?_⟩
    have hmem : octet? group ∈ a.octets.map some := hread ▸ List.mem_map_of_mem hgroup
    obtain ⟨octet, -, hoctet⟩ := List.mem_map.1 hmem
    rw [← hoctet, Option.isSome_some]
  · rintro ⟨hlength, hsome⟩
    have hnone : ∀ group ∈ splitGroups text.toList, octet? group ≠ none := fun group hgroup =>
      Option.isSome_iff_ne_none.1 (hsome group hgroup)
    cases hread : parse text with
    | ok a => exact ⟨a, rfl⟩
    | error error =>
        have hwrong := parse_eq_error_iff.1 hread
        cases error with
        | malformed =>
            obtain ⟨group, hgroup, hfail⟩ := hwrong
            exact absurd hfail (hnone group (List.mem_of_mem_take hgroup))
        | tooShort => exact absurd hwrong.1 (by omega)
        | tooLong => exact absurd hwrong.1 (by omega)

/-- What was written reads back. -/
theorem parse_render (a : Address) : parse a.render = .ok a := by
  obtain ⟨octets, hlength⟩ := a
  have hsplit : splitGroups (joinGroups (octets.map Text.octetDigits)) =
      octets.map Text.octetDigits := by
    refine splitGroups_joinGroups ?_ ?_
    · intro hnil
      rw [List.map_eq_nil_iff.1 hnil] at hlength
      cases hlength
    · intro group hgroup
      obtain ⟨octet, -, rfl⟩ := List.mem_map.1 hgroup
      have hsome : (octet? (Text.octetDigits octet)).isSome := by rw [octet?_octetDigits]; rfl
      exact colon_not_mem (isSome_octet?_iff.1 hsome).2
  have hread : ∀ n (h : octets.length = n),
      readOctets n (octets.map Text.octetDigits) = .ok ⟨octets, h⟩ := by
    rintro _ rfl
    exact readOctets_map_octetDigits octets
  rw [parse, render, String.toList_ofList, hsplit, hread 6 hlength]
  rfl

/-- Octets are written as the groups that they were read from, in upper case. -/
theorem map_octetDigits_of_map_octet? {octets : List UInt8}
    (h : groups.map octet? = octets.map some) :
    octets.map Text.octetDigits = groups.map (·.map Char.toUpper) := by
  induction groups generalizing octets with
  | nil => rw [List.map_eq_nil_iff.1 h.symm]; rfl
  | cons group groups ih =>
      cases octets with
      | nil => cases h
      | cons octet octets =>
          obtain ⟨hgroup, hgroups⟩ := List.cons.inj h
          rw [List.map_cons, List.map_cons, octetDigits_of_octet? hgroup, ih hgroups]

/-- A colon has no other case. -/
theorem joinGroups_map_toUpper (groups : List (List Char)) :
    joinGroups (groups.map (·.map Char.toUpper)) = (joinGroups groups).map Char.toUpper := by
  induction groups with
  | nil => rfl
  | cons group groups ih =>
      cases groups with
      | nil => rfl
      | cons next rest =>
          calc
            _ = group.map Char.toUpper ++
                ':' :: joinGroups ((next :: rest).map (·.map Char.toUpper)) := rfl
            _ = group.map Char.toUpper ++ (':' :: joinGroups (next :: rest)).map Char.toUpper := by
                rw [ih]
                rfl
            _ = (joinGroups (group :: next :: rest)).map Char.toUpper := List.map_append.symm

/-- What was read is written in upper case. -/
theorem render_of_parse (h : parse text = .ok a) : a.render = text.toUpper := by
  refine String.toList_injective ?_
  calc
    a.render.toList = joinGroups (a.octets.map Text.octetDigits) := String.toList_ofList
    _ = joinGroups ((splitGroups text.toList).map (·.map Char.toUpper)) := by
        rw [map_octetDigits_of_map_octet? (map_octet?_of_parse h)]
    _ = text.toList.map Char.toUpper := by rw [joinGroups_map_toUpper, joinGroups_splitGroups]
    _ = text.toUpper.toList := String.toList_map.symm

/-! ### The order -/

/-- Octets with something behind them are ordered by the octets first. -/
theorem octetDigits_append_lt_iff (x y : UInt8) (us vs : List Char) :
    Text.octetDigits x ++ us < Text.octetDigits y ++ vs ↔ x < y ∨ x = y ∧ us < vs := by
  have hx := x.toNat_lt
  have hy := y.toNat_lt
  have hhigh : x.toNat / 16 < 16 ∧ y.toNat / 16 < 16 := by omega
  have hlow : x.toNat % 16 < 16 ∧ y.toNat % 16 < 16 := by omega
  simp only [Text.octetDigits, List.cons_append, List.nil_append, List.cons_lt_cons_iff,
    Text.hexDigit_lt_iff hhigh.1 hhigh.2, Text.hexDigit_inj hhigh.1 hhigh.2,
    Text.hexDigit_lt_iff hlow.1 hlow.2, Text.hexDigit_inj hlow.1 hlow.2,
    UInt8.lt_iff_toNat_lt, ← UInt8.toNat_inj]
  by_cases hrest : us < vs <;> simp only [hrest, and_true, and_false, or_false] <;> omega

/-- Texts with equally many groups are ordered like their octets. -/
theorem joinGroups_lt_iff {xs ys : List UInt8} (h : xs.length = ys.length) :
    joinGroups (xs.map Text.octetDigits) < joinGroups (ys.map Text.octetDigits) ↔ xs < ys := by
  induction xs generalizing ys with
  | nil =>
      rw [List.length_eq_zero_iff.1 h.symm]
      exact iff_of_false (List.lt_irrefl _) (List.lt_irrefl _)
  | cons x xs ih =>
      cases ys with
      | nil => cases h
      | cons y ys =>
          have hrest : xs.length = ys.length := Nat.succ.inj h
          have ih := ih hrest
          rw [List.cons_lt_cons_iff, List.map_cons, List.map_cons]
          cases xs with
          | nil =>
              rw [List.length_eq_zero_iff.1 hrest.symm]
              simpa [joinGroups] using octetDigits_append_lt_iff x y [] []
          | cons x' xs =>
              cases ys with
              | nil => cases hrest
              | cons y' ys =>
                  rw [joinGroups_cons (by simp), joinGroups_cons (by simp),
                    octetDigits_append_lt_iff, List.cons_lt_cons_iff, ih]
                  simp

/-- Addresses are ordered like their texts. -/
theorem lt_iff_render_lt : a < b ↔ a.render < b.render := by
  rw [String.lt_iff, render, render, String.toList_ofList, String.toList_ofList,
    joinGroups_lt_iff (a.length_octets.trans b.length_octets.symm)]
  rfl

/-! ### Sorting -/

theorem render_injective {a b : Address} (h : a.render = b.render) : a = b := by
  have hread := parse_render a
  rw [h, parse_render b] at hread
  exact (Except.ok.inj hread).symm

/-- Of two addresses one comes first. -/
theorem lt_of_not_lt {a b : Address} (hlt : ¬a < b) (hne : a ≠ b) : b < a := by
  rw [lt_iff_render_lt] at hlt ⊢
  refine Decidable.not_not.1 fun hge => hne (render_injective ?_)
  exact String.le_antisymm (String.not_lt.1 hge) (String.not_lt.1 hlt)

theorem mem_place {a c : Address} {addresses : List Address} :
    c ∈ place a addresses ↔ c = a ∨ c ∈ addresses := by
  induction addresses with
  | nil => simp [place]
  | cons b rest ih =>
      rw [place]
      split
      · exact List.mem_cons
      · split
        · next heq => simp [heq]
        · rw [List.mem_cons, ih, List.mem_cons, or_left_comm]

/-- An address is put where it belongs. -/
theorem pairwise_place {a : Address} {addresses : List Address}
    (h : addresses.Pairwise (· < ·)) : (place a addresses).Pairwise (· < ·) := by
  have htrans {x y z : Address} (hxy : x < y) (hyz : y < z) : x < z := by
    rw [lt_iff_render_lt] at hxy hyz ⊢
    exact String.lt_trans hxy hyz
  induction addresses with
  | nil => exact List.pairwise_singleton _ _
  | cons b rest ih =>
      obtain ⟨hfirst, hrest⟩ := List.pairwise_cons.1 h
      rw [place]
      split
      · next hlt =>
          refine List.pairwise_cons.2 ⟨fun c hc => ?_, h⟩
          rcases List.mem_cons.1 hc with rfl | hc
          · exact hlt
          · exact htrans hlt (hfirst c hc)
      · next hnot =>
          split
          · exact h
          · next hne =>
              refine List.pairwise_cons.2 ⟨fun c hc => ?_, ih hrest⟩
              rcases mem_place.1 hc with rfl | hc
              · exact lt_of_not_lt hnot hne
              · exact hfirst c hc

/-- **Sorting brings the same addresses into their order, each of them once.** -/
theorem pairwise_sorted (addresses : List Address) :
    (sorted addresses).Pairwise (· < ·) ∧ ∀ c, c ∈ sorted addresses ↔ c ∈ addresses := by
  induction addresses with
  | nil => exact ⟨.nil, fun _ => .rfl⟩
  | cons a rest ih =>
      refine ⟨pairwise_place ih.1, fun c => ?_⟩
      rw [sorted, List.foldr_cons, ← sorted, mem_place, ih.2, List.mem_cons]

/-- **How addresses and texts belong together.**  Texts of the right form are read, and no others;
what was written reads back; what was read is written in upper case; and addresses are ordered like
their texts, no two of which are the same. -/
theorem text_faithful :
    (∀ text : String, (∃ a, parse text = .ok a) ↔ IsForm text) ∧
      (∀ a : Address, parse a.render = .ok a) ∧
      (∀ (text : String) (a : Address), parse text = .ok a → a.render = text.toUpper) ∧
      ∀ a b : Address, (a < b ↔ a.render < b.render) ∧ (a = b ↔ a.render = b.render) := by
  refine ⟨fun _ => exists_parse_iff, parse_render, fun _ _ => render_of_parse, fun a b => ?_⟩
  exact ⟨lt_iff_render_lt, congrArg render, render_injective⟩

end Address

end AudioLink
