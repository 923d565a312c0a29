/-
**Device addresses.**

A remote device is named by an address of six octets, the most significant first.  It is written
as six groups of two upper-case digits with colons between them, and read in either case.

* `AudioLink.Address` — the address, ordered like a number;
* `AudioLink.Address.render` — its text;
* `AudioLink.Address.parse` — reading a text, or the first thing wrong with it;
* `AudioLink.AddressError.message` — what is said then.
-/
import AudioLink.Text.Digits
import AudioLink.Text.Outline

set_option relaxedAutoImplicit false
set_option autoImplicit false

namespace AudioLink

/-- The six octets of a device, the most significant first. -/
structure Address where
  octets : List UInt8
  length_octets : octets.length = 6
  deriving DecidableEq

/-- What is wrong with a text that is no address. -/
inductive AddressError where
  /-- It ends before the sixth group. -/
  | tooShort
  /-- A group is not made of two hexadecimal digits. -/
  | malformed
  /-- It goes on after the sixth group. -/
  | tooLong
  deriving DecidableEq, Repr

/-- The complaint about `text`. -/
def AddressError.message (text : String) : AddressError → String
  | tooShort => "Peer address too short: " ++ text
  | malformed => "Malformed peer address: " ++ text
  | tooLong => "Peer address too long: " ++ text

namespace Address

/-- The address with the given octets. -/
def ofOctets (a b c d e f : UInt8) : Address := ⟨[a, b, c, d, e, f], rfl⟩

instance : Inhabited Address := ⟨ofOctets 0 0 0 0 0 0⟩

/-- Addresses are ordered by their first difference. -/
instance : LT Address := ⟨fun a b => a.octets < b.octets⟩

instance (a b : Address) : Decidable (a < b) := inferInstanceAs (Decidable (a.octets < b.octets))

instance : Outlined Address :=
  ⟨fun a => .tuple "PeerId" [.list (a.octets.map fun b => .nat b.toNat)]⟩

/-! ### Writing -/

/-- Groups of digits with colons between them. -/
def joinGroups : List (List Char) → List Char
  | [] => []
  | [group] => group
  | group :: groups => group ++ ':' :: joinGroups groups

/-- The text of an address. -/
def render (a : Address) : String :=
  String.ofList (joinGroups (a.octets.map Text.octetDigits))

/-! ### Reading -/

/-- The groups that the colons of a text separate; there is always one. -/
def splitGroups : List Char → List (List Char)
  | [] => [[]]
  | c :: cs =>
      if c = ':' then [] :: splitGroups cs
      else match splitGroups cs with
        | [] => [[c]]
        | group :: groups => (c :: group) :: groups

/-- The octet that a group stands for. -/
def octet? : List Char → Option UInt8
  | [high, low] => do
      let h ← Text.hexDigitOf? high
      let l ← Text.hexDigitOf? low
      return UInt8.ofNat (16 * h + l)
  | _ => none

/-- Exactly `n` octets, one a group; the first group that does not fit decides the error. -/
def readOctets : (n : Nat) → List (List Char) →
    Except AddressError { octets : List UInt8 // octets.length = n }
  | 0, [] => .ok ⟨[], rfl⟩
  | 0, _ :: _ => .error .tooLong
  | _ + 1, [] => .error .tooShort
  | n + 1, group :: groups =>
      match octet? group with
      | none => .error .malformed
      | some b => (readOctets n groups).map fun rest => ⟨b :: rest.1, by simp [rest.2]⟩

/-- The address a text stands for. -/
def parse (text : String) : Except AddressError Address :=
  (readOctets 6 (splitGroups text.toList)).map fun octets => ⟨octets.1, octets.2⟩

/-! ### Reading what was written -/

/-- There is always a first group. -/
theorem splitGroups_ne_nil (cs : List Char) : splitGroups cs ≠ [] := by
  cases cs with
  | nil => simp [splitGroups]
  | cons c cs => simp only [splitGroups]; split <;> (try split) <;> simp

/-- A text without a colon is one group. -/
theorem splitGroups_of_not_mem {group : List Char} (h : ':' ∉ group) :
    splitGroups group = [group] := by
  induction group with
  | nil => rfl
  | cons c cs ih =>
      simp only [List.mem_cons, not_or] at h
      simp [splitGroups, Ne.symm h.1, ih h.2]

/-- What stands before the first colon is the first group. -/
theorem splitGroups_append {group : List Char} (h : ':' ∉ group) (rest : List Char) :
    splitGroups (group ++ ':' :: rest) = group :: splitGroups rest := by
  induction group with
  | nil => simp [splitGroups]
  | cons c cs ih =>
      simp only [List.mem_cons, not_or] at h
      simp [splitGroups, Ne.symm h.1, ih h.2]

/-- Splitting undoes joining, as long as no group holds a colon. -/
theorem splitGroups_joinGroups : ∀ {groups : List (List Char)}, groups ≠ [] →
    (∀ group ∈ groups, ':' ∉ group) → splitGroups (joinGroups groups) = groups
  | [], h, _ => absurd rfl h
  | [group], _, h => splitGroups_of_not_mem (h group (by simp))
  | group :: next :: groups, _, h => by
      rw [joinGroups, splitGroups_append (h group (by simp)) _,
        splitGroups_joinGroups (by simp) fun g hg => h g (List.mem_cons_of_mem _ hg)]
      simp

/-- The digits of an octet read back as that octet. -/
theorem octet?_octetDigits (b : UInt8) : octet? (Text.octetDigits b) = some b := by
  have h : b.toNat < 256 := b.toNat_lt
  have sum : 16 * (b.toNat / 16) + b.toNat % 16 = b.toNat := by omega
  simp only [octet?, Text.octetDigits, Text.hexDigitOf?_hexDigit _ (by omega : b.toNat / 16 < 16),
    Text.hexDigitOf?_hexDigit _ (by omega : b.toNat % 16 < 16), Option.bind_eq_bind,
    Option.bind_some, sum, UInt8.ofNat_toNat]
  rfl

/-- Written octets read back. -/
theorem readOctets_map_octetDigits (octets : List UInt8) :
    readOctets octets.length (octets.map Text.octetDigits) = .ok ⟨octets, rfl⟩ := by
  induction octets with
  | nil => rfl
  | cons b octets ih =>
      simp [readOctets, octet?_octetDigits, ih, Except.map]

/-! ### Sorting -/

/-- An address put in its place among sorted ones, unless it is there already. -/
def place (a : Address) : List Address → List Address
  | [] => [a]
  | b :: rest => if a < b then a :: b :: rest else if a = b then b :: rest else b :: place a rest

/-- Some addresses in order, each once. -/
def sorted (addresses : List Address) : List Address := addresses.foldr place []

end Address

end AudioLink
