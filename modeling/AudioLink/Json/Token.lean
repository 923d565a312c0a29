/-
**The tokens of a document.**

A document is cut into tokens first.  Blanks between tokens are dropped; everything else has to be
part of one.

* `AudioLink.Json.Token` — the tokens;
* `AudioLink.Json.readText` — the rest of a text, with its escapes resolved;
* `AudioLink.Json.readNumber` — a number;
* `AudioLink.Json.tokens?` — all tokens of a document.
-/
import AudioLink.Text.Digits

set_option relaxedAutoImplicit false
set_option autoImplicit false

namespace AudioLink.Json

/-- The tokens of a document. -/
inductive Token where
  | openBrace
  | closeBrace
  | openBracket
  | closeBracket
  | comma
  | colon
  | null
  | bool (b : Bool)
  | int (n : Int)
  | real
  | text (content : Option String)
  deriving DecidableEq, Repr

/-! ### Texts -/

/-- A piece of a text: a character, or half of one named by an escape. -/
inductive Piece where
  | char (c : Char)
  /-- The first half of a character beyond the basic plane, by its ten bits. -/
  | high (bits : Nat)
  /-- The second half. -/
  | low (bits : Nat)
  deriving DecidableEq, Repr

/-- The piece that four digits name. -/
def Piece.ofUnit (unit : Nat) : Piece :=
  if 0xD800 ≤ unit ∧ unit < 0xDC00 then high (unit - 0xD800)
  else if 0xDC00 ≤ unit ∧ unit < 0xE000 then low (unit - 0xDC00)
  else char (Char.ofNat unit)

/-- The characters of some pieces.  A first half has to be followed by a second half, and a second
half has to follow a first one. -/
def Piece.join : List Piece → Option (List Char)
  | [] => some []
  | char c :: rest => (join rest).map (c :: ·)
  | high h :: low l :: rest => (join rest).map (Char.ofNat (0x10000 + 0x400 * h + l) :: ·)
  | high _ :: _ | low _ :: _ => none

/-- The character that a one-letter escape stands for. -/
def simpleEscape? : Char → Option Char
  | '"' => some '"'
  | '\\' => some '\\'
  | '/' => some '/'
  | 'b' => some '\x08'
  | 'f' => some '\x0c'
  | 'n' => some '\n'
  | 'r' => some '\r'
  | 't' => some '\t'
  | _ => none

/-- The number of four digits in base sixteen. -/
def unit? (a b c d : Char) : Option Nat := do
  let a ← Text.hexDigitOf? a
  let b ← Text.hexDigitOf? b
  let c ← Text.hexDigitOf? c
  let d ← Text.hexDigitOf? d
  return ((a * 16 + b) * 16 + c) * 16 + d

/-- A piece before the pieces of a text. -/
def Piece.before (piece : Piece) (found : List Piece × List Char) : List Piece × List Char :=
  (piece :: found.1, found.2)

/-- The pieces of a text up to its closing quote, and what follows the quote.  Controls have to be
escaped. -/
def readPieces : List Char → Option (List Piece × List Char)
  | [] => none
  | '"' :: rest => some ([], rest)
  | '\\' :: 'u' :: a :: b :: c :: d :: rest => do
      let unit ← unit? a b c d
      (readPieces rest).map (Piece.ofUnit unit).before
  | '\\' :: letter :: rest => do
      let c ← simpleEscape? letter
      (readPieces rest).map (Piece.char c).before
  | c :: rest =>
      if c = '\\' ∨ c.toNat < 0x20 then none
      else (readPieces rest).map (Piece.char c).before

/-- A text after its opening quote, and what follows it. -/
def readText (cs : List Char) : Option (Token × List Char) :=
  (readPieces cs).map fun (pieces, rest) =>
    (.text ((Piece.join pieces).map String.ofList), rest)

/-! ### Numbers -/

/-- Whether a character is a decimal digit. -/
def isDigit (c : Char) : Bool := 0x30 ≤ c.toNat && c.toNat ≤ 0x39

/-- The number of some decimal digits. -/
def natOfDigits (digits : List Char) : Nat :=
  digits.foldl (fun n c => 10 * n + (c.toNat - 0x30)) 0

/-- At least one digit, and what follows them. -/
def readDigits (cs : List Char) : Option (List Char × List Char) :=
  if cs.takeWhile isDigit = [] then none
  else some (cs.takeWhile isDigit, cs.dropWhile isDigit)

/-- The whole part of a number: a lone zero, or digits that do not start with one. -/
def readWhole : List Char → Option (List Char × List Char)
  | '0' :: rest => some (['0'], rest)
  | cs => readDigits cs

/-- What follows a fraction, and whether there is one. -/
def skipFraction : List Char → Option (Bool × List Char)
  | '.' :: rest => (readDigits rest).map fun found => (true, found.2)
  | cs => some (false, cs)

/-- What follows a sign. -/
def skipSign : List Char → List Char
  | '+' :: rest | '-' :: rest => rest
  | cs => cs

/-- What follows an exponent, and whether there is one. -/
def skipExponent : List Char → Option (Bool × List Char)
  | 'e' :: rest | 'E' :: rest => (readDigits (skipSign rest)).map fun found => (true, found.2)
  | cs => some (false, cs)

/-- A number without its sign: its value if it is whole, and what follows it. -/
def readUnsigned (cs : List Char) : Option (Option Nat × List Char) := do
  let (digits, rest) ← readWhole cs
  let (fraction, rest) ← skipFraction rest
  let (exponent, rest) ← skipExponent rest
  return (if fraction || exponent then none else some (natOfDigits digits), rest)

/-- The token of a number without a sign. -/
def unsigned : Option Nat → Token
  | some n => .int n
  | none => .real

/-- The token of a number after a minus sign.  There is no whole number below zero but next to
zero. -/
def negated : Option Nat → Token
  | some (n + 1) => .int (.negSucc n)
  | some 0 | none => .real

/-- A number, and what follows it. -/
def readNumber : List Char → Option (Token × List Char)
  | '-' :: rest => (readUnsigned rest).map fun found => (negated found.1, found.2)
  | cs => (readUnsigned cs).map fun found => (unsigned found.1, found.2)

/-! ### All tokens -/

/-- The blanks that may stand between tokens. -/
def isSpace (c : Char) : Bool := [' ', '\t', '\n', '\r'].contains c

/-- The first token of a text that does not start with a blank, and what follows it. -/
def readToken : List Char → Option (Token × List Char)
  | '{' :: rest => some (.openBrace, rest)
  | '}' :: rest => some (.closeBrace, rest)
  | '[' :: rest => some (.openBracket, rest)
  | ']' :: rest => some (.closeBracket, rest)
  | ',' :: rest => some (.comma, rest)
  | ':' :: rest => some (.colon, rest)
  | '"' :: rest => readText rest
  | 'n' :: 'u' :: 'l' :: 'l' :: rest => some (.null, rest)
  | 't' :: 'r' :: 'u' :: 'e' :: rest => some (.bool true, rest)
  | 'f' :: 'a' :: 'l' :: 's' :: 'e' :: rest => some (.bool false, rest)
  | cs => readNumber cs

/-! ### Every token takes something away -/

theorem length_of_map_before {piece : Piece} {found : Option (List Piece × List Char)}
    {pieces : List Piece} {rest : List Char} (h : found.map piece.before = some (pieces, rest)) :
    ∃ others, found = some (others, rest) := by
  rcases found with - | ⟨others, tail⟩
  · simp at h
  · simp only [Piece.before, Option.map_some, Option.some.injEq, Prod.mk.injEq] at h
    exact ⟨others, by rw [h.2]⟩

theorem length_of_readPieces {cs rest : List Char} {pieces : List Piece}
    (h : readPieces cs = some (pieces, rest)) : rest.length < cs.length := by
  fun_induction readPieces cs generalizing pieces with
  | case1 => simp at h
  | case2 => simp_all
  | case3 a b c d tail ih =>
      simp only [Option.bind_eq_bind, Option.bind_eq_some_iff] at h
      obtain ⟨_, -, h⟩ := h
      obtain ⟨others, h⟩ := length_of_map_before h
      have := ih h
      simp only [List.length_cons]
      omega
  | case4 letter tail _ ih =>
      simp only [Option.bind_eq_bind, Option.bind_eq_some_iff] at h
      obtain ⟨_, -, h⟩ := h
      obtain ⟨others, h⟩ := length_of_map_before h
      have := ih h
      simp only [List.length_cons]
      omega
  | case5 => simp at h
  | case6 c tail _ _ _ _ ih =>
      obtain ⟨others, h⟩ := length_of_map_before h
      have := ih h
      simp only [List.length_cons]
      omega

theorem length_of_readText {cs rest : List Char} {token : Token}
    (h : readText cs = some (token, rest)) : rest.length < cs.length := by
  simp only [readText, Option.map_eq_some_iff, Prod.exists, Prod.mk.injEq] at h
  obtain ⟨pieces, tail, h, -, rfl⟩ := h
  exact length_of_readPieces h

theorem length_of_readDigits {cs digits rest : List Char}
    (h : readDigits cs = some (digits, rest)) : rest.length < cs.length := by
  simp only [readDigits, Option.ite_none_left_eq_some, Option.some.injEq, Prod.mk.injEq] at h
  obtain ⟨some_digit, rfl, rfl⟩ := h
  have split := congrArg List.length (List.takeWhile_append_dropWhile (p := isDigit) (l := cs))
  rw [List.length_append] at split
  have := List.length_pos_iff.2 some_digit
  omega

theorem length_of_readWhole {cs digits rest : List Char}
    (h : readWhole cs = some (digits, rest)) : rest.length < cs.length := by
  unfold readWhole at h
  split at h
  · cases h; simp
  · exact length_of_readDigits h

theorem length_of_skipFraction {cs rest : List Char} {found : Bool}
    (h : skipFraction cs = some (found, rest)) : rest.length ≤ cs.length := by
  unfold skipFraction at h
  split at h
  · simp only [Option.map_eq_some_iff, Prod.exists, Prod.mk.injEq] at h
    obtain ⟨digits, tail, h, -, rfl⟩ := h
    have := length_of_readDigits h
    simp only [List.length_cons]
    omega
  · cases h; exact Nat.le_refl _

theorem length_skipSign (cs : List Char) : (skipSign cs).length ≤ cs.length := by
  unfold skipSign
  split <;> simp

theorem length_of_skipExponent {cs rest : List Char} {found : Bool}
    (h : skipExponent cs = some (found, rest)) : rest.length ≤ cs.length := by
  unfold skipExponent at h
  split at h
  iterate 2
    next tail =>
      simp only [Option.map_eq_some_iff, Prod.exists, Prod.mk.injEq] at h
      obtain ⟨digits, tail', h, -, rfl⟩ := h
      have := length_of_readDigits h
      have := length_skipSign tail
      simp only [List.length_cons]
      omega
  cases h; exact Nat.le_refl _

theorem length_of_readUnsigned {cs rest : List Char} {value : Option Nat}
    (h : readUnsigned cs = some (value, rest)) : rest.length < cs.length := by
  simp only [readUnsigned, Option.bind_eq_bind, Option.bind_eq_some_iff, Prod.exists,
    Option.pure_def, Option.some.injEq, Prod.mk.injEq] at h
  obtain ⟨_, _, whole, _, _, fraction, _, _, exponent, -, rfl⟩ := h
  have := length_of_readWhole whole
  have := length_of_skipFraction fraction
  have := length_of_skipExponent exponent
  omega

theorem length_of_readNumber {cs rest : List Char} {token : Token}
    (h : readNumber cs = some (token, rest)) : rest.length < cs.length := by
  unfold readNumber at h
  split at h
  · simp only [Option.map_eq_some_iff, Prod.exists, Prod.mk.injEq] at h
    obtain ⟨value, tail, h, -, rfl⟩ := h
    have := length_of_readUnsigned h
    simp only [List.length_cons]
    omega
  · simp only [Option.map_eq_some_iff, Prod.exists, Prod.mk.injEq] at h
    obtain ⟨value, tail, h, -, rfl⟩ := h
    exact length_of_readUnsigned h

/-- A token takes up at least one character. -/
theorem length_of_readToken {cs rest : List Char} {token : Token}
    (h : readToken cs = some (token, rest)) : rest.length < cs.length := by
  unfold readToken at h
  split at h
  iterate 6 cases h; simp
  · have := length_of_readText h
    simp only [List.length_cons]
    omega
  iterate 3 cases h; simp only [List.length_cons]; omega
  exact length_of_readNumber h

/-- All tokens of a text. -/
def tokens? (cs : List Char) : Option (List Token) :=
  match cs with
  | [] => some []
  | c :: rest =>
      if isSpace c then tokens? rest
      else
        match _ : readToken (c :: rest) with
        | none => none
        | some (token, rest) => (tokens? rest).map (token :: ·)
termination_by cs.length
decreasing_by
  · simp
  · next h => exact length_of_readToken h

end AudioLink.Json
