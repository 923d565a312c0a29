/-
**Log filters.**

A log filter says which messages are kept: a list of directives with commas between them.  A
directive is a level, or the name of a target, a span in brackets or both, with or without a level
behind an equality sign.

* `AudioLink.LogFilter.isLevel` — the levels, by name or by number;
* `AudioLink.LogFilter.isDirective` — one directive;
* `AudioLink.LogFilter.isValid` — a whole filter.
-/
import AudioLink.Text.Alphanumeric
import AudioLink.Text.Blank

set_option relaxedAutoImplicit false
set_option autoImplicit false

namespace AudioLink.LogFilter

/-! ### Levels -/

/-- The names of the levels, from no messages to all. -/
def levelNames : List String := ["off", "error", "warn", "info", "debug", "trace"]

/-- The lower-case form of a text; only the letters without accents have two cases here. -/
def lowerCase (cs : List Char) : List Char := cs.map Char.toLower

/-- Whether some characters are the number of a level, from zero to five.  A plus sign and zeros
may stand before it. -/
def isLevelNumber (cs : List Char) : Bool :=
  let digits := if cs.head? = some '+' then cs.tail else cs
  !digits.isEmpty &&
    match digits.dropWhile (· == '0') with
    | [] => true
    | [c] => '1' ≤ c && c ≤ '5'
    | _ => false

/-- Whether some characters are a level: its name in either case, or its number. -/
def isLevel (cs : List Char) : Bool :=
  levelNames.contains (String.ofList (lowerCase cs)) || isLevelNumber cs

/-! ### Directives -/

/-- Whether a name may start with a character: a letter, a digit, or one of the marks that a name
may have inside. -/
def isNameStart (c : Char) : Bool := Text.isAlphanumeric c || ['-', ':', '_'].contains c

/-- What a directive says of the level; `none` when it is not a directive.  What is kept is either
everything or what the level lets pass. -/
abbrev Ending := Option (Option (List Char))

/-- After the name and the span: nothing, or an equality sign and the level. -/
def afterSpan : List Char → Ending
  | [] => some none
  | '=' :: level => some (some level)
  | _ => none

/-- Inside the braces of a span: a field, which is never empty. -/
def inField (empty : Bool) : List Char → Ending
  | [] => none
  | '\x7d' :: ']' :: rest => if empty then none else afterSpan rest
  | '\x7d' :: _ => none
  | _ :: rest => inField false rest

/-- Inside the brackets of a span: its name, and its fields in braces. -/
def inSpan : List Char → Ending
  | [] => none
  | ']' :: rest => afterSpan rest
  | '\x7b' :: rest => inField true rest
  | _ :: rest => inSpan rest

/-- Inside the name of a target; a name that stands alone may also be a level. -/
def inName : List Char → Ending
  | [] => some none
  | '=' :: level => some (some level)
  | '[' :: rest => inSpan rest
  | _ :: rest => inName rest

/-- A directive from its start, which is a span or a name. -/
def ending : List Char → Ending
  | [] => none
  | '[' :: rest => inSpan rest
  | c :: rest => if isNameStart c then inName rest else none

/-- Whether some characters are a directive.  Blanks around it are passed over, with two
exceptions: those behind a level belong to it, and no level can be given behind those in front. -/
def isDirective (cs : List Char) : Bool :=
  let indented := (cs.takeWhile Text.isBlank).length != 0
  let behind := cs.reverse.takeWhile Text.isBlank
  let body := ((cs.dropWhile Text.isBlank).reverse.dropWhile Text.isBlank).reverse
  match ending body with
  | none => false
  | some none => true
  | some (some level) =>
      !indented && (let level := level ++ behind.reverse; level.isEmpty || isLevel level)

/-! ### Filters -/

/-- The parts of a text between its commas. -/
def directives : List Char → List (List Char)
  | [] => [[]]
  | c :: cs =>
      if c = ',' then [] :: directives cs
      else match directives cs with
        | [] => [[c]]
        | first :: rest => (c :: first) :: rest

/-- Whether a text is a log filter.  Parts without any character count for nothing. -/
def isValid (filter : String) : Bool :=
  (directives filter.toList).all fun part => part.isEmpty || isDirective part

example : isValid "" = true := by decide +kernel
example : isValid "audio=debug,INFO,link=4" = true := by decide +kernel
example : isValid "audio=loud" = false := by decide +kernel
example : isValid "=debug" = false := by decide +kernel
example : isValid "audio=debug=debug" = false := by decide +kernel

end AudioLink.LogFilter
