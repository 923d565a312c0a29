/-
**Quoted text.**

A text or a single character shown between quotes, in such a form that every character of it can
be told: the quote and the backslash are escaped by a backslash, a few controls have a letter of
their own, and every other hidden character is written by its code point.

* `AudioLink.Text.escape` — one character, given the quote around it;
* `AudioLink.Text.quoted`, `AudioLink.Text.quotedLetter` — a text in double quotes and a character
  in single ones.
-/
import AudioLink.Text.Digits
import AudioLink.Text.Hidden

set_option relaxedAutoImplicit false
set_option autoImplicit false

namespace AudioLink.Text

/-- The written form of one character inside `quote`.  The other kind of quote stands for
itself. -/
def escape (quote c : Char) : String :=
  if c = '\x00' then "\\0"
  else if c = '\t' then "\\t"
  else if c = '\r' then "\\r"
  else if c = '\n' then "\\n"
  else if c = '\\' ∨ c = quote then String.ofList ['\\', c]
  else if isHidden c then "\\u\x7b" ++ hexLower c.toNat ++ "\x7d"
  else c.toString

/-- A text in double quotes. -/
def quoted (s : String) : String :=
  "\"" ++ String.join (s.toList.map (escape '"')) ++ "\""

/-- A character in single quotes. -/
def quotedLetter (c : Char) : String :=
  "'" ++ escape '\'' c ++ "'"

end AudioLink.Text
