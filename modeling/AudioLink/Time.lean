/-
**Instants and lengths of time.**

Both are counted in nanoseconds: an instant from the start of the clock, a length of time from
nothing.  Neither has an upper bound.
-/
import AudioLink.Text.Outline
import AudioLink.Text.Span

set_option relaxedAutoImplicit false
set_option autoImplicit false

namespace AudioLink

/-- A point on the clock. -/
abbrev Instant := Nat

/-- A length of time. -/
abbrev Duration := Nat

namespace Duration

/-- Whole milliseconds. -/
def ofMillis (n : Nat) : Duration := n * Text.millisecond

/-- Whole seconds and nanoseconds. -/
def ofSeconds (secs nanos : Nat) : Duration := secs * Text.second + nanos

/-- The whole milliseconds of a length of time. -/
def toMillis (d : Duration) : Nat := d / Text.millisecond

/-- How a length of time is shown inside a structural text. -/
def outline (d : Duration) : Outline := .word (Text.span d)

end Duration

/-- How long ago `start` was at `now`; nothing when it lies ahead. -/
def elapsed (start now : Instant) : Duration := now - start

end AudioLink
