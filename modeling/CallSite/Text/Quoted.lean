import CallSite.Text.DefaultIgnorable
import CallSite.Text.GraphemeExtend
import CallSite.Text.Unprintable

/-!
# Quoted text

A string constant in a dump stands between double quotes.  The quote and the backslash are written
behind a backslash, as are the line ends, the tab and NUL by their letters; a character that would
not show, or would attach to its neighbour, is written by its number.

* `Text.escape` — the written form of one character.
* `Text.quote` — the written form of a text.
-/

namespace CallSite.Text

/-- The voicing marks of halfwidth letters.  They extend the letter before them, yet have a place of
their own and are seen as they are. -/
def isHalfwidthVoicing (c : Char) : Bool := c = '\uff9e' || c = '\uff9f'

/-- The character would be drawn onto the one before it. -/
def attaches (c : Char) : Bool := isGraphemeExtend c && !isHalfwidthVoicing c

/-- The character is seen, and by itself. -/
def isVisible (c : Char) : Bool := isPrintable c && !isDefaultIgnorable c && !attaches c

/-- A character written by its number. -/
def codeEscape (c : Char) : List Char :=
  ['\\', 'u', '\x7b'] ++ Nat.toDigits 16 c.toNat ++ ['\x7d']

/-- The written form of one character between quotes. -/
def escape (c : Char) : List Char :=
  if c = '\x00' then ['\\', '0']
  else if c = '\t' then ['\\', 't']
  else if c = '\r' then ['\\', 'r']
  else if c = '\n' then ['\\', 'n']
  else if c = '\\' then ['\\', '\\']
  else if c = '"' then ['\\', '"']
  else if isVisible c then [c]
  else codeEscape c

/-- **The written form of a text**, between double quotes. -/
def quote (s : String) : String :=
  String.ofList ('"' :: s.toList.flatMap escape ++ ['"'])

end CallSite.Text
