import CallSite.Decimal.Shortest
import CallSite.Json.Basic

/-!
# Writing documents

The compact text of a value: no blanks, members in order, numbers by their shortest text.  Between
quotes only the quote, the backslash and the control characters are escaped.

* `Json.render` — the text.
-/

namespace CallSite.Json

/-- The escaped form of a control character. -/
def controlEscape (c : Char) : String :=
  let digits := Nat.toDigits 16 c.toNat
  "\\u" ++ String.ofList (List.replicate (4 - digits.length) '0' ++ digits)

/-- A character between quotes, after the text so far. -/
def pushEscaped (out : String) (c : Char) : String :=
  if c = '"' then out ++ "\\\""
  else if c = '\\' then out ++ "\\\\"
  else if c = '\n' then out ++ "\\n"
  else if c = '\r' then out ++ "\\r"
  else if c = '\t' then out ++ "\\t"
  else if c = '\x08' then out ++ "\\b"
  else if c = '\x0c' then out ++ "\\f"
  else if c < ' ' then out ++ controlEscape c
  else out.push c

/-- A string between quotes, after the text so far. -/
def pushString (out : String) (s : String) : String :=
  (s.toList.foldl pushEscaped (out.push '"')).push '"'

mutual

/-- A value, after the text so far. -/
def push (out : String) : Json → String
  | null => out ++ "null"
  | bool b => out ++ (if b then "true" else "false")
  | int n => out ++ toString n
  | double d => out ++ (if d.isFinite then d.text else "null")
  | string s => pushString out s
  | array items => (pushItems (out.push '[') true items).push ']'
  | object members => (pushMembers (out.push '\x7b') true members).push '\x7d'
  | unreadable => out ++ "null"
termination_by structural j => j

/-- Items, with a comma before all but the first. -/
def pushItems (out : String) (first : Bool) : List Json → String
  | [] => out
  | j :: js => pushItems (push (if first then out else out.push ',') j) false js
termination_by structural js => js

/-- Members, with a comma before all but the first. -/
def pushMembers (out : String) (first : Bool) : List (String × Json) → String
  | [] => out
  | m :: ms => pushMembers (pushMember (if first then out else out.push ',') m) false ms
termination_by structural ms => ms

/-- A key and its value. -/
def pushMember (out : String) : String × Json → String
  | (key, j) => push ((pushString out key).push ':') j
termination_by structural m => m

end

/-- **The compact text of a value.** -/
def render (j : Json) : String := push "" j

end CallSite.Json
