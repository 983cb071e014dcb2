import SessionLayer.Fault
import SessionLayer.Text.Blank
import SessionLayer.Text.Split

/-!
# Date styles

A server reports its date style as an output format and, often, an order of the fields, with a comma
between them: `ISO, MDY`. Blanks around the two parts do not count, and neither does anything after a
second comma.
-/

set_option autoImplicit false

namespace SessionLayer

/-- How a server writes dates. -/
structure DateStyle where
  /-- The output format, such as `ISO`. -/
  output : String
  /-- The order of day, month and year, where it was reported. -/
  order : Option String
  deriving DecidableEq, Repr

namespace DateStyle

/-- The parts between the commas, without the blanks around them. -/
def fields (text : String) : List (List Char) :=
  (Text.splitAt ',' text.toList).map Text.trimChars

/-- A part as a text, `none` if it is empty. -/
def nonempty (part : List Char) : Option String :=
  if part.isEmpty then none else some (String.ofList part)

/-- Reads a date style; a text without an output format is refused. -/
def parse (text : String) : Except Fault DateStyle :=
  match (fields text)[0]?.bind nonempty with
  | none => .error (.unreadableDateStyle text)
  | some output => .ok { output, order := (fields text)[1]?.bind nonempty }

/-- Writes a date style as a server would report it. -/
def render (d : DateStyle) : String :=
  match d.order with
  | some order => d.output ++ ", " ++ order
  | none => d.output

end DateStyle

end SessionLayer
