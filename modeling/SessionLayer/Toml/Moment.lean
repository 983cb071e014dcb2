import SessionLayer.Text.Numeral
import SessionLayer.Text.Split

/-!
# Dates and times of day

A moment is a date, a time of day, or both with an optional offset from universal time. All numbers in
it have a fixed width, the seconds may be left out, and nothing may follow. Only its form is checked, as
no setting is a moment.
-/

set_option autoImplicit false

namespace SessionLayer.Toml

def decimalNumber? (digits : List Char) : Option Nat :=
  digits.foldlM (fun n c => (Text.digitValue? c).map (10 * n + ·)) 0

/-- A number of exactly `count` decimal digits. -/
def fixedNumber? (count : Nat) (text : List Char) : Option Nat :=
  if text.length = count then decimalNumber? text else none

/-- The number of days in a month. -/
def daysIn (year month : Nat) : Nat :=
  if month = 2 then
    if year % 4 = 0 ∧ (year % 100 ≠ 0 ∨ year % 400 = 0) then 29 else 28
  else if month = 4 ∨ month = 6 ∨ month = 9 ∨ month = 11 then 30
  else 31

def isDate (text : List Char) : Bool :=
  match Text.splitAt '-' text with
  | [y, m, d] =>
    match fixedNumber? 4 y, fixedNumber? 2 m, fixedNumber? 2 d with
    | some year, some month, some day =>
      1 ≤ month && month ≤ 12 && 1 ≤ day && day ≤ daysIn year month
    | _, _, _ => false
  | _ => false

/-- What follows two digits whose number is at most `limit`. -/
def skipClockPart (limit : Nat) (text : List Char) : Option (List Char) :=
  if (fixedNumber? 2 (text.take 2)).any (· ≤ limit) then some (text.drop 2) else none

def skipHourMinute (text : List Char) : Option (List Char) :=
  match skipClockPart 23 text with
  | some (':' :: rest) => skipClockPart 59 rest
  | _ => none

/-- What follows the fraction of a second that may stand at the start of a text. -/
def skipFraction : List Char → Option (List Char)
  | '.' :: digits =>
    if (digits.head?.any Char.isDigit) then some (digits.dropWhile Char.isDigit) else none
  | text => some text

/-- What follows a time of day; a minute has 61 seconds at most. -/
def skipTime (text : List Char) : Option (List Char) :=
  match skipHourMinute text with
  | some (':' :: rest) => (skipClockPart 60 rest).bind skipFraction
  | rest => rest

/-- Whether a text is an offset from universal time, which may be left out. -/
def isOffset : List Char → Bool
  | [] | ['Z'] | ['z'] => true
  | '+' :: clock | '-' :: clock => skipHourMinute clock == some []
  | _ => false

/-- Whether a text is a date, a time of day, or both. -/
def isMoment (text : List Char) : Bool :=
  if isDate (text.take 10) then
    match text.drop 10 with
    | [] => true
    | mark :: time =>
      (mark == 'T' || mark == 't' || mark == ' ') && (skipTime time).any isOffset
  else skipTime text == some []

end SessionLayer.Toml
