import SessionLayer.Text.Hex
import SessionLayer.Text.Numeral
import SessionLayer.Text.Split

/-!
# Addresses of version six

An address has eight groups of sixteen bits, written in hexadecimal with colons between them. One run
of zero groups may be left out, and the last two groups may be written as four decimal numbers. The
printed form leaves out the first of the longest runs of at least two zero groups.
-/

set_option autoImplicit false

namespace SessionLayer.Uri.Ipv6

/-- A decimal number of at most eight bits without leading zeros. -/
def octet? (text : List Char) : Option Nat :=
  match text with
  | '0' :: _ :: _ | '+' :: _ => none
  | _ => (Text.readUnsigned 255 text).toOption

/-- The two groups that four decimal numbers stand for. -/
def dottedGroups? (text : List Char) : Option (List Nat) :=
  match (Text.splitAt '.' text).mapM octet? with
  | some [a, b, c, d] => some [256 * a + b, 256 * c + d]
  | _ => none

/-- Groups in the order in which they stand, and after how many of them some are left out. -/
structure Groups where
  pieces : List Nat
  gap : Option Nat

def Groups.push (g : Groups) (piece : Nat) : Groups :=
  { g with pieces := g.pieces ++ [piece] }

/-- Reads groups, of which at most `room` more may follow. -/
def readGroups : (room : Nat) → List Char → Groups → Option Groups
  | _, [], g => some g
  | 0, _ :: _, _ => none
  | room + 1, c :: rest, g =>
    if c = ':' then
      if g.gap.isSome then none
      else readGroups room rest { pieces := g.pieces ++ [0], gap := some (g.pieces.length + 1) }
    else
      let (digits, after) := Text.hexRun 4 (c :: rest)
      match after with
      | [] => some (g.push (Text.hexNumber digits))
      | '.' :: _ =>
        if digits.isEmpty ∨ room = 0 then none
        else (dottedGroups? (c :: rest)).map fun two => { g with pieces := g.pieces ++ two }
      | ':' :: more =>
        if more.isEmpty then none else readGroups room more (g.push (Text.hexNumber digits))
      | _ => none

/-- The eight groups, where those that were left out are zero. -/
def Groups.expand? (g : Groups) : Option (List Nat) :=
  match g.gap with
  | some k =>
    some (g.pieces.take k ++ List.replicate (8 - g.pieces.length) 0 ++ g.pieces.drop k)
  | none => if g.pieces.length = 8 then some g.pieces else none

/-- Reads an address. -/
def parse? (text : List Char) : Option (List Nat) :=
  match text with
  | [] | [_] => none
  | ':' :: ':' :: rest => (readGroups 7 rest { pieces := [0], gap := some 1 }).bind Groups.expand?
  | ':' :: _ => none
  | _ => (readGroups 8 text { pieces := [], gap := none }).bind Groups.expand?

def zeroRun (groups : List Nat) : Nat :=
  (groups.takeWhile (· == 0)).length

/-- Where the first of the longest runs of zeros starts, and its length. -/
def longestRun (groups : List Nat) : Nat × Nat :=
  (List.range groups.length).foldl
    (fun best i =>
      let length := zeroRun (groups.drop i)
      if best.2 < length then (i, length) else best)
    (0, 0)

/-- Groups with colons between them. -/
def joinGroups (groups : List Nat) : List Char :=
  [':'].intercalate (groups.map Text.hexDigits)

/-- The printed form of an address. -/
def render (groups : List Nat) : List Char :=
  let (start, length) := longestRun groups
  if length < 2 then joinGroups groups
  else joinGroups (groups.take start) ++ [':', ':'] ++ joinGroups (groups.drop (start + length))

end SessionLayer.Uri.Ipv6
