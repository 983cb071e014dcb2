import SessionLayer.Regex.Bracket
import SessionLayer.Regex.Group

/-!
# Regular expressions

An expression is read as a tree, of which it is then asked whether it can be matched: it may nest only
so deep, and no part may need what the matcher lacks, which are tables of the Unicode standard and bytes
that are no text. There are no counted repetitions, as braces belong to the text around an expression.
-/

set_option autoImplicit false

namespace SessionLayer

/-- A regular expression. -/
inductive Regex where
  | empty
  | atom (a : Regex.Atom)
  | charClass (c : Regex.CharClass)
  /-- Flags that hold for what follows in the group around them. -/
  | flags (change : Regex.FlagChange)
  | group (change : Regex.FlagChange) (inner : Regex)
  | repetition (inner : Regex)
  | sequence (parts : List Regex)
  | alternation (branches : List Regex)

namespace Regex

/-- Parts in a row, which are no sequence of their own unless there are two. -/
def ofParts : List Regex → Regex
  | [] => empty
  | [part] => part
  | parts => sequence parts

/-- Branches, which are no alternation unless there are two. -/
def ofBranches : List Regex → Regex
  | [branch] => branch
  | branches => alternation branches

mutual

/-- How deep groups, classes, repetitions, sequences and alternations nest. -/
def depth : Regex → Nat
  | empty | atom _ | flags _ => 0
  | charClass c => c.depth
  | group _ inner => depth inner + 1
  | repetition inner => depth inner + 1
  | sequence parts => depthOfAll parts + 1
  | alternation branches => depthOfAll branches + 1

/-- How deep the deepest of some expressions nests. -/
def depthOfAll : List Regex → Nat
  | [] => 0
  | part :: rest => max (depth part) (depthOfAll rest)

end

mutual

/-- The mode after an expression that was started in a mode, `none` if it cannot be matched. -/
def modeAfter (mode : Mode) : Regex → Option Mode
  | empty => some mode
  | atom a => if a.isSupported mode then some mode else none
  | charClass c => if c.isSupported mode then some mode else none
  | flags change => some (mode.change change)
  | group change inner => (modeAfter (mode.change change) inner).map fun _ => mode
  | repetition inner => modeAfter mode inner
  | sequence parts => modeAfterAll mode parts
  | alternation branches => modeAfterAll mode branches

/-- The mode after several expressions. -/
def modeAfterAll (mode : Mode) : List Regex → Option Mode
  | [] => some mode
  | part :: rest =>
    match modeAfter mode part with
    | some mode => modeAfterAll mode rest
    | none => none

end

/-- How deep an expression may nest. -/
def maxDepth : Nat := 250

/-- Whether an expression can be matched. -/
def isSupported (e : Regex) : Bool :=
  e.depth ≤ maxDepth && (e.modeAfter .initial).isSome

/-- The parts of a sequence after its last one is repeated, which has to match something. -/
def repeatLast (parts : List Regex) : Option (List Regex) :=
  match parts.getLast? with
  | none | some (flags _) => none
  | some part => some (parts.dropLast ++ [repetition part])

/-- The atom of a character without a backslash. -/
def plainAtom (c : Char) : Atom :=
  if c = '.' then .anyChar else if c = '^' ∨ c = '$' then .anchor else .literal (.ofChar c)

/-- A text after the question mark that makes a repetition prefer few matches. -/
def skipReluctance : List Char → List Char
  | '?' :: rest => rest
  | text => text

/-- Reads an expression up to the end of its group, which stays: `branches` and `parts` were read, and
`names` are those of the groups before, of which no two are the same. The number bounds the
characters. -/
def readBranches :
    Nat → (verbose : Bool) → (names : List (List Char)) → (branches parts : List Regex) →
      List Char → Option (Regex × List (List Char) × List Char)
  | 0, _, _, _, _, _ => none
  | n + 1, verbose, names, branches, parts, text =>
    match skipFiller verbose text with
    | [] => some (ofBranches (branches ++ [ofParts parts]), names, [])
    | c :: rest =>
      if c = ')' then some (ofBranches (branches ++ [ofParts parts]), names, c :: rest)
      else if c = '|' then readBranches n verbose names (branches ++ [ofParts parts]) [] rest
      else if c = '*' ∨ c = '+' ∨ c = '?' then
        match repeatLast parts with
        | some parts => readBranches n verbose names branches parts (skipReluctance rest)
        | none => none
      else if c = '\x7b' then none
      else if c = '[' then
        match readClass verbose rest with
        | some (found, rest) =>
          readBranches n verbose names branches (parts ++ [charClass found]) rest
        | none => none
      else if c = '\x5c' then
        match readEscape verbose rest with
        | some (found, rest) => readBranches n verbose names branches (parts ++ [atom found]) rest
        | none => none
      else if c = '(' then
        match readOpening verbose rest with
        | none => none
        | some (.flags change, rest) =>
          readBranches n (change.state .verbose verbose) names branches (parts ++ [flags change]) rest
        | some (.group name change, rest) =>
          if name.any names.contains then none
          else
            let inside := change.state .verbose verbose
            match readBranches n inside (names ++ name.toList) [] [] rest with
            | some (inner, names, ')' :: rest) =>
              readBranches n verbose names branches (parts ++ [group change inner]) rest
            | _ => none
      else readBranches n verbose names branches (parts ++ [atom (plainAtom c)]) rest

/-- Reads a text as an expression. -/
def parse? (text : List Char) : Option Regex :=
  match readBranches (text.length + 1) false [] [] [] text with
  | some (e, _, []) => some e
  | _ => none

end Regex

end SessionLayer
