import SessionLayer.Toml.Quotation
import SessionLayer.Toml.Scalar

/-!
# TOML documents

Reading a document yields the entries of its root table, and `none` if it breaks any rule of the format.
The format is version 1.1: tables in braces may span lines and end with a comma. Brackets and braces
nest at most eighty deep, and a dotted key has at most eighty parts.
-/

set_option autoImplicit false

namespace SessionLayer.Toml

/-- What follows a comment, up to the break at the end of its line. -/
def skipComment : List Char → Option (List Char)
  | [] => some []
  | '\n' :: rest => some ('\n' :: rest)
  | '\r' :: '\n' :: rest => some ('\n' :: rest)
  | c :: rest => if isTextChar c then skipComment rest else none

/-- What follows blanks, comments and line breaks. The number bounds the lines. -/
def skipFiller : Nat → List Char → Option (List Char)
  | 0, _ => none
  | n + 1, text =>
    match skipBlankLines text with
    | '#' :: rest => (skipComment rest).bind (skipFiller n)
    | rest => some rest

/-- What follows blanks, comments and line breaks. -/
def skipAround (text : List Char) : Option (List Char) :=
  skipFiller (text.length + 1) text

/-- What follows the end of a line, before which blanks and a comment may stand. -/
def endLine (text : List Char) : Option (List Char) :=
  let rest := skipSpaces text
  let rest? := match rest with
    | '#' :: comment => skipComment comment
    | _ => some rest
  match rest? with
  | some [] => some []
  | some rest => skipBreak rest
  | none => none

/-- Whether `c` may be part of a key without quotes. -/
def isKeyChar (c : Char) : Bool :=
  c.isAlphanum || c == '_' || c == '-'

def readKeyPart (text : List Char) : Option (String × List Char) :=
  match text with
  | [] => none
  | c :: _ =>
    if c = Text.quoteMark ∨ c = plainQuote then readQuoted false text
    else if isKeyChar c then
      some (String.ofList (text.takeWhile isKeyChar), text.dropWhile isKeyChar)
    else none

/-- A dotted key with the blanks around its parts, of which there are at most `limit`. -/
def readKeyParts : (limit : Nat) → List Char → Option (List String × List Char)
  | 0, _ => none
  | limit + 1, text =>
    match readKeyPart (skipSpaces text) with
    | none => none
    | some (part, rest) =>
      match skipSpaces rest with
      | '.' :: more => (readKeyParts limit more).map fun (parts, rest) => (part :: parts, rest)
      | rest => some ([part], rest)

/-- The greatest number of parts of a key, and of brackets and braces around a value. -/
def maxDepth : Nat := 80

/-- A dotted key with the blanks around it. -/
def readKey (text : List Char) : Option (List String × List Char) :=
  readKeyParts maxDepth text

/-- A dotted key in braces, and the value that follows its equals sign. Both may stand on lines of their
own. -/
def readInlineKey (text : List Char) : Option (List String × List Char) :=
  match readKey text with
  | none => none
  | some (path, rest) =>
    match skipAround rest with
    | some ('=' :: rest) => (skipAround rest).map (path, ·)
    | _ => none

mutual

/-- Reads a value, in which `depth` brackets and braces may be open at once. The first number bounds the
values and how deep they nest. -/
def readValue : Nat → (depth : Nat) → List Char → Option (Value × List Char)
  | 0, _, _ => none
  | _ + 1, _, [] => none
  | n + 1, depth, c :: rest =>
    if c = '[' ∨ c = '\x7b' then
      match depth with
      | 0 => none
      | inner + 1 =>
        if c = '[' then (skipAround rest).bind (readItems n inner [])
        else (skipAround rest).bind (readEntries n inner [])
    else if c = Text.quoteMark ∨ c = plainQuote then
      (readQuoted true (c :: rest)).map fun (text, rest) => (.text text, rest)
    else readScalar (c :: rest)

/-- Reads the rest of an array. -/
def readItems : Nat → (depth : Nat) → (done : List Value) → List Char → Option (Value × List Char)
  | 0, _, _, _ => none
  | n + 1, depth, done, text =>
    match text with
    | ']' :: rest => some (.array done, rest)
    | _ =>
      match readValue n depth text with
      | none => none
      | some (item, rest) =>
        match skipAround rest with
        | some (',' :: rest) => (skipAround rest).bind (readItems n depth (done ++ [item]))
        | some (']' :: rest) => some (.array (done ++ [item]), rest)
        | _ => none

/-- Reads the rest of a table in braces. -/
def readEntries : Nat → (depth : Nat) → (done : Entries) → List Char → Option (Value × List Char)
  | 0, _, _, _ => none
  | n + 1, depth, done, text =>
    match text with
    | '\x7d' :: rest => some (.table .inline done, rest)
    | _ =>
      match readInlineKey text with
      | some (path, rest) =>
        match readValue n depth rest with
        | none => none
        | some (value, rest) =>
          match done.assign path value, skipAround rest with
          | some done, some (',' :: rest) => (skipAround rest).bind (readEntries n depth done)
          | some done, some ('\x7d' :: rest) => some (.table .inline done, rest)
          | _, _ => none
      | none => none

end

inductive Line where
  | header (path : List String)
  | arrayHeader (path : List String)
  | entry (path : List String) (value : Value)

/-- Reads a line that is not blank, with the break at its end. -/
def readLine (text : List Char) : Option (Line × List Char) :=
  match text with
  | '[' :: '[' :: rest =>
    match readKey rest with
    | some (path, ']' :: ']' :: rest) => (endLine rest).map (.arrayHeader path, ·)
    | _ => none
  | '[' :: rest =>
    match readKey rest with
    | some (path, ']' :: rest) => (endLine rest).map (.header path, ·)
    | _ => none
  | _ =>
    match readKey text with
    | some (path, '=' :: rest) =>
      match readValue (2 * rest.length + 2) maxDepth (skipSpaces rest) with
      | some (value, rest) => (endLine rest).map (.entry path value, ·)
      | none => none
    | _ => none

/-- Reads the lines of a document. The number bounds them. -/
def readLines : Nat → List Char → Option (List Line)
  | 0, _ => none
  | n + 1, text =>
    match skipAround text with
    | none => none
    | some [] => some []
    | some rest =>
      match readLine rest with
      | none => none
      | some (line, rest) => (readLines n rest).map (line :: ·)

/-- Adds what lines say to a document, `path` being that of the latest header. -/
def build : (path : List String) → List Line → Entries → Option Entries
  | _, [], entries => some entries
  | _, .header path :: lines, entries => (entries.openTable path).bind (build path lines)
  | _, .arrayHeader path :: lines, entries => (entries.appendTable path).bind (build path lines)
  | path, .entry key value :: lines, entries =>
    (entries.modifyAt (·.assign key value) path).bind (build path lines)

/-- A text without the mark that tells how it is encoded. -/
def dropByteOrderMark : List Char → List Char
  | '\ufeff' :: rest => rest
  | text => text

/-- The entries of a document. -/
def parse? (document : String) : Option Entries :=
  let text := dropByteOrderMark document.toList
  (readLines (text.length + 1) text).bind fun lines => build [] lines []

end SessionLayer.Toml
