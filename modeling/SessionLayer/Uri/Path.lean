import SessionLayer.Text.Percent
import SessionLayer.Text.Split

/-!
# Paths of a URI

A path is a list of segments. Reading it drops the segments that only say "here", and a segment that
says "one up" takes the segment before it away, unless that one is a drive letter. A path that ends
with one of the two keeps an empty last segment in its place.
-/

set_option autoImplicit false

namespace SessionLayer.Uri.Path

/-- ASCII characters that are encoded in a path. -/
def reserved : List Char :=
  [' ', '\x22', '#', '<', '>', '?', '\x60', '\x7b', '\x7d']

/-- A segment with encoded full stops written plainly. -/
def plainDots : List Char → List Char
  | '%' :: '2' :: 'e' :: rest | '%' :: '2' :: 'E' :: rest => '.' :: plainDots rest
  | c :: rest => c :: plainDots rest
  | [] => []

/-- Whether a segment says "here". -/
def isSingleDot (segment : List Char) : Bool :=
  plainDots segment == ['.']

/-- Whether a segment says "one up". -/
def isDoubleDot (segment : List Char) : Bool :=
  plainDots segment == ['.', '.']

/-- Whether a segment is a letter and a colon or a bar, after which it ends or a backslash stands. -/
def isDriveLetter (segment : List Char) : Bool :=
  match segment with
  | letter :: mark :: rest =>
    letter.isAlpha && (mark == ':' || mark == '|') && (rest.isEmpty || rest.head? == some '\x5c')
  | _ => false

/-- The segments before the last one, unless that one has to stay. -/
def goUp (segments : List (List Char)) : List (List Char) :=
  match segments.getLast? with
  | some last => if isDriveLetter last then segments else segments.dropLast
  | none => []

/-- Appends the segments that are still to come, in encoded form. -/
def resolve (done : List (List Char)) : List (List Char) → List (List Char)
  | [] => done
  | segment :: rest =>
    let encoded := Text.percentEncode reserved segment
    let atEnd := if rest.isEmpty then [[]] else []
    if isDoubleDot encoded then resolve (goUp done ++ atEnd) rest
    else if isSingleDot encoded then resolve (done ++ atEnd) rest
    else resolve (done ++ [encoded]) rest

/-- The segments of a path as it is written, where the first slash only opens the path. -/
def parse (text : List Char) : List (List Char) :=
  match text with
  | [] => []
  | '/' :: rest => resolve [] (Text.splitAt '/' rest)
  | _ => resolve [] (Text.splitAt '/' text)

/-- The written form of a path. -/
def render (segments : List (List Char)) : List Char :=
  segments.flatMap ('/' :: ·)

end SessionLayer.Uri.Path
