import SessionLayer.Regex.Escape

/-!
# Reading classes in brackets

A bracket opens a class, and one right behind it that would close it stands for itself. Hyphens at the
start do so as well. Two ampersands, hyphens or tildes combine all that stands before them in the
brackets with what follows.
-/

set_option autoImplicit false

namespace SessionLayer.Regex

def asciiClassNames : List String :=
  ["alnum", "alpha", "ascii", "blank", "cntrl", "digit", "graph", "lower", "print", "punct", "space",
   "upper", "word", "xdigit"]

/-- Reads a class that is named between colons, from right after its bracket. -/
def readNamedClass (text : List Char) : Option (CharClass × List Char) :=
  match text with
  | ':' :: rest =>
    let (negated, rest) := match rest with
      | '^' :: rest => (true, rest)
      | _ => (false, rest)
    match rest.dropWhile (· != ':') with
    | ':' :: ']' :: after =>
      if asciiClassNames.contains (String.ofList (rest.takeWhile (· != ':'))) then
        some (.named negated, after)
      else none
    | _ => none
  | _ => none

/-- Reads a character or an escape in brackets. -/
def readMember (verbose : Bool) : List Char → Option (Atom × List Char)
  | [] => none
  | c :: rest =>
    if c = '\x5c' then readEscape verbose rest else some (.literal (.ofChar c), rest)

/-- The range between two characters. -/
def range? : Atom → Atom → Option CharClass
  | .literal first, .literal last =>
    if first.char ≤ last.char then some (.range first last) else none
  | _, _ => none

/-- Reads a range, or a single part of a class. -/
def readRange (verbose : Bool) (text : List Char) : Option (CharClass × List Char) :=
  match readMember verbose text with
  | none => none
  | some (first, rest) =>
    match skipFiller verbose rest with
    | '-' :: after =>
      if [some ']', some '-'].contains (peekPastHyphen verbose after) then
        first.toClass?.map (·, '-' :: after)
      else
        match readMember verbose (skipFiller verbose after) with
        | some (last, rest) => (range? first last).map (·, rest)
        | none => none
    | rest => first.toClass?.map (·, rest)

/-- Whether a text starts with two marks that combine classes, and what follows them. -/
def cutCombination : List Char → Option (List Char)
  | '&' :: '&' :: rest | '-' :: '-' :: rest | '~' :: '~' :: rest => some rest
  | _ => none

def readNegation (verbose : Bool) (text : List Char) : Bool × List Char :=
  match skipFiller verbose text with
  | '^' :: rest => (true, rest)
  | rest => (false, rest)

/-- Reads the rest of a class in brackets: `left` is what is to be combined with the members that are
`done`, and at the start of a class some marks stand for themselves. The number bounds the characters. -/
def readMembers (verbose : Bool) :
    Nat → (atStart : Bool) → (left : Option CharClass) → (done : List CharClass) → List Char →
      Option (CharClass × List Char)
  | 0, _, _, _, _ => none
  | n + 1, atStart, left, done, text =>
    match skipFiller verbose text with
    | [] => none
    | c :: rest =>
      if atStart ∧ (c = '-' ∨ c = ']' ∧ done.isEmpty) then
        readMembers verbose n (c == '-') left (done ++ [.literal (.ofChar c)]) rest
      else if c = ']' then some (.combine left (.ofMembers done), rest)
      else if c = '[' then
        match readNamedClass rest with
        | some (member, rest) => readMembers verbose n false left (done ++ [member]) rest
        | none =>
          let (negated, rest) := readNegation verbose rest
          match readMembers verbose n true none [] rest with
          | some (inner, rest) =>
            readMembers verbose n false left (done ++ [.bracketed negated inner]) rest
          | none => none
      else
        match cutCombination (c :: rest) with
        | some rest => readMembers verbose n false (some (.combine left (.ofMembers done))) [] rest
        | none =>
          match readRange verbose (c :: rest) with
          | some (member, rest) => readMembers verbose n false left (done ++ [member]) rest
          | none => none

/-- Reads a class in brackets from right after its opening one. -/
def readClass (verbose : Bool) (text : List Char) : Option (CharClass × List Char) :=
  let (negated, rest) := readNegation verbose text
  (readMembers verbose (rest.length + 1) true none [] rest).map fun (inner, rest) =>
    (.bracketed negated inner, rest)

end SessionLayer.Regex
