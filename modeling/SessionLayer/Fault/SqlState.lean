import SessionLayer.Fault.Class

/-!
# Classification by SQLSTATE

A server names the reason of a failure by a five-character SQLSTATE, whose first two characters are
its class. Only the class counts here. A failure without a state, or with one of no known class, is a
plain database fault.
-/

set_option autoImplicit false

namespace SessionLayer.SqlState

/-- The fault classes that two leading characters stand for; all others are plain database faults. -/
def classTable : List (String × FaultClass) :=
  [("0A", .notSupported)]
    ++ ["20", "21", "3D", "3F", "42", "44"].map (·, .programming)
    ++ [("22", .data), ("23", .integrity)]
    ++ ["24", "25", "2B", "2D", "2F", "38", "39", "3B", "F0", "P0", "XX"].map (·, .internal)
    ++ ["08", "26", "27", "28", "34", "40", "53", "54", "55", "57", "58"].map (·, .operational)

/-- The class part of a state, `none` when it has fewer than two characters. -/
def classPart (state : String) : Option String :=
  match state.toList with
  | a :: b :: _ => some (String.ofList [a, b])
  | _ => none

/-- The fault class of a failure with the given state. -/
def classify (state : Option String) : FaultClass :=
  ((state.bind classPart).bind (List.lookup · classTable)).getD .database

end SessionLayer.SqlState
