import SessionLayer.Fault.Kind

/-!
# The classes of fault that are raised

A raised fault either belongs to a kind of the taxonomy or stands outside of it: a bad value, an
object of the wrong type, or an answer of the wire that its protocol does not provide for. The plain
root `FaultKind.error` is never raised itself.
-/

set_option autoImplicit false

namespace SessionLayer

inductive FaultClass where
  | warning
  | interface
  | database
  | internal
  | operational
  | programming
  | integrity
  | data
  | notSupported
  /-- An argument outside its accepted range. -/
  | value
  /-- An object of the wrong type, such as one that is bound to another connection. -/
  | type
  /-- An answer of the wire outside its documented ones. -/
  | unexpectedState
  deriving DecidableEq, Repr

namespace FaultClass

/-- The kind of the taxonomy, `none` for the three classes outside of it. -/
def kind : FaultClass → Option FaultKind
  | warning => some .warning
  | interface => some .interface
  | database => some .database
  | internal => some .internal
  | operational => some .operational
  | programming => some .programming
  | integrity => some .integrity
  | data => some .data
  | notSupported => some .notSupported
  | value | type | unexpectedState => none

/-- The name of a class: that of its kind, or one of its own. -/
def label : FaultClass → String
  | value => "ValueError"
  | type => "TypeError"
  | unexpectedState => "UnexpectedState"
  | c => (c.kind.map FaultKind.name).getD ""

/-- What stands before the colon when a fault of this class is displayed. -/
def heading : FaultClass → String
  | unexpectedState => "unexpected state"
  | c => c.label

end FaultClass

end SessionLayer
