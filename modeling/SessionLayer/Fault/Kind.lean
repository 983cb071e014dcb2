/-!
# The kinds of fault

Faults that a database client reports fall into ten kinds, arranged in a forest of depth three with
the roots `warning` and `error`. `FaultKind.lineage` lists a kind and its ancestors, and
`FaultKind.isA` asks whether one kind lies on the lineage of another.
-/

set_option autoImplicit false

namespace SessionLayer

/-- A node of the fault taxonomy. -/
inductive FaultKind where
  | warning
  | error
  | interface
  | database
  | internal
  | operational
  | programming
  | integrity
  | data
  | notSupported
  deriving DecidableEq, Repr

namespace FaultKind

/-- Every kind, roots and inner nodes before the leaves under them. -/
def all : List FaultKind :=
  [warning, error, interface, database, internal, operational, programming, integrity, data,
    notSupported]

/-- The name under which a kind is reported to callers. -/
def name : FaultKind → String
  | warning => "Warning"
  | error => "Error"
  | interface => "InterfaceError"
  | database => "DatabaseError"
  | internal => "InternalError"
  | operational => "OperationalError"
  | programming => "ProgrammingError"
  | integrity => "IntegrityError"
  | data => "DataError"
  | notSupported => "NotSupportedError"

/-- The kind that is reported under `text`, if there is one. -/
def ofName? (text : String) : Option FaultKind :=
  all.find? (·.name == text)

/-- The kind right above, `none` for the two roots. -/
def parent : FaultKind → Option FaultKind
  | warning | error => none
  | interface | database => some error
  | internal | operational | programming | integrity | data | notSupported => some database

/-- The number of kinds above a kind. -/
def depth : FaultKind → Nat
  | warning | error => 0
  | interface | database => 1
  | internal | operational | programming | integrity | data | notSupported => 2

theorem depth_lt_of_parent {k p : FaultKind} (h : k.parent = some p) : p.depth < k.depth := by
  cases k <;> simp_all [parent] <;> subst h <;> decide

/-- A kind followed by its ancestors, nearest first. -/
def lineage (k : FaultKind) : List FaultKind :=
  k :: match _h : k.parent with
    | none => []
    | some p => lineage p
termination_by k.depth
decreasing_by exact depth_lt_of_parent _h

/-- Whether `k` is `ancestor` or lies below it. -/
def isA (k ancestor : FaultKind) : Bool :=
  k.lineage.contains ancestor

/-- The place of a kind in `all`. -/
def index (k : FaultKind) : Nat :=
  all.idxOf k

/-- The kinds that `k` counts as, in the order of `all`. -/
def ancestry (k : FaultKind) : List FaultKind :=
  all.filter k.isA

theorem ofName?_name (k : FaultKind) : ofName? k.name = some k := by
  cases k <;> decide +kernel

end FaultKind

end SessionLayer
