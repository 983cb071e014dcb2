import SessionLayer.Wire.CallLog
import SessionLayer.Wire.Session

/-!
# Sessions that are used directly

A `Bench` is a connector together with the session that it made last and a log of the calls on both. It
lets a caller talk to a session without a connection in between.
-/

set_option autoImplicit false

namespace SessionLayer

/-- A connector, the session that it made last, and the log of both. -/
structure Bench (κ σ : Type) where
  connector : κ
  session : Option σ := none
  log : CallLog := {}

namespace Bench

variable {κ σ : Type} [WireSession σ] [Connector κ σ]

/-- Makes a session; a failure leaves the session that is there. -/
def connect (blocking : Bool) (dsn : String) (b : Bench κ σ) : Except String Unit × Bench κ σ :=
  let log := b.log.record (Connector.connectEntry b.connector blocking dsn)
  match Connector.connect blocking dsn b.connector with
  | (.ok session, connector) => (.ok (), { connector, session := some session, log })
  | (.error text, connector) => (.error text, { b with connector, log })

/-- Makes a call on the session, `none` if there is none. -/
def call (c : Call) (b : Bench κ σ) : Option c.Answer × Bench κ σ :=
  match b.session with
  | none => (none, b)
  | some session =>
    let (answer, session) := WireSession.respond c session
    (some answer,
      { b with
        session := some session
        log := b.log.record? (Connector.callEntry b.connector c) })

def clearLog (b : Bench κ σ) : Bench κ σ :=
  { b with log := {} }

end Bench

end SessionLayer
