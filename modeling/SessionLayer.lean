import SessionLayer.Connection.Span.Lemmas
import SessionLayer.Scenario.Run
import SessionLayer.Settings.Load
import SessionLayer.Logging
import SessionLayer.Detach.Lock
import SessionLayer.Wire.Bench
import SessionLayer.Wire.Script
import SessionLayer.Wire.Replay
import SessionLayer.Proofs.Span.Runs
import SessionLayer.Proofs.Scenario.QueryRefinement
import SessionLayer.Proofs.Scenario.Transaction
import SessionLayer.Proofs.Dsn.UriPassword
import SessionLayer.Proofs.Dsn.PasswordOption
import SessionLayer.Proofs.Scenario.CursorState
import SessionLayer.Proofs.Scenario.Rejection
import SessionLayer.Proofs.Scenario.Ownership
import SessionLayer.Proofs.Scenario.Refusal
import SessionLayer.Proofs.Scenario.Lifetime
import SessionLayer.Proofs.Scenario.StaysOpen
import SessionLayer.Proofs.Scenario.FailStop
import SessionLayer.Proofs.Scenario.SetupAnswers
import SessionLayer.Proofs.Scenario.Encoding
import SessionLayer.Proofs.Scenario.HookBlindness
import SessionLayer.Proofs.Scenario.HookUse
import SessionLayer.Proofs.Scenario.Metadata
import SessionLayer.Proofs.Scenario.ClosedCursor
import SessionLayer.Proofs.Scenario.Executing
import SessionLayer.Proofs.Scenario.Inquiry
import SessionLayer.Proofs.Mailbox.Newest
import SessionLayer.Proofs.Settings.Precedence
import SessionLayer.Proofs.Scenario.Reset
import SessionLayer.Proofs.Scenario.Quoting
import SessionLayer.Proofs.Scenario.LargeObjects
import SessionLayer.Proofs.Dsn.OptionShape
import SessionLayer.Proofs.DateStyle.RoundTrip
import SessionLayer.Proofs.Scenario.Safeguards
import SessionLayer.Proofs.Scenario.Factories
