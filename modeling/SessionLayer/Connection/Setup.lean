import SessionLayer.Connection.Transaction

/-!
# Setting a session up

What the handshake tells about the server is noted first, then the two questions of the setup are asked
and their answers noted, and at the end the notes become the information on the session. Here is what
both ways of asking share, and the blocking way, `Span.establish`.
-/

set_option autoImplicit false

namespace SessionLayer

namespace SetupQuery

/-- The single text that an answer holds. -/
def singleValue (q : SetupQuery) (answer : Option QueryResult) : Except Fault String :=
  match answer with
  | none => .error (.cannotFetch q.parameter)
  | some result =>
    match result.rejection? with
    | some rejection => .error (.setupRejected rejection.message)
    | none =>
      if result.status = .tuplesOk ∧ result.rows.length = 1 then
        match result.value? 0 0 with
        | some value => .ok value
        | none => .error (.cannotFetch q.parameter)
      else .error (.cannotFetch q.parameter)

/-- Notes the answer to a question. -/
def note (q : SetupQuery) (answer : Option QueryResult) (progress : SetupProgress) :
    Except Fault SetupProgress := do
  let value ← q.singleValue answer
  match q with
  | dateStyle => return { progress with dateStyle := some (← DateStyle.parse value) }
  | clientEncoding => return { progress with encoding := some (Encoding.upper value) }

end SetupQuery

/-- The information that a complete set of notes amounts to. -/
def SetupProgress.toInfo (p : SetupProgress) : Except Fault SessionInfo :=
  match p.dateStyle, p.encoding with
  | none, _ => .error (.cannotFetch SetupQuery.dateStyle.parameter)
  | some _, none => .error (.cannotFetch SetupQuery.clientEncoding.parameter)
  | some dateStyle, some encoding =>
    .ok
      { dateStyle
        encoding
        serverVersion := p.serverVersion
        protocolVersion := p.protocolVersion
        standardConformingStrings := p.standardConformingStrings }

namespace Span

variable {σ : Type} [WireSession σ]

/-- The parameter that tells whether backslashes in texts are plain characters. -/
def standardStringsParameter : String := "standard_conforming_strings"

/-- Starts the notes with what the handshake tells about the server. -/
def recordHandshake : Span σ Unit := do
  let standard ← ask (.parameter standardStringsParameter)
  let serverVersion ← ask .serverVersion
  let protocolVersion ← ask .protocolVersion
  update fun g =>
    { g with
      progress :=
        { standardConformingStrings := standard == some "on", serverVersion, protocolVersion } }

/-- Notes the answer to a question. -/
def noteAnswer (q : SetupQuery) (answer : Option QueryResult) : Span σ Unit := do
  let progress ← q.note answer (← guarded).progress
  update ({ · with progress })

/-- Completes the setup: the notes become the information, at the given isolation level. -/
def completeSetup (isolation : Isolation) : Span σ Unit := do
  let progress := (← guarded).progress
  update ({ · with progress := {} })
  let info ← progress.toInfo
  update ({ · with info := some info, isolation })
  moveTo .ready

/-- Asks one question and waits for its answer. -/
def askQuery (q : SetupQuery) : Span σ Unit := do
  let answer ← sent (← ask (.exec q.statement))
  noteAnswer q (some answer)

/-- Runs the whole setup, waiting for every answer. -/
def runSetup (isolation : Isolation) : Span σ Unit := do
  recordHandshake
  SetupQuery.all.forM askQuery
  completeSetup isolation

/-- Sets up a session that has just been established; a failure closes the connection. -/
def establish (isolation : Isolation) : Span σ Unit :=
  orTearDown (runSetup isolation)

/-- Reopens the session and sets it up again; a failure closes the connection. -/
def reopen (isolation : Isolation) : Span σ Unit :=
  orTearDown do
    sent (← ask .reset)
    runSetup isolation

end Span

end SessionLayer
