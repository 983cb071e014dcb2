import SessionLayer.Proofs.Connection.Statements
import SessionLayer.Proofs.Scenario.Completion

/-!
# Rejected statements are faults

A result that the server rejected with an error is never taken for a success: not by the operations of a
blocking connection, not by the factory of large objects, and not by what a submitted statement comes to.
A result is taken for a success, whatever its status is, if it carries no error.
-/

set_option autoImplicit false

namespace SessionLayer

/-! ## Submitted statements -/

/-- Among the results of a submitted statement the first one that was rejected decides. -/
theorem collectOutcome_eq_rejected {results : List QueryResult} {result : QueryResult}
    {rejection : ServerError} (hfirst : results.find? (·.isError) = some result)
    (herror : result.error = some rejection) :
    collectOutcome results = .error (.rejected rejection.state rejection.message) := by
  rw [collectOutcome, hfirst, Option.bind_some, herror]

/-- Rejected results behind the first one do not count, nor does the first one if it carries no error. -/
theorem collectOutcome_eq_ok_iff {results given : List QueryResult} :
    collectOutcome results = .ok given ↔
      given = results ∧ ∀ result, results.find? (·.isError) = some result → result.error = none := by
  cases hfirst : results.find? (·.isError) with
  | none =>
    rw [collectOutcome, hfirst]
    constructor
    · intro h
      refine ⟨(Except.ok.inj h).symm, fun _ hresult => ?_⟩
      cases hresult
    · rintro ⟨rfl, -⟩
      rfl
  | some result =>
    cases herror : result.error with
    | none =>
      rw [collectOutcome, hfirst, Option.bind_some, herror]
      refine ⟨fun h => ⟨(Except.ok.inj h).symm, ?_⟩, ?_⟩
      · rintro _ ⟨⟩
        exact herror
      · rintro ⟨rfl, -⟩
        rfl
    | some rejection =>
      rw [collectOutcome_eq_rejected hfirst herror]
      constructor
      · intro h
        cases h
      · rintro ⟨-, hnone⟩
        cases herror.symm.trans (hnone result rfl)

namespace Scenario.World

variable {κ σ : Type} [WireSession σ] {react : Reactor κ σ} {w : World κ σ} {key : Nat}

/-! ## Large objects -/

omit [WireSession σ] in
/-- A computation that passes faults on succeeds only if each part does. -/
theorem of_fst_bind_eq_ok {α β : Type} {p : Play κ σ (Except Fault α)}
    {next : Except Fault α → Play κ σ (Except Fault β)} {y : β}
    (h : ((p >>= next).run w).1 = .ok y)
    (hpass : ∀ fault, next (.error fault) = pure (.error fault)) :
    ∃ x, (p.run w).1 = .ok x ∧ ((next (.ok x)).run (p.run w).2).1 = .ok y := by
  rw [StateT.run_bind] at h
  rcases hp : p.run w with ⟨fault | x, w'⟩
  · rw [hp] at h
    have h : ((next (.error fault)).run w').1 = .ok y := h
    rw [hpass] at h
    exact nomatch h
  · rw [hp] at h
    exact ⟨x, rfl, h⟩

/-- An operation succeeds only on a connection on which its span succeeds. -/
theorem of_fst_perform_eq_ok {op : Operation} {x : op.Answer}
    (h : ((perform react key op).run w).1 = .ok x) :
    ∃ c, w.connections[key]? = some c ∧ (c.perform op).result = .ok x := by
  cases hc : w.connections[key]? with
  | some c =>
    rw [fst_perform react hc op] at h
    exact ⟨c, rfl, h⟩
  | none =>
    obtain ⟨hooked, hrun⟩ := perform_run react key op w
    obtain ⟨w₁, -, hconnections, hresult, -⟩ := detached_eq key hooked (runSpan key (·.span op)) w
    have hnone : w₁.connections[key]? = none := by rw [hconnections, hc]
    rw [hrun, fst_conclude, hresult, runSpan_of_none hnone] at h
    exact nomatch h

/-- A number that was read is that of a statement that succeeded. -/
theorem of_fst_number_eq_ok {statement : String} {α : Type} {read : QueryResult → Option α} {n : α}
    (h : ((number react key statement read).run w).1 = .ok n) :
    ∃ c result, w.connections[key]? = some c ∧
      (c.perform (.execute statement)).result = .ok result ∧ read result = some n := by
  unfold number at h
  obtain ⟨result, hperform, hread⟩ := of_fst_bind_eq_ok h fun _ => rfl
  obtain ⟨c, hc, hresult⟩ := of_fst_perform_eq_ok hperform
  refine ⟨c, result, hc, hresult, ?_⟩
  cases hnumber : read result with
  | none =>
    simp only [hnumber] at hread
    exact nomatch hread
  | some given =>
    simp only [hnumber] at hread
    cases hread
    rfl

/-- A large object is opened only if the statements that create and open it succeed, and it has the
numbers that they have yielded. -/
theorem of_fst_openLargeObject_eq_ok {request : LargeObjectRequest} {object : LargeObject}
    (h : ((openLargeObject react key request).run w).1 = .ok object) :
    (∀ statement, request.creation = some statement → ∃ c result, w.connections[key]? = some c ∧
      (c.perform (.execute statement)).result = .ok result ∧ result.oid? = some object.oid) ∧
    ∀ statement, request.opening object.oid = some statement → ∃ c result,
      ((resolveOid react key request).run w).2.connections[key]? = some c ∧
        (c.perform (.execute statement)).result = .ok result ∧
        result.descriptor? = object.descriptor := by
  unfold openLargeObject at h
  rw [StateT.run_bind, StateT.run_get, pure_bind] at h
  split at h
  · exact nomatch h
  · obtain ⟨oid, hoid, h⟩ := of_fst_bind_eq_ok h fun _ => rfl
    obtain ⟨descriptor, hdescriptor, h⟩ := of_fst_bind_eq_ok h fun _ => rfl
    cases h
    constructor
    · intro statement hcreation
      rw [resolveOid, hcreation] at hoid
      exact of_fst_number_eq_ok hoid
    · intro statement hopening
      rw [resolveDescriptor, hopening] at hdescriptor
      obtain ⟨number, hnumber, hsome⟩ := of_fst_bind_eq_ok hdescriptor fun _ => rfl
      obtain ⟨c, result, hc, hresult, hread⟩ := of_fst_number_eq_ok hnumber
      cases hsome
      exact ⟨c, result, hc, hresult, hread⟩

/-- The plain factory opens an object in the world after it was admitted. -/
theorem of_fst_makeLargeObject_eq_ok {demand : LargeObjectDemand} {object : LargeObject}
    (h : ((makeLargeObject react key demand).run w).1 = .ok object) :
    ∃ mode, demand.mode.elim (.ok .read) AccessMode.parse = .ok mode ∧
      ((openLargeObject react key
        { oid := demand.oid, mode, newOid := demand.newOid, newFile := demand.newFile }).run
          ((perform react key .admitLargeObject).run w).2).1 = .ok object := by
  have hmade : ((largeObjectWith react key demand LargeObject.connection (openLargeObject react key)).run
      w).1.made = .ok object := h
  unfold largeObjectWith at hmade
  rw [StateT.run_bind] at hmade
  rcases hadmitted : (perform react key .admitLargeObject).run w with ⟨fault | admitted, w'⟩
  · rw [hadmitted] at hmade
    have hmade : Except.error fault = .ok object := hmade
    exact nomatch hmade
  · rw [hadmitted] at hmade
    cases hmode : demand.mode.elim (.ok .read) AccessMode.parse with
    | error fault =>
      simp only [hmode] at hmade
      have hmade : Except.error fault = .ok object := hmade
      exact nomatch hmade
    | ok mode =>
      refine ⟨mode, rfl, ?_⟩
      simp only [hmode] at hmade
      change Making.made ((openLargeObject react key
        { oid := demand.oid, mode, newOid := demand.newOid, newFile := demand.newFile } >>= _ :
          Play κ σ (Making LargeObjectRequest LargeObject)).run w').1 = .ok object at hmade
      rw [StateT.run_bind] at hmade
      rcases hopened : (openLargeObject react key
        { oid := demand.oid, mode, newOid := demand.newOid, newFile := demand.newFile }).run w'
        with ⟨fault | product, w''⟩
      · rw [hopened] at hmade
        have hmade : Except.error fault = .ok object := hmade
        exact nomatch hmade
      · rw [hopened] at hmade
        change Making.made ((if product.connection ≠ key then _ else _ :
          Play κ σ (Making LargeObjectRequest LargeObject)).run w'').1 = .ok object at hmade
        split at hmade
        · have hmade : (.error .foreignLargeObject : Except Fault LargeObject) = .ok object := hmade
          exact nomatch hmade
        · exact hmade

/-! ## The main statement -/

/-- What was rejected with an error is a fault, and what carries no error is not.

An operation on an open blocking connection runs the statements of its plan up to the first one that is
not accepted. It succeeds exactly if none failed in the transport or was rejected with an error; and such
an error is the fault of the operation, which leaves the connection as the statements accepted before
have made it. A large object is opened only if the operations that create and open it succeed. What a
submitted statement comes to is decided by its first result that was rejected. -/
theorem rejections_are_reported :
    (∀ (c : Connection σ) (op : Operation) (plan : Plan), c.guarded.Settled c.asynchronous →
      c.asynchronous = false → c.guarded.status ≠ .closed → op.plan c.guarded = some plan →
        (∃ xs g' session, Span.Carried c.guarded plan op.yield xs (c.perform op).result g' ∧
          (c.perform op).exchanges = xs ++ Span.messageExchanges session ∧
          (c.perform op).guarded = (g'.on (Span.relieved session)).stashing .empty) ∧
        ((∃ x, (c.perform op).result = .ok x) ↔
          ∀ (sql : String) (answer : Except String QueryResult),
            { call := .exec sql, answer } ∈ (c.perform op).exchanges →
              ∃ result, answer = .ok result ∧ result.rejection? = none) ∧
        ∀ (sql : String) (result : QueryResult) (rejection : ServerError),
          { call := .exec sql, answer := .ok result } ∈ (c.perform op).exchanges →
            result.isError = true → result.error = some rejection →
              (c.perform op).result = .error (.rejected rejection.state rejection.message)) ∧
    (∀ (react : Reactor κ σ) (w : World κ σ) (key : Nat) (demand : LargeObjectDemand)
      (object : LargeObject), ((makeLargeObject react key demand).run w).1 = .ok object →
        ∃ mode, demand.mode.elim (.ok .read) AccessMode.parse = .ok mode ∧
          let request : LargeObjectRequest :=
            { oid := demand.oid, mode, newOid := demand.newOid, newFile := demand.newFile }
          let admitted := ((perform react key .admitLargeObject).run w).2
          let created := ((resolveOid react key request).run admitted).2
          (∀ statement, request.creation = some statement → ∃ c result,
            admitted.connections[key]? = some c ∧
              (c.perform (.execute statement)).result = .ok result ∧ result.oid? = some object.oid) ∧
          ∀ statement, request.opening object.oid = some statement → ∃ c result,
            created.connections[key]? = some c ∧
              (c.perform (.execute statement)).result = .ok result ∧
              result.descriptor? = object.descriptor) ∧
    (∀ (c : Connection σ) (completion : Completion), c.guarded.Settled c.asynchronous →
      (c.perform .poll).completion = some completion →
        (c.performance .poll).Yields completion.outcome) ∧
    ∀ results : List QueryResult,
      (∀ result rejection, results.find? (·.isError) = some result → result.error = some rejection →
        collectOutcome results = .error (.rejected rejection.state rejection.message)) ∧
      ∀ given, collectOutcome results = .ok given ↔ given = results ∧
        ∀ result, results.find? (·.isError) = some result → result.error = none := by
  refine ⟨fun c op plan h hblocking hopen hplan => ?_, fun react w key demand object hopened => ?_,
    fun c completion h hcompletion => (Connection.yields_performance h hcompletion).2,
    fun results => ⟨fun result rejection => collectOutcome_eq_rejected,
      fun given => collectOutcome_eq_ok_iff⟩⟩
  · have hcarried := Connection.carried_perform h hblocking hopen hplan
    refine ⟨hcarried, Connection.perform_eq_ok_iff h hblocking hopen hplan, ?_⟩
    intro sql result rejection hmem herror hrejection
    obtain ⟨xs, g', session, hcarried, hexchanges, -⟩ := hcarried
    rw [hexchanges] at hmem
    rcases List.mem_append.1 hmem with hmem | hmem
    · refine hcarried.eq_rejected hmem ?_
      rw [QueryResult.rejection?, if_pos herror, hrejection]
    · exact absurd hmem (Span.not_mem_messageExchanges session)
  · obtain ⟨mode, hmode, hopened⟩ := of_fst_makeLargeObject_eq_ok hopened
    exact ⟨mode, hmode, of_fst_openLargeObject_eq_ok hopened⟩

/-- A query is rejected in a block that was opened for it; the block stays open. -/
theorem rejections_are_reported_in_block :
    let script : Script := { answers := [("SELECT 1", .fatal "no such table" (some "42P01"))] }
    let info : SessionInfo :=
      { dateStyle := { output := "ISO", order := none }
        encoding := "UTF8"
        serverVersion := 160002
        protocolVersion := 3
        standardConformingStrings := true }
    let c : Connection ScriptedSession :=
      { (.create 0 "" false false .standard : Connection ScriptedSession) with
        guarded :=
          { session := some (.start script [])
            status := .ready
            info := some info
            isolation := .readCommitted } }
    c.guarded.Settled c.asynchronous ∧
      (Operation.execute "SELECT 1").plan c.guarded = some
        { stages := [{ statement := "BEGIN; SET TRANSACTION ISOLATION LEVEL READ COMMITTED",
                       status := some .inBlock }, { statement := "SELECT 1" }] } ∧
      (c.perform (.execute "SELECT 1")).result = .error (.rejected (some "42P01") "no such table") ∧
      (c.perform (.execute "SELECT 1")).guarded.status = .inBlock := by
  intro script info c
  have hsettled : c.guarded.Settled c.asynchronous := by
    refine ⟨?_, rfl⟩
    constructor <;> decide
  have hplan : (Operation.execute "SELECT 1").plan c.guarded = some
      { stages := [{ statement := "BEGIN; SET TRANSACTION ISOLATION LEVEL READ COMMITTED",
                     status := some .inBlock }, { statement := "SELECT 1" }] } := rfl
  obtain ⟨-, -, hrejected⟩ :=
    (rejections_are_reported (κ := Script)).1 c _ _ hsettled rfl (by decide) hplan
  have hmem : ({ call := .exec "SELECT 1",
                 answer := .ok (.fatal "no such table" (some "42P01")) } : Exchange) ∈
      (c.perform (.execute "SELECT 1")).exchanges := List.mem_of_getElem? (i := 1) rfl
  exact ⟨hsettled, hplan, hrejected _ _ _ hmem rfl rfl, by decide +kernel⟩

/-- A commit that was rejected without an error is taken for a commit. -/
example :
    let script : Script := { answers := [("COMMIT", { status := .fatalError })] }
    let c : Connection ScriptedSession :=
      { (.create 0 "" false false .standard : Connection ScriptedSession) with
        guarded :=
          { session := some (.start script [])
            status := .inBlock
            isolation := .readCommitted } }
    (c.perform .commit).result.toOption = some () ∧ (c.perform .commit).guarded.status = .ready := by
  decide +kernel

end Scenario.World

end SessionLayer
