import SessionLayer.Proofs.Connection.LargeObjects
import SessionLayer.Proofs.Scenario.Refusal

/-!
# Large objects follow the answers of the server

A connection into which no listener calls back sends the statements that it takes to open a large object,
as `Opens` says, and nothing else.
-/

set_option autoImplicit false

namespace SessionLayer.Scenario.World

variable {κ σ : Type} [WireSession σ] {w w' : World κ σ} {key : Nat} {c c' : Connection σ}
  {react : Reactor κ σ}

/-- The exchanges with the session of a connection in which statements were sent. -/
def statements (w : World κ σ) (key : Nat) : List Exchange :=
  (w.exchanges key).filter Exchange.isStatement

/-- Between two worlds nothing but some statements was sent to the session of a connection. -/
structure Sends (key : Nat) (w w' : World κ σ) (c' : Connection σ) (asks : List Ask) : Prop where
  statements : w'.statements key = w.statements key ++ asks.map Ask.exchange
  connection : w'.connections[key]? = some c'
  transacts : c'.Transacts

omit [WireSession σ] in
theorem Sends.none (hc : w.connections[key]? = some c) (h : c.Transacts) : Sends key w w c [] where
  statements := (List.append_nil _).symm
  connection := hc
  transacts := h

omit [WireSession σ] in
theorem Sends.trans {w₁ w₂ : World κ σ} {asks more : List Ask} (h : Sends key w w₁ c asks)
    (h' : Sends key w₁ w₂ c' more) : Sends key w w₂ c' (asks ++ more) where
  statements := by rw [h'.statements, h.statements, List.map_append, List.append_assoc]
  connection := h'.connection
  transacts := h'.transacts

/-- Nothing is opened without an oid. -/
theorem openLargeObject_of_unresolved (hc : w.connections[key]? = some c)
    (hlevel : c.guarded.isolation ≠ .autocommit) {request : LargeObjectRequest} {fault : Fault}
    (hresolved : (resolveOid react key request).run w = (.error fault, w')) :
    (openLargeObject react key request).run w = (.error fault, w') := by
  unfold openLargeObject
  rw [Play.run_bind, Play.run_get, hc, Option.any_some, decide_eq_false hlevel]
  dsimp only
  rw [if_neg Bool.false_ne_true, Play.run_bind, hresolved]
  rfl

/-- Once the oid is known, the descriptor is all that is missing. -/
theorem openLargeObject_of_resolved (hc : w.connections[key]? = some c)
    (hlevel : c.guarded.isolation ≠ .autocommit) {request : LargeObjectRequest} {oid : Nat}
    (hresolved : (resolveOid react key request).run w = (.ok oid, w')) :
    let described := (resolveDescriptor react key request oid).run w'
    let opened := (openLargeObject react key request).run w
    opened.1.toOption = described.1.toOption.map
      (fun descriptor => { connection := key, oid, mode := request.mode, descriptor }) ∧
      opened.2 = described.2 := by
  unfold openLargeObject
  rw [Play.run_bind, Play.run_get, hc, Option.any_some, decide_eq_false hlevel]
  dsimp only
  rw [if_neg Bool.false_ne_true, Play.run_bind, hresolved]
  dsimp only
  rw [Play.run_bind]
  cases ((resolveDescriptor react key request oid).run w').1 <;> exact ⟨rfl, rfl⟩

section Spared

variable (hreact : Spares react key)

include hreact

/-- The number of a statement is read off the answer to it. -/
theorem number_of_spares (hc : w.connections[key]? = some c) (h : c.Transacts) (statement : String)
    {α : Type} (read : QueryResult → Option α) :
    ∃ begun asked c', let numbered := (number react key statement read).run w
      Sends key w numbered.2 c' (begun ++ asked) ∧
        Consulted c.guarded (some statement) begun asked c'.guarded ∧
        numbered.1.toOption = asked.head?.bind (Ask.number read) := by
  obtain ⟨w', mailbox, hrun, hc', hexchanges⟩ := perform_of_spares hreact hc (.execute statement)
  obtain ⟨begun, asked, hasks, hqueried⟩ :=
    Connection.queried_perform h.settled h.blocking h.isOpen statement
  have hnumbered : (number react key statement read).run w =
      ((c.perform (.execute statement)).result.bind fun result =>
        (read result).elim (.error (.unexpectedAnswer statement)) .ok, w') := by
    unfold number
    rw [Play.run_bind, hrun]
    cases (c.perform (.execute statement)).result with
    | error fault => rfl
    | ok result =>
      rw [Except.bind]
      dsimp only
      cases read result <;> rfl
  have hopen : (c.perform (.execute statement)).guarded.status ≠ .closed := by
    rw [hqueried.status]
    split
    · decide
    · exact h.isOpen
  have hnumber : asked.head?.bind (Ask.number read) =
      (c.perform (.execute statement)).result.toOption.bind read := by
    rw [hqueried.result, Option.bind_assoc]
    rfl
  refine ⟨begun, asked, { c with guarded := (c.perform (.execute statement)).guarded, mailbox }, ?_,
    ⟨hqueried.begins, hqueried.asks, hqueried.status, hqueried.isolation⟩, ?_⟩
  · rw [hnumbered]
    refine ⟨?_, hc', h.perform hopen hqueried.isolation mailbox⟩
    rw [statements, hexchanges, List.filter_append, hasks]
    rfl
  · rw [hnumbered, hnumber]
    cases (c.perform (.execute statement)).result with
    | error fault => rfl
    | ok result =>
      rw [Except.bind]
      cases hread : read result <;> simp [hread, Except.toOption]

/-- The oid of an object that has to be created first. -/
theorem resolveOid_of_spares (hc : w.connections[key]? = some c) (h : c.Transacts)
    {request : LargeObjectRequest} (hoid : request.oid = 0) :
    ∃ begun created c', let resolved := (resolveOid react key request).run w
      Sends key w resolved.2 c' (begun ++ created) ∧
        Consulted c.guarded request.creation begun created c'.guarded ∧
        resolved.1.toOption = request.oidTold created := by
  simp only [resolveOid, LargeObjectRequest.creation_of_zero hoid, LargeObjectRequest.oidTold_of_zero hoid]
  exact number_of_spares hreact hc h _ QueryResult.oid?

/-- The descriptor of an object, and the statement that may open it. -/
theorem resolveDescriptor_of_spares (hc : w.connections[key]? = some c) (h : c.Transacts)
    (request : LargeObjectRequest) (oid : Nat) :
    ∃ begun opened c', let resolved := (resolveDescriptor react key request oid).run w
      Sends key w resolved.2 c' (begun ++ opened) ∧
        Consulted c.guarded (request.opening oid) begun opened c'.guarded ∧
        resolved.1.toOption = request.descriptorTold opened := by
  by_cases hmode : request.mode = .noOpen
  · simp only [resolveDescriptor, LargeObjectRequest.opening_of_noOpen hmode,
      LargeObjectRequest.descriptorTold_of_noOpen hmode]
    exact ⟨[], [], c, .none hc h, ⟨rfl, rfl, rfl, rfl⟩, rfl⟩
  · simp only [resolveDescriptor, LargeObjectRequest.opening_of_ne hmode,
      LargeObjectRequest.descriptorTold_of_ne hmode]
    obtain ⟨begun, opened, c', hsends, hconsulted, hnumber⟩ :=
      number_of_spares hreact hc h (Sql.openLargeObject oid request.mode.flags) QueryResult.descriptor?
    refine ⟨begun, opened, c', hsends, hconsulted, ?_⟩
    rw [← hnumber, Play.run_bind]
    rcases (number react key (Sql.openLargeObject oid request.mode.flags) QueryResult.descriptor?).run w
      with ⟨fault | n, w'⟩ <;> rfl

/-- A large object is opened as the answers of the server say. -/
theorem openLargeObject_of_spares (hc : w.connections[key]? = some c) (h : c.Transacts) {begin : String}
    (hbegin : c.guarded.isolation.beginStatement = some begin) (request : LargeObjectRequest) :
    ∃ begun created opened c', let made := (openLargeObject react key request).run w
      Sends key w made.2 c' (begun ++ created ++ opened) ∧
        Opens key c.guarded begin request begun created opened made.1 := by
  by_cases hzero : request.oid = 0
  · obtain ⟨begun, created, c₁, hsends, hcreated, hoid⟩ := resolveOid_of_spares hreact hc h hzero
    rcases hresolved : (resolveOid react key request).run w with ⟨fault | oid, w₁⟩
    · rw [hresolved] at hsends hoid
      rw [openLargeObject_of_unresolved hc h.level hresolved]
      refine ⟨begun, created, [], c₁, ?_, .of_uncreated hbegin hzero hcreated hoid.symm rfl⟩
      rw [List.append_nil]
      exact hsends
    · rw [hresolved] at hsends hoid
      obtain ⟨hobject, hworld⟩ := openLargeObject_of_resolved hc h.level hresolved
      obtain ⟨more, opened, c₂, hsends₂, hopened, hdescriptor⟩ :=
        resolveDescriptor_of_spares hreact hsends.connection hsends.transacts request oid
      obtain ⟨rfl, hopens⟩ := Opens.of_created hbegin hzero hcreated hoid.symm hopened
        (hobject.trans (congrArg _ hdescriptor))
      exact ⟨begun, created, opened, c₂, hworld ▸ hsends.trans hsends₂, hopens⟩
  · have hresolved : (resolveOid react key request).run w = (.ok request.oid, w) := by
      rw [resolveOid, LargeObjectRequest.creation_of_ne hzero]
      rfl
    obtain ⟨hobject, hworld⟩ := openLargeObject_of_resolved hc h.level hresolved
    obtain ⟨begun, opened, c', hsends, hopened, hdescriptor⟩ :=
      resolveDescriptor_of_spares hreact hc h request request.oid
    refine ⟨begun, [], opened, c', ?_,
      .of_existing hbegin hzero hopened (hobject.trans (congrArg _ hdescriptor))⟩
    rw [List.append_nil]
    exact hworld ▸ hsends

/-- A large object may be asked for, whatever is to be opened. -/
theorem admitLargeObject_of_spares (hc : w.connections[key]? = some c) (h : c.Transacts) :
    ∃ w₁ c₁, (perform react key .admitLargeObject).run w = (.ok (), w₁) ∧ Sends key w w₁ c₁ [] ∧
      c₁.guarded.status = c.guarded.status ∧ c₁.guarded.isolation = c.guarded.isolation := by
  have husable : c.guarded.status.isUsable = true := by
    rcases h.settled.1.blocking_status h.blocking with hs | hs | hs
    · rw [hs]; rfl
    · rw [hs]; rfl
    · exact absurd hs h.isOpen
  have hadmitted := Connection.atOnce_admitLargeObject h.isOpen h.blocking husable
  obtain ⟨w₁, mailbox, hrun, hc₁, hexchanges⟩ := perform_of_spares hreact hc .admitLargeObject
  rw [hadmitted.result] at hrun
  have hstatus : (c.perform .admitLargeObject).guarded.status = c.guarded.status := by
    rw [hadmitted.guarded]
    rfl
  have hlevel : (c.perform .admitLargeObject).guarded.isolation = c.guarded.isolation := by
    rw [hadmitted.guarded]
    rfl
  refine ⟨w₁, _, hrun, ⟨?_, hc₁, h.perform (by rw [hstatus]; exact h.isOpen) hlevel mailbox⟩, hstatus, hlevel⟩
  rw [statements, hexchanges, List.filter_append, hadmitted.filter_exchanges]
  rfl

end Spared

/-- Nothing is opened for a mode that cannot be read. -/
theorem makeLargeObject_of_unread {demand : LargeObjectDemand} {w₁ : World κ σ} {fault : Fault}
    (hadmitted : (perform react key .admitLargeObject).run w = (.ok (), w₁))
    (hmode : demand.mode.elim (.ok .read) AccessMode.parse = .error fault) :
    (makeLargeObject react key demand).run w = (.error fault, w₁) := by
  unfold makeLargeObject largeObjectWith
  rw [Play.run_bind, Play.run_bind, hadmitted]
  dsimp only
  rw [hmode]
  rfl

/-- The plain factory hands out what it has opened, since that belongs to its connection. -/
theorem makeLargeObject_of_read {demand : LargeObjectDemand} {w₁ : World κ σ} {mode : AccessMode}
    (hadmitted : (perform react key .admitLargeObject).run w = (.ok (), w₁))
    (hmode : demand.mode.elim (.ok .read) AccessMode.parse = .ok mode)
    (hkey : ∀ object, ((openLargeObject react key
      { oid := demand.oid, mode, newOid := demand.newOid, newFile := demand.newFile }).run w₁).1 =
        .ok object → object.connection = key) :
    (makeLargeObject react key demand).run w = (openLargeObject react key
      { oid := demand.oid, mode, newOid := demand.newOid, newFile := demand.newFile }).run w₁ := by
  unfold makeLargeObject largeObjectWith
  rw [Play.run_bind, Play.run_bind, hadmitted]
  dsimp only
  rw [hmode]
  dsimp only
  rw [Play.run_bind]
  rcases hopened : (openLargeObject react key
    { oid := demand.oid, mode, newOid := demand.newOid, newFile := demand.newFile }).run w₁ with ⟨r, w₂⟩
  cases r with
  | error fault => rfl
  | ok object =>
    have hown : object.connection = key := hkey object (by rw [hopened])
    dsimp only
    rw [if_neg (not_not_intro hown)]
    rfl

variable [Connector κ σ]

/-- What it takes to open a large object on an open blocking connection at a level that has blocks, into
which no listener calls back, whatever is asked for and whatever the server answers.

Nothing is sent for a mode that cannot be read. Otherwise a block is opened if none is open and there is
anything to send; then an object is created if no oid was given, by an import if a file was given; then
the object is opened unless the mode says otherwise, with the flags of the mode. Each statement is sent
only if the ones before it were accepted and yielded their numbers, and the outcome is made of these
numbers: the first value of a result, as far as it denotes a number of the range.

A statement fails in the transport, or by an error that the server gives for rejecting it. One that was
rejected without an error is taken for accepted; where servers give an error for each rejected statement,
accepted are those that were not rejected. -/
theorem large_objects_follow_answers (connector : κ) (hook : Nat → Nat) :
    (∀ w : World κ σ, Reached { connector, hook } w → ∀ (key : Nat) (c : Connection σ),
      w.connections[key]? = some c → w.Opened key → c.asynchronous = false →
      c.guarded.status ≠ .closed → c.guarded.isolation ≠ .autocommit →
      ∀ react : Reactor κ σ, Spares react key → ∀ demand,
        let made := (makeLargeObject react key demand).run w
        ∃ begin begun created opened, c.guarded.isolation.beginStatement = some begin ∧
          made.2.statements key = w.statements key ++ (begun ++ created ++ opened).map Ask.exchange ∧
          (∀ fault, demand.mode.elim (.ok .read) AccessMode.parse = .error fault →
            begun ++ created ++ opened = [] ∧ made.1 = .error fault) ∧
          (∀ mode, demand.mode.elim (.ok .read) AccessMode.parse = .ok mode →
            let request : LargeObjectRequest :=
              { oid := demand.oid, mode, newOid := demand.newOid, newFile := demand.newFile }
            Opens key c.guarded begin request begun created opened made.1 ∧
            (∀ ask ∈ created, request.IsCreation ask.statement) ∧
            ∀ ask ∈ opened, ∃ oid, request.oidTold created = some oid ∧
              request.IsOpening oid ask.statement) ∧
          (∀ ask ∈ begun, ask.accepted = false →
            created = [] ∧ opened = [] ∧ ∃ fault, made.1 = .error fault) ∧
          (∀ ask ∈ created, ask.number QueryResult.oid? = none →
            opened = [] ∧ ∃ fault, made.1 = .error fault) ∧
          ∀ ask ∈ opened, ask.number QueryResult.descriptor? = none → ∃ fault, made.1 = .error fault) ∧
    (∀ ask : Ask,
      (ask.accepted = true ↔ ∃ result, ask.answer = .ok result ∧ (result.isError → result.error = none)) ∧
      ((∀ result, ask.answer = .ok result → result.isError → result.error ≠ none) →
        (ask.accepted = true ↔ ∃ result, ask.answer = .ok result ∧ result.isError = false)) ∧
      (∀ n : Nat, ask.number QueryResult.oid? = some n ↔ ∃ result, ask.answer = .ok result ∧
        (result.isError → result.error = none) ∧ ∃ text, result.value? 0 0 = some text ∧
          Text.Denotes text.toList n ∧ n ≤ 4294967295 ∧ ∀ digits, text.toList ≠ '-' :: digits) ∧
      ∀ n : Int, ask.number QueryResult.descriptor? = some n ↔ ∃ result, ask.answer = .ok result ∧
        (result.isError → result.error = none) ∧ ∃ text, result.value? 0 0 = some text ∧
          Text.Denotes text.toList n ∧ -2147483648 ≤ n ∧ n ≤ 2147483647) := by
  constructor
  · intro w hreached key c hc hopened ha hopen hlevel react hreact demand
    have hsound := hreached.preserves (fun _ _ => Move.sound) (sound_start connector hook)
    have htransacts : c.Transacts := ⟨hsound.settled key c hc hopened, ha, hopen, hlevel⟩
    obtain ⟨begin, hbegin⟩ : ∃ begin, c.guarded.isolation.beginStatement = some begin := by
      cases hisolation : c.guarded.isolation with
      | autocommit => exact absurd hisolation hlevel
      | readCommitted => exact ⟨_, rfl⟩
      | serializable => exact ⟨_, rfl⟩
    obtain ⟨w₁, c₁, hadmitted, hsends₁, hstatus, hlevel₁⟩ := admitLargeObject_of_spares hreact hc htransacts
    cases hmode : demand.mode.elim (.ok .read) AccessMode.parse with
    | error fault =>
      rw [makeLargeObject_of_unread hadmitted hmode]
      refine ⟨begin, [], [], [], hbegin, hsends₁.statements, ?_, nofun, nofun, nofun, nofun⟩
      rintro _ ⟨⟩
      exact ⟨rfl, rfl⟩
    | ok mode =>
      obtain ⟨begun, created, opened, c', hsends, hopens⟩ :=
        openLargeObject_of_spares hreact hsends₁.connection hsends₁.transacts (hlevel₁ ▸ hbegin)
          { oid := demand.oid, mode, newOid := demand.newOid, newFile := demand.newFile }
      rw [makeLargeObject_of_read hadmitted hmode fun object hobject => (hobject ▸ hopens).connection_eq]
      have hopens : Opens key c.guarded begin _ begun created opened _ := hopens.of_status hstatus.symm
      refine ⟨begin, begun, created, opened, hbegin, (hsends₁.trans hsends).statements, nofun, ?_,
        fun ask hask => hopens.stops_begun hask, fun ask hask => hopens.stops_created hask,
        fun ask hask => hopens.stops_opened hask⟩
      rintro _ ⟨⟩
      exact ⟨hopens, fun ask => hopens.isCreation, fun ask => hopens.isOpening⟩
  · intro ask
    refine ⟨Ask.accepted_iff_isError, fun hcarried => ?_, fun n => ?_, fun n => ?_⟩
    · rw [Ask.accepted_iff_isError]
      refine exists_congr fun result => and_congr_right fun hanswer => ?_
      cases herror : result.isError with
      | false => simp
      | true => simpa using hcarried result hanswer herror
    · simp only [Ask.number_eq_some_iff, QueryResult.oid?_eq_some_iff]
    · simp only [Ask.number_eq_some_iff, QueryResult.descriptor?_eq_some_iff]

/-- An object is created and opened in a block that is opened for it; and nothing is sent for a mode that
cannot be read. -/
theorem large_objects_follow_answers_created :
    let script : Script := { answers := Script.answers {} ++
      [("SELECT lo_create(0)", .single "5"), ("SELECT lo_open(5, 393216)", .single "3")] }
    let start : World Script ScriptedSession := { connector := script, hook := fun _ => 1 }
    let w := (start.opening "" false .standard false).2
    let react : Reactor Script ScriptedSession := fun _ _ => pure ()
    let demand : LargeObjectDemand := { oid := 0, mode := some "rw", newOid := 0, newFile := none }
    let made := (makeLargeObject react 0 demand).run w
    let refused := (makeLargeObject react 0 { demand with mode := some "x" }).run w
    Reached start w ∧ Spares react 0 ∧
      made.1.toOption = some { connection := 0, oid := 5, mode := .readWrite, descriptor := some 3 } ∧
      (∃ c begin begun created opened, w.connections[0]? = some c ∧ c.guarded.status = .ready ∧
        made.2.statements 0 = w.statements 0 ++ (begun ++ created ++ opened).map Ask.exchange ∧
        Opens 0 c.guarded begin { oid := 0, mode := .readWrite, newOid := 0, newFile := none }
          begun created opened made.1) ∧
      refused.1 = .error .unknownAccessMode ∧ refused.2.statements 0 = w.statements 0 := by
  intro script start w react demand made refused
  have hreached : Reached start w := Reached.of_move (.opening "" false .standard false)
  have hreact : Spares react 0 := fun _ _ => .pure ()
  have hopened : w.Opened 0 := by decide +kernel
  have hmade : made.1.toOption =
      some { connection := 0, oid := 5, mode := .readWrite, descriptor := some 3 } := by
    decide +kernel
  have hstate : w.connections.map (fun c => (c.guarded.status, c.asynchronous,
      decide (c.guarded.isolation = .autocommit))) = [(.ready, false, false)] := by
    decide +kernel
  obtain ⟨c, hc, hfacts⟩ := exists_connection_of_map hstate
  simp only [Prod.mk.injEq, decide_eq_false_iff_not] at hfacts
  obtain ⟨hready, ha, hlevel⟩ := hfacts
  have hopen : c.guarded.status ≠ .closed := by rw [hready]; decide
  obtain ⟨begin, begun, created, opened, -, hsent, -, hopens, -⟩ :=
    (large_objects_follow_answers start.connector start.hook).1 w hreached 0 c hc hopened ha hopen hlevel
      react hreact demand
  obtain ⟨_, begun', created', opened', -, hunsent, hunread, -⟩ :=
    (large_objects_follow_answers start.connector start.hook).1 w hreached 0 c hc hopened ha hopen hlevel
      react hreact { demand with mode := some "x" }
  obtain ⟨hnone, hrefused⟩ := hunread .unknownAccessMode rfl
  rw [hnone] at hunsent
  obtain ⟨hopens, -⟩ := hopens .readWrite rfl
  exact ⟨hreached, hreact, hmade, ⟨c, begin, begun, created, opened, hc, hready, hsent, hopens⟩,
    hrefused, hunsent.trans (List.append_nil _)⟩

/-- An object whose creation was rejected without an error is taken for created. -/
example :
    let rejected : QueryResult := { status := .fatalError, rows := [[some "5"]] }
    let script : Script := { answers := Script.answers {} ++ [("SELECT lo_create(0)", rejected)] }
    let start : World Script ScriptedSession := { connector := script, hook := fun _ => 1 }
    let demand : LargeObjectDemand := { oid := 0, mode := some "n", newOid := 0, newFile := none }
    ((makeLargeObject (fun _ _ => pure ()) 0 demand).run
      (start.opening "" false .standard false).2).1.toOption =
        some { connection := 0, oid := 5, mode := .noOpen, descriptor := none } := by
  decide +kernel

end SessionLayer.Scenario.World
