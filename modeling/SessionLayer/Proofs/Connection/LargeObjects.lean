import SessionLayer.LargeObject
import SessionLayer.Proofs.Connection.Asks
import SessionLayer.Proofs.Sql.Token
import SessionLayer.Proofs.Text.Numeral

/-!
# What it takes to open a large object

To open a large object takes up to three statements: one that opens a block, one that creates the object,
and one that opens it. Which of them are sent is told by the request, the status of the connection and the
answers to the statements before, and so is what comes of it. `Opens` puts this as equations between the
three lists of statements, their answers and the outcome; that nothing is sent after a failure follows from
them. `IsCreation` and `IsOpening` tell the texts of the statements.
-/

set_option autoImplicit false

namespace SessionLayer

namespace QueryResult

variable {result : QueryResult}

theorem rejection?_eq_none_iff : result.rejection? = none ↔ (result.isError → result.error = none) := by
  rw [rejection?]
  split
  · rename_i herror
    exact ⟨fun h _ => h, fun h => h herror⟩
  · rename_i herror
    exact ⟨fun _ h => absurd h herror, fun _ => rfl⟩

/-- An oid is the first value, as an unsigned number of 32 bits that is written without a minus sign. -/
theorem oid?_eq_some_iff {n : Nat} :
    result.oid? = some n ↔ ∃ text, result.value? 0 0 = some text ∧ Text.Denotes text.toList n ∧
      n ≤ 4294967295 ∧ ∀ digits, text.toList ≠ '-' :: digits := by
  rw [oid?, Option.bind_eq_some_iff]
  refine exists_congr fun text => and_congr_right fun _ => ?_
  rw [toOption_eq_some_iff, Text.readUnsigned_eq_ok_iff]
  rfl

/-- A descriptor is the first value, as a signed number of 32 bits. -/
theorem descriptor?_eq_some_iff {n : Int} :
    result.descriptor? = some n ↔ ∃ text, result.value? 0 0 = some text ∧ Text.Denotes text.toList n ∧
      -2147483648 ≤ n ∧ n ≤ 2147483647 := by
  rw [descriptor?, Option.bind_eq_some_iff]
  refine exists_congr fun text => and_congr_right fun _ => ?_
  rw [toOption_eq_some_iff, Text.readSigned_eq_ok_iff]
  rfl

end QueryResult

namespace Ask

variable {α : Type} {ask : Ask}

/-- The number that a statement was answered with, `none` for one that has failed. -/
def number (read : QueryResult → Option α) (ask : Ask) : Option α :=
  ask.result?.bind read

/-- A rejected statement is taken for accepted where the server gave no error. -/
theorem accepted_iff_isError :
    ask.accepted = true ↔ ∃ result, ask.answer = .ok result ∧ (result.isError → result.error = none) := by
  rw [accepted_iff]
  exact exists_congr fun result => and_congr_right fun _ => QueryResult.rejection?_eq_none_iff

theorem number_eq_some_iff {read : QueryResult → Option α} {n : α} :
    ask.number read = some n ↔
      ∃ result, ask.answer = .ok result ∧ (result.isError → result.error = none) ∧ read result = some n := by
  rw [number, Option.bind_eq_some_iff]
  refine exists_congr fun result => ?_
  rw [result?_eq_some_iff, Span.verdict_eq_ok_iff, QueryResult.rejection?_eq_none_iff, and_assoc]

end Ask

namespace LargeObjectRequest

/-- The oid of the object: the one that was asked for, or the number of the statement that creates it. -/
def oidTold (request : LargeObjectRequest) (created : List Ask) : Option Nat :=
  if request.oid = 0 then created.head?.bind (Ask.number QueryResult.oid?) else some request.oid

/-- The descriptor of the object: none if it is not to be opened, or the number of the statement that
opens it. -/
def descriptorTold (request : LargeObjectRequest) (opened : List Ask) : Option (Option Int) :=
  if request.mode = .noOpen then some none
  else (opened.head?.bind (Ask.number QueryResult.descriptor?)).map some

variable {request : LargeObjectRequest}

theorem oidTold_of_zero (h : request.oid = 0) (created : List Ask) :
    request.oidTold created = created.head?.bind (Ask.number QueryResult.oid?) :=
  if_pos h

theorem oidTold_of_ne (h : request.oid ≠ 0) (created : List Ask) :
    request.oidTold created = some request.oid :=
  if_neg h

theorem descriptorTold_of_noOpen (h : request.mode = .noOpen) (opened : List Ask) :
    request.descriptorTold opened = some none :=
  if_pos h

theorem descriptorTold_of_ne (h : request.mode ≠ .noOpen) (opened : List Ask) :
    request.descriptorTold opened = (opened.head?.bind (Ask.number QueryResult.descriptor?)).map some :=
  if_neg h

theorem creation_of_zero (h : request.oid = 0) : request.creation = some (request.newFile.elim
    (Sql.createLargeObject request.newOid) (Sql.importLargeObject · request.newOid)) := by
  rw [creation, if_neg (not_not_intro h)]
  cases request.newFile <;> rfl

theorem creation_of_ne (h : request.oid ≠ 0) : request.creation = none :=
  if_pos h

theorem opening_of_noOpen (h : request.mode = .noOpen) (oid : Nat) : request.opening oid = none :=
  if_pos h

theorem opening_of_ne (h : request.mode ≠ .noOpen) (oid : Nat) :
    request.opening oid = some (Sql.openLargeObject oid request.mode.flags) :=
  if_neg h

/-- A statement creates the object under the oid that the request gives, from the file if there is one. -/
inductive IsCreation (request : LargeObjectRequest) : String → Prop
  | created : request.newFile = none →
      IsCreation request ("SELECT lo_create(" ++ toString request.newOid ++ ")")
  | imported {file sql : String} : request.newFile = some file →
      Sql.Quotes Sql.singleQuote "SELECT lo_import(" file (", " ++ toString request.newOid ++ ")") sql →
        IsCreation request sql

/-- A statement opens the object for reading, which is `0x40000` for the server, or for writing, which is
`0x20000`, or for both. -/
inductive IsOpening (request : LargeObjectRequest) (oid : Nat) : String → Prop
  | read : request.mode = .read → IsOpening request oid ("SELECT lo_open(" ++ toString oid ++ ", 262144)")
  | write : request.mode = .write →
      IsOpening request oid ("SELECT lo_open(" ++ toString oid ++ ", 131072)")
  | readWrite : request.mode = .readWrite →
      IsOpening request oid ("SELECT lo_open(" ++ toString oid ++ ", 393216)")

theorem isCreation_elim (request : LargeObjectRequest) :
    request.IsCreation (request.newFile.elim (Sql.createLargeObject request.newOid)
      (Sql.importLargeObject · request.newOid)) := by
  cases hfile : request.newFile with
  | none => exact .created hfile
  | some file => exact .imported hfile (Sql.quotes_importLargeObject file request.newOid)

theorem isOpening_openLargeObject (h : request.mode ≠ .noOpen) (oid : Nat) :
    request.IsOpening oid (Sql.openLargeObject oid request.mode.flags) := by
  have htext : Sql.openLargeObject oid request.mode.flags =
      "SELECT lo_open(" ++ toString oid ++ (", " ++ toString request.mode.flags ++ ")") := by
    unfold Sql.openLargeObject
    rw [← String.append_assoc, ← String.append_assoc]
  have hread : ", " ++ toString AccessMode.read.flags ++ ")" = ", 262144)" := by decide +kernel
  have hwrite : ", " ++ toString AccessMode.write.flags ++ ")" = ", 131072)" := by decide +kernel
  have hboth : ", " ++ toString AccessMode.readWrite.flags ++ ")" = ", 393216)" := by decide +kernel
  rw [htext]
  cases hmode : request.mode with
  | read =>
    rw [hread]
    exact .read hmode
  | write =>
    rw [hwrite]
    exact .write hmode
  | readWrite =>
    rw [hboth]
    exact .readWrite hmode
  | noOpen => exact absurd hmode h

end LargeObjectRequest

variable {σ : Type}

/-- A blocking connection that is open, at a level that has blocks. -/
structure Connection.Transacts (c : Connection σ) : Prop where
  settled : c.guarded.Settled c.asynchronous
  blocking : c.asynchronous = false
  isOpen : c.guarded.status ≠ .closed
  level : c.guarded.isolation ≠ .autocommit

theorem Connection.Transacts.perform [WireSession σ] {c : Connection σ} (h : c.Transacts) {op : Operation}
    (hopen : (c.perform op).guarded.status ≠ .closed)
    (hlevel : (c.perform op).guarded.isolation = c.guarded.isolation) (mailbox : Mailbox Nat) :
    ({ c with guarded := (c.perform op).guarded, mailbox } : Connection σ).Transacts where
  settled := Connection.settled_perform h.settled op
  blocking := h.blocking
  isOpen := hopen
  level := by
    show (c.perform op).guarded.isolation ≠ .autocommit
    rw [hlevel]
    exact h.level

/-- How a statement goes that may not be needed: `begun` is what opens a block for it. -/
structure Consulted (g : Guarded σ) (statement : Option String) (begun asked : List Ask) (g' : Guarded σ) :
    Prop where
  begins : begun.map (·.statement) = if statement.isSome then g.entering.map (·.statement) else []
  asks : asked.map (·.statement) = if begun.all (·.accepted) then statement.toList else []
  status : g'.status = if begun ≠ [] ∧ begun.all (·.accepted) then .inBlock else g.status
  isolation : g'.isolation = g.isolation

/-- What is sent to open a large object, and what comes of it: `begun` is what opens a block, `created`
what creates the object, and `opened` what opens it. -/
structure Opens (key : Nat) (g : Guarded σ) (begin : String) (request : LargeObjectRequest)
    (begun created opened : List Ask) (r : Except Fault LargeObject) : Prop where
  /-- A block is opened if none is open and there is anything to send. -/
  begins : begun.map (·.statement) =
    if g.status = .ready ∧ (request.oid = 0 ∨ request.mode ≠ .noOpen) then [begin] else []
  /-- An object is created if none was asked for, from the file if there is one. -/
  creates : created.map (·.statement) =
    if request.oid = 0 ∧ begun.all (·.accepted) then
      [request.newFile.elim (Sql.createLargeObject request.newOid) (Sql.importLargeObject · request.newOid)]
    else []
  /-- The object is opened unless the mode says otherwise, as soon as its oid is known. -/
  opens : opened.map (·.statement) = (request.oidTold created).elim [] fun oid =>
    if request.mode ≠ .noOpen ∧ begun.all (·.accepted) then
      [Sql.openLargeObject oid request.mode.flags]
    else []
  result : r.toOption = (request.oidTold created).bind fun oid =>
    (request.descriptorTold opened).map fun descriptor =>
      { connection := key, oid, mode := request.mode, descriptor }

section Opening

variable {key : Nat} {g g₁ g₂ : Guarded σ} {begin : String} {request : LargeObjectRequest}
  {begun created opened more : List Ask} {r : Except Fault LargeObject}

/-- The statement that opens a block comes first where it is needed. -/
theorem Consulted.map_begun {statement : Option String} (h : Consulted g statement begun created g₁)
    (hbegin : g.isolation.beginStatement = some begin) :
    begun.map (·.statement) = if g.status = .ready ∧ statement.isSome then [begin] else [] := by
  rw [h.begins, g.map_entering, hbegin]
  by_cases hready : g.status = .ready <;> by_cases hstatement : statement.isSome <;>
    simp [hready, hstatement]

/-- Only what has been answered yields a number, and only after the block was opened. -/
theorem Consulted.all_accepted {statement : Option String} (h : Consulted g statement begun created g₁)
    {α : Type} {f : Ask → Option α} {x : α} (hx : created.head?.bind f = some x) :
    begun.all (·.accepted) = true := by
  by_contra hbegun
  have hnone := h.asks
  rw [if_neg hbegun] at hnone
  rw [List.map_eq_nil_iff.1 hnone] at hx
  cases hx

/-- After a statement that was accepted no block is opened any more. -/
theorem Consulted.status_ne_ready {statement : String} (h : Consulted g (some statement) begun created g₁)
    (hbegin : g.isolation.beginStatement = some begin) (hall : begun.all (·.accepted) = true) :
    g₁.status ≠ .ready := by
  rw [h.status]
  by_cases hbegun : begun = []
  · rw [if_neg fun h => h.1 hbegun]
    intro hready
    have hmap := h.map_begun hbegin
    rw [hbegun, if_pos ⟨hready, rfl⟩] at hmap
    cases hmap
  · rw [if_pos ⟨hbegun, hall⟩]
    decide

/-- An object that exists is opened at once. -/
theorem Opens.of_existing (hbegin : g.isolation.beginStatement = some begin) (hoid : request.oid ≠ 0)
    (hopened : Consulted g (request.opening request.oid) begun opened g₁)
    (hr : r.toOption = (request.descriptorTold opened).map fun descriptor =>
      { connection := key, oid := request.oid, mode := request.mode, descriptor }) :
    Opens key g begin request begun [] opened r where
  begins := by
    rw [hopened.map_begun hbegin]
    by_cases hmode : request.mode = .noOpen
    · simp [LargeObjectRequest.opening_of_noOpen hmode, hmode, hoid]
    · simp [LargeObjectRequest.opening_of_ne hmode, hmode]
  creates := by rw [if_neg fun h => hoid h.1]; rfl
  opens := by
    rw [hopened.asks, LargeObjectRequest.oidTold_of_ne hoid, Option.elim_some]
    by_cases hmode : request.mode = .noOpen
    · simp [LargeObjectRequest.opening_of_noOpen hmode, hmode]
    · simp [LargeObjectRequest.opening_of_ne hmode, hmode]
  result := by rw [hr, LargeObjectRequest.oidTold_of_ne hoid, Option.bind_some]

/-- An object whose creation has failed is not opened. -/
theorem Opens.of_uncreated (hbegin : g.isolation.beginStatement = some begin) (hoid : request.oid = 0)
    (hcreated : Consulted g request.creation begun created g₁) (hnone : request.oidTold created = none)
    (hr : r.toOption = none) : Opens key g begin request begun created [] r where
  begins := by
    rw [hcreated.map_begun hbegin, LargeObjectRequest.creation_of_zero hoid]
    simp [hoid]
  creates := by
    rw [hcreated.asks, LargeObjectRequest.creation_of_zero hoid]
    simp [hoid]
  opens := by rw [hnone]; rfl
  result := by rw [hr, hnone]; rfl

/-- An object that has been created is opened, and no other block is. -/
theorem Opens.of_created (hbegin : g.isolation.beginStatement = some begin) (hoid : request.oid = 0)
    (hcreated : Consulted g request.creation begun created g₁) {oid : Nat}
    (hsome : request.oidTold created = some oid)
    (hopened : Consulted g₁ (request.opening oid) more opened g₂)
    (hr : r.toOption = (request.descriptorTold opened).map fun descriptor =>
      { connection := key, oid, mode := request.mode, descriptor }) :
    more = [] ∧ Opens key g begin request begun created opened r := by
  have hall : begun.all (·.accepted) = true := by
    rw [LargeObjectRequest.oidTold_of_zero hoid] at hsome
    exact hcreated.all_accepted hsome
  have hmore : more = [] := by
    rw [LargeObjectRequest.creation_of_zero hoid] at hcreated
    have hbegin₁ : g₁.isolation.beginStatement = some begin := by rw [hcreated.isolation, hbegin]
    have hmap := hopened.map_begun hbegin₁
    rw [if_neg fun h => hcreated.status_ne_ready hbegin hall h.1] at hmap
    exact List.map_eq_nil_iff.1 hmap
  refine ⟨hmore, ?_, ?_, ?_, ?_⟩
  · rw [hcreated.map_begun hbegin, LargeObjectRequest.creation_of_zero hoid]
    simp [hoid]
  · rw [hcreated.asks, LargeObjectRequest.creation_of_zero hoid]
    simp [hoid]
  · rw [hopened.asks, hmore, hsome, Option.elim_some, hall]
    by_cases hmode : request.mode = .noOpen
    · simp [LargeObjectRequest.opening_of_noOpen hmode, hmode]
    · simp [LargeObjectRequest.opening_of_ne hmode, hmode]
  · rw [hr, hsome, Option.bind_some]

/-- Only the status tells whether a block is opened. -/
theorem Opens.of_status (h : Opens key g begin request begun created opened r)
    (hstatus : g₁.status = g.status) :
    Opens key g₁ begin request begun created opened r :=
  { h with begins := by rw [h.begins, hstatus] }

theorem Opens.connection_eq {object : LargeObject}
    (h : Opens key g begin request begun created opened (.ok object)) : object.connection = key := by
  have hresult : some object = _ := h.result
  obtain ⟨oid, -, hobject⟩ := Option.bind_eq_some_iff.1 hresult.symm
  obtain ⟨descriptor, -, rfl⟩ := Option.map_eq_some_iff.1 hobject
  rfl

/-- What is sent to create the object says so. -/
theorem Opens.isCreation (h : Opens key g begin request begun created opened r) {ask : Ask}
    (hask : ask ∈ created) : request.IsCreation ask.statement := by
  have hmap := h.creates
  have hmem := List.mem_map_of_mem (f := (·.statement)) hask
  rw [hmap] at hmem
  split at hmem
  · rw [List.mem_singleton.1 hmem]
    exact request.isCreation_elim
  · exact absurd hmem List.not_mem_nil

/-- What is sent to open the object says so, of the oid that is known by then. -/
theorem Opens.isOpening (h : Opens key g begin request begun created opened r) {ask : Ask}
    (hask : ask ∈ opened) :
    ∃ oid, request.oidTold created = some oid ∧ request.IsOpening oid ask.statement := by
  have hmap := h.opens
  have hmem := List.mem_map_of_mem (f := (·.statement)) hask
  rw [hmap] at hmem
  cases hoid : request.oidTold created with
  | none =>
    rw [hoid] at hmem
    exact absurd hmem List.not_mem_nil
  | some oid =>
    rw [hoid, Option.elim_some] at hmem
    split at hmem
    · rename_i hmode
      refine ⟨oid, rfl, ?_⟩
      rw [List.mem_singleton.1 hmem]
      exact LargeObjectRequest.isOpening_openLargeObject hmode.1 oid
    · exact absurd hmem List.not_mem_nil

theorem exists_error_of_toOption {ε α : Type} {r : Except ε α} (h : r.toOption = none) :
    ∃ fault, r = .error fault := by
  cases r with
  | error fault => exact ⟨fault, rfl⟩
  | ok x => cases h

/-- Nothing is opened unless the block is open. -/
theorem Opens.stops_begun (h : Opens key g begin request begun created opened r) {ask : Ask}
    (hask : ask ∈ begun) (hfailed : ask.accepted = false) :
    created = [] ∧ opened = [] ∧ ∃ fault, r = .error fault := by
  have hall : ¬begun.all (·.accepted) = true := by
    intro hall
    have haccepted : ask.accepted = true := List.all_eq_true.1 hall ask hask
    rw [hfailed] at haccepted
    cases haccepted
  have hcreated : created = [] := by
    have hmap := h.creates
    rw [if_neg fun h => hall h.2] at hmap
    exact List.map_eq_nil_iff.1 hmap
  have hopened : opened = [] := by
    have hmap := h.opens
    cases hoid : request.oidTold created with
    | none =>
      rw [hoid] at hmap
      exact List.map_eq_nil_iff.1 hmap
    | some oid =>
      rw [hoid, Option.elim_some, if_neg fun h => hall h.2] at hmap
      exact List.map_eq_nil_iff.1 hmap
  refine ⟨hcreated, hopened, exists_error_of_toOption ?_⟩
  have hneeded : request.oid = 0 ∨ request.mode ≠ .noOpen := by
    by_contra hnot
    have hmap := h.begins
    rw [if_neg fun h => hnot h.2, List.map_eq_nil_iff] at hmap
    rw [hmap] at hask
    cases hask
  rw [h.result, hcreated, hopened]
  by_cases hzero : request.oid = 0
  · rw [LargeObjectRequest.oidTold_of_zero hzero]
    rfl
  · rw [LargeObjectRequest.oidTold_of_ne hzero,
      LargeObjectRequest.descriptorTold_of_ne (hneeded.resolve_left hzero)]
    rfl

/-- An object without an oid is not opened. -/
theorem Opens.stops_created (h : Opens key g begin request begun created opened r) {ask : Ask}
    (hask : ask ∈ created) (hnumber : ask.number QueryResult.oid? = none) :
    opened = [] ∧ ∃ fault, r = .error fault := by
  have hnone : request.oidTold created = none := by
    have hmap := h.creates
    split at hmap
    · rename_i hzero
      obtain ⟨sent, hsent, -⟩ := List.map_eq_singleton_iff.1 hmap
      rw [hsent, List.mem_singleton] at hask
      rw [LargeObjectRequest.oidTold_of_zero hzero.1, hsent, ← hask]
      exact hnumber
    · rw [List.map_eq_nil_iff.1 hmap] at hask
      cases hask
  have hmap := h.opens
  rw [hnone] at hmap
  refine ⟨List.map_eq_nil_iff.1 hmap, exists_error_of_toOption ?_⟩
  rw [h.result, hnone]
  rfl

/-- An object without a descriptor is none. -/
theorem Opens.stops_opened (h : Opens key g begin request begun created opened r) {ask : Ask}
    (hask : ask ∈ opened) (hnumber : ask.number QueryResult.descriptor? = none) :
    ∃ fault, r = .error fault := by
  refine exists_error_of_toOption ?_
  have hmap := h.opens
  rw [h.result]
  cases hoid : request.oidTold created with
  | none => rfl
  | some oid =>
    rw [hoid, Option.elim_some] at hmap
    split at hmap
    · rename_i hmode
      obtain ⟨sent, hsent, -⟩ := List.map_eq_singleton_iff.1 hmap
      rw [hsent, List.mem_singleton] at hask
      rw [Option.bind_some, LargeObjectRequest.descriptorTold_of_ne hmode.1, hsent, ← hask, List.head?_cons,
        Option.bind_some, hnumber]
      rfl
    · rw [List.map_eq_nil_iff.1 hmap] at hask
      cases hask

end Opening

end SessionLayer
