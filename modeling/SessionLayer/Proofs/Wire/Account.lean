import SessionLayer.Connection.Transaction
import SessionLayer.Proofs.Connection.Steps
import SessionLayer.Wire.Script

/-!
# What the exchanges tell about the transaction

An `Account` is what can be told about the transaction of a session from its exchanges alone: the status
of the transaction, and the statement that opened the latest block. `InPlace` says of a list of exchanges
in which status of the transaction each statement was sent. A scripted session is in the transaction that
its account tells of.
-/

set_option autoImplicit false

namespace SessionLayer

/-- Inside of a transaction block, be it one in which a statement failed. -/
def TransactionStatus.IsBlock (status : TransactionStatus) : Prop :=
  status = .inTransaction ∨ status = .inError

namespace Sql

def opensBlock (sql : String) : Bool :=
  "BEGIN".toList.isPrefixOf sql.toList

/-- A statement that neither opens nor ends a transaction block. -/
def IsPlain (sql : String) : Prop :=
  opensBlock sql = false ∧ sql ≠ commit ∧ sql ≠ rollback

/-- The first letter can be enough to see that a statement is plain. -/
theorem isPlain_of_head? {sql : String} {c : Char} (h : sql.toList.head? = some c)
    (hc : c ≠ 'B' ∧ c ≠ 'C' ∧ c ≠ 'R') : IsPlain sql := by
  have hne : ∀ other : String, other.toList.head? ≠ some c → sql ≠ other := by
    rintro other hother rfl
    exact hother h
  refine ⟨?_, hne commit ?_, hne rollback ?_⟩
  · cases hsql : sql.toList with
    | nil => simp [hsql] at h
    | cons d rest =>
      have hd : d = c := by simpa [hsql] using h
      have hb : ('B' == d) = false := by simpa [hd] using Ne.symm hc.1
      show List.isPrefixOf ('B' :: "EGIN".toList) sql.toList = false
      rw [hsql, List.isPrefixOf, hb, Bool.false_and]
  · simpa [commit] using Ne.symm hc.2.1
  · simpa [rollback] using Ne.symm hc.2.2

theorem opensBlock_of_beginStatement {level : Isolation} {sql : String}
    (h : level.beginStatement = some sql) : opensBlock sql := by
  cases level with
  | autocommit => exact nomatch h
  | readCommitted | serializable =>
    cases h
    decide

theorem opensBlock_of_closesBlock {sql : String} (h : sql = commit ∨ sql = rollback) :
    opensBlock sql = false := by
  rcases h with rfl | rfl
  · decide
  · decide

theorem head?_append {first : String} {c : Char} (h : first.toList.head? = some c) (rest : String) :
    (first ++ rest).toList.head? = some c := by
  rw [String.toList_append, List.head?_append, h]
  rfl

end Sql

/-- What the exchanges with a session tell about its transaction. -/
structure Account where
  transaction : TransactionStatus := .idle
  /-- The latest statement that opened a block and was accepted. -/
  begun : Option String := none

namespace Account

/-- The account after a statement that was accepted. -/
def accepting (a : Account) (sql : String) : Account :=
  if Sql.opensBlock sql then { transaction := .inTransaction, begun := some sql }
  else if sql = Sql.commit ∨ sql = Sql.rollback then { a with transaction := .idle }
  else a

/-- The account after a statement that was rejected. -/
def rejecting (a : Account) : Account :=
  if a.transaction = .inTransaction then { a with transaction := .inError } else a

/-- The account after an exchange. A statement that failed in the transport has no effect. -/
def after (a : Account) : Exchange → Account
  | ⟨.exec sql, .ok result⟩ => if result.isError then a.rejecting else a.accepting sql
  | ⟨.reset, _⟩ => { a with transaction := .idle }
  | _ => a

/-- The account after some exchanges. -/
def along (a : Account) (xs : List Exchange) : Account :=
  xs.foldl after a

variable {a : Account} {sql : String}

theorem along_append (a : Account) (xs ys : List Exchange) :
    a.along (xs ++ ys) = (a.along xs).along ys :=
  List.foldl_append

theorem accepting_of_opensBlock (h : Sql.opensBlock sql) :
    a.accepting sql = { transaction := .inTransaction, begun := some sql } := by
  unfold accepting
  rw [if_pos h]

theorem accepting_of_closesBlock (h : sql = Sql.commit ∨ sql = Sql.rollback) :
    a.accepting sql = { a with transaction := .idle } := by
  unfold accepting
  rw [Sql.opensBlock_of_closesBlock h, if_pos h]
  rfl

theorem accepting_of_isPlain (h : Sql.IsPlain sql) : a.accepting sql = a := by
  obtain ⟨hopens, hcommit, hrollback⟩ := h
  simp [accepting, hopens, hcommit, hrollback]

theorem begun_rejecting (a : Account) : a.rejecting.begun = a.begun := by
  unfold rejecting
  split <;> rfl

theorem isBlock_rejecting (h : a.transaction.IsBlock) : a.rejecting.transaction.IsBlock := by
  unfold rejecting
  split
  · exact Or.inr rfl
  · exact h

theorem rejecting_of_idle (h : a.transaction = .idle) : a.rejecting = a := by
  unfold rejecting
  rw [h]
  rfl

/-- A plain statement does not bring an idle session into a block, whatever comes of it. -/
theorem after_exec_of_idle (hplain : Sql.IsPlain sql) (hidle : a.transaction = .idle)
    (answer : Except String QueryResult) : a.after { call := .exec sql, answer } = a := by
  cases answer with
  | error text => rfl
  | ok result =>
    show (if result.isError then a.rejecting else a.accepting sql) = a
    rw [rejecting_of_idle hidle, accepting_of_isPlain hplain, ite_self]

end Account

/-! ## In which status statements are sent -/

/-- Every statement among the exchanges is sent in a status of the transaction in which it may be. -/
def InPlace (sends : TransactionStatus → String → Prop) : Account → List Exchange → Prop
  | _, [] => True
  | a, x :: xs => (∀ sql, x.call = .exec sql → sends a.transaction sql) ∧ InPlace sends (a.after x) xs

section InPlace

variable {sends sends' : TransactionStatus → String → Prop} {a : Account} {xs ys : List Exchange}

theorem inPlace_append :
    InPlace sends a (xs ++ ys) ↔ InPlace sends a xs ∧ InPlace sends (a.along xs) ys := by
  induction xs generalizing a with
  | nil => simp [InPlace, Account.along]
  | cons x xs ih =>
    simp only [List.cons_append, InPlace, ih, and_assoc]
    rfl

theorem InPlace.mono (h : InPlace sends a xs)
    (himp : ∀ status sql, sends status sql → sends' status sql) : InPlace sends' a xs := by
  induction xs generalizing a with
  | nil => trivial
  | cons x xs ih => exact ⟨fun sql hsql => himp _ sql (h.1 sql hsql), ih h.2⟩

/-- Exchanges without a statement are in place. -/
theorem inPlace_of_forall_ne (h : ∀ x ∈ xs, ∀ sql, x.call ≠ .exec sql) : InPlace sends a xs := by
  induction xs generalizing a with
  | nil => trivial
  | cons x xs ih =>
    have hx := h x List.mem_cons_self
    have hxs := fun y hy => h y (List.mem_cons_of_mem x hy)
    exact ⟨fun sql hsql => absurd hsql (hx sql), ih hxs⟩

end InPlace

/-- Statements that open a block are sent outside of one, and those that end a block inside of one. -/
def TransactionStatus.Allows (status : TransactionStatus) (sql : String) : Prop :=
  (Sql.opensBlock sql → status = .idle) ∧ (sql = Sql.commit ∨ sql = Sql.rollback → status.IsBlock)

section Allows

variable {status : TransactionStatus} {sql : String}

theorem allows_of_isPlain (h : Sql.IsPlain sql) (status : TransactionStatus) : status.Allows sql := by
  obtain ⟨hopens, hcommit, hrollback⟩ := h
  refine ⟨fun hsql => absurd (hopens.symm.trans hsql) Bool.false_ne_true, ?_⟩
  rintro (hsql | hsql)
  · exact absurd hsql hcommit
  · exact absurd hsql hrollback

theorem allows_of_beginStatement {level : Isolation} (h : level.beginStatement = some sql)
    (hidle : status = .idle) : status.Allows sql := by
  refine ⟨fun _ => hidle, fun hcloses => ?_⟩
  have hopens := Sql.opensBlock_of_beginStatement h
  rw [Sql.opensBlock_of_closesBlock hcloses] at hopens
  exact absurd hopens Bool.false_ne_true

theorem allows_of_closesBlock (h : sql = Sql.commit ∨ sql = Sql.rollback) (hin : status.IsBlock) :
    status.Allows sql := by
  refine ⟨fun hopens => ?_, fun _ => hin⟩
  rw [Sql.opensBlock_of_closesBlock h] at hopens
  exact absurd hopens Bool.false_ne_true

end Allows

/-! ## The account of a scripted session -/

/-- Every rejection in a script says what was wrong. -/
def Script.IsHonest (script : Script) : Prop :=
  ∀ sql, (script.answer sql).isError → (script.answer sql).error.isSome

/-- It is enough to look at the results that the script names. -/
theorem Script.isHonest_of_forall_mem {script : Script}
    (h : ∀ entry ∈ script.answers, entry.2.isError → entry.2.error.isSome) : script.IsHonest := by
  intro sql herror
  unfold Script.answer at herror ⊢
  cases hlookup : script.answers.lookup sql with
  | none =>
    rw [hlookup] at herror
    exact absurd herror (by decide)
  | some result =>
    rw [hlookup] at herror
    obtain ⟨before, rest, hanswers, -⟩ := List.lookup_eq_some_iff.1 hlookup
    have hmem : (sql, result) ∈ script.answers := by simp [hanswers]
    exact h _ hmem herror

namespace ScriptedSession

/-- The session follows the script, and is in the transaction that the account tells of. -/
structure Follows (script : Script) (a : Account) (s : ScriptedSession) : Prop where
  script : s.script = script
  transaction : s.transaction = a.transaction

variable {script : Script} {a : Account} {s : ScriptedSession}

theorem transactionAfter_eq (a : Account) (sql : String) (result : QueryResult) :
    transactionAfter a.transaction sql result =
      (a.after { call := .exec sql, answer := .ok result }).transaction := by
  unfold transactionAfter
  show _ = (if result.isError then a.rejecting else a.accepting sql).transaction
  by_cases herror : result.isError
  · rw [if_pos herror, if_pos herror, Account.rejecting]
    split <;> rfl
  · rw [if_neg herror, if_neg herror, Account.accepting]
    show (if Sql.opensBlock sql then _ else _) = _
    by_cases hopens : Sql.opensBlock sql
    · rw [if_pos hopens, if_pos hopens]
    · rw [if_neg hopens, if_neg hopens]
      show (if sql = Sql.commit ∨ sql = Sql.rollback then _ else _) = _
      split <;> rfl

/-- The account is kept along every exchange, unless a statement is only submitted. -/
theorem Follows.respond (h : s.Follows script a) (call : Call) (hcall : ∀ sql, call ≠ .send sql) :
    (WireSession.respond call s).2.Follows script
      (a.after { call, answer := (WireSession.respond call s).1 }) := by
  cases call with
  | send sql => exact absurd rfl (hcall sql)
  | exec sql =>
    show (s.run sql).2.Follows script (a.after { call := .exec sql, answer := (s.run sql).1 })
    unfold ScriptedSession.run
    split
    · exact h
    · refine ⟨h.script, ?_⟩
      rw [← transactionAfter_eq, h.transaction]
  | flush =>
    have hflush : WireSession.respond .flush s = if s.flushesLeft = 0 then (.ok .done, s)
        else (.ok .pending, { s with flushesLeft := s.flushesLeft - 1 }) := rfl
    rw [hflush]
    split
    · exact h
    · exact ⟨h.script, h.transaction⟩
  | reset => exact ⟨h.script, rfl⟩
  | _ => exact ⟨h.script, h.transaction⟩

theorem Follows.answer_exec (h : s.Follows script a) (sql : String) :
    (∃ text, (WireSession.respond (.exec sql) s).1 = .error text) ∨
      (WireSession.respond (.exec sql) s).1 = .ok (script.answer sql) := by
  show (∃ text, (s.run sql).1 = .error text) ∨ (s.run sql).1 = .ok (script.answer sql)
  unfold ScriptedSession.run
  rw [h.script]
  split
  · rename_i text _
    exact Or.inl ⟨text, rfl⟩
  · exact Or.inr rfl

/-- What becomes of the account with a statement: one that is a success was accepted, and one that is a
failure may have been rejected. -/
theorem Follows.after_exec (h : s.Follows script a) (hhonest : script.IsHonest) (sql : String)
    {answer : Except String QueryResult} (hanswer : (WireSession.respond (.exec sql) s).1 = answer) :
    (∃ x, Span.verdict answer = .ok x ∧ a.after { call := .exec sql, answer } = a.accepting sql) ∨
      ∃ f, Span.verdict answer = .error f ∧ (a.after { call := .exec sql, answer } = a ∨
        a.after { call := .exec sql, answer } = a.rejecting) := by
  subst hanswer
  obtain ⟨text, htext⟩ | hresult := h.answer_exec sql
  · rw [htext]
    exact Or.inr ⟨_, rfl, Or.inl rfl⟩
  · rw [hresult]
    have hafter : a.after { call := .exec sql, answer := .ok (script.answer sql) } =
        if (script.answer sql).isError then a.rejecting else a.accepting sql := rfl
    rw [hafter]
    cases herror : (script.answer sql).isError with
    | true =>
      obtain ⟨rejection, hrejection⟩ := Option.isSome_iff_exists.1 (hhonest sql herror)
      have hsome : (script.answer sql).rejection? = some rejection := by
        rw [QueryResult.rejection?, if_pos herror, hrejection]
      simp only [Span.verdict, hsome]
      exact Or.inr ⟨_, rfl, Or.inr rfl⟩
    | false =>
      have hnone : (script.answer sql).rejection? = none := by
        rw [QueryResult.rejection?, herror]
        rfl
      simp only [Span.verdict, hnone]
      exact Or.inl ⟨_, rfl, rfl⟩

end ScriptedSession

end SessionLayer
