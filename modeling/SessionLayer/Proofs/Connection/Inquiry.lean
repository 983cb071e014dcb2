import SessionLayer.Proofs.Span.Discipline

/-!
# What an asynchronous connection asks its session

Of the calls on a session only some submit a statement, run one, fetch results or start the session anew:
the `inquiries`. Whether a poll submits a question or goes on with one is told by the status alone, so the
statuses have to keep track of the inquiries. `Status.Asks` says which inquiries a step of the setup makes
where it succeeds, next to the status that it leads to, and `Status.GivesUp` which ones where it fails;
`Operation.Inquires` adds what the other operations do. `Status.Underway` tells the inquiries so far from
the status of a connection that is being set up, and `SetUp` those of one that was set up.
-/

set_option autoImplicit false

namespace SessionLayer

/-- Whether a call submits a statement, runs one, fetches a result or starts the session anew. -/
def Call.inquires : Call → Bool
  | .send _ | .getResult | .exec _ | .reset => true
  | _ => false

/-- The exchanges among some in which a statement was submitted or run, a result was fetched, or the
session was started anew. -/
def inquiries (xs : List Exchange) : List Exchange :=
  xs.filter (·.call.inquires)

/-- The statements that were submitted in some exchanges. -/
def submissions (xs : List Exchange) : List String :=
  xs.filterMap fun x =>
    match x.call with
    | .send sql => some sql
    | _ => none

section Exchanges

variable {xs ys : List Exchange}

@[simp] theorem inquiries_append (xs ys : List Exchange) :
    inquiries (xs ++ ys) = inquiries xs ++ inquiries ys :=
  List.filter_append xs ys

@[simp] theorem submissions_append (xs ys : List Exchange) :
    submissions (xs ++ ys) = submissions xs ++ submissions ys :=
  List.filterMap_append

theorem inquiries_eq_nil (h : ∀ x ∈ xs, x.call.inquires = false) : inquiries xs = [] :=
  List.filter_eq_nil_iff.2 fun x hx => by simp [h x hx]

theorem mem_inquiries {x : Exchange} : x ∈ inquiries xs ↔ x ∈ xs ∧ x.call.inquires = true :=
  List.mem_filter

theorem mem_submissions {sql : String} :
    sql ∈ submissions xs ↔ ∃ answer, { call := .send sql, answer } ∈ xs := by
  unfold submissions
  rw [List.mem_filterMap]
  constructor
  · rintro ⟨⟨call, answer⟩, hx, hcall⟩
    cases call with
    | send sql' =>
      cases hcall
      exact ⟨answer, hx⟩
    | _ => exact nomatch hcall
  · rintro ⟨answer, hx⟩
    exact ⟨_, hx, rfl⟩

/-- Other exchanges submit nothing. -/
theorem submissions_inquiries (xs : List Exchange) : submissions (inquiries xs) = submissions xs := by
  induction xs with
  | nil => rfl
  | cons x xs ih =>
    obtain ⟨call, answer⟩ := x
    cases call with
    | send sql => exact congrArg (sql :: ·) ih
    | _ => exact ih

theorem call_of_mem_fetchExchanges {results : List QueryResult} {x : Exchange}
    (hx : x ∈ Span.fetchExchanges results) : x.call = .getResult := by
  rcases List.mem_append.1 hx with hx | hx
  · obtain ⟨result, -, rfl⟩ := List.mem_map.1 hx
    rfl
  · rw [List.mem_singleton.1 hx]

@[simp] theorem inquiries_fetchExchanges (results : List QueryResult) :
    inquiries (Span.fetchExchanges results) = Span.fetchExchanges results := by
  refine List.filter_eq_self.2 fun x hx => ?_
  rw [call_of_mem_fetchExchanges hx]
  rfl

@[simp] theorem submissions_fetchExchanges (results : List QueryResult) :
    submissions (Span.fetchExchanges results) = [] := by
  refine List.filterMap_eq_nil_iff.2 fun x hx => ?_
  rw [call_of_mem_fetchExchanges hx]

end Exchanges

/-! ## The questions of the setup -/

namespace SetupQuery

/-- The submission of a question. -/
def submitted (q : SetupQuery) (answer : Except String Unit) : Exchange where
  call := .send q.statement
  answer

/-- A question that was accepted, and its results, fetched until there were no more. -/
def answered (q : SetupQuery) (results : List QueryResult) : List Exchange :=
  q.submitted (.ok ()) :: Span.fetchExchanges results

@[simp] theorem submissions_answered (q : SetupQuery) (results : List QueryResult) :
    submissions (q.answered results) = [q.statement] :=
  congrArg (q.statement :: ·) (submissions_fetchExchanges results)

/-- The inquiries around a question. -/
theorem inquiries_split (q : SetupQuery) (before after : List Exchange) (answer : Except String Unit) :
    inquiries (before ++ q.submitted answer :: after) =
      inquiries before ++ q.submitted answer :: inquiries after :=
  inquiries_append before (q.submitted answer :: after)

theorem blocks_eq_false_of_mem {q : SetupQuery} {results : List QueryResult} {x : Exchange}
    (hx : x ∈ q.answered results) : x.call.blocks = false := by
  rcases List.mem_cons.1 hx with rfl | hx
  · rfl
  · rw [call_of_mem_fetchExchanges hx]
    rfl

/-- Before the second question the first one was answered. -/
theorem answered_of_split {results : List QueryResult} {ys before after : List Exchange}
    {answer : Except String Unit}
    (h : dateStyle.answered results ++ ys =
      before ++ clientEncoding.submitted answer :: after) :
    ∃ later, before = dateStyle.answered results ++ later ∧
      ys = later ++ clientEncoding.submitted answer :: after := by
  have hnot : clientEncoding.submitted answer ∉ dateStyle.answered results := by
    intro hmem
    have hsubmitted := mem_submissions.2 ⟨answer, hmem⟩
    rw [submissions_answered] at hsubmitted
    exact absurd hsubmitted (by decide)
  rcases List.append_eq_append_iff.1 h with ⟨later, hbefore, hys⟩ | ⟨rest, hanswered, hrest⟩
  · exact ⟨later, hbefore, hys⟩
  · cases rest with
    | nil =>
      rw [List.append_nil] at hanswered
      exact ⟨[], by rw [hanswered, List.append_nil], hrest.symm⟩
    | cons x rest =>
      rw [List.cons_append, List.cons.injEq] at hrest
      rw [hanswered, ← hrest.1] at hnot
      exact absurd (List.mem_append_right _ List.mem_cons_self) hnot

end SetupQuery

/-- The last one of some results holds a date style that can be read. -/
def TellsDateStyle (results : List QueryResult) : Prop :=
  ∃ value dateStyle, SetupQuery.dateStyle.singleValue results.getLast? = .ok value ∧
    DateStyle.parse value = .ok dateStyle

theorem TellsDateStyle.of_note {results : List QueryResult} {progress noted : SetupProgress}
    (h : SetupQuery.dateStyle.note results.getLast? progress = .ok noted) :
    TellsDateStyle results := by
  unfold SetupQuery.note at h
  cases hvalue : SetupQuery.dateStyle.singleValue results.getLast? with
  | error fault =>
    rw [hvalue] at h
    exact nomatch h
  | ok value =>
    rw [hvalue] at h
    cases hparse : DateStyle.parse value with
    | error fault =>
      simp only [bind, Except.bind, hparse] at h
      exact nomatch h
    | ok dateStyle => exact ⟨value, dateStyle, hvalue, hparse⟩

/-- How far the inquiries of a setup can have come when it fails. -/
inductive SetupTalk : List Exchange → Prop
  | silent : SetupTalk []
  | asked (answer : Except String Unit) : SetupTalk [SetupQuery.dateStyle.submitted answer]
  | fetched (results : List QueryResult) : SetupTalk (SetupQuery.dateStyle.answered results)
  | askedAgain (results : List QueryResult) (answer : Except String Unit) :
      TellsDateStyle results → SetupTalk
        (SetupQuery.dateStyle.answered results ++ [SetupQuery.clientEncoding.submitted answer])
  | complete (results others : List QueryResult) :
      TellsDateStyle results → SetupTalk
        (SetupQuery.dateStyle.answered results ++ SetupQuery.clientEncoding.answered others)

/-- The inquiries of a connection that was set up: both questions, and then what callers have asked
for. -/
def SetUp (xs : List Exchange) : Prop :=
  ∃ results others later, TellsDateStyle results ∧
    xs = SetupQuery.dateStyle.answered results ++
      (SetupQuery.clientEncoding.answered others ++ later) ∧
    ∀ x ∈ later, x.call.blocks = false

namespace Status

/-- The inquiries so far of a connection that was not set up yet. -/
def Underway : Status → List Exchange → Prop
  | setup, xs | handshake, xs | asking .dateStyle, xs => xs = []
  | writing .dateStyle, xs | awaiting .dateStyle, xs => xs = [SetupQuery.dateStyle.submitted (.ok ())]
  | asking .clientEncoding, xs =>
    ∃ results, TellsDateStyle results ∧ xs = SetupQuery.dateStyle.answered results
  | writing .clientEncoding, xs | awaiting .clientEncoding, xs =>
    ∃ results, TellsDateStyle results ∧ xs =
      SetupQuery.dateStyle.answered results ++ [SetupQuery.clientEncoding.submitted (.ok ())]
  | closed, xs => SetupTalk xs
  | ready, _ | inBlock, _ => False

/-- The inquiries of a step of the setup that succeeds, between two statuses. -/
inductive Asks : Status → Status → List Exchange → Prop
  | started : Asks setup handshake []
  | shookHands {s : Status} : s = handshake ∨ s = asking .dateStyle → Asks handshake s []
  | submitted (q : SetupQuery) {s : Status} : s = writing q ∨ s = awaiting q →
      Asks (asking q) s [q.submitted (.ok ())]
  | written (q : SetupQuery) {s : Status} : s = writing q ∨ s = awaiting q → Asks (writing q) s []
  | awaits (q : SetupQuery) : Asks (awaiting q) (awaiting q) []
  | noted (results : List QueryResult) : TellsDateStyle results →
      Asks (awaiting .dateStyle) (asking .clientEncoding) (Span.fetchExchanges results)
  | completed (results : List QueryResult) :
      Asks (awaiting .clientEncoding) ready (Span.fetchExchanges results)

/-- The inquiries of a step of the setup that fails. -/
inductive GivesUp : Status → List Exchange → Prop
  | silent {s : Status} : (∀ q, s ≠ asking q) → GivesUp s []
  | refused (q : SetupQuery) (answer : Except String Unit) : GivesUp (asking q) [q.submitted answer]
  | fetched (q : SetupQuery) (results : List QueryResult) :
      GivesUp (awaiting q) (Span.fetchExchanges results)

end Status

/-- The inquiries of an operation on an asynchronous connection, between two statuses. -/
inductive Operation.Inquires : Operation → Status → Status → List Exchange → Prop
  /-- A step of the setup. -/
  | asks {s s' : Status} {xs : List Exchange} : s.Asks s' xs → Inquires .poll s s' xs
  /-- A step of the setup that fails closes the connection. -/
  | givesUp {s : Status} {xs : List Exchange} : s.isConnecting → s.GivesUp xs →
      Inquires .poll s .closed xs
  /-- A poll on a connection that is set up may fetch the results of a statement. -/
  | fetches {s : Status} (results : List QueryResult) : s.isUsable →
      Inquires .poll s s (Span.fetchExchanges results)
  /-- A connection that is set up may submit the statement of a caller. -/
  | submits {s : Status} (sql : String) (owner : QueryOwner) (answer : Except String Unit) :
      s.isUsable → Inquires (.submit sql owner) s s [{ call := .send sql, answer }]
  | silent {op : Operation} {s s' : Status} : (op = .poll → s.isConnecting = false) →
      s' = s ∨ s' = .closed → Inquires op s s' []

/-- What an operation on an asynchronous connection submits in a status, given what was submitted
before. -/
inductive Operation.Submits : Operation → Status → List String → List String → Prop
  | nothing {op : Operation} {s : Status} {before : List String} :
      (op = .poll → ∀ q, s ≠ .asking q) → Submits op s before []
  /-- A poll submits a question exactly if it is the turn of that question, which was not submitted
  before. -/
  | question {q : SetupQuery} {before : List String} : q.statement ∉ before →
      Submits .poll (.asking q) before [q.statement]
  /-- A statement of a caller is submitted once the connection is set up. -/
  | statement {s : Status} {before : List String} (sql : String) (owner : QueryOwner) : s.isUsable →
      Submits (.submit sql owner) s before [sql]

/-- The status of an asynchronous connection tells its inquiries so far: those of a setup that is not
complete, or those of one that is, and of callers. -/
def Status.Tells (s : Status) (xs : List Exchange) : Prop :=
  s.Underway xs ∨ s.isConnecting = false ∧ SetUp xs

/-! ## What the statuses tell of the inquiries -/

namespace SetupTalk

variable {xs : List Exchange}

/-- Whenever a setup fails, what it has submitted is the beginning of what there is to submit. -/
theorem prefix_submissions (h : SetupTalk xs) :
    submissions xs <+: SetupQuery.all.map SetupQuery.statement := by
  cases h with
  | silent => exact ⟨_, rfl⟩
  | asked answer => exact ⟨_, rfl⟩
  | fetched results =>
    rw [SetupQuery.submissions_answered]
    exact ⟨_, rfl⟩
  | askedAgain results answer _ =>
    rw [submissions_append, SetupQuery.submissions_answered]
    exact ⟨_, rfl⟩
  | complete results others _ =>
    rw [submissions_append, SetupQuery.submissions_answered, SetupQuery.submissions_answered]
    exact ⟨_, rfl⟩

theorem blocks_eq_false (h : SetupTalk xs) {x : Exchange} (hx : x ∈ xs) : x.call.blocks = false := by
  cases h with
  | silent => exact absurd hx List.not_mem_nil
  | asked answer =>
    rw [List.mem_singleton.1 hx]
    rfl
  | fetched results => exact SetupQuery.blocks_eq_false_of_mem hx
  | askedAgain results answer _ =>
    rcases List.mem_append.1 hx with hx | hx
    · exact SetupQuery.blocks_eq_false_of_mem hx
    · rw [List.mem_singleton.1 hx]
      rfl
  | complete results others _ =>
    rcases List.mem_append.1 hx with hx | hx <;> exact SetupQuery.blocks_eq_false_of_mem hx

/-- Until a setup is complete, nothing is asked between the answer to the first question and the second
question. -/
theorem split (h : SetupTalk xs) {before after : List Exchange} {answer : Except String Unit}
    (hxs : xs = before ++ SetupQuery.clientEncoding.submitted answer :: after) :
    ∃ results, before = SetupQuery.dateStyle.answered results ∧ TellsDateStyle results := by
  have hfirst : ∀ {results : List QueryResult} {ys : List Exchange} {answer' : Except String Unit},
      (∀ x ∈ ys, x.call = .getResult) → TellsDateStyle results →
      SetupQuery.dateStyle.answered results ++ SetupQuery.clientEncoding.submitted answer' :: ys =
        before ++ SetupQuery.clientEncoding.submitted answer :: after →
      ∃ results, before = SetupQuery.dateStyle.answered results ∧ TellsDateStyle results := by
    intro results ys answer' hys htells hsplit
    obtain ⟨later, hbefore, hrest⟩ := SetupQuery.answered_of_split hsplit
    cases later with
    | nil => exact ⟨results, hbefore.trans (List.append_nil _), htells⟩
    | cons x later =>
      rw [List.cons_append, List.cons.injEq] at hrest
      have hcall := hys (SetupQuery.clientEncoding.submitted answer) (by simp [hrest.2])
      exact nomatch hcall
  have hnone : SetupQuery.clientEncoding.statement ∉ submissions xs →
      ∃ results, before = SetupQuery.dateStyle.answered results ∧ TellsDateStyle results := by
    intro hnot
    rw [hxs] at hnot
    exact absurd (mem_submissions.2 ⟨answer, List.mem_append_right _ List.mem_cons_self⟩) hnot
  cases h with
  | silent => exact hnone List.not_mem_nil
  | asked answer =>
    refine hnone ?_
    show SetupQuery.clientEncoding.statement ∉ [SetupQuery.dateStyle.statement]
    decide
  | fetched results =>
    refine hnone ?_
    rw [SetupQuery.submissions_answered]
    decide
  | askedAgain results answer htells => exact hfirst (fun x hx => absurd hx List.not_mem_nil) htells hxs
  | complete results others htells =>
    exact hfirst (fun _ => call_of_mem_fetchExchanges) htells hxs

theorem of_underway {s : Status} (h : s.Underway xs) : SetupTalk xs := by
  have hfirst : xs = [] → SetupTalk xs := by
    rintro rfl
    exact .silent
  have hasked : xs = [SetupQuery.dateStyle.submitted (.ok ())] → SetupTalk xs := by
    rintro rfl
    exact .asked _
  have hagain : (∃ results, TellsDateStyle results ∧ xs = SetupQuery.dateStyle.answered results ++
      [SetupQuery.clientEncoding.submitted (.ok ())]) → SetupTalk xs := by
    rintro ⟨results, htells, rfl⟩
    exact .askedAgain results _ htells
  cases s with
  | setup | handshake => exact hfirst h
  | asking q =>
    cases q with
    | dateStyle => exact hfirst h
    | clientEncoding =>
      obtain ⟨results, -, rfl⟩ := h
      exact .fetched results
  | writing q =>
    cases q with
    | dateStyle => exact hasked h
    | clientEncoding => exact hagain h
  | awaiting q =>
    cases q with
    | dateStyle => exact hasked h
    | clientEncoding => exact hagain h
  | closed => exact h
  | ready | inBlock => exact h.elim

end SetupTalk

namespace Status

variable {s s' : Status} {xs ys : List Exchange}

theorem Asks.isConnecting (h : s.Asks s' ys) : s.isConnecting := by
  cases h <;> rfl

/-- A step of the setup leads to another status that tells the inquiries, or it completes the setup. -/
theorem Underway.asks (h : s.Underway xs) (hstep : s.Asks s' ys) :
    s'.Underway (xs ++ ys) ∨ (s' = ready ∧ SetUp (xs ++ ys)) := by
  cases hstep with
  | started => exact Or.inl (by rw [show xs = [] from h]; rfl)
  | shookHands hs' =>
    refine Or.inl ?_
    rw [show xs = [] from h]
    rcases hs' with rfl | rfl <;> rfl
  | submitted q hs' =>
    refine Or.inl ?_
    cases q with
    | dateStyle =>
      rw [show xs = [] from h]
      rcases hs' with rfl | rfl <;> rfl
    | clientEncoding =>
      obtain ⟨results, htells, rfl⟩ := h
      rcases hs' with rfl | rfl <;> exact ⟨results, htells, rfl⟩
  | written q hs' =>
    rw [List.append_nil]
    refine Or.inl ?_
    cases q <;> rcases hs' with rfl | rfl <;> exact h
  | awaits q =>
    rw [List.append_nil]
    exact Or.inl h
  | noted results htells =>
    rw [show xs = [SetupQuery.dateStyle.submitted (.ok ())] from h]
    exact Or.inl ⟨results, htells, rfl⟩
  | completed others =>
    obtain ⟨results, htells, rfl⟩ := h
    refine Or.inr ⟨rfl, results, others, [], htells, ?_, nofun⟩
    rw [List.append_assoc, List.append_nil]
    rfl

/-- A step that fails leaves inquiries as a setup can have come to. -/
theorem Underway.givesUp (h : s.Underway xs) (hstep : s.GivesUp ys) : SetupTalk (xs ++ ys) := by
  cases hstep with
  | silent _ =>
    rw [List.append_nil]
    exact .of_underway h
  | refused q answer =>
    cases q with
    | dateStyle =>
      rw [show xs = [] from h]
      exact .asked answer
    | clientEncoding =>
      obtain ⟨results, htells, rfl⟩ := h
      exact .askedAgain results answer htells
  | fetched q others =>
    cases q with
    | dateStyle =>
      rw [show xs = [SetupQuery.dateStyle.submitted (.ok ())] from h]
      exact .fetched others
    | clientEncoding =>
      obtain ⟨results, htells, rfl⟩ := h
      rw [List.append_assoc]
      exact .complete results others htells

/-- An operation before the connection is set up. -/
theorem Underway.inquires {op : Operation} (h : s.Underway xs) (hop : op.Inquires s s' ys) :
    s'.Underway (xs ++ ys) ∨ (s' = ready ∧ SetUp (xs ++ ys)) := by
  cases hop with
  | asks hstep => exact h.asks hstep
  | givesUp _ hstep => exact Or.inl (h.givesUp hstep)
  | fetches _ husable | submits _ _ _ husable =>
    cases s with
    | ready | inBlock => exact h.elim
    | _ => exact nomatch husable
  | silent _ hs' =>
    rw [List.append_nil]
    rcases hs' with rfl | rfl
    · exact Or.inl h
    · exact Or.inl (.of_underway h)

end Status

/-- None of the inquiries of an asynchronous connection may wait for the server. -/
theorem Operation.Inquires.blocks_eq_false {op : Operation} {s s' : Status} {ys : List Exchange}
    (h : op.Inquires s s' ys) : ∀ x ∈ ys, x.call.blocks = false := by
  have hsent : ∀ (sql : String) (answer : Except String Unit),
      ∀ x ∈ ([{ call := .send sql, answer }] : List Exchange), x.call.blocks = false := by
    intro sql answer x hx
    rw [List.mem_singleton.1 hx]
    rfl
  have hfetched : ∀ results, ∀ x ∈ Span.fetchExchanges results, x.call.blocks = false := by
    intro results x hx
    rw [call_of_mem_fetchExchanges hx]
    rfl
  cases h with
  | asks hstep =>
    cases hstep with
    | submitted q _ => exact hsent q.statement (.ok ())
    | noted results _ | completed results => exact hfetched results
    | _ => exact nofun
  | givesUp _ hstep =>
    cases hstep with
    | silent _ => exact nofun
    | refused q answer => exact hsent q.statement answer
    | fetched q results => exact hfetched results
  | fetches results _ => exact hfetched results
  | submits sql owner answer _ => exact hsent sql answer
  | silent _ _ => exact nofun

namespace SetUp

variable {op : Operation} {s s' : Status} {xs ys : List Exchange}

/-- An operation after the connection was set up. -/
theorem inquires (h : SetUp xs) (hs : s.isConnecting = false) (hop : op.Inquires s s' ys) :
    SetUp (xs ++ ys) ∧ s'.isConnecting = false := by
  obtain ⟨results, others, later, htells, rfl, hlater⟩ := h
  refine ⟨⟨results, others, later ++ ys, htells, ?_, fun x hx => ?_⟩, ?_⟩
  · rw [List.append_assoc, List.append_assoc]
  · exact (List.mem_append.1 hx).elim (hlater x) (hop.blocks_eq_false x)
  · cases hop with
    | asks hstep => exact nomatch hs.symm.trans hstep.isConnecting
    | givesUp _ _ => rfl
    | fetches _ _ | submits _ _ _ _ => exact hs
    | silent _ hs' =>
      rcases hs' with rfl | rfl
      · exact hs
      · rfl

/-- A connection that was set up has submitted both questions before anything else. -/
theorem prefix_submissions (h : SetUp xs) :
    SetupQuery.all.map SetupQuery.statement <+: submissions xs := by
  obtain ⟨results, others, later, -, rfl, -⟩ := h
  rw [submissions_append, submissions_append, SetupQuery.submissions_answered,
    SetupQuery.submissions_answered]
  exact ⟨submissions later, rfl⟩

theorem split (h : SetUp xs) {before after : List Exchange} {answer : Except String Unit}
    (hxs : xs = before ++ SetupQuery.clientEncoding.submitted answer :: after) :
    ∃ results later, before = SetupQuery.dateStyle.answered results ++ later ∧
      TellsDateStyle results := by
  obtain ⟨results, others, later, htells, rfl, -⟩ := h
  obtain ⟨later, hbefore, -⟩ := SetupQuery.answered_of_split hxs
  exact ⟨results, later, hbefore, htells⟩

theorem blocks_eq_false (h : SetUp xs) {x : Exchange} (hx : x ∈ xs) : x.call.blocks = false := by
  obtain ⟨results, others, later, -, rfl, hlater⟩ := h
  rcases List.mem_append.1 hx with hx | hx
  · exact SetupQuery.blocks_eq_false_of_mem hx
  · exact (List.mem_append.1 hx).elim SetupQuery.blocks_eq_false_of_mem (hlater x)

end SetUp

namespace Status.Tells

variable {op : Operation} {s s' : Status} {xs ys : List Exchange}

/-- Every operation keeps the statuses telling the inquiries. -/
theorem inquires (h : s.Tells xs) (hop : op.Inquires s s' ys) : s'.Tells (xs ++ ys) := by
  rcases h with hunderway | ⟨hs, hsetUp⟩
  · rcases hunderway.inquires hop with hunderway | ⟨rfl, hsetUp⟩
    · exact Or.inl hunderway
    · exact Or.inr ⟨rfl, hsetUp⟩
  · obtain ⟨hsetUp, hs'⟩ := hsetUp.inquires hs hop
    exact Or.inr ⟨hs', hsetUp⟩

theorem blocks_eq_false (h : s.Tells xs) {x : Exchange} (hx : x ∈ xs) : x.call.blocks = false := by
  rcases h with hunderway | ⟨-, hsetUp⟩
  · exact (SetupTalk.of_underway hunderway).blocks_eq_false hx
  · exact hsetUp.blocks_eq_false hx

/-- An asynchronous connection neither starts its session anew nor runs a statement while it waits. -/
theorem call_ne (h : s.Tells (inquiries xs)) {x : Exchange} (hx : x ∈ xs) :
    x.call ≠ .reset ∧ ∀ sql, x.call ≠ .exec sql := by
  have hprompt : x.call.inquires → x.call.blocks = false := fun hinquires =>
    h.blocks_eq_false (mem_inquiries.2 ⟨hx, hinquires⟩)
  refine ⟨fun hcall => ?_, fun sql hcall => ?_⟩ <;> rw [hcall] at hprompt
  · exact nomatch hprompt rfl
  · exact nomatch hprompt rfl

theorem split (h : s.Tells xs) {before after : List Exchange} {answer : Except String Unit}
    (hxs : xs = before ++ SetupQuery.clientEncoding.submitted answer :: after) :
    ∃ results later, before = SetupQuery.dateStyle.answered results ++ later ∧
      TellsDateStyle results := by
  rcases h with hunderway | ⟨-, hsetUp⟩
  · obtain ⟨results, rfl, htells⟩ := (SetupTalk.of_underway hunderway).split hxs
    exact ⟨results, [], (List.append_nil _).symm, htells⟩
  · exact hsetUp.split hxs

/-- Once a connection is set up, both questions have been submitted. -/
theorem prefix_submissions (h : s.Tells xs) (hs : s.isUsable) :
    SetupQuery.all.map SetupQuery.statement <+: submissions xs := by
  rcases h with hunderway | ⟨-, hsetUp⟩
  · cases s with
    | ready | inBlock => exact hunderway.elim
    | _ => exact nomatch hs
  · exact hsetUp.prefix_submissions

/-- The question whose turn it is was not submitted before. -/
theorem statement_notMem {q : SetupQuery} (h : (asking q).Tells xs) :
    q.statement ∉ submissions xs := by
  rcases h with hunderway | ⟨hs, -⟩
  · cases q with
    | dateStyle =>
      rw [show xs = [] from hunderway]
      exact List.not_mem_nil
    | clientEncoding =>
      obtain ⟨results, -, rfl⟩ := hunderway
      rw [SetupQuery.submissions_answered]
      decide
  · exact nomatch hs

/-- What an operation submits. -/
theorem submits (h : s.Tells xs) (hop : op.Inquires s s' ys) :
    op.Submits s (submissions xs) (submissions ys) := by
  have hfetched : ∀ results, (op = .poll → ∀ q, s ≠ asking q) →
      op.Submits s (submissions xs) (submissions (Span.fetchExchanges results)) := by
    intro results hs
    rw [submissions_fetchExchanges]
    exact .nothing hs
  cases hop with
  | asks hstep =>
    cases hstep with
    | submitted q _ => exact .question h.statement_notMem
    | noted results _ | completed results => exact hfetched results nofun
    | _ => exact .nothing nofun
  | givesUp _ hstep =>
    cases hstep with
    | silent hs => exact .nothing fun _ => hs
    | refused q answer => exact .question h.statement_notMem
    | fetched q results => exact hfetched results nofun
  | fetches results husable =>
    refine hfetched results ?_
    rintro - q rfl
    exact nomatch husable
  | submits sql owner answer husable => exact .statement sql owner husable
  | silent hs _ =>
    refine .nothing ?_
    rintro hpoll q rfl
    exact nomatch hs hpoll

end Status.Tells

end SessionLayer
