import SessionLayer.Proofs.Fault.SqlState
import SessionLayer.Proofs.Span.Talk

/-!
# Watching for failures

Some answers of a session are failures, in which it says why in a text. `Watch` follows the exchanges of
an operation and knows at all times whether one of them was a failure and with which fault the operation
has to end; after a failure only quiet calls are in place. `FailStop` says the same without the watch:
wherever there is a failure among the exchanges, nothing but quiet calls comes after it, and the
operation fails with its text.
-/

set_option autoImplicit false

namespace SessionLayer

/-- Whether a call only asks for texts and messages, or ends the session. -/
def Call.isQuiet : Call → Bool
  | .errorMessage | .takeNotices | .takeNotifications | .finish => true
  | _ => false

/-- The text with which the transport has failed in an exchange. -/
def Exchange.transportError? : Exchange → Option String
  | { call := .send _, answer := .error text } => some text
  | { call := .flush, answer := .error text } => some text
  | { call := .consume, answer := .error text } => some text
  | { call := .reset, answer := .error text } => some text
  | { call := .exec _, answer := .error text } => some text
  | _ => none

theorem QueryResult.rejection?_eq_some_iff {result : QueryResult} {e : ServerError} :
    result.rejection? = some e ↔ result.status = .fatalError ∧ result.error = some e := by
  rw [rejection?, Option.ite_none_right_eq_some, isError, beq_iff_eq]

/-- The error with which the server has rejected the statement of an exchange. -/
def Exchange.rejection? : Exchange → Option ServerError
  | { call := .exec _, answer := .ok result } => result.rejection?
  | _ => none

/-- The fault that a rejection is, in the setup of a session and outside of it. -/
def ServerError.fault (setup : Bool) (e : ServerError) : Fault :=
  if setup then .setupRejected e.message else .rejected e.state e.message

/-- The class of fault that a rejection is: an operational one in the setup of a session, and outside of
it the one that the state names. -/
def ServerError.HasClass (setup : Bool) (e : ServerError) (cls : FaultClass) : Prop :=
  if setup then cls = .operational else SqlState.Names e.state cls

theorem ServerError.hasClass_fault (setup : Bool) (e : ServerError) :
    e.HasClass setup (e.fault setup).cls := by
  cases setup with
  | true => rfl
  | false => exact SqlState.names_iff_classify.2 rfl

theorem ServerError.message_fault (setup : Bool) (e : ServerError) :
    (e.fault setup).message = e.message := by
  cases setup <;> rfl

namespace Exchange

/-- The fault that an exchange is for an operation. -/
def failure? (setup : Bool) (x : Exchange) : Option Fault :=
  match x with
  | { call := .handshake, answer := .unknown code } => some (.handshakeUnknown code)
  | x => (x.transportError?.map .transport).or (x.rejection?.map (·.fault setup))

theorem failure?_of_transportError {x : Exchange} {text : String} (h : x.transportError? = some text)
    (setup : Bool) : x.failure? setup = some (.transport text) := by
  unfold failure?
  split
  · simp [transportError?] at h
  · rw [h]
    rfl

theorem failure?_of_rejection {x : Exchange} {e : ServerError} (h : x.rejection? = some e)
    (setup : Bool) : x.failure? setup = some (e.fault setup) := by
  have htransport : x.transportError? = none := by
    unfold rejection? at h
    split at h
    · rfl
    · exact nomatch h
  unfold failure?
  split
  · simp [rejection?] at h
  · rw [htransport, h]
    rfl

/-- While a session is set up, only an unknown answer of the handshake is a failure of another class. -/
theorem cls_of_failure {x : Exchange} {fault : Fault} (h : x.failure? true = some fault)
    (hx : ∀ code, x ≠ { call := .handshake, answer := .unknown code }) : fault.cls = .operational := by
  unfold failure? at h
  split at h
  · rename_i code
    exact absurd rfl (hx code)
  · rcases Option.or_eq_some_iff.1 h with htransport | ⟨-, hrejection⟩
    · obtain ⟨text, -, rfl⟩ := Option.map_eq_some_iff.1 htransport
      rfl
    · obtain ⟨e, -, rfl⟩ := Option.map_eq_some_iff.1 hrejection
      rfl

end Exchange

/-! ## The watch -/

/-- What is known of the exchanges so far. -/
inductive Watch where
  /-- There was no failure; the result that was fetched right before, if one was. -/
  | going (last : Option QueryResult)
  /-- The handshake failed, and the text of the failure is not known yet. -/
  | asking
  /-- The operation has to end with a fault. -/
  | failed (fault : Fault)
  /-- There was a call that was out of place. -/
  | astray

namespace Watch

/-- What becomes known by an exchange. While a session is set up, the last one of the results that are
fetched tells whether a question was rejected. -/
def next (setup : Bool) : Watch → Exchange → Watch
  | going _, { call := .handshake, answer := .failed } => asking
  | going _, { call := .getResult, answer := some result } => going (some result)
  | going last, { call := .getResult, answer := none } =>
    match last.bind (·.rejection?) with
    | some e => if setup then failed (e.fault setup) else going none
    | none => going none
  | going _, x => ((x.failure? setup).map failed).getD (going none)
  | asking, { call := .errorMessage, answer := text } => failed (.handshakeFailed text)
  | asking, _ => astray
  | failed fault, x => if x.call.isQuiet then failed fault else astray
  | astray, _ => astray

/-- An exchange that is a failure is none of the others that the watch looks at. -/
theorem next_of_failure {setup : Bool} {x : Exchange} {fault : Fault} (hx : x.failure? setup = some fault)
    (last : Option QueryResult) : (going last).next setup x = failed fault := by
  have hrest : ((x.failure? setup).map failed).getD (going none) = failed fault := by rw [hx]; rfl
  obtain ⟨call, answer⟩ := x
  cases call with
  | handshake =>
    cases answer with
    | unknown code => exact hrest
    | _ => exact nomatch hx
  | getResult => exact nomatch hx
  | _ => exact hrest

theorem isQuiet_of_failure {setup : Bool} {x : Exchange} {fault : Fault}
    (hx : x.failure? setup = some fault) : x.call.isQuiet = false := by
  obtain ⟨call, answer⟩ := x
  cases call <;> first | rfl | exact nomatch hx

/-- What is known after some exchanges. -/
def along (setup : Bool) (w : Watch) (xs : List Exchange) : Watch :=
  xs.foldl (next setup) w

/-- The result is one that the operation may end with; one that is no failure of the session satisfies
`P`. -/
def Agrees {α : Type} (P : Fault → Prop) (r : Except Fault α) : Watch → Prop
  | going none => ∀ fault, r = .error fault → P fault
  | failed fault => r = .error fault
  | _ => False

variable {setup : Bool} {w : Watch} {xs ys before after : List Exchange} {x : Exchange} {fault : Fault}
  {α β : Type} {P : Fault → Prop} {r : Except Fault α}

theorem along_append : w.along setup (xs ++ ys) = (w.along setup xs).along setup ys :=
  List.foldl_append ..

theorem along_cons : w.along setup (x :: xs) = (w.next setup x).along setup xs :=
  rfl

theorem along_astray : astray.along setup xs = astray := by
  induction xs with
  | nil => rfl
  | cons x xs ih => exact ih

/-- Quiet calls change nothing. -/
theorem along_of_quiet (hw : w = going none ∨ ∃ fault, w = failed fault)
    (hxs : ∀ x ∈ xs, x.call.isQuiet) : w.along setup xs = w := by
  induction xs with
  | nil => rfl
  | cons x xs ih =>
    have hx := hxs x List.mem_cons_self
    have hsame : w.next setup x = w := by
      rcases hw with rfl | ⟨fault, rfl⟩
      · obtain ⟨call, answer⟩ := x
        cases call <;> first | rfl | exact nomatch hx
      · exact if_pos hx
    rw [along_cons, hsame]
    exact ih fun y hy => hxs y (List.mem_cons_of_mem _ hy)

/-- After a failure there are only quiet calls, unless one was out of place. -/
theorem along_failed (h : (failed fault).along setup xs ≠ astray) :
    (failed fault).along setup xs = failed fault ∧ ∀ x ∈ xs, x.call.isQuiet := by
  induction xs with
  | nil => exact ⟨rfl, nofun⟩
  | cons x xs ih =>
    rw [along_cons] at h ⊢
    by_cases hx : x.call.isQuiet
    · have hsame : (failed fault).next setup x = failed fault := if_pos hx
      rw [hsame] at h ⊢
      obtain ⟨hfailed, hquiet⟩ := ih h
      refine ⟨hfailed, fun y hy => ?_⟩
      rcases List.mem_cons.1 hy with rfl | hy
      · exact hx
      · exact hquiet y hy
    · have hastray : (failed fault).next setup x = astray := if_neg hx
      rw [hastray] at h
      exact absurd along_astray h

theorem Agrees.ne_astray (h : w.Agrees P r) : w ≠ astray := by
  rintro rfl
  exact h

theorem Agrees.ok_iff {y : α} : w.Agrees P (.ok y : Except Fault α) ↔ w = going none := by
  cases w with
  | going last =>
    cases last with
    | none => exact ⟨fun _ => rfl, fun _ _ h => nomatch h⟩
    | some result => exact ⟨fun h => h.elim, fun h => nomatch h⟩
  | asking | astray => exact ⟨fun h => h.elim, fun h => nomatch h⟩
  | failed fault => exact ⟨fun h => (nomatch h), fun h => nomatch h⟩

/-- Whatever a computation yields when it succeeds, its faults are what counts. -/
theorem Agrees.of_error (h : w.Agrees P (.error fault : Except Fault α)) :
    w.Agrees P (.error fault : Except Fault β) := by
  unfold Agrees at h ⊢
  split at h
  · rintro f ⟨⟩
    exact h fault rfl
  · cases h
    rfl
  · exact h

theorem Agrees.map (h : w.Agrees P r) (f : α → β) : w.Agrees P (r.map f) := by
  cases r with
  | ok y => exact Agrees.ok_iff.2 (Agrees.ok_iff.1 h)
  | error fault => exact h.of_error

theorem Agrees.of_quiet (h : w.Agrees P r) (hxs : ∀ x ∈ xs, x.call.isQuiet) :
    (w.along setup xs).Agrees P r := by
  have hw : w = going none ∨ ∃ fault, w = failed fault := by
    unfold Agrees at h
    split at h
    · exact Or.inl rfl
    · exact Or.inr ⟨_, rfl⟩
    · exact h.elim
  rwa [along_of_quiet hw hxs]

/-- Before an exchange that is not quiet nothing can have failed. -/
theorem exists_going_of_loud (hx : x.call.isQuiet = false)
    (h : ((going none).along setup (before ++ x :: after)).Agrees P r) :
    ∃ last, (going none).along setup before = going last := by
  rw [along_append, along_cons] at h
  cases hbefore : (going none).along setup before with
  | going last => exact ⟨last, rfl⟩
  | asking =>
    rw [hbefore] at h
    have hastray : asking.next setup x = astray := by
      obtain ⟨call, answer⟩ := x
      cases call with
      | errorMessage => exact nomatch hx
      | _ => rfl
    rw [hastray, along_astray] at h
    exact h.elim
  | failed fault =>
    rw [hbefore] at h
    have hastray : (failed fault).next setup x = astray := if_neg (by rw [hx]; exact Bool.false_ne_true)
    rw [hastray, along_astray] at h
    exact h.elim
  | astray =>
    rw [hbefore] at h
    rw [show astray.next setup x = astray from rfl, along_astray] at h
    exact h.elim

/-- After the exchange that is a failure there are only quiet calls, and its fault is the result. -/
theorem Agrees.of_failed (h : ((failed fault).along setup after).Agrees P r) :
    r = .error fault ∧ ∀ y ∈ after, y.call.isQuiet := by
  obtain ⟨hfailed, hquiet⟩ := along_failed h.ne_astray
  rw [hfailed] at h
  exact ⟨h, hquiet⟩

/-- Results that are fetched after the watch was going leave the last one of them known. -/
theorem along_fetched (last : Option QueryResult) (results : List QueryResult) (result : QueryResult) :
    (going last).along setup
      ((results ++ [result]).map fun r => { call := .getResult, answer := some r }) =
        going (some result) := by
  induction results generalizing last with
  | nil => rfl
  | cons first results ih => exact ih (some first)

/-- Once all results are fetched, the last one of them decides in the setup of a session. -/
theorem along_fetchExchanges (results : List QueryResult) :
    (going none).along setup (Span.fetchExchanges results) =
      match results.getLast?.bind (·.rejection?) with
      | some e => if setup then failed (e.fault setup) else going none
      | none => going none := by
  rcases List.eq_nil_or_concat results with rfl | ⟨front, result, rfl⟩
  · rfl
  · rw [List.concat_eq_append, Span.fetchExchanges, along_append, along_fetched, List.getLast?_concat]
    rfl

/-- While a session is set up, the watch knows of failures of one class only, unless the handshake had an
unknown answer. -/
theorem cls_of_next (hw : ∀ f, w = failed f → f.cls = .operational)
    (hx : ∀ code, x ≠ { call := .handshake, answer := .unknown code })
    (h : w.next true x = failed fault) : fault.cls = .operational := by
  cases w with
  | going last =>
    cases hfailure : x.failure? true with
    | some f =>
      rw [next_of_failure hfailure] at h
      cases h
      exact Exchange.cls_of_failure hfailure hx
    | none =>
      unfold next at h
      split at h
      · exact nomatch h
      · exact nomatch h
      · split at h
        · cases h
          rfl
        · exact nomatch h
      · rw [hfailure] at h
        exact nomatch h
      all_goals contradiction
  | asking =>
    obtain ⟨call, answer⟩ := x
    cases call with
    | errorMessage =>
      cases h
      rfl
    | _ => exact nomatch h
  | failed f =>
    by_cases hquiet : x.call.isQuiet
    · cases (if_pos hquiet).symm.trans h
      exact hw _ rfl
    · exact nomatch (if_neg hquiet).symm.trans h
  | astray => exact nomatch h

theorem cls_of_along (hw : ∀ f, w = failed f → f.cls = .operational)
    (hxs : ∀ x ∈ xs, ∀ code, x ≠ { call := .handshake, answer := .unknown code })
    (h : w.along true xs = failed fault) : fault.cls = .operational := by
  induction xs generalizing w with
  | nil => exact hw fault h
  | cons x xs ih =>
    refine ih (fun f hf => ?_) (fun y hy => hxs y (List.mem_cons_of_mem _ hy)) h
    exact cls_of_next hw (hxs x List.mem_cons_self) hf

end Watch

/-! ## What the watch means -/

/-- An operation failed with a text and a class, and made only quiet calls in the end. -/
def Stops {α : Type} (r : Except Fault α) (after : List Exchange) (cls : FaultClass) (text : String) :
    Prop :=
  (∃ fault, r = .error fault ∧ fault.cls = cls ∧ fault.message = text) ∧ ∀ y ∈ after, y.call.isQuiet

/-- Wherever there is a failure among the exchanges of an operation, it stops there with its text. -/
structure FailStop {α : Type} (setup : Bool) (xs : List Exchange) (r : Except Fault α) : Prop where
  transport : ∀ before x after text, xs = before ++ x :: after → x.transportError? = some text →
    Stops r after .operational text
  rejection : ∀ before sql result after e,
    xs = before ++ { call := .exec sql, answer := .ok result } :: after →
      result.status = .fatalError → result.error = some e →
        ∃ cls, e.HasClass setup cls ∧ Stops r after cls e.message
  /-- The text of a handshake that failed is asked for right away. -/
  handshake : ∀ before after, xs = before ++ { call := .handshake, answer := .failed } :: after →
    ∃ text rest, after = { call := .errorMessage, answer := text } :: rest ∧
      Stops r rest .operational text
  /-- The last result of a question of the setup is what counts. -/
  answer : setup = true → ∀ before results result after e,
    xs = before ++ (Span.fetchExchanges (results ++ [result]) ++ after) →
      result.status = .fatalError → result.error = some e → Stops r after .operational e.message

namespace Watch.Agrees

variable {setup : Bool} {xs before after : List Exchange} {x : Exchange} {fault : Fault} {α : Type}
  {P : Fault → Prop} {r : Except Fault α}

/-- An exchange that is a failure is the last one that counts. -/
theorem of_failure (h : ((Watch.going none).along setup (before ++ x :: after)).Agrees P r)
    (hx : x.failure? setup = some fault) :
    r = .error fault ∧ ∀ y ∈ after, y.call.isQuiet := by
  obtain ⟨last, hlast⟩ := exists_going_of_loud (isQuiet_of_failure hx) h
  rw [along_append, along_cons, hlast, next_of_failure hx] at h
  exact h.of_failed

theorem failStop (h : ((Watch.going none).along setup xs).Agrees P r) : FailStop setup xs r where
  transport := by
    rintro before x after text rfl hx
    obtain ⟨hr, hquiet⟩ := h.of_failure (Exchange.failure?_of_transportError hx setup)
    exact ⟨⟨_, hr, rfl, rfl⟩, hquiet⟩
  rejection := by
    rintro before sql result after e rfl hstatus herror
    have hx : Exchange.rejection? { call := .exec sql, answer := .ok result } = some e :=
      QueryResult.rejection?_eq_some_iff.2 ⟨hstatus, herror⟩
    obtain ⟨hr, hquiet⟩ := h.of_failure (Exchange.failure?_of_rejection hx setup)
    exact ⟨_, e.hasClass_fault setup, ⟨_, hr, rfl, e.message_fault setup⟩, hquiet⟩
  handshake := by
    rintro before after rfl
    obtain ⟨last, hlast⟩ := exists_going_of_loud rfl h
    rw [along_append, along_cons, hlast, show (Watch.going last).next setup
      { call := .handshake, answer := .failed } = .asking from rfl] at h
    cases after with
    | nil => exact h.elim
    | cons y rest =>
      obtain ⟨call, answer⟩ := y
      rw [along_cons] at h
      cases call with
      | errorMessage =>
        obtain ⟨hr, hquiet⟩ := h.of_failed
        exact ⟨answer, rest, rfl, ⟨_, hr, rfl, rfl⟩, hquiet⟩
      | _ => exact absurd along_astray h.ne_astray
  answer := by
    rintro rfl before results result after e rfl hstatus herror
    have he := QueryResult.rejection?_eq_some_iff.2 ⟨hstatus, herror⟩
    have hfirst : ∃ x rest, Span.fetchExchanges (results ++ [result]) = x :: rest ∧
        x.call.isQuiet = false := by
      cases results with
      | nil => exact ⟨_, _, rfl, rfl⟩
      | cons first results => exact ⟨_, _, rfl, rfl⟩
    obtain ⟨x, rest, hfetched, hloud⟩ := hfirst
    have hgoing := h
    rw [hfetched, List.cons_append] at hgoing
    obtain ⟨last, hlast⟩ := exists_going_of_loud hloud hgoing
    have hfailed : (Watch.going last).along true (Span.fetchExchanges (results ++ [result])) =
        .failed (.setupRejected e.message) := by
      rw [Span.fetchExchanges, along_append, along_fetched]
      simp only [along, List.foldl_cons, List.foldl_nil, next, Option.bind_some, he, if_true]
      rfl
    rw [along_append, along_append, hlast, hfailed] at h
    obtain ⟨hr, hquiet⟩ := h.of_failed
    exact ⟨⟨_, hr, rfl, rfl⟩, hquiet⟩

end Watch.Agrees

end SessionLayer
