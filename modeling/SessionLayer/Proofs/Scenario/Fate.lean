import SessionLayer.Proofs.Scenario.History

/-!
# What becomes of a connection

`World.Fate` lists what a move can do to the connection of one key and to the talk with its session: the
connection is kept as it is, but for its mailbox; the span of an operation is run on it; it is opened on
a session that was just made for it; or it is left without one. So what spans preserve holds for every
connection of a scenario, and a statement about connections needs no other way to look at a move.
-/

set_option autoImplicit false

namespace SessionLayer.Scenario.World

variable {κ σ : Type} [WireSession σ]

/-- What becomes of the connection of a key from one world to the next. -/
inductive Fate (key : Nat) (w w' : World κ σ) : Prop
  /-- Nothing but its mailbox may have changed, if it exists. -/
  | kept (mailbox : Mailbox Nat)
    (connection : w'.connections[key]? = w.connections[key]?.map ({ · with mailbox }))
    (exchanges : w'.exchanges key = w.exchanges key)
    (opened : w'.Opened key ↔ w.Opened key)
  /-- The span of an operation was run on it. -/
  | performed (c : Connection σ) (op : Operation)
    (before : w.connections[key]? = some c)
    (after : w'.connections[key]? = some { c with guarded := (c.perform op).guarded })
    (exchanges : w'.exchanges key = w.exchanges key ++ (c.perform op).exchanges)
    (opened : w'.Opened key ↔ w.Opened key)
  /-- It was opened on a session that had been made for it. -/
  | opened (c : Connection σ) (dsn : String) (asynchronous hooked : Bool) (settings : Settings)
    (session : σ)
    (new : key = w.connections.length)
    (created : c = .create key dsn asynchronous hooked settings)
    (after : w'.connections[key]? = some { c with guarded := (c.opened session).guarded })
    (exchanges : w'.exchanges key = w.exchanges key ++ (c.opened session).exchanges)
    (opened : w'.Opened key)
  /-- No session could be made for it. -/
  | unopened (c : Connection σ) (dsn : String) (asynchronous hooked : Bool) (settings : Settings)
    (new : key = w.connections.length)
    (created : c = .create key dsn asynchronous hooked settings)
    (after : w'.connections[key]? = some c)
    (exchanges : w'.exchanges key = w.exchanges key)
    (opened : w'.Opened key ↔ w.Opened key)

variable {w w' : World κ σ} {key : Nat}

omit [WireSession σ] in
/-- Where nothing happened to a connection, it is the same but for its mailbox. -/
theorem AlikeAt.kept (h : AlikeAt key w w')
    (hlength : key < w'.connections.length → key < w.connections.length) :
    ∃ mailbox, w'.connections[key]? = w.connections[key]?.map ({ · with mailbox }) := by
  cases hc : w.connections[key]? with
  | none =>
    have hle := List.getElem?_eq_none_iff.1 hc
    refine ⟨.create ⟨1, Nat.one_pos⟩ ⟨1, Nat.one_pos⟩, ?_⟩
    rw [Option.map_none, List.getElem?_eq_none_iff]
    omega
  | some c =>
    obtain ⟨mailbox, hc'⟩ := h.connection c hc
    exact ⟨mailbox, hc'⟩

namespace Fate

/-- The connection was not touched, and no other one took its place. -/
theorem of_alikeAt (h : AlikeAt key w w')
    (hlength : key < w'.connections.length → key < w.connections.length)
    (hopened : w'.Opened key ↔ w.Opened key) : Fate key w w' := by
  obtain ⟨mailbox, hconnection⟩ := h.kept hlength
  exact .kept mailbox hconnection h.exchanges hopened

theorem of_alike (h : w.Alike w') (key : Nat) : Fate key w w' := by
  refine .of_alikeAt (.of_alike h key) (fun hlt => ?_) (h.opened_iff key)
  rwa [h.length_connections] at hlt

theorem operating (w : World κ σ) (key other : Nat) (hooked : Bool) (op : Operation) :
    Fate key w (w.operating other hooked op) := by
  have hopened := opened_operating_iff w other hooked op key
  by_cases hother : other = key
  · subst hother
    cases hc : w.connections[other]? with
    | none =>
      obtain ⟨w₁, hbefore, hconnections, -, hafter, -⟩ :=
        detached_eq other hooked (runSpan other (·.span op)) w
      have hc₁ : w₁.connections[other]? = none := by rw [hconnections, hc]
      rw [runSpan_of_none hc₁] at hafter
      exact .of_alike (hbefore.trans hafter) other
    | some c =>
      obtain ⟨w₁, hspan, hafter, hsaid⟩ := detached_runSpan hc hooked (·.span op)
      have hw₁ : w.operating other hooked op = w₁ := by rw [World.operating, hspan]
      exact .performed c op hc (hw₁ ▸ hafter) (hw₁ ▸ hsaid) hopened
  · refine .of_alikeAt (alikeAt_operating hother w hooked op) (fun hlt => ?_) hopened
    rwa [length_connections_operating] at hlt

/-- A connection that exists is kept, or the span of an operation is run on it. -/
theorem of_some (h : Fate key w w') {c : Connection σ} (hc : w.connections[key]? = some c) :
    (∃ mailbox, w'.connections[key]? = some { c with mailbox } ∧
      w'.exchanges key = w.exchanges key) ∨
    ∃ op, w'.connections[key]? = some { c with guarded := (c.perform op).guarded } ∧
      w'.exchanges key = w.exchanges key ++ (c.perform op).exchanges := by
  have hlt := (List.getElem?_eq_some_iff.1 hc).1
  cases h with
  | kept mailbox connection exchanges _ =>
    rw [hc] at connection
    exact Or.inl ⟨mailbox, connection, exchanges⟩
  | performed d op before after exchanges _ =>
    cases before.symm.trans hc
    exact Or.inr ⟨op, after, exchanges⟩
  | opened _ _ _ _ _ _ new _ _ _ _ | unopened _ _ _ _ _ new _ _ _ _ =>
    exact absurd new (Nat.ne_of_lt hlt)

end Fate

section Opening

variable [Connector κ σ]

/-- A connection for which no session could be made is left as it was made. -/
theorem opening_of_error {dsn text : String} {asynchronous : Bool} {connector : κ}
    (hconnect : Connector.connect (!asynchronous) dsn w.connector = (.error text, connector))
    (settings : Settings) (hooked : Bool) :
    ∃ w', w.opening dsn asynchronous settings hooked = ({ result := .error (.transport text) }, w') ∧
      w'.connections[w.connections.length]? =
        some (.create w.connections.length dsn asynchronous hooked settings) ∧
      w'.exchanges w.connections.length = w.exchanges w.connections.length ∧
      (w'.Opened w.connections.length ↔ w.Opened w.connections.length) := by
  obtain ⟨w₁, hbefore, hconnections, hresult, hafter, hkept⟩ := detached_eq w.connections.length
    (hooked && !asynchronous) (establish w.connections.length (!asynchronous) dsn)
    (w.creating dsn asynchronous settings hooked)
  have hconnect₁ : Connector.connect (!asynchronous) dsn w₁.connector = (.error text, connector) := by
    rw [hbefore.connector]
    exact hconnect
  rw [establish_of_error hconnect₁] at hresult hafter hkept
  have hexchanges : ({ w₁ with connector }.record (.connected w.connections.length (!asynchronous) dsn
      (some text))).exchanges w.connections.length = w₁.exchanges w.connections.length := by
    rw [exchanges_append (w := w₁) rfl]
    exact List.append_nil _
  have hopened : ({ w₁ with connector }.record (.connected w.connections.length (!asynchronous) dsn
      (some text))).Opened w.connections.length ↔ w₁.Opened w.connections.length :=
    opened_of_trace_append rfl (by simp) _
  refine ⟨_, Prod.ext ?_ rfl, ?_, ?_, ?_⟩
  · exact hresult
  · rw [opening, hkept]
    show w₁.connections[w.connections.length]? = _
    rw [hconnections, creating, List.getElem?_concat_length]
  · rw [opening, hafter.exchanges_eq, hexchanges, hbefore.exchanges_eq]
    rfl
  · rw [opening, hafter.opened_iff, hopened, hbefore.opened_iff]
    exact Iff.rfl

theorem opened_opening_of_ok {dsn : String} {asynchronous : Bool} {session : σ} {connector : κ}
    (hconnect : Connector.connect (!asynchronous) dsn w.connector = (.ok session, connector))
    (settings : Settings) (hooked : Bool) :
    (w.opening dsn asynchronous settings hooked).2.Opened w.connections.length := by
  obtain ⟨w₁, hbefore, -, -, hafter, -⟩ := detached_eq w.connections.length
    (hooked && !asynchronous) (establish w.connections.length (!asynchronous) dsn)
    (w.creating dsn asynchronous settings hooked)
  have hconnect₁ : Connector.connect (!asynchronous) dsn w₁.connector = (.ok session, connector) := by
    rw [hbefore.connector]
    exact hconnect
  rw [opening, hafter.opened_iff, establish_of_ok hconnect₁, opened_runSpan_iff,
    opened_record_connected]
  exact Or.inr rfl

theorem Fate.opening (w : World κ σ) (key : Nat) (dsn : String) (asynchronous : Bool)
    (settings : Settings) (hooked : Bool) :
    Fate key w (w.opening dsn asynchronous settings hooked).2 := by
  by_cases hkey : key = w.connections.length
  · subst hkey
    rcases hconnect : Connector.connect (!asynchronous) dsn w.connector with
      ⟨text | session, connector⟩
    · obtain ⟨w₁, hspan, hafter, hsaid, hopened⟩ := opening_of_error hconnect settings hooked
      rw [hspan]
      exact .unopened _ dsn asynchronous hooked settings rfl rfl hafter hsaid hopened
    · have hopened := opened_opening_of_ok hconnect settings hooked
      obtain ⟨w₁, hspan, hafter, hsaid⟩ := opening_of_ok hconnect settings hooked rfl
      rw [hspan] at hopened ⊢
      exact .opened _ dsn asynchronous hooked settings session rfl rfl hafter hsaid hopened
  · obtain ⟨halike, hopened⟩ := alikeAt_opening hkey dsn asynchronous settings hooked
    refine .of_alikeAt halike (fun hlt => ?_) hopened
    rw [length_connections_opening] at hlt
    omega

end Opening

/-- What a move does to the connection of a key. -/
theorem Move.fate [Connector κ σ] (h : Move w w') (key : Nat) : Fate key w w' := by
  cases h with
  | opening dsn asynchronous settings hooked => exact .opening w key dsn asynchronous settings hooked
  | operating other hooked op => exact .operating w key other hooked op
  | quiet _ halike => exact .of_alike halike key

end SessionLayer.Scenario.World
