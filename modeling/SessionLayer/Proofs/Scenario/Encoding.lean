import SessionLayer.Proofs.Connection.Encoding
import SessionLayer.Proofs.Scenario.Fate
import SessionLayer.Proofs.Scenario.Lifetime
import SessionLayer.Proofs.Scenario.Refusal

/-!
# Setting the current client encoding in a scenario

Throughout every scenario the encodings that connections store are in upper case. So whether setting the
current encoding again does nothing can be read off the stored name: it does if the name has no hyphen
and no underscore, as every encoding has that was set; and it rolls an open block back and sends a
statement for a name such as `SQL_ASCII` that a server has reported.
-/

set_option autoImplicit false

namespace SessionLayer

variable {σ : Type} [WireSession σ]

theorem Connection.canonical_opened (c : Connection σ) (session : σ) :
    (c.opened session).guarded.Canonical := by
  have hfresh : ((Guarded.fresh c.setupIsolation).on session).Canonical :=
    (Guarded.canonical_fresh c.setupIsolation).of_eq rfl rfl
  rw [opened_eq]
  refine Span.canonical_run ?_ hfresh
  split
  · exact .establish (fun _ _ => trivial) _
  · exact .pure ()

namespace Scenario.World

variable {κ : Type} {w w' : World κ σ}

/-- Every encoding that a connection stores is in upper case. -/
def Canonical (w : World κ σ) : Prop :=
  ∀ (key : Nat) (c : Connection σ), w.connections[key]? = some c → c.guarded.Canonical

theorem Move.canonical [Connector κ σ] (hw : w.Canonical) (hmove : Move w w') : w'.Canonical := by
  intro key c' hc'
  cases hmove.fate key with
  | kept mailbox connection _ _ =>
    rw [connection] at hc'
    obtain ⟨c, hc, rfl⟩ := Option.map_eq_some_iff.1 hc'
    exact (hw key c hc).of_eq rfl rfl
  | performed c op before after _ _ =>
    cases after.symm.trans hc'
    exact c.canonical_perform (hw key c before) op
  | opened c dsn asynchronous hooked settings session _ created after _ _ =>
    cases after.symm.trans hc'
    rw [created]
    exact Connection.canonical_opened _ session
  | unopened c dsn asynchronous hooked settings _ created after _ _ =>
    cases after.symm.trans hc'
    rw [created]
    exact Guarded.canonical_fresh _

variable [Connector κ σ]

/-- In every state of a blocking connection that is open, to set the current encoding, by whatever name
has the same normal form, does nothing but to deliver the messages of the session exactly if the stored
name has neither a hyphen nor an underscore. Otherwise a statement is sent, and first of all the
transaction is undone that may be open. -/
theorem setClientEncoding_atOnce_iff (connector : κ) (hook : Nat → Nat) (w : World κ σ)
    (hreached : Reached { connector, hook } w) {key : Nat} {c : Connection σ}
    (hc : w.connections[key]? = some c) (hopened : w.Opened key)
    (hopen : c.guarded.status ≠ .closed) (ha : c.asynchronous = false) {info : SessionInfo}
    (hinfo : c.guarded.info = some info) {name : String}
    (hname : Encoding.normalize name = Encoding.normalize info.encoding) :
    (c.AtOnce (.setClientEncoding name) (.ok ()) ↔
      ∀ ch ∈ info.encoding.toList, Encoding.isSeparator ch = false) ∧
    (c.AtOnce (.setClientEncoding name) (.ok ()) → ∀ depth, ∃ w₁, Relieved key c w w₁ ∧
      (perform (fire depth) key (.setClientEncoding name)).run w =
        (.ok (), ((deliver (fire depth) key (handedOver c.guarded.relief)).run w₁).2)) ∧
    (¬c.AtOnce (.setClientEncoding name) (.ok ()) → ∃ answer,
      [{ call := .exec (Span.firstOfSetClientEncoding c.guarded name), answer }] <+:
        (c.perform (.setClientEncoding name)).exchanges) := by
  have hsound := hreached.preserves (fun _ _ => Move.sound) (sound_start connector hook)
  obtain ⟨hconsistent, hstash⟩ := hsound.settled key c hc hopened
  have hcanonical : w.Canonical :=
    hreached.preserves (fun _ _ => Move.canonical) fun _ _ h => nomatch h
  have hupper := (hcanonical key c hc).known info hinfo
  -- The stored name is what names are compared with.
  have hstored : c.guarded.info.map (·.encoding) = some (Encoding.normalize name) ↔
      ∀ ch ∈ info.encoding.toList, Encoding.isSeparator ch = false := by
    rw [hinfo, Option.map_some, Option.some_inj, hname, eq_comm,
      Encoding.normalize_eq_self_iff hupper]
  have hsent (h : ¬∀ ch ∈ info.encoding.toList, Encoding.isSeparator ch = false) :=
    Connection.prefix_perform_setClientEncoding hopen ha (hconsistent.session_iff.2 hopen)
      (mt hstored.1 h)
  have hiff : c.AtOnce (.setClientEncoding name) (.ok ()) ↔
      ∀ ch ∈ info.encoding.toList, Encoding.isSeparator ch = false := by
    constructor
    · intro hanswered
      refine Classical.byContradiction fun h => ?_
      obtain ⟨answer, hfirst⟩ := hsent h
      have hmem := hfirst.subset (List.mem_singleton.2 rfl)
      rw [hanswered.exchanges] at hmem
      simpa using Guarded.call_of_mem_relief hmem
    · exact fun h => Connection.atOnce_setClientEncoding hopen ha (hstored.2 h)
  refine ⟨hiff, fun hanswered depth => ?_, fun h => hsent (mt hiff.2 h)⟩
  exact perform_of_atOnce hanswered Operation.noConfusion hc hstash (fire depth)

/-- A server whose encoding has an underscore. -/
def asciiServer : Script :=
  { answers :=
      [("SHOW DATESTYLE", .single "ISO, MDY"), ("SHOW client_encoding", .single "SQL_ASCII")] }

/-- On a server that reports `SQL_ASCII`, to set that encoding rolls an open block back. -/
theorem setClientEncoding_not_atOnce_ascii :
    let start : World Script ScriptedSession := { connector := asciiServer, hook := fun _ => 1 }
    let w := (start.opening "" false .standard false).2.operating 0 false (.execute "SELECT 1")
    Reached start w ∧ ∃ c info, w.connections[0]? = some c ∧ c.guarded.status = .inBlock ∧
      c.guarded.info = some info ∧ info.encoding = "SQL_ASCII" ∧
      ¬c.AtOnce (.setClientEncoding "SQL_ASCII") (.ok ()) ∧
      ∃ answer, [{ call := .exec "ROLLBACK", answer }] <+:
        (c.perform (.setClientEncoding "SQL_ASCII")).exchanges := by
  intro start w
  have hreached : Reached start w :=
    (Reached.of_move (.opening "" false .standard false)).trans
      (Reached.of_move (.operating 0 false (.execute "SELECT 1")))
  have hopened : w.Opened 0 := by decide +kernel
  have hstate : w.connections.map (fun c => (c.guarded.status, c.asynchronous,
      decide (c.guarded.isolation = .autocommit), c.guarded.info.map (·.encoding))) =
      [(.inBlock, false, false, some "SQL_ASCII")] := by decide +kernel
  obtain ⟨c, hconnections, hfacts⟩ := List.map_eq_singleton_iff.1 hstate
  simp only [Prod.mk.injEq, decide_eq_false_iff_not] at hfacts
  obtain ⟨hblock, ha, hlevel, hencoding⟩ := hfacts
  obtain ⟨info, hinfo, hname⟩ := Option.map_eq_some_iff.1 hencoding
  have hc : w.connections[0]? = some c := by rw [hconnections]; rfl
  obtain ⟨hiff, -, hsent⟩ := setClientEncoding_atOnce_iff start.connector start.hook w hreached hc
    hopened (by simp [hblock]) ha hinfo (by rw [hname] : Encoding.normalize "SQL_ASCII" = _)
  have hnot : ¬c.AtOnce (.setClientEncoding "SQL_ASCII") (.ok ()) := by
    rw [hiff, hname]
    intro hnone
    have hunderscore : Encoding.isSeparator '_' = false := hnone '_' (by decide)
    simp [Encoding.isSeparator] at hunderscore
  have hrollback : Span.firstOfSetClientEncoding c.guarded "SQL_ASCII" = "ROLLBACK" :=
    if_pos ⟨hlevel, hblock⟩
  have hfirst := hsent hnot
  rw [hrollback] at hfirst
  exact ⟨hreached, c, info, hc, hblock, hinfo, hname, hnot, hfirst⟩

end Scenario.World

end SessionLayer
