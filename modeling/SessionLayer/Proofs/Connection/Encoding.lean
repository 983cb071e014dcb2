import SessionLayer.Proofs.Connection.Refusal

/-!
# Setting the current client encoding

The setup stores the client encoding in upper case, as the server spells it; setting it stores the normal
form. Names are compared with what is stored by their normal form. So to set the current encoding again
does nothing exactly if no character of what is stored is left out of the normal form.
-/

set_option autoImplicit false

namespace SessionLayer

namespace Encoding

theorem toNat_toUpper (c : Char) :
    c.toUpper.toNat = if 97 ≤ c.toNat ∧ c.toNat ≤ 122 then c.toNat - 32 else c.toNat := by
  have hiff : ('a'.val ≤ c.val ∧ c.val ≤ 'z'.val) ↔ 97 ≤ c.toNat ∧ c.toNat ≤ 122 := Iff.rfl
  unfold Char.toUpper
  by_cases h : 'a'.val ≤ c.val ∧ c.val ≤ 'z'.val
  · have hletter : 97 ≤ c.val.toNat ∧ c.val.toNat ≤ 122 := hiff.1 h
    rw [dif_pos h, if_pos (hiff.1 h)]
    show (c.val + 4294967264).toNat = c.val.toNat - 32
    rw [UInt32.toNat_add]
    show (c.val.toNat + 4294967264) % 4294967296 = _
    omega
  · rw [dif_neg h, if_neg (fun hletter => h (hiff.2 hletter))]

theorem toUpper_toUpper (c : Char) : c.toUpper.toUpper = c.toUpper := by
  apply Char.toNat_inj.1
  rw [toNat_toUpper c.toUpper, toNat_toUpper c]
  grind

theorem isSeparator_toUpper (c : Char) : isSeparator c.toUpper = isSeparator c := by
  have hkept : ∀ d : Char, d = '-' ∨ d = '_' → (c.toUpper = d ↔ c = d) := by
    intro d hd
    have hcode : d.toNat = 45 ∨ d.toNat = 95 := by
      rcases hd with rfl | rfl
      · exact Or.inl rfl
      · exact Or.inr rfl
    rw [← Char.toNat_inj, ← Char.toNat_inj, toNat_toUpper]
    grind
  rw [Bool.eq_iff_iff]
  simp [isSeparator, hkept]

variable {name encoding : String}

/-- What is in upper case already stays as it is. -/
theorem map_toUpper_map_toUpper (cs : List Char) :
    (cs.map Char.toUpper).map Char.toUpper = cs.map Char.toUpper := by
  simp only [List.map_map, List.map_inj_left]
  exact fun c _ => toUpper_toUpper c

theorem upper_upper (name : String) : upper (upper name) = upper name := by
  rw [upper, upper, String.toList_ofList, map_toUpper_map_toUpper]

theorem upper_normalize (name : String) : upper (normalize name) = normalize name := by
  rw [upper, normalize, String.toList_ofList, map_toUpper_map_toUpper]

/-- A name in upper case is in its normal form exactly if nothing is left out of that. -/
theorem normalize_eq_self_iff (h : upper encoding = encoding) :
    normalize encoding = encoding ↔ ∀ c ∈ encoding.toList, isSeparator c = false := by
  constructor
  · intro hnormal c hc
    rw [← hnormal] at hc
    simp only [normalize, String.toList_ofList, List.mem_map, List.mem_filter] at hc
    obtain ⟨d, ⟨-, hd⟩, rfl⟩ := hc
    rw [isSeparator_toUpper]
    simpa using hd
  · intro hnone
    have hall : encoding.toList.filter (fun c => !isSeparator c) = encoding.toList := by
      rw [List.filter_eq_self]
      exact fun c hc => by simp [hnone c hc]
    rw [normalize, hall]
    exact h

end Encoding

/-- Every encoding that is stored is in upper case. -/
structure Guarded.Canonical {σ : Type} (g : Guarded σ) : Prop where
  noted : ∀ encoding, g.progress.encoding = some encoding → Encoding.upper encoding = encoding
  known : ∀ info, g.info = some info → Encoding.upper info.encoding = info.encoding

variable {σ : Type}

namespace Guarded

theorem canonical_fresh (isolation : Isolation) : (fresh isolation : Guarded σ).Canonical where
  noted := nofun
  known := nofun

variable {g g' : Guarded σ}

/-- Only the stored encodings count. -/
theorem Canonical.of_eq (h : g.Canonical) (hprogress : g'.progress = g.progress)
    (hinfo : g'.info = g.info) : g'.Canonical where
  noted := fun encoding hencoding => h.noted encoding (hprogress ▸ hencoding)
  known := fun info hknown => h.known info (hinfo ▸ hknown)

theorem Touches.canonical (h : g.Touches g') (hg : g.Canonical) : g'.Canonical where
  noted := by
    intro encoding hencoding
    obtain hbefore | ⟨value, rfl⟩ := h.progress encoding hencoding
    · exact hg.noted encoding hbefore
    · exact Encoding.upper_upper value
  known := by
    intro info hinfo
    obtain hbefore | hnoted | ⟨name, hname⟩ := h.info info hinfo
    · exact hg.known info hbefore
    · exact hg.noted info.encoding hnoted
    · rw [hname]
      exact Encoding.upper_normalize name

end Guarded

namespace Span

variable [WireSession σ] {α : Type}

/-- To store encodings in upper case. -/
def storing : Discipline σ where
  relates s t := s.guarded.Canonical → t.guarded.Canonical
  permits _ := True
  refl := fun _ => id
  trans := fun h h' => h' ∘ h
  asked := fun _ _ _ _ h => h.of_eq rfl rfl
  touched := fun h _ => h.canonical
  tornDown := fun s h => by
    rw [exec_tearDown]
    exact h.of_eq rfl rfl

theorem canonical_run {span : Span σ α} (h : storing.Governs span) {g : Guarded σ}
    (hg : g.Canonical) : (span.run g).guarded.Canonical := by
  have hends : Ends span { guarded := g } fun _ t => t.guarded.Canonical :=
    h { guarded := g } hg
  obtain ⟨t, ht, -, hguarded | ⟨session, -, hguarded⟩⟩ := run_of_ends hends
  · rw [hguarded]
    exact ht.of_eq rfl rfl
  · rw [hguarded]
    exact ht.of_eq rfl rfl

/-- To take back nothing that was said. -/
def saying : Discipline σ where
  relates s t := s.exchanges <+: t.exchanges
  permits _ := True
  refl := fun _ => List.prefix_rfl
  trans := .trans
  asked := fun _ _ _ _ => List.prefix_append _ _
  touched := fun _ _ => List.prefix_rfl
  tornDown := fun s => by
    rw [exec_tearDown]
    exact List.prefix_append _ _

/-- A span that starts with a statement says it first. -/
theorem prefix_of_command {s : SpanState σ} (hs : s.guarded.session.isSome) (sql : String)
    {next : QueryResult → Span σ α} (hnext : ∀ result, saying.Governs (next result)) :
    ∃ answer, s.exchanges ++ [{ call := .exec sql, answer }] <+:
      ((command sql >>= next).exec s).2.exchanges := by
  obtain ⟨session, hsession⟩ := Option.isSome_iff_exists.1 hs
  have hrest := Discipline.Governs.relates_bind (command sql) hnext s
  rw [exec_command hsession sql] at hrest
  exact ⟨_, hrest⟩

/-- The first statement that is sent in order to switch to another encoding. -/
def firstOfSetClientEncoding (g : Guarded σ) (name : String) : String :=
  if g.isolation ≠ .autocommit ∧ g.status = .inBlock then Sql.rollback
  else Sql.setClientEncoding (Encoding.normalize name)

/-- Switching to another encoding starts with the end of an open block, or else with the statement that
switches. -/
theorem prefix_setClientEncoding {s : SpanState σ} (hs : s.guarded.session.isSome) {name : String}
    (hother : s.guarded.info.map (·.encoding) ≠ some (Encoding.normalize name)) :
    ∃ answer, s.exchanges ++ [{ call := .exec (firstOfSetClientEncoding s.guarded name), answer }] <+:
      ((setClientEncoding name).exec s).2.exchanges := by
  unfold setClientEncoding firstOfSetClientEncoding
  rw [exec_bind_ok (exec_guarded s), if_pos hother]
  by_cases hblock : s.guarded.isolation ≠ .autocommit ∧ s.guarded.status = .inBlock
  · have hend : exec (endBlock Sql.rollback) s =
        exec (command Sql.rollback >>= fun _ => moveTo .ready) s := by
      unfold endBlock
      rw [exec_bind_ok (exec_guarded s), if_pos hblock]
    obtain ⟨answer, hfirst⟩ := prefix_of_command hs Sql.rollback fun _ => .moveTo .ready
    have hcommand : saying.Governs
        (command (Sql.setClientEncoding (Encoding.normalize name)) : Span σ QueryResult) :=
      .command (fun _ _ => trivial) _
    have hrest := Discipline.Governs.relates_bind (endBlock Sql.rollback)
      (fun _ => .bind hcommand fun _ => .storeEncoding name) s
    rw [hend] at hrest
    rw [if_pos hblock]
    exact ⟨answer, hfirst.trans hrest⟩
  · have hend : exec (endBlock Sql.rollback) s = (.ok (), s) := by
      unfold endBlock
      rw [exec_bind_ok (exec_guarded s), if_neg hblock]
      rfl
    rw [if_neg hblock, exec_bind_ok hend]
    exact prefix_of_command hs _ fun _ => .storeEncoding name

end Span

namespace Connection

open SessionLayer.Span

variable [WireSession σ] {c : Connection σ} {name : String}

theorem canonical_perform (hc : c.guarded.Canonical) (op : Operation) :
    (c.perform op).guarded.Canonical :=
  canonical_run (Discipline.governs_span (fun _ _ => trivial) c op) hc

omit [WireSession σ] in
/-- Whatever is asked of a blocking connection that is open starts right away. -/
theorem exec_blocking {α : Type} (hopen : c.guarded.status ≠ .closed) (ha : c.asynchronous = false)
    (operation : String) (span : Span σ α) :
    exec (c.blocking operation span) { guarded := c.guarded } = exec span { guarded := c.guarded } := by
  have hisOpen : c.guarded.isClosed = false := by simpa [Guarded.isClosed] using hopen
  unfold blocking ensureBlocking
  rw [exec_bind, exec_ensureOpen, hisOpen, ha]
  rfl

/-- What is stored already is not set again. -/
theorem atOnce_setClientEncoding (hopen : c.guarded.status ≠ .closed) (ha : c.asynchronous = false)
    (hcurrent : c.guarded.info.map (·.encoding) = some (Encoding.normalize name)) :
    c.AtOnce (.setClientEncoding name) (.ok ()) := by
  apply AtOnce.of_runs
  refine runs_blocking hopen ha ?_
  unfold setClientEncoding
  refine .bind_silent (.guarded c.guarded) ?_
  rw [if_neg (not_not_intro hcurrent)]
  exact .pure () _

/-- Anything else is set, even if it is another name of the same encoding. -/
theorem prefix_perform_setClientEncoding (hopen : c.guarded.status ≠ .closed)
    (ha : c.asynchronous = false) (hs : c.guarded.session.isSome)
    (hother : c.guarded.info.map (·.encoding) ≠ some (Encoding.normalize name)) :
    ∃ answer, [{ call := .exec (firstOfSetClientEncoding c.guarded name), answer }] <+:
      (c.perform (.setClientEncoding name)).exchanges := by
  obtain ⟨answer, hfirst⟩ := prefix_setClientEncoding (s := { guarded := c.guarded }) hs hother
  rw [← exec_blocking hopen ha "set_client_encoding"] at hfirst
  rcases hexec : exec (c.span (.setClientEncoding name)) { guarded := c.guarded } with ⟨r, t⟩
  have hfirst : [] ++ [_] <+: (exec (c.span (.setClientEncoding name)) _).2.exchanges := hfirst
  rw [hexec] at hfirst
  obtain ⟨-, -, messages, hexchanges, -⟩ := run_of_exec hexec
  refine ⟨answer, ?_⟩
  show _ <+: ((c.span (.setClientEncoding name)).run c.guarded).exchanges
  rw [hexchanges]
  exact hfirst.trans (List.prefix_append _ _)

end Connection

end SessionLayer
