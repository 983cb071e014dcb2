import SessionLayer.Proofs.Wire.Account

/-!
# Reading quoted parts back

A reader of a statement finds the end of a quoted part without knowing what was quoted. It takes the part
for the text that was put between the quotes, whatever quotes that text holds, as long as the statement
does not go on with another quote.
-/

set_option autoImplicit false

namespace SessionLayer.Sql

variable {quote : Char} {text token rest : List Char}

/-- A token is read exactly where a doubled text is closed by a quote that no other one follows. -/
theorem readToken_eq_some_iff :
    readToken quote text = some (token, rest) ↔
      text = double quote token ++ quote :: rest ∧ rest.head? ≠ some quote := by
  constructor
  · intro h
    fun_induction readToken quote text generalizing token with
    | case1 => cases h
    | case2 =>
      cases h
      exact ⟨rfl, by simp⟩
    | case3 c hc => cases h
    | case4 tail ih =>
      obtain ⟨⟨inner, after⟩, hinner, hpair⟩ := Option.map_eq_some_iff.1 h
      cases hpair
      obtain ⟨htail, hafter⟩ := ih hinner
      exact ⟨by simp [double, htail], hafter⟩
    | case5 d tail hd =>
      cases h
      exact ⟨rfl, by simpa using hd⟩
    | case6 c d tail hc ih =>
      obtain ⟨⟨inner, after⟩, hinner, hpair⟩ := Option.map_eq_some_iff.1 h
      cases hpair
      obtain ⟨htail, hafter⟩ := ih hinner
      exact ⟨by simp [double, hc, htail], hafter⟩
  · rintro ⟨rfl, hrest⟩
    exact readToken_double hrest token

/-- A statement starts with `lead` and a quoted part, which stands for `token`; `rest` is what follows the
closing quote. -/
def Quotes (quote : Char) (lead token rest sql : String) : Prop :=
  ∃ text, sql.toList = lead.toList ++ quote :: text ∧
    readToken quote text = some (token.toList, rest.toList)

variable {lead word tail sql : String}

theorem quotes_iff :
    Quotes quote lead word tail sql ↔
      sql = lead ++ enquote quote word ++ tail ∧ tail.toList.head? ≠ some quote := by
  have hjoin : (lead ++ enquote quote word ++ tail).toList =
      lead.toList ++ quote :: (double quote word.toList ++ quote :: tail.toList) := by
    simp [enquote]
  rw [← String.toList_inj, hjoin]
  constructor
  · rintro ⟨text, hsql, hread⟩
    obtain ⟨rfl, htail⟩ := readToken_eq_some_iff.1 hread
    exact ⟨hsql, htail⟩
  · rintro ⟨hsql, htail⟩
    exact ⟨_, hsql, readToken_eq_some_iff.2 ⟨rfl, htail⟩⟩

/-! ## The statements with quoted parts -/

theorem quotes_setClientEncoding (encoding : String) :
    Quotes singleQuote "SET client_encoding = " encoding "" (setClientEncoding encoding) := by
  rw [quotes_iff, String.append_empty]
  exact ⟨rfl, by decide⟩

theorem quotes_importLargeObject (file : String) (newOid : Nat) :
    Quotes singleQuote "SELECT lo_import(" file (", " ++ toString newOid ++ ")")
      (importLargeObject file newOid) := by
  have hcomma : ", ".toList.head? = some ',' := by decide
  rw [quotes_iff, head?_append (head?_append hcomma _) _]
  refine ⟨?_, by decide⟩
  unfold importLargeObject
  rw [← String.append_assoc, ← String.append_assoc]

theorem quotes_declareCursor (name query : String) :
    Quotes doubleQuote "DECLARE " name (" CURSOR WITHOUT HOLD FOR " ++ query)
      (declareCursor name query) := by
  have hblank : " CURSOR WITHOUT HOLD FOR ".toList.head? = some ' ' := by decide
  rw [quotes_iff, head?_append hblank _]
  refine ⟨?_, by decide⟩
  unfold declareCursor
  rw [← String.append_assoc]

end SessionLayer.Sql
