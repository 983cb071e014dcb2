import SessionLayer.Fault.SqlState

/-!
# What a state names

`Names` says which class of fault a SQLSTATE stands for, by its first two characters and without the
table that is searched. `names_iff_classify` is the bridge to the search: every state names one class of
fault, and it is the one that is found.
-/

set_option autoImplicit false

namespace SessionLayer.SqlState

/-- The two characters that stand for a class of fault. -/
def codes : FaultClass → List String
  | .notSupported => ["0A"]
  | .programming => ["20", "21", "3D", "3F", "42", "44"]
  | .data => ["22"]
  | .integrity => ["23"]
  | .internal => ["24", "25", "2B", "2D", "2F", "38", "39", "3B", "F0", "P0", "XX"]
  | .operational => ["08", "26", "27", "28", "34", "40", "53", "54", "55", "57", "58"]
  | _ => []

/-- The class of fault of a failure for which the server gave a state, or none. -/
inductive Names (state : Option String) : FaultClass → Prop
  | known {text code : String} {cls : FaultClass} : state = some text → code ∈ codes cls →
      text.toList.take 2 = code.toList → Names state cls
  /-- There is no state, or it begins in another way. -/
  | unknown : (∀ text, state = some text → ∀ cls, ∀ code ∈ codes cls,
      text.toList.take 2 ≠ code.toList) → Names state .database

theorem length_of_mem_codes {cls : FaultClass} {code : String} (h : code ∈ codes cls) :
    code.toList.length = 2 := by
  have hall : ∀ code ∈ codes cls, code.toList.length = 2 := by
    cases cls <;> decide
  exact hall code h

/-- The table that is searched holds each code under its class of fault, and nothing else. -/
theorem lookup_classTable {code : String} {cls : FaultClass} :
    classTable.lookup code = some cls ↔ code ∈ codes cls := by
  constructor
  · intro h
    obtain ⟨before, after, htable, -⟩ := List.lookup_eq_some_iff.1 h
    have hall : ∀ entry ∈ classTable, entry.1 ∈ codes entry.2 := by decide
    exact hall (code, cls) (by rw [htable]; simp)
  · intro h
    have hall : ∀ code ∈ codes cls, classTable.lookup code = some cls := by
      cases cls <;> decide
    exact hall code h

theorem classPart_eq_some_iff {text code : String} :
    classPart text = some code ↔ text.toList.take 2 = code.toList ∧ code.toList.length = 2 := by
  unfold classPart
  split
  · rename_i a b rest htext
    rw [htext, Option.some_inj]
    constructor
    · rintro rfl
      simp
    · rintro ⟨hcode, -⟩
      rw [← String.ofList_toList (s := code), ← hcode]
      simp
  · rename_i hshort
    refine ⟨nofun, fun ⟨hcode, hlength⟩ => ?_⟩
    rw [← hcode] at hlength
    match htext : text.toList with
    | [] | [_] => simp [htext] at hlength
    | a :: b :: rest => exact absurd htext (hshort a b rest)

/-- What is found by the first two characters of a state. -/
theorem lookup_classPart {state : Option String} {cls : FaultClass} :
    (state.bind classPart).bind (List.lookup · classTable) = some cls ↔
      ∃ text code, state = some text ∧ code ∈ codes cls ∧ text.toList.take 2 = code.toList := by
  constructor
  · intro h
    obtain ⟨code, hcode, hcls⟩ := Option.bind_eq_some_iff.1 h
    obtain ⟨text, hstate, hpart⟩ := Option.bind_eq_some_iff.1 hcode
    exact ⟨text, code, hstate, lookup_classTable.1 hcls, (classPart_eq_some_iff.1 hpart).1⟩
  · rintro ⟨text, code, rfl, hcode, htake⟩
    have hpart : classPart text = some code :=
      classPart_eq_some_iff.2 ⟨htake, length_of_mem_codes hcode⟩
    rw [Option.bind_some, hpart, Option.bind_some]
    exact lookup_classTable.2 hcode

/-- A failure is classified by what its state names. -/
theorem names_iff_classify {state : Option String} {cls : FaultClass} :
    Names state cls ↔ classify state = cls := by
  constructor
  · intro h
    cases h with
    | known hstate hcode htake =>
      rw [classify, lookup_classPart.2 ⟨_, _, hstate, hcode, htake⟩, Option.getD_some]
    | unknown hother =>
      have hnone : (state.bind classPart).bind (List.lookup · classTable) = none := by
        rw [Option.eq_none_iff_forall_ne_some]
        intro cls hsome
        obtain ⟨text, code, hstate, hcode, htake⟩ := lookup_classPart.1 hsome
        exact hother text hstate cls code hcode htake
      rw [classify, hnone, Option.getD_none]
  · rintro rfl
    cases hfound : (state.bind classPart).bind (List.lookup · classTable) with
    | some cls =>
      obtain ⟨text, code, hstate, hcode, htake⟩ := lookup_classPart.1 hfound
      rw [classify, hfound, Option.getD_some]
      exact .known hstate hcode htake
    | none =>
      rw [classify, hfound, Option.getD_none]
      refine .unknown fun text hstate cls code hcode htake => ?_
      rw [lookup_classPart.2 ⟨text, code, hstate, hcode, htake⟩] at hfound
      exact nomatch hfound

end SessionLayer.SqlState
