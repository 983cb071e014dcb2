import Mathlib.Data.List.DropRight
import SessionLayer.Text.Blank
import SessionLayer.Text.Split

/-!
# Pieces and their ends

What is left of a text after trimming neither starts nor ends with a blank, and such a text is left as it
is. Splitting finds its first piece before the first separator, whatever follows.
-/

set_option autoImplicit false

namespace SessionLayer.Text

/-- The first and the last character, where there are any, are not blank. -/
structure IsTrimmed (text : List Char) : Prop where
  head : ∀ c ∈ text.head?, isBlank c = false
  last : ∀ c ∈ text.getLast?, isBlank c = false

section Trimming

variable {text : List Char}

theorem dropWhile_isBlank_of_head (h : ∀ c ∈ text.head?, isBlank c = false) :
    text.dropWhile isBlank = text := by
  cases text with
  | nil => rfl
  | cons c rest => exact List.dropWhile_cons_of_neg (by simp [h c rfl])

theorem dropEndWhile_isBlank_of_last (h : ∀ c ∈ text.getLast?, isBlank c = false) :
    dropEndWhile isBlank text = text := by
  have hhead : ∀ c ∈ text.reverse.head?, isBlank c = false := by
    simpa only [List.head?_reverse] using h
  rw [dropEndWhile, dropWhile_isBlank_of_head hhead, List.reverse_reverse]

theorem IsTrimmed.trimChars_eq (h : IsTrimmed text) : trimChars text = text := by
  rw [trimChars, dropWhile_isBlank_of_head h.head, dropEndWhile_isBlank_of_last h.last]

theorem head_dropWhile_isBlank (text : List Char) :
    ∀ c ∈ (text.dropWhile isBlank).head?, isBlank c = false := by
  intro c hc
  have h := List.head?_dropWhile_not isBlank text
  rw [Option.mem_def.1 hc] at h
  simpa using h

/-- Taking blanks off the end leaves a prefix. -/
theorem prefix_dropEndWhile (p : Char → Bool) (text : List Char) : dropEndWhile p text <+: text :=
  List.rdropWhile_prefix p text

theorem isTrimmed_trimChars (text : List Char) : IsTrimmed (trimChars text) := by
  constructor
  · intro c hc
    obtain ⟨removed, hremoved⟩ := prefix_dropEndWhile isBlank (text.dropWhile isBlank)
    apply head_dropWhile_isBlank text
    rw [← hremoved, List.head?_append]
    exact Option.mem_def.2 (by rw [← trimChars, Option.mem_def.1 hc]; rfl)
  · intro c hc
    rw [trimChars, dropEndWhile, List.getLast?_reverse] at hc
    exact head_dropWhile_isBlank _ c hc

theorem mem_of_mem_trimChars {c : Char} (h : c ∈ trimChars text) : c ∈ text :=
  (List.dropWhile_suffix isBlank).mem ((prefix_dropEndWhile isBlank _).mem h)

/-- Nothing is left exactly of the texts of blanks. -/
theorem trimChars_eq_nil_iff : trimChars text = [] ↔ ∀ c ∈ text, isBlank c = true := by
  have hend : trimChars text = [] ↔ ∀ c ∈ text.dropWhile isBlank, isBlank c = true :=
    List.rdropWhile_eq_nil_iff
  rw [hend]
  constructor
  · intro h
    -- what `dropWhile` keeps starts with a character that is not blank
    apply List.dropWhile_eq_nil_iff.1
    cases hkept : text.dropWhile isBlank with
    | nil => rfl
    | cons c rest =>
      have hblank : isBlank c = true := h c (by simp [hkept])
      rw [head_dropWhile_isBlank text c (by simp [hkept])] at hblank
      cases hblank
  · intro h c hc
    exact h c ((List.dropWhile_suffix isBlank).mem hc)

theorem trimChars_cons_of_isBlank {c : Char} (h : isBlank c = true) (text : List Char) :
    trimChars (c :: text) = trimChars text := by
  rw [trimChars, trimChars, List.dropWhile_cons_of_pos h]

end Trimming

section Splitting

variable {sep : Char} {piece : List Char}

theorem splitAt_of_notMem (h : sep ∉ piece) : splitAt sep piece = [piece] := by
  induction piece with
  | nil => rfl
  | cons c rest ih =>
    obtain ⟨hc, hrest⟩ := not_or.1 (mt List.mem_cons.2 h)
    rw [splitAt, if_neg fun e => hc e.symm, ih hrest]

theorem splitAt_append_sep (h : sep ∉ piece) (rest : List Char) :
    splitAt sep (piece ++ sep :: rest) = piece :: splitAt sep rest := by
  induction piece with
  | nil => simp [splitAt]
  | cons c piece ih =>
    obtain ⟨hc, hpiece⟩ := not_or.1 (mt List.mem_cons.2 h)
    rw [List.cons_append, splitAt, if_neg fun e => hc e.symm, ih hpiece]

/-- The first piece is what stands before the first separator. -/
theorem getElem?_zero_splitAt (sep : Char) (text : List Char) :
    (splitAt sep text)[0]? = some (text.takeWhile (· ≠ sep)) := by
  induction text with
  | nil => rfl
  | cons c rest ih =>
    by_cases hc : c = sep
    · simp [splitAt, hc]
    · cases hpieces : splitAt sep rest with
      | nil => exact absurd hpieces (splitAt_ne_nil sep rest)
      | cons piece pieces =>
        rw [hpieces] at ih
        simp_all [splitAt]

end Splitting

end SessionLayer.Text
