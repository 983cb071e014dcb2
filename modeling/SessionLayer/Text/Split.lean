/-!
# Splitting a text at a separator

`splitAt sep` cuts a text at every occurrence of a separator; a text with `n` separators has `n + 1`
pieces, which may be empty.
-/

set_option autoImplicit false

namespace SessionLayer.Text

/-- The piece before the first separator, and what follows the separator where there is one. -/
def cutAt (sep : Char) : List Char → List Char × Option (List Char)
  | [] => ([], none)
  | c :: rest =>
    if c = sep then ([], some rest)
    else
      let (piece, tail) := cutAt sep rest
      (c :: piece, tail)

/-- The pieces between the separators, in order. -/
def splitAt (sep : Char) : List Char → List (List Char)
  | [] => [[]]
  | c :: rest =>
    if c = sep then [] :: splitAt sep rest
    else
      match splitAt sep rest with
      | [] => [[c]]
      | piece :: pieces => (c :: piece) :: pieces

theorem splitAt_ne_nil (sep : Char) (text : List Char) : splitAt sep text ≠ [] := by
  cases text with
  | nil => simp [splitAt]
  | cons c rest =>
    simp only [splitAt]
    split
    · simp
    · split <;> simp

/-- No piece holds a separator. -/
theorem sep_notMem_of_mem_splitAt {sep : Char} {text piece : List Char}
    (h : piece ∈ splitAt sep text) : sep ∉ piece := by
  induction text generalizing piece with
  | nil => simp_all [splitAt]
  | cons c rest ih =>
    simp only [splitAt] at h
    split at h
    · rcases List.mem_cons.1 h with rfl | h
      · simp
      · exact ih h
    · rename_i hc
      split at h
      · rcases List.mem_singleton.1 h with rfl
        simpa using fun e => hc e.symm
      · rename_i first pieces hs
        rcases List.mem_cons.1 h with rfl | h
        · have := @ih first (by simp [hs])
          simpa [this] using fun e => hc e.symm
        · exact ih (by simp [hs, h])

/-- The pieces with the separators between them are the text. -/
theorem intercalate_splitAt (sep : Char) (text : List Char) :
    [sep].intercalate (splitAt sep text) = text := by
  induction text with
  | nil => simp [splitAt, List.intercalate]
  | cons c rest ih =>
    simp only [splitAt]
    split
    · rename_i hc
      subst hc
      cases hs : splitAt c rest with
      | nil => exact absurd hs (splitAt_ne_nil c rest)
      | cons piece pieces =>
        rw [hs] at ih
        simpa [List.intercalate] using ih
    · split
      · rename_i hs
        exact absurd hs (splitAt_ne_nil sep rest)
      · rename_i piece pieces hs
        rw [hs] at ih
        cases pieces with
        | nil => simpa [List.intercalate] using ih
        | cons next pieces => simpa [List.intercalate] using ih

end SessionLayer.Text
