import SessionLayer.Dsn

/-!
# The option pass over joined texts

`maskOption` looks for the first word `password` of a text. These laws say what it makes of a text in
two parts: where the first part holds the word, only the mask runs on into the second one, and where it
does not, a separator that is no letter of the word keeps the two parts apart.
-/

set_option autoImplicit false

namespace SessionLayer.Dsn

variable {word text more before after value rest : List Char} {sep : Char}

/-! ## The first occurrence of a word -/

theorem prefix_append_sep_iff (hsep : sep ∉ word) :
    word <+: text ++ sep :: more ↔ word <+: text := by
  constructor
  · intro h
    by_cases hlength : word.length ≤ text.length
    · exact List.prefix_of_prefix_length_le h (List.prefix_append text _) hlength
    · -- a longer word would run over the separator
      have hreach : text ++ [sep] <+: word := by
        have hlong : (text ++ [sep]).length ≤ word.length := by
          rw [List.length_append, List.length_singleton]
          omega
        refine List.prefix_of_prefix_length_le ?_ h hlong
        exact ⟨more, by simp⟩
      exact absurd (hreach.subset (by simp)) hsep
  · intro h
    exact h.trans (List.prefix_append text _)

/-- What is cut at a word is the text, and the first part ends with the word. -/
theorem append_of_cutAfter (h : cutAfter word text = some (before, after)) :
    before ++ after = text ∧ word <:+ before := by
  induction text generalizing before with
  | nil => simp [cutAfter] at h
  | cons c rest ih =>
    rw [cutAfter] at h
    split at h
    · rename_i hprefix
      obtain ⟨tail, htail⟩ := List.isPrefixOf_iff_prefix.1 hprefix
      obtain ⟨rfl, rfl⟩ := Prod.mk.inj (Option.some.inj h)
      rw [← htail, List.drop_left]
      exact ⟨rfl, List.suffix_rfl⟩
    · obtain ⟨⟨inner, tail⟩, hinner, heq⟩ := Option.map_eq_some_iff.1 h
      obtain ⟨rfl, rfl⟩ := Prod.mk.inj heq
      obtain ⟨htext, hsuffix⟩ := ih hinner
      exact ⟨by rw [List.cons_append, htext], hsuffix.trans (List.suffix_cons c inner)⟩

theorem length_le_of_cutAfter (h : cutAfter word text = some (before, after)) :
    word.length + after.length ≤ text.length := by
  obtain ⟨htext, hsuffix⟩ := append_of_cutAfter h
  have hword := hsuffix.length_le
  rw [← htext, List.length_append]
  omega

/-- What follows a text does not move the word's first occurrence in it. -/
theorem cutAfter_append (h : cutAfter word text = some (before, after)) (more : List Char) :
    cutAfter word (text ++ more) = some (before, after ++ more) := by
  induction text generalizing before with
  | nil => simp [cutAfter] at h
  | cons c rest ih =>
    have hlength := length_le_of_cutAfter h
    have hsame : word.isPrefixOf (c :: rest ++ more) = word.isPrefixOf (c :: rest) := by
      rw [Bool.eq_iff_iff, List.isPrefixOf_iff_prefix, List.isPrefixOf_iff_prefix]
      constructor
      · intro hprefix
        exact List.prefix_of_prefix_length_le hprefix (List.prefix_append _ more) (by omega)
      · intro hprefix
        exact hprefix.trans (List.prefix_append _ more)
    rw [cutAfter] at h
    rw [List.cons_append, cutAfter, ← List.cons_append, hsame]
    split at h
    · rename_i hprefix
      obtain ⟨rfl, rfl⟩ := Prod.mk.inj (Option.some.inj h)
      rw [if_pos hprefix, List.drop_append_of_le_length (by omega)]
    · rename_i hprefix
      obtain ⟨⟨inner, tail⟩, hinner, heq⟩ := Option.map_eq_some_iff.1 h
      obtain ⟨rfl, rfl⟩ := Prod.mk.inj heq
      rw [if_neg hprefix, ih hinner]
      rfl

/-- A separator that is not in the word keeps the word from starting before it and ending after it. -/
theorem cutAfter_append_sep (hword : word ≠ []) (hsep : sep ∉ word)
    (h : cutAfter word text = none) (more : List Char) :
    cutAfter word (text ++ sep :: more) =
      (cutAfter word more).map fun (before, after) => (text ++ sep :: before, after) := by
  induction text with
  | nil =>
    have hnot : ¬ word.isPrefixOf (sep :: more) := by
      rw [List.isPrefixOf_iff_prefix]
      intro hprefix
      have hlong : word <+: [] ++ sep :: more := hprefix
      exact hword (List.prefix_nil.1 ((prefix_append_sep_iff hsep).1 hlong))
    rw [List.nil_append, cutAfter, if_neg hnot]
    rfl
  | cons c rest ih =>
    rw [cutAfter] at h
    split at h
    · exact absurd h (by simp)
    · rename_i hprefix
      have hnot : ¬ word.isPrefixOf (c :: (rest ++ sep :: more)) := by
        rw [List.isPrefixOf_iff_prefix] at hprefix ⊢
        intro htail
        have hlong : word <+: (c :: rest) ++ sep :: more := htail
        exact hprefix ((prefix_append_sep_iff hsep).1 hlong)
      rw [List.cons_append, cutAfter, if_neg hnot, ih (Option.map_eq_none_iff.1 h), Option.map_map]
      rfl

theorem cutAfter_eq_none_of_notMem {c : Char} (hword : c ∈ word) (htext : c ∉ text) :
    cutAfter word text = none := by
  cases h : cutAfter word text with
  | none => rfl
  | some cut =>
    obtain ⟨heq, hsuffix⟩ := append_of_cutAfter h
    exact absurd (heq ▸ List.mem_append_left cut.2 (hsuffix.subset hword)) htext

theorem cutAfter_word_append (hword : word ≠ []) (rest : List Char) :
    cutAfter word (word ++ rest) = some (word, rest) := by
  obtain ⟨c, tail, rfl⟩ := List.exists_cons_of_ne_nil hword
  have hprefix : (c :: tail).isPrefixOf (c :: (tail ++ rest)) := by
    rw [List.isPrefixOf_iff_prefix]
    exact List.prefix_append (c :: tail) rest
  rw [List.cons_append, cutAfter, if_pos hprefix, ← List.cons_append, List.drop_left]

/-- Of the texts that are as long as the word, only the word itself holds it. -/
theorem eq_of_cutAfter_of_length_eq (h : cutAfter word text = some (before, after))
    (hlength : text.length = word.length) : text = word := by
  obtain ⟨heq, hsuffix⟩ := append_of_cutAfter h
  have hle := hsuffix.length_le
  have hlengths := congrArg List.length heq
  rw [List.length_append] at hlengths
  have hafter : after = [] := List.length_eq_zero_iff.1 (by omega)
  rw [hafter, List.append_nil] at heq
  exact (heq ▸ hsuffix).eq_of_length hlength.symm |>.symm

/-! ## The mask -/

theorem mem_of_mem_maskUntilSpace {c : Char} (h : c ∈ maskUntilSpace text) :
    c ∈ text ∨ c = filler := by
  rcases List.mem_append.1 h with hmask | hkept
  · obtain ⟨_, -, rfl⟩ := List.mem_map.1 hmask
    exact Or.inr rfl
  · exact Or.inl (List.dropWhile_subset _ hkept)

/-- Without a space the mask runs through the first part and on into the second. -/
theorem maskUntilSpace_append_of_notMem (h : ' ' ∉ text) (more : List Char) :
    maskUntilSpace (text ++ more) =
      List.replicate text.length filler ++ maskUntilSpace more := by
  have hall : ∀ c ∈ text, (c != ' ') = true := by
    intro c hc
    have hne : c ≠ ' ' := by
      rintro rfl
      exact h hc
    simpa using hne
  rw [maskUntilSpace, List.takeWhile_append_of_pos hall, List.dropWhile_append_of_pos hall,
    List.map_append, List.append_assoc, List.map_const']
  rfl

/-- With a space the mask ends in the first part. -/
theorem maskUntilSpace_append_of_mem (h : ' ' ∈ text) (more : List Char) :
    maskUntilSpace (text ++ more) = maskUntilSpace text ++ more := by
  induction text with
  | nil => simp at h
  | cons c rest ih =>
    by_cases hc : c = ' '
    · simp [maskUntilSpace, hc]
    · have hrest : ' ' ∈ rest := (List.mem_cons.1 h).resolve_left (Ne.symm hc)
      have hrun := ih hrest
      simpa [maskUntilSpace, hc] using hrun

/-! ## The pass -/

theorem passwordWord_eq : passwordWord = ['p', 'a', 's', 's', 'w', 'o', 'r', 'd'] := by
  decide

theorem passwordWord_alphanum : ∀ c ∈ passwordWord, c.isAlphanum = true :=
  List.all_eq_true.1 (by decide)

theorem passwordWord_ne_nil : passwordWord ≠ [] := by
  simp [passwordWord_eq]

theorem mem_of_mem_maskOption {c : Char} (h : c ∈ maskOption text) : c ∈ text ∨ c = filler := by
  rw [maskOption] at h
  split at h
  · exact Or.inl h
  · rename_i hcut
    rw [← (append_of_cutAfter hcut).1]
    exact Or.inl (List.mem_append_left _ h)
  · rename_i sep value hcut
    rw [← (append_of_cutAfter hcut).1]
    rcases List.mem_append.1 h with hbefore | hafter
    · exact Or.inl (List.mem_append_left _ hbefore)
    · rcases List.mem_cons.1 hafter with rfl | hvalue
      · exact Or.inl (by simp)
      · rcases mem_of_mem_maskUntilSpace hvalue with hmem | rfl
        · exact Or.inl (by simp [hmem])
        · exact Or.inr rfl

/-- Nothing is masked before a separator that the word does not reach. -/
theorem maskOption_append_sep (hsep : sep ∉ passwordWord)
    (h : cutAfter passwordWord text = none) (more : List Char) :
    maskOption (text ++ sep :: more) = text ++ sep :: maskOption more := by
  rw [maskOption, maskOption, cutAfter_append_sep passwordWord_ne_nil hsep h]
  cases cutAfter passwordWord more with
  | none => rfl
  | some cut =>
    obtain ⟨before, _ | ⟨c, value⟩⟩ := cut
    · rfl
    · simp

theorem maskOption_append_of_value
    (h : cutAfter passwordWord text = some (before, sep :: value)) (more : List Char) :
    maskOption (text ++ more) = before ++ sep :: maskUntilSpace (value ++ more) := by
  rw [maskOption, cutAfter_append h]
  rfl

/-- Where the word ends a text, the mask starts after the first character that follows. -/
theorem maskOption_append_of_end (h : cutAfter passwordWord text = some (before, []))
    (sep : Char) (more : List Char) :
    maskOption (text ++ sep :: more) = before ++ sep :: maskUntilSpace more := by
  rw [maskOption, cutAfter_append h]
  rfl

end SessionLayer.Dsn
