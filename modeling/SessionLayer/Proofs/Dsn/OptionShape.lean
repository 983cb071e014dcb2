import SessionLayer.Proofs.Dsn.PasswordOption

/-!
# The shape of a redacted text

In a text that is no URI only one stretch is masked: it starts after the character that follows the first
word `password` and ends before the next space or with the text. Where that word ends is told by what
stands before, so masking the stretch does not move it, and the stretch has no say in how the text is
shown apart from its length.
-/

set_option autoImplicit false

namespace SessionLayer.Dsn

variable {word text before value secret other rest : List Char} {sep : Char}

/-- A text ends with a word that it does not hold any earlier. -/
structure EndsFirst (word before : List Char) : Prop where
  ends : word <:+ before
  first : ¬ word <:+: before.dropLast

/-- A text in three parts: up to and including the character `sep` after its first occurrence of a word,
the stretch from there to the next space or the end, and what is left. -/
structure StretchAfter (word text before : List Char) (sep : Char) (stretch rest : List Char) : Prop where
  text_eq : text = before ++ sep :: (stretch ++ rest)
  endsFirst : EndsFirst word before
  space_notMem : ' ' ∉ stretch
  stops : rest = [] ∨ ∃ more, rest = ' ' :: more

/-! ## The first occurrence -/

section Occurrence

variable {after : List Char}

theorem cutAfter_eq_none_iff (hword : word ≠ []) : cutAfter word text = none ↔ ¬ word <:+: text := by
  induction text with
  | nil => simpa [cutAfter] using hword
  | cons c rest ih =>
    rw [cutAfter, List.infix_cons_iff, ← List.isPrefixOf_iff_prefix]
    split
    · rename_i hstarts
      simp [hstarts]
    · rename_i hstarts
      rw [Option.map_eq_none_iff, ih]
      simp [hstarts]

theorem exists_cutAfter_of_occurrence (hword : word ≠ []) (h : word <:+: text) :
    ∃ before after, cutAfter word text = some (before, after) := by
  obtain ⟨⟨before, after⟩, hcut⟩ :=
    Option.ne_none_iff_exists'.1 fun hnone => (cutAfter_eq_none_iff hword).1 hnone h
  exact ⟨before, after, hcut⟩

theorem endsFirst_of_cutAfter (hword : word ≠ []) (h : cutAfter word text = some (before, after)) :
    EndsFirst word before := by
  obtain ⟨htext, hends⟩ := append_of_cutAfter h
  refine ⟨hends, fun hearlier => ?_⟩
  rcases List.eq_nil_or_concat before with rfl | ⟨front, c, hconcat⟩
  · exact hword (List.suffix_nil.1 hends)
  · -- an earlier occurrence would have been found in the text as well
    rw [List.concat_eq_append] at hconcat
    subst hconcat
    rw [List.dropLast_concat] at hearlier
    obtain ⟨earlier, gap, hfound⟩ := exists_cutAfter_of_occurrence hword hearlier
    have hagain := cutAfter_append hfound (c :: after)
    rw [List.append_cons, htext, h] at hagain
    have hsame : front ++ [c] = earlier := (Prod.mk.inj (Option.some.inj hagain)).1
    have hlength := congrArg List.length (append_of_cutAfter hfound).1
    rw [← hsame] at hlength
    simp at hlength

theorem cutAfter_of_endsFirst (hword : word ≠ []) (h : EndsFirst word before) (after : List Char) :
    cutAfter word (before ++ after) = some (before, after) := by
  obtain ⟨found, gap, hcut⟩ := exists_cutAfter_of_occurrence hword h.ends.isInfix
  obtain ⟨hjoin, hends⟩ := append_of_cutAfter hcut
  cases gap with
  | nil =>
    rw [List.append_nil] at hjoin
    subst hjoin
    exact cutAfter_append hcut after
  | cons c gap =>
    -- then the word ends before the last character already
    refine absurd ?_ h.first
    rw [← hjoin, List.dropLast_append_of_ne_nil (List.cons_ne_nil c gap)]
    exact hends.isInfix.trans (List.prefix_append found _).isInfix

end Occurrence

/-! ## The stretch -/

theorem maskUntilSpace_append_of_stops (hspace : ' ' ∉ secret)
    (hstops : rest = [] ∨ ∃ more, rest = ' ' :: more) :
    maskUntilSpace (secret ++ rest) = List.replicate secret.length filler ++ rest := by
  rw [maskUntilSpace_append_of_notMem hspace]
  rcases hstops with rfl | ⟨more, rfl⟩ <;> rfl

/-- The stretch before the next space is found in every text. -/
theorem exists_append_of_space (value : List Char) :
    ∃ stretch rest, value = stretch ++ rest ∧ ' ' ∉ stretch ∧ (rest = [] ∨ ∃ more, rest = ' ' :: more) := by
  induction value with
  | nil => exact ⟨[], [], rfl, List.not_mem_nil, Or.inl rfl⟩
  | cons c value ih =>
    by_cases hc : c = ' '
    · subst hc
      exact ⟨[], ' ' :: value, rfl, List.not_mem_nil, Or.inr ⟨value, rfl⟩⟩
    · obtain ⟨stretch, rest, rfl, hspace, hstops⟩ := ih
      exact ⟨c :: stretch, rest, rfl, by simp [Ne.symm hc, hspace], hstops⟩

theorem StretchAfter.mask (h : StretchAfter word text before sep secret rest) :
    StretchAfter word (before ++ sep :: (List.replicate secret.length filler ++ rest)) before sep
      (List.replicate secret.length filler) rest where
  text_eq := rfl
  endsFirst := h.endsFirst
  space_notMem hspace := absurd (List.eq_of_mem_replicate hspace) (by decide)
  stops := h.stops

/-! ## What is shown of it -/

theorem maskOption_of_absent (h : ¬ passwordWord <:+: text) : maskOption text = text := by
  rw [maskOption, (cutAfter_eq_none_iff passwordWord_ne_nil).2 h]

theorem maskOption_of_endsFirst (h : EndsFirst passwordWord text) : maskOption text = text := by
  have hcut := cutAfter_of_endsFirst passwordWord_ne_nil h []
  rw [List.append_nil] at hcut
  rw [maskOption, hcut]

theorem maskOption_of_stretchAfter (h : StretchAfter passwordWord text before sep secret rest) :
    maskOption text = before ++ sep :: (List.replicate secret.length filler ++ rest) := by
  rw [maskOption, h.text_eq, cutAfter_of_endsFirst passwordWord_ne_nil h.endsFirst,
    ← maskUntilSpace_append_of_stops h.space_notMem h.stops]

/-- A text that holds the word ends with its first occurrence or goes on with a stretch to mask. -/
theorem endsFirst_or_exists_stretchAfter (hword : word ≠ []) (h : word <:+: text) :
    EndsFirst word text ∨ ∃ before sep secret rest, StretchAfter word text before sep secret rest := by
  obtain ⟨before, after, hcut⟩ := exists_cutAfter_of_occurrence hword h
  have hfirst := endsFirst_of_cutAfter hword hcut
  have htext := (append_of_cutAfter hcut).1
  cases after with
  | nil =>
    rw [List.append_nil] at htext
    exact Or.inl (htext ▸ hfirst)
  | cons sep value =>
    obtain ⟨secret, rest, rfl, hspace, hstops⟩ := exists_append_of_space value
    exact Or.inr ⟨before, sep, secret, rest, htext.symm, hfirst, hspace, hstops⟩

/-- The option pass leaves a text as it is or masks one stretch of it. -/
theorem maskOption_eq_self_or_mask (text : List Char) :
    maskOption text = text ∨ ∃ before sep secret rest,
      StretchAfter passwordWord text before sep secret rest ∧
        maskOption text = before ++ sep :: (List.replicate secret.length filler ++ rest) := by
  by_cases hoccurs : passwordWord <:+: text
  · rcases endsFirst_or_exists_stretchAfter passwordWord_ne_nil hoccurs with
      hend | ⟨before, sep, secret, rest, hstretch⟩
    · exact Or.inl (maskOption_of_endsFirst hend)
    · exact Or.inr ⟨before, sep, secret, rest, hstretch, maskOption_of_stretchAfter hstretch⟩
  · exact Or.inl (maskOption_of_absent hoccurs)

theorem length_maskOption (text : List Char) : (maskOption text).length = text.length := by
  rcases maskOption_eq_self_or_mask text with hself | ⟨before, sep, secret, rest, hstretch, hmask⟩
  · rw [hself]
  · rw [hmask, hstretch.text_eq]
    simp

theorem maskOption_maskOption (text : List Char) : maskOption (maskOption text) = maskOption text := by
  rcases maskOption_eq_self_or_mask text with hself | ⟨before, sep, secret, rest, hstretch, hmask⟩
  · rw [hself, hself]
  · rw [hmask, maskOption_of_stretchAfter hstretch.mask, List.length_replicate]

/-! ## Texts that are no URIs -/

/-- A text does not start like a URI with credentials. -/
def IsPlainText (dsn : String) : Prop :=
  ∀ start ∈ ["postgres://", "postgresql://"], ¬ start.toList <+: dsn.toList

theorem IsPlainText.cutScheme_eq {dsn : String} (h : IsPlainText dsn) : cutScheme dsn.toList = none := by
  rw [cutScheme_eq_none_iff]
  intro scheme hscheme
  simp only [schemes, List.mem_cons, List.not_mem_nil, or_false] at hscheme
  rcases hscheme with rfl | rfl
  · exact h "postgres://" (by simp)
  · exact h "postgresql://" (by simp)

theorem IsPlainText.toList_redact {dsn : String} (h : IsPlainText dsn) :
    (redact dsn).toList = maskOption dsn.toList := by
  rw [redact_of_cutScheme h.cutScheme_eq, String.toList_ofList]

theorem IsPlainText.redact_redact {dsn : String} (h : IsPlainText dsn) :
    redact (redact dsn) = redact dsn := by
  have hscheme : cutScheme (redact dsn).toList = none := by
    rw [h.toList_redact]
    exact cutScheme_maskOption h.cutScheme_eq
  rw [redact_of_cutScheme hscheme, h.toList_redact, maskOption_maskOption, redact_of_cutScheme h.cutScheme_eq]

/-- A text that is no URI is shown with as many characters as it has. It is shown as it is where it does
not hold the word `password`, or ends with the first one. Otherwise what stands before and after the
stretch that belongs to that word is shown, and a mask of the same length in place of the stretch.
Showing it once more changes nothing, and texts that differ only in stretches of equal length are shown
alike. -/
theorem redact_masks_stretch (dsn : String) (hdsn : IsPlainText dsn) :
    (redact dsn).length = dsn.length ∧
      (¬ "password".toList <:+: dsn.toList → redact dsn = dsn) ∧
      ("password".toList <:+: dsn.toList → EndsFirst "password".toList dsn.toList ∨
        ∃ before sep secret rest, StretchAfter "password".toList dsn.toList before sep secret rest) ∧
      (EndsFirst "password".toList dsn.toList → redact dsn = dsn) ∧
      (∀ before sep secret rest, StretchAfter "password".toList dsn.toList before sep secret rest →
        (redact dsn).toList = before ++ sep :: (List.replicate secret.length 'x' ++ rest)) ∧
      redact (redact dsn) = redact dsn ∧
      ∀ twin, IsPlainText twin → ∀ before sep secret other rest,
        StretchAfter "password".toList dsn.toList before sep secret rest →
          StretchAfter "password".toList twin.toList before sep other rest →
            secret.length = other.length → redact dsn = redact twin := by
  have hshown := hdsn.toList_redact
  refine ⟨?_, ?_, endsFirst_or_exists_stretchAfter passwordWord_ne_nil, ?_, ?_, hdsn.redact_redact, ?_⟩
  · rw [← String.length_toList, hshown, length_maskOption, String.length_toList]
  · intro habsent
    rw [← String.toList_inj, hshown, maskOption_of_absent habsent]
  · intro hend
    rw [← String.toList_inj, hshown, maskOption_of_endsFirst hend]
  · intro before sep secret rest hstretch
    rw [hshown, maskOption_of_stretchAfter hstretch, filler]
  · intro twin htwin before sep secret other rest hstretch hother hlength
    rw [← String.toList_inj, hshown, htwin.toList_redact, maskOption_of_stretchAfter hstretch,
      maskOption_of_stretchAfter hother, hlength]

/-- A secret that holds the word itself, one as long as it, a text without the word, and one that ends
with it. -/
theorem redact_masks_stretch_of_options :
    redact "password=passwordX port=1" = redact "password=123456789 port=1" ∧
      redact "password=123456789 port=1" = "password=xxxxxxxxx port=1" ∧
      redact "host=db port=1" = "host=db port=1" ∧ redact "user=password" = "user=password" := by
  have hsecret : StretchAfter "password".toList "password=passwordX port=1".toList "password".toList '='
      "passwordX".toList " port=1".toList :=
    ⟨by decide, ⟨by decide, by decide +kernel⟩, by decide, Or.inr ⟨"port=1".toList, rfl⟩⟩
  have hdigits : StretchAfter "password".toList "password=123456789 port=1".toList "password".toList '='
      "123456789".toList " port=1".toList :=
    ⟨by decide, ⟨by decide, by decide +kernel⟩, by decide, Or.inr ⟨"port=1".toList, rfl⟩⟩
  have hplain : IsPlainText "password=123456789 port=1" := by unfold IsPlainText; decide
  obtain ⟨-, -, -, -, -, -, htwins⟩ :=
    redact_masks_stretch "password=passwordX port=1" (by unfold IsPlainText; decide)
  obtain ⟨-, -, -, -, hmasked, -⟩ := redact_masks_stretch "password=123456789 port=1" hplain
  obtain ⟨-, hwordless, -⟩ := redact_masks_stretch "host=db port=1" (by unfold IsPlainText; decide)
  obtain ⟨-, -, -, hends, -⟩ := redact_masks_stretch "user=password" (by unfold IsPlainText; decide)
  refine ⟨?_, ?_, hwordless (by decide +kernel), ?_⟩
  · exact htwins "password=123456789 port=1" hplain "password".toList '=' "passwordX".toList
      "123456789".toList " port=1".toList hsecret hdigits (by decide)
  · rw [← String.toList_inj, hmasked _ _ _ _ hdigits]
    decide
  · exact hends ⟨by decide, by decide +kernel⟩

end SessionLayer.Dsn
