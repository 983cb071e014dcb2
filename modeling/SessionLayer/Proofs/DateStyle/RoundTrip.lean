import SessionLayer.DateStyle
import SessionLayer.Proofs.Text.Trim

/-!
# Date styles survive being written down

The parts of a date style that has been read are trimmed, hold no comma and are not empty. Such a part is
read back as it is, from before the first comma as well as from after the comma and the blank that
`render` writes; so reading undoes writing, and two date styles that were read are written alike only if
they are equal.
-/

set_option autoImplicit false

namespace SessionLayer.DateStyle

/-- A text that stands for itself between the commas of a date style. -/
structure IsPart (text : String) : Prop where
  ne_empty : text ≠ ""
  comma_notMem : ',' ∉ text.toList
  trimmed : Text.IsTrimmed text.toList

/-- Both parts of a date style stand for themselves. -/
structure WellFormed (d : DateStyle) : Prop where
  output : IsPart d.output
  order : ∀ order ∈ d.order, IsPart order

section Reading

variable {s : String} {d : DateStyle} {part : List Char} {text : String}

theorem nonempty_eq_some_iff : nonempty part = some text ↔ part ≠ [] ∧ text = String.ofList part := by
  unfold nonempty
  cases part <;> simp [eq_comm]

theorem isPart_of_mem_fields (hpart : part ∈ fields s) (htext : nonempty part = some text) : IsPart text := by
  obtain ⟨hne, rfl⟩ := nonempty_eq_some_iff.1 htext
  obtain ⟨piece, hpiece, rfl⟩ := List.mem_map.1 hpart
  refine ⟨mt String.ofList_eq_empty_iff.1 hne, ?_, ?_⟩
  · rw [String.toList_ofList]
    exact fun hcomma => Text.sep_notMem_of_mem_splitAt hpiece (Text.mem_of_mem_trimChars hcomma)
  · rw [String.toList_ofList]
    exact Text.isTrimmed_trimChars piece

theorem isPart_of_getElem? {i : Nat} (h : (fields s)[i]?.bind nonempty = some text) : IsPart text := by
  obtain ⟨part, hpart, htext⟩ := Option.bind_eq_some_iff.1 h
  exact isPart_of_mem_fields (List.mem_of_getElem? hpart) htext

theorem parse_eq_ok_iff :
    parse s = .ok d ↔
      (fields s)[0]?.bind nonempty = some d.output ∧ (fields s)[1]?.bind nonempty = d.order := by
  obtain ⟨output, order⟩ := d
  unfold parse
  cases (fields s)[0]?.bind nonempty <;> simp

theorem wellFormed_of_parse (h : parse s = .ok d) : WellFormed d := by
  obtain ⟨houtput, horder⟩ := parse_eq_ok_iff.1 h
  exact ⟨isPart_of_getElem? houtput, fun order ho => isPart_of_getElem? (horder.trans ho)⟩

theorem getElem?_zero_fields (s : String) :
    (fields s)[0]? = some (Text.trimChars (s.toList.takeWhile (· ≠ ','))) := by
  rw [fields, List.getElem?_map, Text.getElem?_zero_splitAt]
  rfl

/-- A text is refused exactly if there are only blanks before its first comma. -/
theorem exists_parse_eq_ok_iff (s : String) :
    (∃ d, parse s = .ok d) ↔ ∃ c ∈ s.toList.takeWhile (· ≠ ','), Text.isBlank c = false := by
  have hfirst := getElem?_zero_fields s
  generalize s.toList.takeWhile (· ≠ ',') = first at hfirst ⊢
  have hkept : Text.trimChars first ≠ [] ↔ ∃ c ∈ first, Text.isBlank c = false := by
    rw [Ne, Text.trimChars_eq_nil_iff]
    simp
  rw [← hkept]
  constructor
  · rintro ⟨d, hd⟩
    have houtput := (parse_eq_ok_iff.1 hd).1
    rw [hfirst, Option.bind_some] at houtput
    exact (nonempty_eq_some_iff.1 houtput).1
  · intro hne
    have houtput := nonempty_eq_some_iff.2 ⟨hne, rfl⟩
    exact ⟨⟨_, (fields s)[1]?.bind nonempty⟩,
      parse_eq_ok_iff.2 ⟨by rw [hfirst, Option.bind_some, houtput], rfl⟩⟩

end Reading

section Writing

variable {d e : DateStyle} {text : String}

theorem IsPart.nonempty_eq (h : IsPart text) : nonempty text.toList = some text :=
  nonempty_eq_some_iff.2 ⟨mt String.toList_eq_nil_iff.1 h.ne_empty, String.ofList_toList.symm⟩

theorem IsPart.trimChars_eq (h : IsPart text) : Text.trimChars text.toList = text.toList :=
  h.trimmed.trimChars_eq

theorem fields_of_isPart (h : IsPart text) : fields text = [text.toList] := by
  rw [fields, Text.splitAt_of_notMem h.comma_notMem, List.map_singleton, h.trimChars_eq]

theorem fields_append_of_isPart {output order : String} (houtput : IsPart output) (horder : IsPart order) :
    fields (output ++ ", " ++ order) = [output.toList, order.toList] := by
  have htext : (output ++ ", " ++ order).toList = output.toList ++ ',' :: ' ' :: order.toList := by
    rw [String.toList_append, String.toList_append, List.append_assoc]
    rfl
  have hcomma : ',' ∉ ' ' :: order.toList := by
    simpa using horder.comma_notMem
  rw [fields, htext, Text.splitAt_append_sep houtput.comma_notMem, Text.splitAt_of_notMem hcomma]
  rw [List.map_cons, List.map_singleton, Text.trimChars_cons_of_isBlank (by decide)]
  rw [houtput.trimChars_eq, horder.trimChars_eq]

/-- Reading undoes writing. -/
theorem WellFormed.parse_render (h : WellFormed d) : parse d.render = .ok d := by
  obtain ⟨output, order⟩ := d
  rw [parse_eq_ok_iff]
  cases order with
  | none =>
    simp only [render, fields_of_isPart h.output]
    exact ⟨h.output.nonempty_eq, rfl⟩
  | some order =>
    have horder : IsPart order := h.order order rfl
    simp only [render, fields_append_of_isPart h.output horder]
    exact ⟨h.output.nonempty_eq, horder.nonempty_eq⟩

theorem WellFormed.render_injective (hd : WellFormed d) (he : WellFormed e) (h : d.render = e.render) :
    d = e := by
  have hparse : parse d.render = .ok e := by rw [h, he.parse_render]
  exact Except.ok.inj (hd.parse_render.symm.trans hparse)

end Writing

/-- A date style is read exactly of the texts that have a character other than a blank before the first
comma. What was read has an output format, and an order only if it is not empty, both without commas and
without blanks at their ends; written down it is read as the same date style again, and no date style read
from another text is written the same unless it is equal. -/
theorem parse_inverts_render (s : String) :
    ((∃ d, parse s = .ok d) ↔ ∃ c ∈ s.toList.takeWhile (· ≠ ','), Text.isBlank c = false) ∧
      ∀ d, parse s = .ok d →
        IsPart d.output ∧ (∀ order ∈ d.order, IsPart order) ∧ parse d.render = .ok d ∧
          ∀ t e, parse t = .ok e → d ≠ e → d.render ≠ e.render := by
  refine ⟨exists_parse_eq_ok_iff s, fun d hd => ?_⟩
  have hwell : WellFormed d := wellFormed_of_parse hd
  refine ⟨hwell.output, hwell.order, hwell.parse_render, fun t e he hne hrender => ?_⟩
  exact hne (hwell.render_injective (wellFormed_of_parse he) hrender)

/-- Blanks, empty parts and what follows a second comma are gone once a date style has been read. -/
theorem parse_inverts_render_mdy :
    parse " ISO ,\tMDY,, x" = .ok ⟨"ISO", some "MDY"⟩ ∧ parse "ISO, ,MDY" = .ok ⟨"ISO", none⟩ ∧
      parse (render ⟨"ISO", some "MDY"⟩) = .ok ⟨"ISO", some "MDY"⟩ ∧
      render ⟨"ISO", some "MDY"⟩ ≠ render ⟨"ISO", none⟩ := by
  have hread : parse " ISO ,\tMDY,, x" = .ok ⟨"ISO", some "MDY"⟩ := by decide +kernel
  have hbare : parse "ISO, ,MDY" = .ok ⟨"ISO", none⟩ := by decide +kernel
  obtain ⟨-, -, hagain, hdiffer⟩ := (parse_inverts_render " ISO ,\tMDY,, x").2 _ hread
  exact ⟨hread, hbare, hagain, hdiffer _ _ hbare (by decide)⟩

end SessionLayer.DateStyle
