import SessionLayer.Proofs.Dsn.OptionPass

/-!
# The password among options

A connection string may be a list of options, one of them the password. The option pass masks what
follows the first word `password` of the text, which need not be the password option: an option before
it may hold the word in its key or its value. The last theorem says exactly when the password shows
nothing but its length.
-/

set_option autoImplicit false

namespace SessionLayer.Dsn

variable {word text before value : List Char}

/-! ## Texts that are no URIs -/

/-- A prefix without fillers is not made by the mask. -/
theorem prefix_of_prefix_maskUntilSpace (hword : filler ∉ word)
    (h : word <+: before ++ maskUntilSpace value) : word <+: before ++ value := by
  obtain ⟨rest, hrest⟩ := h
  rcases List.append_eq_append_iff.1 hrest with ⟨gap, hbefore, -⟩ | ⟨tail, rfl, hmask⟩
  · rw [hbefore, List.append_assoc]
    exact List.prefix_append _ _
  · rw [List.prefix_append_right_inj]
    cases value with
    | nil => exact ⟨rest, hmask.symm⟩
    | cons c value =>
      by_cases hc : c = ' '
      · subst hc
        exact ⟨rest, hmask.symm⟩
      · cases tail with
        | nil => exact List.nil_prefix
        | cons d tail =>
          have hfiller : filler = d := by
            simp only [maskUntilSpace, List.takeWhile_cons, bne_iff_ne, ne_eq, hc,
              not_false_eq_true, if_true, List.map_cons, List.cons_append] at hmask
            exact (List.cons.inj hmask).1
          exact absurd (by simp [hfiller]) hword

theorem prefix_of_prefix_maskOption (hword : filler ∉ word) (h : word <+: maskOption text) :
    word <+: text := by
  rw [maskOption] at h
  split at h
  · exact h
  · rename_i hcut
    rw [← (append_of_cutAfter hcut).1, List.append_nil]
    exact h
  · rename_i before sep value hcut
    rw [← (append_of_cutAfter hcut).1]
    have hjoin : ∀ more : List Char, before ++ sep :: more = (before ++ [sep]) ++ more := by simp
    rw [hjoin] at h ⊢
    exact prefix_of_prefix_maskUntilSpace hword h

theorem cutScheme_eq_none_iff :
    cutScheme text = none ↔
      ∀ scheme ∈ schemes, ¬ scheme.toList ++ [':', '/', '/'] <+: text := by
  rw [cutScheme, List.findSome?_eq_none_iff]
  refine forall₂_congr fun scheme _ => ?_
  rw [← List.isPrefixOf_iff_prefix]
  simp

/-- The option pass makes no URI of a text that is none. -/
theorem cutScheme_maskOption (h : cutScheme text = none) : cutScheme (maskOption text) = none := by
  rw [cutScheme_eq_none_iff] at h ⊢
  intro scheme hscheme hprefix
  refine h scheme hscheme (prefix_of_prefix_maskOption ?_ hprefix)
  simp only [schemes, List.mem_cons, List.not_mem_nil, or_false] at hscheme
  rcases hscheme with rfl | rfl <;> decide

/-- Only the option pass changes a text that is no URI. -/
theorem redact_of_cutScheme {dsn : String} (h : cutScheme dsn.toList = none) :
    redact dsn = String.ofList (maskOption dsn.toList) := by
  rw [redact, maskCredentials, cutScheme_maskOption h]
  rfl

/-! ## Options -/

/-- What can be checked of every character of a text holds of all of them. -/
theorem forall_mem_of_all {text : String} {p : Char → Prop} [DecidablePred p]
    (h : text.toList.all (fun c => decide (p c)) = true) : ∀ c ∈ text.toList, p c :=
  fun c hc => of_decide_eq_true (List.all_eq_true.1 h c hc)

/-- An option: a key that is not empty and holds neither spaces nor equals signs, and a value without
spaces and quotes. -/
structure KeyValue where
  key : String
  value : String
  key_ne_empty : key ≠ ""
  key_plain : ∀ c ∈ key.toList, c ≠ ' ' ∧ c ≠ '='
  value_plain : ∀ c ∈ value.toList, c ≠ ' ' ∧ c ≠ '\''

namespace KeyValue

/-- The option as it is written. -/
def written (option : KeyValue) : String :=
  option.key ++ "=" ++ option.value

/-- The password option with a value of a given length, all of whose characters are the same. -/
def secret (n : Nat) (c : Char) (hc : c ≠ ' ' ∧ c ≠ '\'') : KeyValue where
  key := "password"
  value := String.ofList (List.replicate n c)
  key_ne_empty := by decide
  key_plain := forall_mem_of_all (by decide)
  value_plain := by
    intro d hd
    rw [String.toList_ofList] at hd
    rw [List.eq_of_mem_replicate hd]
    exact hc

theorem length_secret (n : Nat) (c : Char) (hc : c ≠ ' ' ∧ c ≠ '\'') :
    (secret n c hc).value.length = n := by
  simp [secret]

theorem space_notMem_value (option : KeyValue) : ' ' ∉ option.value.toList :=
  fun h => (option.value_plain ' ' h).1 rfl

end KeyValue

/-- Options as a connection string, with single spaces between them. -/
def optionText (options : List KeyValue) : String :=
  " ".intercalate (options.map KeyValue.written)

/-- What follows an option: a space and the options after it, if there are any. -/
def trail : List KeyValue → List Char
  | [] => []
  | options => ' ' :: (optionText options).toList

theorem toList_optionText_cons (option : KeyValue) (after : List KeyValue) :
    (optionText (option :: after)).toList =
      option.key.toList ++ '=' :: (option.value.toList ++ trail after) := by
  cases after with
  | nil => simp [optionText, KeyValue.written, trail]
  | cons next after => simp [optionText, KeyValue.written, trail]

theorem toList_optionText_password {option : KeyValue} (hkey : option.key = "password")
    (after : List KeyValue) :
    (optionText (option :: after)).toList =
      passwordWord ++ '=' :: (option.value.toList ++ trail after) := by
  have hword : option.key.toList = passwordWord := congrArg String.toList hkey
  rw [toList_optionText_cons, hword]

theorem toList_optionText_append {front back : List KeyValue} (hfront : front ≠ [])
    (hback : back ≠ []) :
    (optionText (front ++ back)).toList =
      (optionText front).toList ++ ' ' :: (optionText back).toList := by
  rw [optionText, List.map_append,
    String.intercalate_append_of_ne_nil (by simpa using hfront) (by simpa using hback)]
  simp [optionText]

/-! ## What the mask covers -/

/-- A mask never goes past a space. -/
theorem maskUntilSpace_append_space (text more : List Char) :
    maskUntilSpace (text ++ ' ' :: more) = maskUntilSpace text ++ ' ' :: more := by
  by_cases hspace : ' ' ∈ text
  · exact maskUntilSpace_append_of_mem hspace _
  · have halone := maskUntilSpace_append_of_notMem hspace []
    rw [List.append_nil] at halone
    rw [maskUntilSpace_append_of_notMem hspace, halone]
    simp [maskUntilSpace]

theorem maskUntilSpace_append_trail (h : ' ' ∉ text) (after : List KeyValue) :
    maskUntilSpace (text ++ trail after) = List.replicate text.length filler ++ trail after := by
  rw [maskUntilSpace_append_of_notMem h]
  cases after with
  | nil => rfl
  | cons next after => rfl

section Shown

variable {front after : List KeyValue} {option : KeyValue} (hkey : option.key = "password")

include hkey

/-- The password option is masked where it comes first. -/
theorem maskOption_optionText_cons (after : List KeyValue) :
    maskOption (optionText (option :: after)).toList =
      passwordWord ++ '=' :: (List.replicate option.value.length filler ++ trail after) := by
  have hcut : cutAfter passwordWord passwordWord = some (passwordWord, []) := by
    simpa using cutAfter_word_append passwordWord_ne_nil []
  rw [toList_optionText_password hkey, maskOption_append_of_end hcut,
    maskUntilSpace_append_trail option.space_notMem_value, String.length_toList]

/-- Options before the password that do not hold the word are left as they are, and it is masked. -/
theorem maskOption_of_wordless (hfront : front ≠ [])
    (hcut : cutAfter passwordWord (optionText front).toList = none) :
    maskOption (optionText (front ++ option :: after)).toList =
      (optionText front).toList ++ ' ' :: (passwordWord ++
        '=' :: (List.replicate option.value.length filler ++ trail after)) := by
  rw [toList_optionText_append hfront (List.cons_ne_nil _ _),
    maskOption_append_sep (by decide) hcut, maskOption_optionText_cons hkey]

/-- Where the word ends the options before the password, the mask covers the key of the password too. -/
theorem maskOption_of_word_at_end (hfront : front ≠ [])
    (hcut : cutAfter passwordWord (optionText front).toList = some (before, [])) :
    maskOption (optionText (front ++ option :: after)).toList =
      before ++ ' ' :: (List.replicate (passwordWord.length + 1 + option.value.length) filler
        ++ trail after) := by
  have hfree : ' ' ∉ passwordWord ++ '=' :: option.value.toList := by
    simp only [List.mem_append, List.mem_cons, not_or]
    exact ⟨by decide, by decide, option.space_notMem_value⟩
  have hjoin : passwordWord ++ '=' :: (option.value.toList ++ trail after) =
      (passwordWord ++ '=' :: option.value.toList) ++ trail after := by simp
  have hlength : (passwordWord ++ '=' :: option.value.toList).length =
      passwordWord.length + 1 + option.value.length := by
    rw [List.length_append, List.length_cons, String.length_toList]
    omega
  rw [toList_optionText_append hfront (List.cons_ne_nil _ _), maskOption_append_of_end hcut,
    toList_optionText_password hkey, hjoin, maskUntilSpace_append_trail hfree, hlength]

/-- Where something follows the word in the options before the password, it is shown as it is. -/
theorem maskOption_of_word_inside (hfront : front ≠ []) {sep : Char}
    (hcut : cutAfter passwordWord (optionText front).toList = some (before, sep :: value)) :
    maskOption (optionText (front ++ option :: after)).toList =
      before ++ sep :: (maskUntilSpace value ++
        ' ' :: (passwordWord ++ '=' :: (option.value.toList ++ trail after))) := by
  rw [toList_optionText_append hfront (List.cons_ne_nil _ _), maskOption_append_of_value hcut,
    maskUntilSpace_append_space, toList_optionText_password hkey]

end Shown

/-- Whether the password that follows some options is shown with nothing but its length `n`. The word
`password` must not stand in these options, except where it ends them; then the mask starts right there
and covers the whole password option. -/
def hidesOption (front : List KeyValue) (n : Nat) : Bool :=
  n == 0 || match cutAfter passwordWord (optionText front).toList with
    | some (_, _ :: _) => false
    | _ => true

/-- Redaction hides the password among the options of a connection string exactly where `hidesOption`
says so: there it shows the same for all passwords of one length, and anywhere else it tells two of them
apart. The keys need not be distinct. -/
theorem redact_forgets_option_iff (front after : List KeyValue) (n : Nat)
    (hkeyword : ∀ secret : KeyValue, secret.key = "password" → secret.value.length = n →
      cutScheme (optionText (front ++ secret :: after)).toList = none) :
    (∀ secret other : KeyValue, secret.key = "password" → other.key = "password" →
        secret.value.length = n → other.value.length = n →
        redact (optionText (front ++ secret :: after)) =
          redact (optionText (front ++ other :: after))) ↔
      hidesOption front n = true := by
  have hshown : ∀ secret : KeyValue, secret.key = "password" → secret.value.length = n →
      redact (optionText (front ++ secret :: after)) =
        String.ofList (maskOption (optionText (front ++ secret :: after)).toList) :=
    fun secret hkey hlength => redact_of_cutScheme (hkeyword secret hkey hlength)
  by_cases hfront : front = []
  · subst hfront
    have hnone : cutAfter passwordWord (optionText []).toList = none := rfl
    have hhides : hidesOption [] n = true := by rw [hidesOption, hnone, Bool.or_true]
    refine iff_of_true (fun secret other hsecret hother hn hn' => ?_) hhides
    rw [hshown secret hsecret hn, hshown other hother hn', List.nil_append, List.nil_append,
      maskOption_optionText_cons hsecret, maskOption_optionText_cons hother, hn, hn']
  rw [hidesOption]
  rcases hcut : cutAfter passwordWord (optionText front).toList with _ | ⟨before, _ | ⟨sep, value⟩⟩
  · rw [Bool.or_true]
    refine iff_of_true (fun secret other hsecret hother hn hn' => ?_) rfl
    rw [hshown secret hsecret hn, hshown other hother hn', maskOption_of_wordless hsecret hfront hcut,
      maskOption_of_wordless hother hfront hcut, hn, hn']
  · rw [Bool.or_true]
    refine iff_of_true (fun secret other hsecret hother hn hn' => ?_) rfl
    rw [hshown secret hsecret hn, hshown other hother hn',
      maskOption_of_word_at_end hsecret hfront hcut, maskOption_of_word_at_end hother hfront hcut,
      hn, hn']
  · rw [Bool.or_false, beq_iff_eq]
    constructor
    · -- two passwords of one letter each differ unless they are empty
      intro h
      have ha := KeyValue.length_secret n 'a' (by decide)
      have hb := KeyValue.length_secret n 'b' (by decide)
      have hequal := h (.secret n 'a' (by decide)) (.secret n 'b' (by decide)) rfl rfl ha hb
      rw [hshown _ rfl ha, hshown _ rfl hb, String.ofList_inj,
        maskOption_of_word_inside rfl hfront hcut, maskOption_of_word_inside rfl hfront hcut] at hequal
      have hoptions := (List.cons.inj (List.append_cancel_left hequal)).2
      have hpasswords := (List.cons.inj (List.append_cancel_left hoptions)).2
      have hvalues := List.append_cancel_right
        (List.cons.inj (List.append_cancel_left hpasswords)).2
      simp only [KeyValue.secret, String.toList_ofList] at hvalues
      rcases List.replicate_inj.1 hvalues with ⟨-, hn | hletters⟩
      · exact hn
      · exact absurd hletters (by decide)
    · -- there is only one empty password
      rintro rfl secret other hsecret hother hn hn'
      rw [hshown secret hsecret hn, hshown other hother hn',
        maskOption_of_word_inside hsecret hfront hcut, maskOption_of_word_inside hother hfront hcut,
        String.length_eq_zero_iff.1 hn, String.length_eq_zero_iff.1 hn']

/-- The option of a password for the private key. -/
def KeyValue.sslPassword : KeyValue where
  key := "sslpassword"
  value := "a"
  key_ne_empty := by decide
  key_plain := forall_mem_of_all (by decide)
  value_plain := forall_mem_of_all (by decide)

/-- After another option with the word in its key, the password is shown as it is. -/
theorem redact_tells_options_apart :
    (∀ secret : KeyValue, secret.key = "password" → secret.value.length = 6 →
        cutScheme (optionText ([.sslPassword] ++ secret :: [])).toList = none) ∧
      ¬ ∀ secret other : KeyValue, secret.key = "password" → other.key = "password" →
        secret.value.length = 6 → other.value.length = 6 →
        redact (optionText ([.sslPassword] ++ secret :: [])) =
          redact (optionText ([.sslPassword] ++ other :: [])) := by
  have hfront : (optionText [.sslPassword]).toList =
      ['s', 's', 'l', 'p', 'a', 's', 's', 'w', 'o', 'r', 'd', '=', 'a'] := by
    rw [toList_optionText_cons]
    decide
  have hkeyword : ∀ secret : KeyValue, secret.key = "password" → secret.value.length = 6 →
      cutScheme (optionText ([.sslPassword] ++ secret :: [])).toList = none := by
    intro secret _ _
    rw [toList_optionText_append (List.cons_ne_nil _ _) (List.cons_ne_nil _ _), hfront]
    simp [cutScheme, schemes]
  refine ⟨hkeyword, ?_⟩
  rw [redact_forgets_option_iff [.sslPassword] [] 6 hkeyword, hidesOption, hfront]
  decide

end SessionLayer.Dsn
