import SessionLayer.Proofs.Dsn.CredentialPass

/-!
# Passwords of URIs

Two URIs may differ in their password only. Whether `redact` shows them alike depends on both passes:
the option pass may take the password, or the user name before it, for an option, and mask the at sign
that the second pass needs; and where the second pass cannot read what follows the at sign, it leaves
the password as it is. The last theorem says exactly when a password of letters and digits shows
nothing but its length.
-/

set_option autoImplicit false

namespace SessionLayer.Dsn

open Uri (endsAuthority encodeCredential parseHosted? significant)

variable {scheme : String} {user name before password rest : List Char} {n : Nat} {u : Uri}

/-! ## Both passes -/

/-- The option pass takes the user name for an option and masks the password with it. -/
theorem maskOption_of_hidden (hscheme : scheme ∈ schemes) {after : List Char}
    (hcut : cutAfter passwordWord user = some (before, after)) (hspace : ' ' ∉ after.drop 1)
    (hp : IsPassword n password) :
    maskOption (uriChars scheme user password rest) =
      opening scheme ++ (before ++ match after with
        | [] => ':' :: (List.replicate n filler ++ maskUntilSpace ('@' :: rest))
        | c :: value => c :: (List.replicate (value.length + 1 + n) filler ++
            maskUntilSpace ('@' :: rest))) := by
  have hfree : ' ' ∉ password := hp.notMem (by decide)
  rw [uriChars, maskOption_opening hscheme]
  cases after with
  | nil =>
    rw [maskOption_append_of_end hcut, maskUntilSpace_append_of_notMem hfree, hp.length_eq]
  | cons c value =>
    have hvalue : ' ' ∉ value ++ ':' :: password := by
      simpa [hfree] using hspace
    have hjoin : value ++ ':' :: (password ++ '@' :: rest) =
        (value ++ ':' :: password) ++ '@' :: rest := by simp
    have hlength : (value ++ ':' :: password).length = value.length + 1 + n := by
      simp only [List.length_append, List.length_cons, hp.length_eq]
      omega
    rw [maskOption_append_of_value hcut, hjoin, maskUntilSpace_append_of_notMem hvalue, hlength]

/-- The option pass changes the user name only, which holds a space after the word. -/
theorem maskOption_of_ended (hscheme : scheme ∈ schemes) {after : List Char}
    (hcut : cutAfter passwordWord user = some (before, after)) (hspace : ' ' ∈ after.drop 1)
    (password rest : List Char) :
    maskOption (uriChars scheme user password rest) =
      uriChars scheme (maskOption user) password rest := by
  cases after with
  | nil => simp at hspace
  | cons c value =>
    have hvalue : ' ' ∈ value := hspace
    have huser : maskOption user = before ++ c :: maskUntilSpace value := by
      rw [maskOption, hcut]
    rw [uriChars, uriChars, maskOption_opening hscheme, maskOption_append_of_value hcut,
      maskUntilSpace_append_of_mem hvalue, huser]
    simp

section Plain

variable (hscheme : scheme ∈ schemes) (hcut : cutAfter passwordWord user = none)

include hscheme hcut

theorem maskOption_user (more : List Char) :
    maskOption (opening scheme ++ (user ++ ':' :: more)) =
      opening scheme ++ (user ++ ':' :: maskOption more) := by
  rw [maskOption_opening hscheme, maskOption_append_sep (by decide) hcut]

/-- Where neither the user name nor the password holds the word, only the rest is searched. -/
theorem maskOption_of_plain (hpassword : cutAfter passwordWord password = none) (rest : List Char) :
    maskOption (uriChars scheme user password rest) =
      uriChars scheme user password (maskOption rest) := by
  rw [uriChars, maskOption_user hscheme hcut, maskOption_append_sep (by decide) hpassword, uriChars]

theorem maskOption_of_replicate (n : Nat) {c : Char} (hc : c ≠ 'p') :
    maskOption (uriChars scheme user (List.replicate n c) rest) =
      uriChars scheme user (List.replicate n c) (maskOption rest) := by
  apply maskOption_of_plain hscheme hcut
  apply cutAfter_eq_none_of_notMem (c := 'p')
  · simp [passwordWord_eq]
  · exact fun hmem => hc (List.eq_of_mem_replicate hmem).symm

/-- Where the password is the word, the at sign after it is taken for the sign between an option and
its value. -/
theorem maskOption_of_word (rest : List Char) :
    maskOption (uriChars scheme user passwordWord rest) =
      uriChars scheme user passwordWord (maskUntilSpace rest) := by
  have hword : cutAfter passwordWord passwordWord = some (passwordWord, []) := by
    simpa using cutAfter_word_append passwordWord_ne_nil []
  rw [uriChars, maskOption_user hscheme hcut, maskOption_append_of_end hword, uriChars]

/-- Where the password goes on after the word, the mask covers the at sign. -/
theorem maskOption_of_longer (hpassword : ' ' ∉ password) (c : Char) (rest : List Char) :
    maskOption (uriChars scheme user (passwordWord ++ c :: password) rest) =
      opening scheme ++ (user ++ ':' :: (passwordWord ++
        c :: (List.replicate (password.length + 1) filler ++ maskUntilSpace rest))) := by
  have hword : cutAfter passwordWord (passwordWord ++ c :: password) =
      some (passwordWord, c :: password) := cutAfter_word_append passwordWord_ne_nil _
  have hfree : ' ' ∉ password ++ ['@'] := by
    simp [hpassword]
  have hjoin : password ++ '@' :: rest = (password ++ ['@']) ++ rest := by simp
  rw [uriChars, maskOption_user hscheme hcut, maskOption_append_of_value hword, hjoin,
    maskUntilSpace_append_of_notMem hfree, List.length_append, List.length_singleton]

end Plain

/-! ## Passwords that show -/

/-- What is shown for a password of `n` letters and digits is the same for all of them. -/
def Forgets (n : Nat) (shown : List Char → List Char) : Prop :=
  ∀ password other, IsPassword n password → IsPassword n other → shown password = shown other

theorem at_notMem_maskOption (h : '@' ∉ rest) : '@' ∉ maskOption rest := by
  intro hmem
  rcases mem_of_mem_maskOption hmem with hmem | heq
  · exact h hmem
  · exact absurd heq (by decide)

theorem at_notMem_maskUntilSpace (h : '@' ∉ rest) : '@' ∉ maskUntilSpace rest := by
  intro hmem
  rcases mem_of_mem_maskUntilSpace hmem with hmem | heq
  · exact h hmem
  · exact absurd heq (by decide)

theorem endsAuthority_of_mem_maskOption (huser : ∀ c ∈ user, endsAuthority c = false) :
    ∀ c ∈ maskOption user, endsAuthority c = false := by
  intro c hc
  rcases mem_of_mem_maskOption hc with hmem | rfl
  · exact huser c hmem
  · decide

/-- A text without credentials that names a host is written as what follows the credentials. -/
theorem render_of_parseHosted? (hrest : '@' ∉ rest)
    (h : parseHosted? scheme.toList rest = some u) :
    u.render = opening scheme ++ u.renderLocation := by
  obtain ⟨hparse, -⟩ := Option.filter_eq_some_iff.1 h
  obtain ⟨hkept, hread⟩ := Uri.credentials_of_parse? hparse
  rw [Uri.splitAuthority_of_notMem hrest] at hread
  obtain ⟨huser, hpassword⟩ := Prod.mk.inj hread
  have hnone : u.renderCredentials = [] := by
    rw [Uri.renderCredentials, ← hpassword, ← huser]
    rfl
  rw [Uri.render_eq, hnone, hkept, opening, List.nil_append]

section Shown

variable (hscheme : scheme ∈ schemes) (huser : ∀ c ∈ user, endsAuthority c = false)
  (hrest : '@' ∉ rest) (hn : 0 < n)

include hscheme huser hrest hn

/-- Two passwords already tell whether what follows the at sign can be read. -/
theorem readable_of_eq
    (h : maskCredentials (uriChars scheme user (List.replicate n 'a') rest) =
      maskCredentials (uriChars scheme user (List.replicate n 'b') rest)) :
    (parseHosted? scheme.toList rest).isSome := by
  cases hu : parseHosted? scheme.toList rest with
  | some u => rfl
  | none =>
    have ha : IsPassword n (List.replicate n 'a') := isPassword_replicate n (by decide)
    have hb : IsPassword n (List.replicate n 'b') := isPassword_replicate n (by decide)
    rw [maskCredentials_of_unreadable huser hrest ha hscheme hu,
      maskCredentials_of_unreadable huser hrest hb hscheme hu] at h
    have htails := (List.cons.inj (List.append_cancel_left (List.append_cancel_left h))).2
    have hequal := List.append_inj_left htails (by simp)
    have hmem : 'a' ∈ List.replicate n 'b' := by
      rw [← hequal]
      exact List.mem_replicate.2 ⟨by omega, rfl⟩
    exact absurd (List.eq_of_mem_replicate hmem) (by decide)

theorem forgets_maskCredentials_iff :
    Forgets n (fun password => maskCredentials (uriChars scheme user password rest)) ↔
      (parseHosted? scheme.toList rest).isSome := by
  constructor
  · intro h
    exact readable_of_eq hscheme huser hrest hn
      (h _ _ (isPassword_replicate n (by decide)) (isPassword_replicate n (by decide)))
  · intro h password other hp hq
    obtain ⟨u, hu⟩ := Option.isSome_iff_exists.1 h
    obtain ⟨name, before, hname, hsplit⟩ := exists_first_colon user
    change maskCredentials (uriChars scheme user password rest) =
      maskCredentials (uriChars scheme user other rest)
    rw [maskCredentials_of_readable huser hrest hp hscheme hn hname hsplit hu,
      maskCredentials_of_readable huser hrest hq hscheme hn hname hsplit hu]

/-- Where the user name holds the word, either the mask runs on over the password, or the password is
left to the second pass. -/
theorem forgets_of_word {after : List Char}
    (hcut : cutAfter passwordWord user = some (before, after)) :
    Forgets n (fun password => maskCredentials (maskOption (uriChars scheme user password rest))) ↔
      ' ' ∉ after.drop 1 ∨ (parseHosted? scheme.toList rest).isSome := by
  by_cases hspace : ' ' ∈ after.drop 1
  · simp only [maskOption_of_ended hscheme hcut hspace]
    rw [forgets_maskCredentials_iff hscheme (endsAuthority_of_mem_maskOption huser) hrest hn]
    exact ⟨Or.inr, fun h => h.resolve_left fun hfree => hfree hspace⟩
  · have hforgets : Forgets n fun password =>
        maskCredentials (maskOption (uriChars scheme user password rest)) := by
      intro password other hp hq
      change maskCredentials (maskOption (uriChars scheme user password rest)) =
        maskCredentials (maskOption (uriChars scheme user other rest))
      rw [maskOption_of_hidden hscheme hcut hspace hp, maskOption_of_hidden hscheme hcut hspace hq]
    exact ⟨fun _ => Or.inl hspace, fun _ => hforgets⟩

section Plain

variable (hcut : cutAfter passwordWord user = none)

include hcut

theorem readable_of_forgets
    (h : Forgets n fun password =>
      maskCredentials (maskOption (uriChars scheme user password rest))) :
    (parseHosted? scheme.toList (maskOption rest)).isSome := by
  have hequal : maskCredentials (maskOption (uriChars scheme user (List.replicate n 'a') rest)) =
      maskCredentials (maskOption (uriChars scheme user (List.replicate n 'b') rest)) :=
    h _ _ (isPassword_replicate n (by decide)) (isPassword_replicate n (by decide))
  rw [maskOption_of_replicate hscheme hcut n (by decide),
    maskOption_of_replicate hscheme hcut n (by decide)] at hequal
  exact readable_of_eq hscheme huser (at_notMem_maskOption hrest) hn hequal

/-- A password that goes on after the word loses its at sign, and shows that it does. -/
theorem not_forgets_of_longer (hlength : passwordWord.length < n) :
    ¬ Forgets n fun password =>
      maskCredentials (maskOption (uriChars scheme user password rest)) := by
  intro h
  obtain ⟨u, hu⟩ := Option.isSome_iff_exists.1
    (readable_of_forgets hscheme huser hrest hn hcut h)
  obtain ⟨name, before, hname, hsplit⟩ := exists_first_colon user
  obtain ⟨m, hm⟩ : ∃ m, n = passwordWord.length + (m + 1) :=
    ⟨n - (passwordWord.length + 1), by omega⟩
  have hplain : IsPassword n (List.replicate n 'a') := isPassword_replicate n (by decide)
  have hlonger : IsPassword n (passwordWord ++ 'a' :: List.replicate m 'a') := by
    rw [hm, ← List.replicate_succ]
    exact isPassword_word.append (isPassword_replicate (m + 1) (by decide))
  have hspace : ' ' ∉ List.replicate m 'a' := by
    intro hmem
    exact absurd (List.eq_of_mem_replicate hmem) (by decide)
  have hequal : maskCredentials (maskOption (uriChars scheme user
        (passwordWord ++ 'a' :: List.replicate m 'a') rest)) =
      maskCredentials (maskOption (uriChars scheme user (List.replicate n 'a') rest)) :=
    h _ _ hlonger hplain
  rw [maskOption_of_longer hscheme hcut hspace, maskOption_of_replicate hscheme hcut n (by decide),
    maskCredentials_of_readable huser (at_notMem_maskOption hrest) hplain hscheme hn hname hsplit hu]
    at hequal
  have hlost : '@' ∉ passwordWord ++
      'a' :: (List.replicate ((List.replicate m 'a').length + 1) filler ++ maskUntilSpace rest) := by
    simp only [List.mem_append, List.mem_cons, not_or]
    exact ⟨by decide, by decide, at_notMem_mask _, at_notMem_maskUntilSpace hrest⟩
  exact maskCredentials_ne_masked hscheme huser hname hsplit hn hlost _ hequal

/-- A password that is the word itself is shown like the others only where it makes no difference to
mask what follows its at sign. -/
theorem render_eq_of_forgets (hlength : n = passwordWord.length)
    (h : Forgets n fun password =>
      maskCredentials (maskOption (uriChars scheme user password rest))) :
    (parseHosted? scheme.toList (maskUntilSpace rest)).map Uri.render =
      (parseHosted? scheme.toList (maskOption rest)).map Uri.render := by
  have hkept := at_notMem_maskOption hrest
  have hmasked := at_notMem_maskUntilSpace hrest
  obtain ⟨u, hu⟩ := Option.isSome_iff_exists.1
    (readable_of_forgets hscheme huser hrest hn hcut h)
  obtain ⟨name, before, hname, hsplit⟩ := exists_first_colon user
  have hword : IsPassword n passwordWord := hlength ▸ isPassword_word
  have hplain : IsPassword n (List.replicate n 'a') := isPassword_replicate n (by decide)
  have hequal : maskCredentials (maskOption (uriChars scheme user passwordWord rest)) =
      maskCredentials (maskOption (uriChars scheme user (List.replicate n 'a') rest)) :=
    h _ _ hword hplain
  rw [maskOption_of_word hscheme hcut, maskOption_of_replicate hscheme hcut n (by decide),
    maskCredentials_of_readable huser hkept hplain hscheme hn hname hsplit hu] at hequal
  cases hother : parseHosted? scheme.toList (maskUntilSpace rest) with
  | none =>
    rw [maskCredentials_of_unreadable huser hmasked hword hscheme hother, uriChars] at hequal
    exact absurd (List.append_cancel_left hequal) (unmasked_ne_masked hname hsplit (by omega) _)
  | some other =>
    rw [maskCredentials_of_readable huser hmasked hword hscheme hn hname hsplit hother] at hequal
    have htails := (List.cons.inj (List.append_cancel_left (List.append_cancel_left hequal))).2
    have hlocation := (List.cons.inj (List.append_cancel_left htails)).2
    rw [hu, Option.map_some, Option.map_some, render_of_parseHosted? hmasked hother, hlocation,
      render_of_parseHosted? hkept hu]

/-- Where the user name does not hold the word, the rest must be readable, and the password too short to
hold the word, or just long enough where masking the rest makes no difference. -/
theorem forgets_of_plain :
    (Forgets n fun password =>
        maskCredentials (maskOption (uriChars scheme user password rest))) ↔
      (parseHosted? scheme.toList (maskOption rest)).isSome ∧
        (n < passwordWord.length ∨ n = passwordWord.length ∧
          (parseHosted? scheme.toList (maskUntilSpace rest)).map Uri.render =
            (parseHosted? scheme.toList (maskOption rest)).map Uri.render) := by
  have hkept := at_notMem_maskOption hrest
  have hmasked := at_notMem_maskUntilSpace hrest
  constructor
  · intro h
    refine ⟨readable_of_forgets hscheme huser hrest hn hcut h, ?_⟩
    rcases Nat.lt_trichotomy n passwordWord.length with hshort | hlength | hlong
    · exact Or.inl hshort
    · exact Or.inr ⟨hlength, render_eq_of_forgets hscheme huser hrest hn hcut hlength h⟩
    · exact absurd h (not_forgets_of_longer hscheme huser hrest hn hcut hlong)
  · rintro ⟨hreadable, hshort⟩
    obtain ⟨u, hu⟩ := Option.isSome_iff_exists.1 hreadable
    obtain ⟨name, before, hname, hsplit⟩ := exists_first_colon user
    -- every password is shown like one without the word
    have hshown : ∀ password, IsPassword n password →
        maskCredentials (maskOption (uriChars scheme user password rest)) =
          opening scheme ++ (encodeCredential (significant name) ++ ':' ::
            (List.replicate ((encodeCredential (significant before)).length + n) filler ++
              '@' :: u.renderLocation)) := by
      intro password hp
      cases hword : cutAfter passwordWord password with
      | none =>
        rw [maskOption_of_plain hscheme hcut hword,
          maskCredentials_of_readable huser hkept hp hscheme hn hname hsplit hu]
      | some cut =>
        have hle := length_le_of_cutAfter hword
        rw [hp.length_eq] at hle
        obtain ⟨hlength, hsame⟩ := hshort.resolve_left (by omega)
        obtain rfl := eq_of_cutAfter_of_length_eq hword (hp.length_eq.trans hlength)
        rw [hu, Option.map_some] at hsame
        obtain ⟨other, hother, hrender⟩ := Option.map_eq_some_iff.1 hsame
        rw [render_of_parseHosted? hmasked hother, render_of_parseHosted? hkept hu] at hrender
        rw [maskOption_of_word hscheme hcut,
          maskCredentials_of_readable huser hmasked hp hscheme hn hname hsplit hother,
          List.append_cancel_left hrender]
    intro password other hp hq
    exact (hshown password hp).trans (hshown other hq).symm

end Plain

end Shown

/-- Whether a URI is shown with nothing of a password of `n` letters and digits but its length. Where
the word `password` stands in the user name, the mask must run on to the at sign or leave a readable
rest to the second pass. Where it does not, the rest must be readable and the password shorter than the
word, or as long as the word where masking the rest makes no difference. -/
def hidesPassword (scheme : String) (user rest : List Char) (n : Nat) : Bool :=
  match cutAfter passwordWord user with
  | some (_, after) => !(after.drop 1).contains ' ' || (parseHosted? scheme.toList rest).isSome
  | none =>
    (parseHosted? scheme.toList (maskOption rest)).isSome &&
      (n < passwordWord.length || n == passwordWord.length &&
        (parseHosted? scheme.toList (maskUntilSpace rest)).map Uri.render ==
          (parseHosted? scheme.toList (maskOption rest)).map Uri.render)

/-- Redaction hides a password of letters and digits in a URI exactly where `hidesPassword` says so:
there it shows the same for all passwords of one length, and anywhere else it tells two of them apart.
The user name may hold anything but the characters that end the credentials. -/
theorem redact_forgets_password_iff (scheme user rest : String) (n : Nat)
    (hscheme : scheme ∈ schemes) (huser : ∀ c ∈ user.toList, endsAuthority c = false)
    (hrest : '@' ∉ rest.toList) (hn : 0 < n) :
    (∀ password other : String, IsPassword n password.toList → IsPassword n other.toList →
        redact (uriText scheme user password rest) = redact (uriText scheme user other rest)) ↔
      hidesPassword scheme user.toList rest.toList n = true := by
  have hlists : (∀ password other : String, IsPassword n password.toList →
        IsPassword n other.toList →
        redact (uriText scheme user password rest) = redact (uriText scheme user other rest)) ↔
      Forgets n fun password =>
        maskCredentials (maskOption (uriChars scheme user.toList password rest.toList)) := by
    simp only [redact, toList_uriText, String.ofList_inj]
    constructor
    · intro h password other hp hq
      have hstrings := h (String.ofList password) (String.ofList other)
      simp only [String.toList_ofList] at hstrings
      exact hstrings hp hq
    · intro h password other hp hq
      exact h _ _ hp hq
  rw [hlists, hidesPassword]
  cases hcut : cutAfter passwordWord user.toList with
  | some cut =>
    rw [forgets_of_word hscheme huser hrest hn hcut]
    simp
  | none =>
    rw [forgets_of_plain hscheme huser hrest hn hcut]
    simp

/-- A password of nine letters and digits shows in the simplest of URIs. -/
theorem redact_tells_passwords_apart :
    "postgresql" ∈ schemes ∧ (∀ c ∈ "alice".toList, endsAuthority c = false) ∧
      '@' ∉ "db/app".toList ∧ 0 < 9 ∧
      ¬ ∀ password other : String, IsPassword 9 password.toList → IsPassword 9 other.toList →
        redact (uriText "postgresql" "alice" password "db/app") =
          redact (uriText "postgresql" "alice" other "db/app") := by
  have hfree : "alice".toList.all (fun c => !endsAuthority c) = true := by decide
  have huser : ∀ c ∈ "alice".toList, endsAuthority c = false := by
    intro c hc
    simpa using List.all_eq_true.1 hfree c hc
  refine ⟨by decide, huser, by decide, by decide, ?_⟩
  rw [redact_forgets_password_iff "postgresql" "alice" "db/app" 9 (by decide) huser (by decide)
    (by decide)]
  decide

end SessionLayer.Dsn
