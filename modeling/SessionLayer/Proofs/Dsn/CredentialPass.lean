import SessionLayer.Proofs.Uri.Authority
import SessionLayer.Proofs.Dsn.OptionPass

/-!
# The pass over credentials

`maskCredentials` masks the password of a URI where the URI can be read and leaves the text as it is
where it cannot. For a password of letters and digits the first case shows nothing but its length and
the second shows all of it, and the two never look the same.
-/

set_option autoImplicit false

namespace SessionLayer.Dsn

open Uri (endsAuthority encodeCredential parseHosted? readCredentials significant)

variable {scheme : String} {user name before creds password other rest more : List Char} {n : Nat}
variable {u : Uri}

/-! ## Passwords of a given length -/

/-- A password of `n` letters and digits. -/
structure IsPassword (n : Nat) (text : List Char) : Prop where
  length_eq : text.length = n
  alphanum : ∀ c ∈ text, c.isAlphanum = true

theorem isPassword_replicate (n : Nat) {c : Char} (hc : c.isAlphanum = true) :
    IsPassword n (List.replicate n c) := by
  refine ⟨List.length_replicate, ?_⟩
  intro d hd
  rw [List.eq_of_mem_replicate hd, hc]

theorem isPassword_word : IsPassword passwordWord.length passwordWord :=
  ⟨rfl, passwordWord_alphanum⟩

namespace IsPassword

theorem append {m : Nat} (h : IsPassword n password) (h' : IsPassword m other) :
    IsPassword (n + m) (password ++ other) := by
  refine ⟨by rw [List.length_append, h.length_eq, h'.length_eq], ?_⟩
  intro c hc
  rcases List.mem_append.1 hc with hc | hc
  · exact h.alphanum c hc
  · exact h'.alphanum c hc

theorem ne_of_mem (h : IsPassword n password) {c d : Char} (hc : c ∈ password)
    (hd : d.isAlphanum = false) : c ≠ d := by
  rintro rfl
  rw [h.alphanum c hc] at hd
  cases hd

theorem notMem (h : IsPassword n password) {c : Char} (hc : c.isAlphanum = false) :
    c ∉ password :=
  fun hmem => h.ne_of_mem hmem hc rfl

theorem ne_nil (h : IsPassword n password) (hn : 0 < n) : password ≠ [] := by
  rintro rfl
  rw [← h.length_eq] at hn
  exact absurd hn (by decide)

theorem significant_eq (h : IsPassword n password) : significant password = password := by
  apply Uri.significant_eq_self
  intro c hc
  simp [Uri.isIgnored, h.ne_of_mem hc (show '\t'.isAlphanum = false by decide),
    h.ne_of_mem hc (show '\n'.isAlphanum = false by decide),
    h.ne_of_mem hc (show '\r'.isAlphanum = false by decide)]

theorem endsAuthority_eq (h : IsPassword n password) : ∀ c ∈ password, endsAuthority c = false := by
  intro c hc
  simp [endsAuthority, h.ne_of_mem hc (show '/'.isAlphanum = false by decide),
    h.ne_of_mem hc (show '?'.isAlphanum = false by decide),
    h.ne_of_mem hc (show '#'.isAlphanum = false by decide)]

end IsPassword

/-! ## URIs as texts -/

/-- A URI with a user name and a password, as a text. -/
def uriText (scheme user password rest : String) : String :=
  scheme ++ "://" ++ user ++ ":" ++ password ++ "@" ++ rest

/-- What a URI starts with. -/
def opening (scheme : String) : List Char :=
  scheme.toList ++ [':', '/', '/']

/-- The characters of a URI with a user name and a password. -/
def uriChars (scheme : String) (user password rest : List Char) : List Char :=
  opening scheme ++ (user ++ ':' :: (password ++ '@' :: rest))

theorem toList_uriText (scheme user password rest : String) :
    (uriText scheme user password rest).toList =
      uriChars scheme user.toList password.toList rest.toList := by
  simp [uriText, uriChars, opening]

theorem cutScheme_opening (hscheme : scheme ∈ schemes) (more : List Char) :
    cutScheme (opening scheme ++ more) = some (scheme.toList, more) := by
  simp only [schemes, List.mem_cons, List.not_mem_nil, or_false] at hscheme
  rcases hscheme with rfl | rfl <;> simp [cutScheme, schemes, opening]

/-- The word does not occur in what a URI starts with. -/
theorem maskOption_opening (hscheme : scheme ∈ schemes) (more : List Char) :
    maskOption (opening scheme ++ more) = opening scheme ++ maskOption more := by
  have hfree : cutAfter passwordWord (scheme.toList ++ [':', '/']) = none := by
    simp only [schemes, List.mem_cons, List.not_mem_nil, or_false] at hscheme
    rcases hscheme with rfl | rfl <;> decide
  have hopening : ∀ text : List Char,
      opening scheme ++ text = (scheme.toList ++ [':', '/']) ++ '/' :: text := by
    simp [opening]
  rw [hopening, hopening, maskOption_append_sep (by decide) hfree]

/-! ## The pass over credentials -/

theorem maskCredentials_opening (hscheme : scheme ∈ schemes) (more : List Char) :
    maskCredentials (opening scheme ++ more) =
      match Uri.parse? scheme.toList more with
      | some u => if u.password.isSome then (maskPassword u).render else opening scheme ++ more
      | none => opening scheme ++ more := by
  rw [maskCredentials, cutScheme_opening hscheme]
  rfl

theorem render_maskPassword {secret : List Char} (h : u.password = some secret) :
    (maskPassword u).render =
      u.scheme ++ [':', '/', '/'] ++
        (u.user ++ ':' :: (List.replicate secret.length filler ++ '@' :: u.renderLocation)) := by
  rw [Uri.render_eq]
  simp [maskPassword, Uri.renderCredentials, Uri.renderLocation, h]

/-- A text without an at sign has no credentials to mask. -/
theorem maskCredentials_of_notMem (hscheme : scheme ∈ schemes) (h : '@' ∉ more) :
    maskCredentials (opening scheme ++ more) = opening scheme ++ more := by
  rw [maskCredentials_opening hscheme]
  cases hu : Uri.parse? scheme.toList more with
  | none => rfl
  | some u =>
    have hread := (Uri.credentials_of_parse? hu).2
    rw [Uri.splitAuthority_of_notMem h] at hread
    have hnone : u.password = none := (congrArg Prod.snd hread).symm
    simp [hnone]

/-- Either a text stays as it is, or its credentials are shown with a mask that is as long as the
password in encoded form. -/
theorem maskCredentials_append_at (hscheme : scheme ∈ schemes)
    (hcreds : ∀ c ∈ creds, endsAuthority c = false) (hrest : '@' ∉ rest) :
    maskCredentials (opening scheme ++ (creds ++ '@' :: rest)) =
        opening scheme ++ (creds ++ '@' :: rest) ∨
      ∃ secret location, (readCredentials (significant creds)).2 = some secret ∧
        maskCredentials (opening scheme ++ (creds ++ '@' :: rest)) =
          opening scheme ++ ((readCredentials (significant creds)).1 ++
            ':' :: (List.replicate secret.length filler ++ '@' :: location)) := by
  rw [maskCredentials_opening hscheme]
  cases hu : Uri.parse? scheme.toList (creds ++ '@' :: rest) with
  | none => exact Or.inl rfl
  | some u =>
    obtain ⟨hschemeEq, hread⟩ := Uri.credentials_of_parse? hu
    rw [Uri.splitAuthority_append_at hcreds hrest] at hread
    cases hpassword : u.password with
    | none => exact Or.inl (by simp [hpassword])
    | some secret =>
      refine Or.inr ⟨secret, u.renderLocation, ?_, ?_⟩
      · rw [hread, hpassword]
      · simp [hpassword, render_maskPassword hpassword, hschemeEq, hread, opening]

/-- The first colon of a user name with a password: what stands before it, and what stands between it
and the password. -/
theorem exists_first_colon (user : List Char) :
    ∃ name before, ':' ∉ name ∧
      ∀ more, user ++ ':' :: more = name ++ ':' :: (before ++ more) := by
  have hmem : ':' ∈ user ++ [':'] := by simp
  obtain ⟨name, before, heq, hname⟩ := List.eq_append_cons_of_mem hmem
  refine ⟨name, before, hname, ?_⟩
  intro more
  calc user ++ ':' :: more = (user ++ [':']) ++ more := by simp
    _ = name ++ ':' :: (before ++ more) := by rw [heq]; simp

/-- A password of letters and digits ends the encoded password. -/
theorem readCredentials_password (hname : ':' ∉ name)
    (hsplit : ∀ more, user ++ ':' :: more = name ++ ':' :: (before ++ more))
    (hp : IsPassword n password) (hn : 0 < n) :
    readCredentials (significant (user ++ ':' :: password)) =
      (encodeCredential (significant name),
        some (encodeCredential (significant before) ++ password)) := by
  have hfree : ':' ∉ significant name := fun hmem => hname (Uri.mem_of_mem_significant hmem)
  have hlong : significant before ++ password ≠ [] := by simp [hp.ne_nil hn]
  rw [hsplit, Uri.significant_append, Uri.significant_cons (by decide), Uri.significant_append,
    hp.significant_eq, Uri.readCredentials_append_colon hfree hlong, Uri.encodeCredential_append,
    Uri.encodeCredential_of_alphanum hp.alphanum]

section Credentials

variable (huser : ∀ c ∈ user, endsAuthority c = false) (hrest : '@' ∉ rest)
  (hp : IsPassword n password)

include huser hrest hp

theorem parse?_password (scheme : List Char) :
    Uri.parse? scheme (user ++ ':' :: (password ++ '@' :: rest)) =
      (parseHosted? scheme rest).map
        (·.withCredentials (significant (user ++ ':' :: password))) := by
  have hcreds : ∀ c ∈ user ++ ':' :: password, endsAuthority c = false := by
    intro c hc
    rcases List.mem_append.1 hc with hc | hc
    · exact huser c hc
    · rcases List.mem_cons.1 hc with rfl | hc
      · decide
      · exact hp.endsAuthority_eq c hc
  have hne : significant (user ++ ':' :: password) ≠ [] := by
    simp [Uri.significant_cons (show Uri.isIgnored ':' = false by decide)]
  rw [← Uri.parse?_append_at hcreds hne hrest]
  simp

/-- Where what follows the at sign cannot be read, the password stays as it is. -/
theorem maskCredentials_of_unreadable (hscheme : scheme ∈ schemes)
    (h : parseHosted? scheme.toList rest = none) :
    maskCredentials (uriChars scheme user password rest) = uriChars scheme user password rest := by
  rw [uriChars, maskCredentials_opening hscheme, parse?_password huser hrest hp, h]
  rfl

/-- Where what follows the at sign can be read, the password is shown by its length only. -/
theorem maskCredentials_of_readable (hscheme : scheme ∈ schemes) (hn : 0 < n) (hname : ':' ∉ name)
    (hsplit : ∀ more, user ++ ':' :: more = name ++ ':' :: (before ++ more))
    (h : parseHosted? scheme.toList rest = some u) :
    maskCredentials (uriChars scheme user password rest) =
      opening scheme ++ (encodeCredential (significant name) ++ ':' ::
        (List.replicate ((encodeCredential (significant before)).length + n) filler ++
          '@' :: u.renderLocation)) := by
  have hread := readCredentials_password hname hsplit hp hn
  have hpassword : (u.withCredentials (significant (user ++ ':' :: password))).password =
      some (encodeCredential (significant before) ++ password) := by
    rw [Uri.withCredentials, hread]
  have hnamed : (u.withCredentials (significant (user ++ ':' :: password))).user =
      encodeCredential (significant name) := by
    rw [Uri.withCredentials, hread]
  have hkept : u.scheme = scheme.toList := by
    obtain ⟨hparse, -⟩ := Option.filter_eq_some_iff.1 h
    exact (Uri.credentials_of_parse? hparse).1
  rw [uriChars, maskCredentials_opening hscheme, parse?_password huser hrest hp, h]
  simp only [Option.map_some]
  rw [if_pos (by rw [hpassword]; rfl), render_maskPassword hpassword, hnamed, List.length_append,
    hp.length_eq]
  change u.scheme ++ _ ++ (_ ++ ':' :: (_ ++ '@' :: u.renderLocation)) = _
  rw [hkept, opening]

end Credentials

theorem append_sep_inj {sep : Char} {xs ys more other : List Char} (hxs : sep ∉ xs)
    (hys : sep ∉ ys) (h : xs ++ sep :: more = ys ++ sep :: other) : xs = ys ∧ more = other := by
  have hcut := congrArg (Text.cutAt sep) h
  rw [Uri.cutAt_append_sep hxs, Uri.cutAt_append_sep hys] at hcut
  obtain ⟨hheads, htails⟩ := Prod.mk.inj hcut
  exact ⟨hheads, Option.some.inj htails⟩

theorem at_notMem_mask (k : Nat) : '@' ∉ List.replicate k filler := by
  intro hmem
  exact absurd (List.eq_of_mem_replicate hmem) (by decide)

/-- A password that is still there is told apart from a mask by its first character, as long as the
mask is longer than what stands between the first colon and the password. -/
theorem unmasked_ne_masked {k : Nat} {location : List Char} (hname : ':' ∉ name)
    (hsplit : ∀ more, user ++ ':' :: more = name ++ ':' :: (before ++ more))
    (hk : (encodeCredential (significant before)).length < k) (more : List Char) :
    user ++ ':' :: (passwordWord ++ more) ≠
      encodeCredential (significant name) ++
        ':' :: (List.replicate k filler ++ '@' :: location) := by
  intro h
  rw [hsplit, passwordWord_eq] at h
  have htails := (append_sep_inj hname (Uri.colon_notMem_encodeCredential _) h).2
  rcases List.append_eq_append_iff.1 htails with ⟨gap, hmask, hpassword⟩ | ⟨gap, hbefore, hat⟩
  · -- the password starts inside the mask or at the at sign
    cases gap with
    | nil => exact absurd (List.cons.inj hpassword).1 (by decide)
    | cons c gap =>
      have hc : c = filler := by
        have hmem : c ∈ List.replicate k filler := hmask ▸ by simp
        exact List.eq_of_mem_replicate hmem
      rw [hc] at hpassword
      exact absurd (List.cons.inj hpassword).1 (by decide)
  · -- the mask stands before the password, which needs more room than there is
    have hmask : significant (List.replicate k filler) = List.replicate k filler := by
      apply Uri.significant_eq_self
      intro c hc
      rw [List.eq_of_mem_replicate hc]
      decide
    have hle := Uri.length_le_encodeCredential (significant before)
    rw [hbefore, Uri.significant_append, hmask] at hle hk
    simp only [List.length_append, List.length_replicate] at hle hk
    omega

theorem exists_last_at {text : List Char} (h : '@' ∈ text) :
    ∃ front back, text = front ++ '@' :: back ∧ '@' ∉ back := by
  obtain ⟨back, front, heq, hback⟩ := List.eq_append_cons_of_mem (List.mem_reverse.2 h)
  refine ⟨front.reverse, back.reverse, ?_, by simpa using hback⟩
  rw [← List.reverse_reverse text, heq]
  simp

/-- The password that ends earlier credentials is shorter in encoded form than the one that runs on
over an at sign. -/
theorem length_secret_lt {front back secret : List Char} (hname : ':' ∉ name)
    (hsplit : ∀ more, front ++ '@' :: back ++ ':' :: more = name ++ ':' :: (before ++ more))
    (hn : 0 < n) (hsecret : (readCredentials (significant front)).2 = some secret) :
    secret.length < (encodeCredential (significant before)).length + n := by
  have hp : IsPassword n (List.replicate n 'a') := isPassword_replicate n (by decide)
  have hread := congrArg Prod.snd (readCredentials_password hname hsplit hp hn)
  rw [List.append_assoc, Uri.significant_append, Uri.readCredentials_append hsecret] at hread
  have hlengths := congrArg List.length (Option.some.inj hread)
  have hat : 1 ≤ (significant ('@' :: back ++ ':' :: List.replicate n 'a')).length := by
    rw [List.cons_append, Uri.significant_cons (by decide), List.length_cons]
    omega
  have hle := Uri.length_le_encodeCredential
    (significant ('@' :: back ++ ':' :: List.replicate n 'a'))
  simp only [List.length_append, List.length_replicate] at hlengths
  omega

/-- A text whose password lost its at sign is never shown like one whose password is masked. -/
theorem maskCredentials_ne_masked (hscheme : scheme ∈ schemes)
    (huser : ∀ c ∈ user, endsAuthority c = false) (hname : ':' ∉ name)
    (hsplit : ∀ more, user ++ ':' :: more = name ++ ':' :: (before ++ more)) (hn : 0 < n)
    (hmore : '@' ∉ passwordWord ++ more) (location : List Char) :
    maskCredentials (opening scheme ++ (user ++ ':' :: (passwordWord ++ more))) ≠
      opening scheme ++ (encodeCredential (significant name) ++ ':' ::
        (List.replicate ((encodeCredential (significant before)).length + n) filler ++
          '@' :: location)) := by
  have hunmasked : user ++ ':' :: (passwordWord ++ more) ≠
      encodeCredential (significant name) ++ ':' ::
        (List.replicate ((encodeCredential (significant before)).length + n) filler ++
          '@' :: location) :=
    unmasked_ne_masked hname hsplit (by omega) more
  intro h
  by_cases hat : '@' ∈ user
  · -- an at sign in the user name takes the place of the lost one
    obtain ⟨front, back, rfl, hback⟩ := exists_last_at hat
    have hfront : ∀ c ∈ front, endsAuthority c = false := by
      intro c hc
      exact huser c (List.mem_append_left _ hc)
    have hrest : '@' ∉ back ++ ':' :: (passwordWord ++ more) := by
      simp only [List.mem_append, List.mem_cons, not_or]
      exact ⟨hback, by decide, by simpa using hmore⟩
    have hjoin : front ++ '@' :: back ++ ':' :: (passwordWord ++ more) =
        front ++ '@' :: (back ++ ':' :: (passwordWord ++ more)) := by simp
    rw [hjoin] at h hunmasked
    rcases maskCredentials_append_at hscheme hfront hrest with
      hsame | ⟨secret, other, hsecret, hshown⟩
    · rw [hsame] at h
      exact hunmasked (List.append_cancel_left h)
    · rw [hshown] at h
      have hfree : ':' ∉ (readCredentials (significant front)).1 :=
        Uri.colon_notMem_encodeCredential _
      have hmasks := (append_sep_inj hfree (Uri.colon_notMem_encodeCredential _)
        (List.append_cancel_left h)).2
      have hlengths := congrArg List.length
        (append_sep_inj (at_notMem_mask _) (at_notMem_mask _) hmasks).1
      rw [List.length_replicate, List.length_replicate] at hlengths
      exact absurd hlengths (Nat.ne_of_lt (length_secret_lt hname hsplit hn hsecret))
  · have hfree : '@' ∉ user ++ ':' :: (passwordWord ++ more) := by
      simp only [List.mem_append, List.mem_cons, not_or]
      exact ⟨hat, by decide, by simpa using hmore⟩
    rw [maskCredentials_of_notMem hscheme hfree] at h
    exact hunmasked (List.append_cancel_left h)

end SessionLayer.Dsn
