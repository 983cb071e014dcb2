import SessionLayer.Uri

/-!
# Credentials in front of a host

`Uri.parse?` looks for the last at sign of the authority. Where a text has its only at sign after some
credentials, reading it comes down to reading what follows the at sign, which must name a host, and to
reading the credentials by themselves.
-/

set_option autoImplicit false

namespace SessionLayer.Uri

variable {scheme text creds rest : List Char} {u : Uri}

/-! ## Characters that do not count -/

/-- A text without the characters that are dropped wherever they stand. -/
def significant (text : List Char) : List Char :=
  text.filter fun c => !isIgnored c

@[simp] theorem significant_append (xs ys : List Char) :
    significant (xs ++ ys) = significant xs ++ significant ys := by
  simp [significant]

theorem significant_cons {c : Char} (hc : isIgnored c = false) (xs : List Char) :
    significant (c :: xs) = c :: significant xs := by
  simp [significant, hc]

theorem significant_eq_self (h : ∀ c ∈ text, isIgnored c = false) : significant text = text := by
  rw [significant, List.filter_eq_self]
  intro c hc
  simp [h c hc]

theorem mem_of_mem_significant {c : Char} (h : c ∈ significant text) : c ∈ text :=
  (List.mem_filter.1 h).1

theorem mem_of_mem_clean {c : Char} (h : c ∈ clean text) : c ∈ text := by
  have hmem := (List.mem_filter.1 h).1
  rw [List.mem_reverse] at hmem
  exact List.mem_reverse.1 (List.dropWhile_subset isTrailing hmem)

/-- An at sign stops what is dropped at the end, so that only what follows it can be trailing. -/
theorem clean_append_at (xs ys : List Char) :
    clean (xs ++ '@' :: ys) = significant xs ++ '@' :: clean ys := by
  have hat : isTrailing '@' = false := by decide
  have hkept : isIgnored '@' = false := by decide
  have hdrop : ((xs ++ '@' :: ys).reverse.dropWhile isTrailing).reverse =
      xs ++ '@' :: (ys.reverse.dropWhile isTrailing).reverse := by
    rw [List.reverse_append, List.reverse_cons, List.append_assoc, List.dropWhile_append]
    split
    · rename_i hempty
      rw [List.isEmpty_iff.1 hempty]
      simp [hat]
    · simp
  rw [clean, hdrop]
  simp [clean, significant, hkept]

/-! ## The last at sign -/

theorem cutLastAt_of_notMem (h : '@' ∉ text) : cutLastAt text = none := by
  simp [cutLastAt, h]

theorem cutLastAt_append_at (xs : List Char) {ys : List Char} (h : '@' ∉ ys) :
    cutLastAt (xs ++ '@' :: ys) = some (xs, ys) := by
  have hys : ∀ c ∈ ys.reverse, (c != '@') = true := by
    intro c hc
    have hne : c ≠ '@' := by
      rintro rfl
      exact h (List.mem_reverse.1 hc)
    simpa using hne
  have hreverse : (xs ++ '@' :: ys).reverse = ys.reverse ++ '@' :: xs.reverse := by simp
  rw [cutLastAt, if_pos (by simp), hreverse, List.dropWhile_append_of_pos hys,
    List.takeWhile_append_of_pos hys]
  simp

/-! ## Parts of a text -/

/-- What stands before the path, the query and the fragment. -/
def authority (text : List Char) : List Char :=
  (clean text).takeWhile fun c => !endsAuthority c

/-- The path, the query and the fragment. -/
def afterAuthority (text : List Char) : List Char :=
  (clean text).dropWhile fun c => !endsAuthority c

/-- The credentials, which may be empty, and the host with its port. -/
def splitAuthority (text : List Char) : List Char × List Char :=
  (cutLastAt (authority text)).getD ([], authority text)

theorem at_notMem_authority (h : '@' ∉ text) : '@' ∉ authority text :=
  fun hmem => h (mem_of_mem_clean (List.takeWhile_subset _ hmem))

theorem splitAuthority_of_notMem (h : '@' ∉ text) : splitAuthority text = ([], authority text) := by
  rw [splitAuthority, cutLastAt_of_notMem (at_notMem_authority h), Option.getD_none]

theorem significant_not_endsAuthority (hcreds : ∀ c ∈ creds, endsAuthority c = false) :
    ∀ c ∈ significant creds, (!endsAuthority c) = true := by
  intro c hc
  rw [hcreds c (mem_of_mem_significant hc), Bool.not_false]

theorem splitAuthority_append_at (hcreds : ∀ c ∈ creds, endsAuthority c = false)
    (hrest : '@' ∉ rest) :
    splitAuthority (creds ++ '@' :: rest) = (significant creds, authority rest) := by
  have hauthority : authority (creds ++ '@' :: rest) = significant creds ++ '@' :: authority rest := by
    rw [authority, clean_append_at,
      List.takeWhile_append_of_pos (significant_not_endsAuthority hcreds)]
    exact congrArg _ (List.takeWhile_cons_of_pos (by decide))
  rw [splitAuthority, hauthority, cutLastAt_append_at _ (at_notMem_authority hrest),
    Option.getD_some]

theorem afterAuthority_append_at (hcreds : ∀ c ∈ creds, endsAuthority c = false) :
    afterAuthority (creds ++ '@' :: rest) = afterAuthority rest := by
  rw [afterAuthority, clean_append_at,
    List.dropWhile_append_of_pos (significant_not_endsAuthority hcreds)]
  exact List.dropWhile_cons_of_pos (by decide)

/-! ## Reading -/

/-- A URI with what a text says in place of its credentials. -/
def withCredentials (u : Uri) (creds : List Char) : Uri :=
  { u with user := (readCredentials creds).1, password := (readCredentials creds).2 }

/-- Reading goes by the parts: what the host, the port and the tail say, with the credentials. -/
theorem parse?_eq (scheme text : List Char) :
    parse? scheme text =
      (readLocation (splitAuthority text).2).bind fun (host, port, left) =>
        if host.isEmpty ∧ !(splitAuthority text).1.isEmpty then none
        else
          let (segments, query, fragment) := readTail (left ++ afterAuthority text)
          some (withCredentials
            { scheme, user := [], password := none, host, port, segments, query, fragment }
            (splitAuthority text).1) := by
  rw [parse?]
  simp only [splitAuthority, authority, afterAuthority, withCredentials]
  split <;> rename_i hlocation <;> rw [hlocation] <;> rfl

theorem credentials_of_parse? (hu : parse? scheme text = some u) :
    u.scheme = scheme ∧ readCredentials (splitAuthority text).1 = (u.user, u.password) := by
  rw [parse?_eq] at hu
  obtain ⟨⟨host, port, left⟩, -, hu⟩ := Option.bind_eq_some_iff.1 hu
  simp only at hu
  split at hu
  · cases hu
  · cases hu
    exact ⟨rfl, rfl⟩

/-- Reads a text that names a host. -/
def parseHosted? (scheme text : List Char) : Option Uri :=
  (parse? scheme text).filter fun u => !u.host.isEmpty

/-- Credentials before the only at sign are read by themselves, and what follows it is read as if there
were none; only the host may then not be empty. -/
theorem parse?_append_at (hcreds : ∀ c ∈ creds, endsAuthority c = false)
    (hne : significant creds ≠ []) (hrest : '@' ∉ rest) :
    parse? scheme (creds ++ '@' :: rest) =
      (parseHosted? scheme rest).map (·.withCredentials (significant creds)) := by
  rw [parseHosted?, parse?_eq, parse?_eq, splitAuthority_append_at hcreds hrest,
    splitAuthority_of_notMem hrest, afterAuthority_append_at hcreds]
  cases readLocation (authority rest) with
  | none => rfl
  | some location =>
    obtain ⟨host, port, left⟩ := location
    by_cases hhost : host = []
    · simp [hhost, hne, withCredentials, Option.filter]
    · simp [hhost, withCredentials, Option.filter]

/-- The written form from the host on. -/
def renderLocation (u : Uri) : List Char :=
  u.host ++ renderPart ':' (u.port.map (Nat.toDigits 10)) ++ Path.render u.segments
    ++ renderPart '?' u.query ++ renderPart '#' u.fragment

theorem render_eq (u : Uri) :
    u.render = u.scheme ++ [':', '/', '/'] ++ (u.renderCredentials ++ u.renderLocation) := by
  simp [render, renderLocation]

/-! ## Encoding -/

/-- The encoded form of a user name or a password. -/
def encodeCredential (text : List Char) : List Char :=
  Text.percentEncode credentialReserved text

@[simp] theorem encodeCredential_append (xs ys : List Char) :
    encodeCredential (xs ++ ys) = encodeCredential xs ++ encodeCredential ys := by
  simp [encodeCredential, Text.percentEncode]

/-- Encoding never takes a character away. -/
theorem length_le_encodeCredential (text : List Char) :
    text.length ≤ (encodeCredential text).length := by
  induction text with
  | nil => simp
  | cons c rest ih =>
    have hone : 1 ≤ (encodeCredential [c]).length := by
      simp only [encodeCredential, Text.percentEncode, List.flatMap_cons, List.flatMap_nil,
        List.append_nil]
      split
      · obtain ⟨b, bs, hbytes⟩ :=
          List.exists_cons_of_ne_nil (String.utf8EncodeChar_ne_nil (c := c))
        simp [hbytes, Text.percentByte]
      · simp
    have hsplit : encodeCredential (c :: rest) = encodeCredential [c] ++ encodeCredential rest :=
      encodeCredential_append [c] rest
    rw [hsplit, List.length_append, List.length_cons]
    omega

theorem upperHexDigit_ne_colon {n : Nat} (h : n < 16) : Text.upperHexDigit n ≠ ':' := by
  have hall : ∀ m : Fin 16, Text.upperHexDigit m ≠ ':' := by decide
  exact hall ⟨n, h⟩

/-- Every colon is encoded, and no encoded form has one. -/
theorem colon_notMem_encodeCredential (text : List Char) : ':' ∉ encodeCredential text := by
  intro h
  obtain ⟨c, -, hc⟩ := List.mem_flatMap.1 h
  split at hc
  · obtain ⟨b, -, hb⟩ := List.mem_flatMap.1 hc
    have hbyte := b.toNat_lt
    simp only [Text.percentByte, List.mem_cons, List.not_mem_nil, or_false] at hb
    rcases hb with hb | hb | hb
    · exact absurd hb (by decide)
    · exact upperHexDigit_ne_colon (by omega) hb.symm
    · exact upperHexDigit_ne_colon (by omega) hb.symm
  · rename_i hkept
    rw [← List.mem_singleton.1 hc] at hkept
    exact hkept (by decide)

theorem toNat_of_alphanum {c : Char} (h : c.isAlphanum = true) :
    0x30 ≤ c.toNat ∧ c.toNat ≤ 0x7A := by
  delta Char.isAlphanum Char.isAlpha Char.isUpper Char.isLower Char.isDigit at h
  simp only [Bool.or_eq_true, Bool.and_eq_true, decide_eq_true_eq, ge_iff_le,
    UInt32.le_iff_toNat_le] at h
  change ((65 ≤ c.toNat ∧ c.toNat ≤ 90) ∨ (97 ≤ c.toNat ∧ c.toNat ≤ 122)) ∨
    (48 ≤ c.toNat ∧ c.toNat ≤ 57) at h
  omega

/-- A letter or a digit stands for itself. -/
theorem encodeCredential_of_alphanum (h : ∀ c ∈ text, c.isAlphanum = true) :
    encodeCredential text = text := by
  induction text with
  | nil => rfl
  | cons c rest ih =>
    have hc := h c List.mem_cons_self
    have hreserved : credentialReserved.all (fun r => !r.isAlphanum) = true := by decide
    have hplain : Text.needsEncoding credentialReserved c = false := by
      have hnot : c ∉ credentialReserved := by
        intro hmem
        have hother := List.all_eq_true.1 hreserved c hmem
        simp [hc] at hother
      have hrange := toNat_of_alphanum hc
      simp [Text.needsEncoding, Text.isControl, hnot]
      omega
    have hone : encodeCredential [c] = [c] := by simp [encodeCredential, Text.percentEncode, hplain]
    have hsplit : encodeCredential (c :: rest) = encodeCredential [c] ++ encodeCredential rest :=
      encodeCredential_append [c] rest
    rw [hsplit, hone, ih fun d hd => h d (List.mem_cons_of_mem c hd)]
    rfl

/-! ## Credentials -/

theorem cutAt_append_sep {sep : Char} {xs : List Char} (h : sep ∉ xs) (ys : List Char) :
    Text.cutAt sep (xs ++ sep :: ys) = (xs, some ys) := by
  induction xs with
  | nil => simp [Text.cutAt]
  | cons c xs ih =>
    obtain ⟨hc, hxs⟩ := List.ne_and_not_mem_of_not_mem_cons h
    rw [List.cons_append, Text.cutAt, if_neg hc.symm, ih hxs]

theorem cutAt_of_notMem {sep : Char} (h : sep ∉ text) : Text.cutAt sep text = (text, none) := by
  induction text with
  | nil => rfl
  | cons c rest ih =>
    obtain ⟨hc, hrest⟩ := List.ne_and_not_mem_of_not_mem_cons h
    rw [Text.cutAt, if_neg hc.symm, ih hrest]

/-- The first colon ends the user name; the password is what follows it, other colons included. -/
theorem readCredentials_append_colon {name secret : List Char} (hname : ':' ∉ name)
    (hsecret : secret ≠ []) :
    readCredentials (name ++ ':' :: secret) =
      (encodeCredential name, some (encodeCredential secret)) := by
  obtain ⟨c, rest, rfl⟩ := List.exists_cons_of_ne_nil hsecret
  simp [readCredentials, cutAt_append_sep hname, encodeCredential]

/-- What follows credentials with a password belongs to the password. -/
theorem readCredentials_append {secret : List Char}
    (h : (readCredentials creds).2 = some secret) (more : List Char) :
    (readCredentials (creds ++ more)).2 = some (secret ++ encodeCredential more) := by
  by_cases hcolon : ':' ∈ creds
  · obtain ⟨name, tail, rfl, hname⟩ := List.eq_append_cons_of_mem hcolon
    by_cases htail : tail = []
    · rw [htail, readCredentials, cutAt_append_sep hname] at h
      cases h
    · have hlong : tail ++ more ≠ [] := by simp [htail]
      rw [readCredentials_append_colon hname htail] at h
      rw [List.append_assoc, List.cons_append, readCredentials_append_colon hname hlong,
        encodeCredential_append, ← Option.some.inj h]
  · rw [readCredentials, cutAt_of_notMem hcolon] at h
    cases h

end SessionLayer.Uri
