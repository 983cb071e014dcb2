import Mathlib.Data.Nat.Digits.Defs
import SessionLayer.Text.Numeral

/-!
# What numerals denote

`Denotes` says which integer a text is a decimal numeral of: at least one digit, with an optional sign
before them. Reading a number of a bounded range succeeds with exactly the integers of that range which
the text denotes. That the range is checked after every digit makes no difference to that, since a number
does not become smaller when a digit is appended.
-/

set_option autoImplicit false

namespace SessionLayer.Text

/-- The number that decimal digits stand for, the leading one first. -/
def digitsValue (digits : List Char) : Nat :=
  Nat.ofDigits 10 (digits.map fun c => c.toNat - '0'.toNat).reverse

/-- At least one character, and decimal digits only. -/
def IsDigits (text : List Char) : Prop :=
  text ≠ [] ∧ ∀ c ∈ text, '0' ≤ c ∧ c ≤ '9'

/-- A text is a decimal numeral of an integer. -/
inductive Denotes : List Char → Int → Prop
  | unsigned {digits : List Char} : IsDigits digits → Denotes digits (digitsValue digits)
  | plus {digits : List Char} : IsDigits digits → Denotes ('+' :: digits) (digitsValue digits)
  | minus {digits : List Char} : IsDigits digits → Denotes ('-' :: digits) (-(digitsValue digits : Int))

/-- The number that digits after others stand for. -/
def extend (n : Nat) (digits : List Char) : Nat :=
  digits.foldl (fun n c => 10 * n + (c.toNat - '0'.toNat)) n

theorem digitsValue_eq (digits : List Char) : digitsValue digits = extend 0 digits := by
  rw [digitsValue, Nat.ofDigits_eq_foldr, List.foldr_reverse, List.foldl_map]
  simp only [extend, Nat.cast_id, Nat.add_comm]

theorem le_extend (n : Nat) (digits : List Char) : n ≤ extend n digits := by
  induction digits generalizing n with
  | nil => exact Nat.le_refl n
  | cons c rest ih =>
    have h := ih (10 * n + (c.toNat - '0'.toNat))
    simp only [extend, List.foldl_cons] at h ⊢
    omega

/-- Digits are read one by one as long as the number fits. -/
theorem readDigits_eq_ok_iff {limit : Nat} {beyond : NumeralFault} {text : List Char} {n m : Nat}
    (hn : n ≤ limit) :
    readDigits limit beyond text n = .ok m ↔
      (∀ c ∈ text, '0' ≤ c ∧ c ≤ '9') ∧ extend n text = m ∧ m ≤ limit := by
  induction text generalizing n with
  | nil =>
    simp only [readDigits, extend, List.foldl_nil, Except.ok.injEq, List.not_mem_nil, false_implies,
      implies_true, true_and]
    constructor
    · rintro rfl
      exact ⟨rfl, hn⟩
    · exact fun h => h.1
  | cons c rest ih =>
    rw [readDigits, digitValue?]
    by_cases hc : '0' ≤ c ∧ c ≤ '9'
    · rw [if_pos hc]
      dsimp only
      have hextend : extend n (c :: rest) = extend (10 * n + (c.toNat - '0'.toNat)) rest := rfl
      by_cases hlimit : limit < 10 * n + (c.toNat - '0'.toNat)
      · rw [if_pos hlimit]
        have hle := le_extend (10 * n + (c.toNat - '0'.toNat)) rest
        constructor
        · exact nofun
        · rintro ⟨-, rfl, hm⟩
          omega
      · rw [if_neg hlimit, ih (Nat.not_lt.1 hlimit), List.forall_mem_cons, hextend]
        tauto
    · rw [if_neg hc]
      constructor
      · exact nofun
      · rintro ⟨hall, -⟩
        exact absurd (hall c List.mem_cons_self) hc

theorem readDigits_zero_eq_ok_iff {limit : Nat} {beyond : NumeralFault} {text : List Char} {m : Nat}
    (htext : text ≠ []) :
    readDigits limit beyond text 0 = .ok m ↔ IsDigits text ∧ digitsValue text = m ∧ m ≤ limit := by
  rw [readDigits_eq_ok_iff (Nat.zero_le limit), digitsValue_eq, IsDigits]
  tauto

/-! ## Signs -/

theorem not_denotes_nil (z : Int) : ¬ Denotes [] z := by
  rintro (h : Denotes [] z)
  cases h with
  | unsigned hdigits => exact hdigits.1 rfl

theorem not_isDigits_sign {sign : Char} (hsign : sign = '+' ∨ sign = '-') (text : List Char) :
    ¬ IsDigits (sign :: text) := by
  rintro ⟨-, hall⟩
  have hdigit := hall sign List.mem_cons_self
  rcases hsign with rfl | rfl
  · exact absurd hdigit (by decide)
  · exact absurd hdigit (by decide)

theorem denotes_plus_iff {digits : List Char} {z : Int} :
    Denotes ('+' :: digits) z ↔ IsDigits digits ∧ z = digitsValue digits := by
  constructor
  · intro h
    cases h with
    | unsigned hdigits => exact absurd hdigits (not_isDigits_sign (Or.inl rfl) digits)
    | plus hdigits => exact ⟨hdigits, rfl⟩
  · rintro ⟨hdigits, rfl⟩
    exact .plus hdigits

theorem denotes_minus_iff {digits : List Char} {z : Int} :
    Denotes ('-' :: digits) z ↔ IsDigits digits ∧ z = -(digitsValue digits : Int) := by
  constructor
  · intro h
    cases h with
    | unsigned hdigits => exact absurd hdigits (not_isDigits_sign (Or.inr rfl) digits)
    | minus hdigits => exact ⟨hdigits, rfl⟩
  · rintro ⟨hdigits, rfl⟩
    exact .minus hdigits

theorem denotes_unsigned_iff {text : List Char} {z : Int} (hplus : ∀ digits, text ≠ '+' :: digits)
    (hminus : ∀ digits, text ≠ '-' :: digits) :
    Denotes text z ↔ IsDigits text ∧ z = digitsValue text := by
  constructor
  · intro h
    cases h with
    | unsigned hdigits => exact ⟨hdigits, rfl⟩
    | plus hdigits => exact absurd rfl (hplus _)
    | minus hdigits => exact absurd rfl (hminus _)
  · rintro ⟨hdigits, rfl⟩
    exact .unsigned hdigits

theorem exists_ok_iff {ε α β : Type} {outcome : Except ε α} {f : α → β} {y : β} :
    outcome.map f = .ok y ↔ ∃ x, outcome = .ok x ∧ f x = y := by
  cases outcome with
  | error fault => simp [Except.map]
  | ok x => simp [Except.map]

/-- Reading from 0 on refuses every text that starts with a minus sign. -/
theorem readUnsigned_eq_ok_iff {limit n : Nat} {text : List Char} :
    readUnsigned limit text = .ok n ↔
      Denotes text n ∧ n ≤ limit ∧ ∀ digits, text ≠ '-' :: digits := by
  fun_cases readUnsigned limit text with
  | case1 =>
    have h := not_denotes_nil n
    simp [h]
  | case2 =>
    have h : ¬ Denotes ['+'] n := fun h => (denotes_plus_iff.1 h).1.1 rfl
    simp [h]
  | case3 digits hdigits =>
    rw [readDigits_zero_eq_ok_iff hdigits, denotes_plus_iff]
    constructor
    · rintro ⟨hall, rfl, hlimit⟩
      exact ⟨⟨hall, rfl⟩, hlimit, nofun⟩
    · rintro ⟨⟨hall, hvalue⟩, hlimit, -⟩
      exact ⟨hall, (Int.ofNat.inj hvalue).symm, hlimit⟩
  | case4 _ hnil _ hplus =>
    rw [readDigits_zero_eq_ok_iff hnil]
    constructor
    · rintro ⟨hall, rfl, hlimit⟩
      refine ⟨.unsigned hall, hlimit, ?_⟩
      rintro digits rfl
      exact not_isDigits_sign (Or.inr rfl) digits hall
    · rintro ⟨hdenotes, hlimit, hminus⟩
      obtain ⟨hall, hvalue⟩ := (denotes_unsigned_iff hplus hminus).1 hdenotes
      exact ⟨hall, (Int.ofNat.inj hvalue).symm, hlimit⟩

/-- A number from 1 on is read where the text denotes one that is not beyond the limit. -/
theorem readPositive_eq_ok_iff {limit n : Nat} {text : List Char} :
    readPositive limit text = .ok n ↔ Denotes text n ∧ 0 < n ∧ n ≤ limit := by
  have hpositive : readPositive limit text = .ok n ↔ readUnsigned limit text = .ok n ∧ 0 < n := by
    unfold readPositive
    split
    · rename_i hzero
      rw [hzero, Except.ok.injEq]
      constructor
      · exact nofun
      · rintro ⟨rfl, h⟩
        exact absurd h (Nat.lt_irrefl 0)
    · rename_i hnonzero
      refine ⟨fun h => ⟨h, Nat.pos_of_ne_zero ?_⟩, fun h => h.1⟩
      rintro rfl
      exact hnonzero h
  rw [hpositive, readUnsigned_eq_ok_iff]
  constructor
  · rintro ⟨⟨hdenotes, hlimit, -⟩, hn⟩
    exact ⟨hdenotes, hn, hlimit⟩
  · rintro ⟨hdenotes, hn, hlimit⟩
    refine ⟨⟨hdenotes, hlimit, ?_⟩, hn⟩
    rintro digits rfl
    have hvalue := (denotes_minus_iff.1 hdenotes).2
    omega

/-- A number with a sign is read where the text denotes one of the range. -/
theorem readSigned_eq_ok_iff {limit : Nat} {z : Int} {text : List Char} :
    readSigned limit text = .ok z ↔ Denotes text z ∧ -(limit : Int) - 1 ≤ z ∧ z ≤ limit := by
  have unsigned : ∀ {digits : List Char}, digits ≠ [] →
      ((readDigits limit .tooLarge digits 0).map Int.ofNat = .ok z ↔
        (IsDigits digits ∧ z = digitsValue digits) ∧ -(limit : Int) - 1 ≤ z ∧ z ≤ limit) := by
    intro digits hdigits
    rw [exists_ok_iff]
    constructor
    · rintro ⟨n, hread, rfl⟩
      obtain ⟨hall, rfl, hlimit⟩ := (readDigits_zero_eq_ok_iff hdigits).1 hread
      refine ⟨⟨hall, rfl⟩, ?_, ?_⟩
      · simp only [Int.ofNat_eq_natCast]
        omega
      · exact Int.ofNat_le.2 hlimit
    · rintro ⟨⟨hall, rfl⟩, -, hlimit⟩
      exact ⟨_, (readDigits_zero_eq_ok_iff hdigits).2 ⟨hall, rfl, Int.ofNat_le.1 hlimit⟩, rfl⟩
  fun_cases readSigned limit text with
  | case1 =>
    have h := not_denotes_nil z
    simp [h]
  | case2 =>
    have h : ¬ Denotes ['+'] z := fun h => (denotes_plus_iff.1 h).1.1 rfl
    simp [h]
  | case3 =>
    have h : ¬ Denotes ['-'] z := fun h => (denotes_minus_iff.1 h).1.1 rfl
    simp [h]
  | case4 digits hdigits => rw [unsigned hdigits, denotes_plus_iff]
  | case5 digits hdigits =>
    rw [denotes_minus_iff]
    constructor
    · intro h
      cases hread : readDigits (limit + 1) .tooSmall digits 0 with
      | error fault =>
        rw [hread] at h
        exact nomatch h
      | ok n =>
        rw [hread] at h
        cases h
        obtain ⟨hall, rfl, hlimit⟩ := (readDigits_zero_eq_ok_iff hdigits).1 hread
        refine ⟨⟨hall, rfl⟩, ?_⟩
        beta_reduce
        omega
    · rintro ⟨⟨hall, rfl⟩, hlimit, -⟩
      rw [(readDigits_zero_eq_ok_iff hdigits).2 ⟨hall, rfl, by omega⟩]
      rfl
  | case6 _ hnil _ _ hplus hminus => rw [unsigned hnil, denotes_unsigned_iff hplus hminus]

end SessionLayer.Text
