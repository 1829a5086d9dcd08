import Gatehouse.Text.Decimal

/-!
What the strict decimal reader gives back.

A run of digits that reads at all reads as the number its digits write (`digits_eq_ok`), so a
number written in decimal, sign included, reads back as itself whenever it reads
(`eq_of_i64?_toString`): the reader may refuse a number outside its range, but never answers
with another one. A run of digits whose number stays within the bound does read
(`digits_of_le`), since the value read so far never exceeds the value of all the digits; so
every signed 64-bit number reads back (`i64?_toString`).

An unsigned reader accepts exactly the texts that write a number in decimal (`Writes`: an
optional `+`, then one or more digits, leading zeros allowed) whose number is within its bound
(`parseNat_eq_ok_iff`): digits that read are digits (`digits_isDigit`), and a value read from
within the bound stays within it (`digits_le`). A text writes at most one number
(`Writes.unique`), and a text the reader refuses writes none within its bound
(`not_writes_of_parseNat_error`).
-/

namespace Gatehouse.Text.Decimal

/-- A run of digits read onto `acc` that does not fail is the number the digits write after
`acc`. -/
theorem digits_eq_ok {limit acc r : Nat} {overflow : Fault} {cs : List Char}
    (h : digits limit overflow acc cs = .ok r) : r = Nat.ofDigitChars 10 cs acc := by
  induction cs generalizing acc with
  | nil =>
    cases h
    rfl
  | cons c rest ih =>
    simp only [digits] at h
    split at h
    · split at h
      · cases h
      · rw [ih h, Nat.ofDigitChars_cons, Nat.mul_comm]
        rfl
    · cases h

/-- Reading digits onto a running value never makes it smaller. -/
theorem le_ofDigitChars (ds : List Char) (init : Nat) : init ≤ Nat.ofDigitChars 10 ds init := by
  rw [Nat.ofDigitChars_eq_ofDigitChars_zero]
  exact Nat.le_add_right_of_le (Nat.le_mul_of_pos_left init (Nat.pow_pos (by decide)))

/-- A run of digits whose number stays within the bound reads as that number. -/
theorem digits_of_le {limit acc : Nat} {overflow : Fault} {cs : List Char}
    (hd : ∀ c ∈ cs, c.isDigit = true) (h : Nat.ofDigitChars 10 cs acc ≤ limit) :
    digits limit overflow acc cs = .ok (Nat.ofDigitChars 10 cs acc) := by
  induction cs generalizing acc with
  | nil => rfl
  | cons c rest ih =>
    rw [Nat.ofDigitChars_cons] at h ⊢
    have hnext : acc * 10 + (c.toNat - 48) = 10 * acc + (c.toNat - '0'.toNat) := by
      rw [Nat.mul_comm]
      rfl
    -- the value read so far is at most the value of all the digits, so it never passes the bound
    have hle := le_ofDigitChars rest (10 * acc + (c.toNat - '0'.toNat))
    simp only [digits, hd c List.mem_cons_self, if_true]
    rw [hnext, if_neg (by omega)]
    exact ih (fun x hx => hd x (List.mem_cons_of_mem _ hx)) h

/-- The decimal digits of a number read back as the number, whatever the bound. -/
theorem digits_toDigits {limit n r : Nat} {overflow : Fault}
    (h : digits limit overflow 0 (Nat.toDigits 10 n) = .ok r) : r = n :=
  (digits_eq_ok h).trans Nat.ofDigitChars_ten_toDigits

/-- A text that starts with a digit reads as a run of digits, unsigned. -/
theorem parseInt_of_digit {lo hi : Nat} {s : String} {d : Char} {ds : List Char}
    (hs : s.toList = d :: ds) (hd : d.isDigit = true) :
    parseInt lo hi s = (digits hi .tooLarge 0 (d :: ds)).map Int.ofNat := by
  have hplus : d ≠ '+' := by rintro rfl; cases hd
  have hminus : d ≠ '-' := by rintro rfl; cases hd
  unfold parseInt
  rw [hs]
  -- every pattern before the last is empty or starts with a sign, and a digit is neither
  split
  all_goals first
    | rfl
    | (rename_i heq; cases heq <;> contradiction)

/-- A minus sign before a digit reads as a negative run of digits. -/
theorem parseInt_of_minus {lo hi : Nat} {s : String} {d : Char} {ds : List Char}
    (hs : s.toList = '-' :: d :: ds) :
    parseInt lo hi s = (digits lo .tooSmall 0 (d :: ds)).map fun n => -(n : Int) := by
  unfold parseInt
  rw [hs]
  rfl

/-- The decimal digits of a number: a digit first. -/
theorem exists_toDigits_digit (m : Nat) :
    ∃ d ds, Nat.toDigits 10 m = d :: ds ∧ d.isDigit = true := by
  have hne : Nat.toDigits 10 m ≠ [] := Nat.toDigits_ne_nil
  obtain ⟨d, ds, hds⟩ := List.exists_cons_of_ne_nil hne
  have hmem : d ∈ Nat.toDigits 10 m := hds ▸ List.mem_cons_self
  exact ⟨d, ds, hds, Nat.isDigit_of_mem_toDigits (by decide) (by decide) hmem⟩

/-- The decimal digits of a number within the bound read as the number. -/
theorem digits_toDigits_of_le {limit n : Nat} (overflow : Fault) (h : n ≤ limit) :
    digits limit overflow 0 (Nat.toDigits 10 n) = .ok n := by
  have hd : ∀ c ∈ Nat.toDigits 10 n, c.isDigit = true :=
    fun c hc => Nat.isDigit_of_mem_toDigits (by decide) (by decide) hc
  rw [digits_of_le hd (by rw [Nat.ofDigitChars_ten_toDigits]; exact h),
    Nat.ofDigitChars_ten_toDigits]

/-- Every signed 64-bit number, written in decimal, reads back as itself. -/
theorem i64?_toString {n : Int} (hlo : -9223372036854775808 ≤ n)
    (hhi : n ≤ 9223372036854775807) : i64? (toString n) = some n := by
  unfold i64? parseI64
  cases n with
  | ofNat m =>
    obtain ⟨d, ds, hds, hd⟩ := exists_toDigits_digit m
    have hs : (toString (Int.ofNat m)).toList = d :: ds := Nat.toList_repr.trans hds
    rw [parseInt_of_digit hs hd, ← hds,
      digits_toDigits_of_le .tooLarge (by simp only [Int.ofNat_eq_natCast] at hhi; omega)]
    rfl
  | negSucc m =>
    obtain ⟨d, ds, hds, hd⟩ := exists_toDigits_digit (m + 1)
    have hs : (toString (Int.negSucc m)).toList = '-' :: d :: ds := by
      show ("-" ++ Nat.repr (m + 1)).toList = _
      rw [String.toList_append, Nat.toList_repr, hds]
      rfl
    rw [parseInt_of_minus hs, ← hds,
      digits_toDigits_of_le .tooSmall (by rw [Int.negSucc_eq] at hlo; omega)]
    rfl

/-- An integer written in decimal reads back as itself, when it reads as a signed 64-bit
number at all. -/
theorem eq_of_i64?_toString {n x : Int} (h : i64? (toString n) = some x) : x = n := by
  unfold i64? parseI64 at h
  cases n with
  | ofNat m =>
    obtain ⟨d, ds, hds, hd⟩ := exists_toDigits_digit m
    have hs : (toString (Int.ofNat m)).toList = d :: ds := Nat.toList_repr.trans hds
    rw [parseInt_of_digit hs hd, ← hds] at h
    cases hr : digits 9223372036854775807 .tooLarge 0 (Nat.toDigits 10 m) with
    | error e =>
      rw [hr] at h
      cases h
    | ok r =>
      rw [hr] at h
      cases h
      rw [digits_toDigits hr]
  | negSucc m =>
    obtain ⟨d, ds, hds, hd⟩ := exists_toDigits_digit (m + 1)
    have hs : (toString (Int.negSucc m)).toList = '-' :: d :: ds := by
      show ("-" ++ Nat.repr (m + 1)).toList = _
      rw [String.toList_append, Nat.toList_repr, hds]
      rfl
    rw [parseInt_of_minus hs, ← hds] at h
    cases hr : digits 9223372036854775808 .tooSmall 0 (Nat.toDigits 10 (m + 1)) with
    | error e =>
      rw [hr] at h
      cases h
    | ok r =>
      rw [hr] at h
      cases h
      rw [digits_toDigits hr]
      rfl

-- ============================================================ unsigned numbers

/-- A run of digits that reads holds digits only. -/
theorem digits_isDigit {limit acc r : Nat} {overflow : Fault} {cs : List Char}
    (h : digits limit overflow acc cs = .ok r) : ∀ c ∈ cs, c.isDigit = true := by
  induction cs generalizing acc with
  | nil => simp
  | cons c rest ih =>
    simp only [digits] at h
    split at h
    · rename_i hc
      split at h
      · cases h
      · intro x hx
        rcases List.mem_cons.1 hx with rfl | hx
        · exact hc
        · exact ih h x hx
    · cases h

/-- A run of digits read from within the bound stays within it. -/
theorem digits_le {limit acc r : Nat} {overflow : Fault} {cs : List Char}
    (h : digits limit overflow acc cs = .ok r) (hacc : acc ≤ limit) : r ≤ limit := by
  induction cs generalizing acc with
  | nil =>
    cases h
    exact hacc
  | cons c rest ih =>
    simp only [digits] at h
    split at h
    · split at h
      · cases h
      · exact ih h (by omega)
    · cases h

/-- A text that starts with a digit reads as a run of digits. -/
theorem parseNat_of_digit {hi : Nat} {s : String} {d : Char} {ds : List Char}
    (hs : s.toList = d :: ds) (hd : d.isDigit = true) :
    parseNat hi s = digits hi .tooLarge 0 (d :: ds) := by
  have hplus : d ≠ '+' := by rintro rfl; cases hd
  have hminus : d ≠ '-' := by rintro rfl; cases hd
  unfold parseNat
  rw [hs]
  -- every pattern before the last is empty or starts with a sign, and a digit is neither
  split
  all_goals first
    | rfl
    | (rename_i heq; cases heq <;> contradiction)

/-- A plus sign before a digit reads as the run of digits after it. -/
theorem parseNat_of_plus {hi : Nat} {s : String} {d : Char} {ds : List Char}
    (hs : s.toList = '+' :: d :: ds) : parseNat hi s = digits hi .tooLarge 0 (d :: ds) := by
  unfold parseNat
  rw [hs]
  rfl

/-- A text writes `n` in decimal: an optional `+`, then one or more ASCII digits, leading zeros
allowed, whose value is `n`. -/
def Writes (s : String) (n : Nat) : Prop :=
  ∃ ds, (s.toList = ds ∨ s.toList = '+' :: ds) ∧ ds ≠ [] ∧ (∀ c ∈ ds, c.isDigit = true) ∧
    Nat.ofDigitChars 10 ds 0 = n

/-- A text reads as a number of `0 .. hi` exactly when it writes that number in decimal. -/
theorem parseNat_eq_ok_iff {hi n : Nat} {s : String} :
    parseNat hi s = .ok n ↔ Writes s n ∧ n ≤ hi := by
  constructor
  · intro h
    unfold parseNat at h
    split at h
    · cases h
    · cases h
    · cases h
    · -- a plus sign, then a run of digits that is not empty
      rename_i rest hne hs
      exact ⟨⟨rest, .inr hs, hne, digits_isDigit h, (digits_eq_ok h).symm⟩, digits_le h (Nat.zero_le _)⟩
    · rename_i hne _ _ _
      exact ⟨⟨s.toList, .inl rfl, hne, digits_isDigit h, (digits_eq_ok h).symm⟩,
        digits_le h (Nat.zero_le _)⟩
  · rintro ⟨⟨ds, hs, hne, hd, rfl⟩, hle⟩
    obtain ⟨d, ds', rfl⟩ := List.exists_cons_of_ne_nil hne
    rcases hs with hs | hs
    · rw [parseNat_of_digit hs (hd d List.mem_cons_self)]
      exact digits_of_le hd hle
    · rw [parseNat_of_plus hs]
      exact digits_of_le hd hle

/-- A text writes at most one number: a reader whose bound admits both reads each of them. -/
theorem Writes.unique {s : String} {n m : Nat} (hn : Writes s n) (hm : Writes s m) : n = m := by
  have h1 := parseNat_eq_ok_iff.2 ⟨hn, Nat.le_max_left n m⟩
  have h2 := parseNat_eq_ok_iff.2 ⟨hm, Nat.le_max_right n m⟩
  rw [h1] at h2
  exact Except.ok.inj h2

/-- A text the reader refuses writes no number within its bound. -/
theorem not_writes_of_parseNat_error {hi n : Nat} {s : String} {f : Fault}
    (hp : parseNat hi s = .error f) (hw : Writes s n) (hn : n ≤ hi) : False := by
  rw [parseNat_eq_ok_iff.2 ⟨hw, hn⟩] at hp
  cases hp

end Gatehouse.Text.Decimal
