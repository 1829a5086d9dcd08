import Gatehouse.Json.Reader
import Gatehouse.Json.Writer
import Gatehouse.Proofs.Text.Decimal
import Gatehouse.Proofs.Text.Utf8

/-!
The reader takes back what the writer writes, for objects of scalar fields.

`parse_render_obj` is the round trip: the text `Value.render` writes for an object whose
fields are strings or integers from `-2^63` to `2^64 - 1` parses back to that object, with
the fields in their order and any names, repeated ones included. It is built bottom-up, one
layer of the reader at a time, each lemma saying where the reader stands once a piece of
written text is read and what it holds:

* string literals (`scanText_quote`): each character as `escapeChar` writes it, plain,
  short-escaped or as a `\u00xx` escape, is read back into its UTF-8 octets, and the octets
  decode to the string;
* integer literals (`readValue_int`): the decimal digits of `toString n` are read by
  `readNumber` as `n`, provided the next byte cannot continue the number (`NumberEnd`);
* fields and objects (`readField_scalar`, `readFields_more`, `readValue_obj`): one field at
  a time, with the fuel each layer of the reader takes counted out, two per field.
-/

namespace Gatehouse.Json

open Text

-- ============================================================ string literals

/-- A byte a string literal's reader takes as it stands into its text. -/
def Plain (b : UInt8) : Prop := b ≠ 0x22 ∧ b ≠ 0x5C ∧ 0x20 ≤ b

theorem scanTextLoop_plain (bs : List UInt8) (hbs : ∀ b ∈ bs, Plain b) (fuel : Nat)
    (r : List UInt8) (p : Nat) (acc : List UInt8) :
    scanTextLoop (fuel + bs.length) ⟨bs ++ r, p⟩ acc
      = scanTextLoop fuel ⟨r, p + bs.length⟩ (bs.reverse ++ acc) := by
  induction bs generalizing p acc with
  | nil => rfl
  | cons b bs ih =>
    obtain ⟨h1, h2, h3⟩ := hbs b (List.mem_cons_self ..)
    rw [List.length_cons, ← Nat.add_assoc, scanTextLoop]
    simp only [List.cons_append]
    rw [if_neg (by simpa using h1), if_neg (by simpa using h2),
      if_neg (by simpa [UInt8.lt_iff_toNat_lt, UInt8.le_iff_toNat_le] using h3),
      ih (fun x hx => hbs x (List.mem_cons_of_mem _ hx))]
    simp only [List.reverse_cons, List.append_assoc, List.singleton_append]
    congr 2
    omega

/-- Each lower-case hex digit is one byte, read back as its value. -/
theorem hexDigit_byte : ∀ k, k < 16 →
    Utf8.encodeChar (hexDigit k) = [(hexDigit k).toNat.toUInt8]
      ∧ hexVal (hexDigit k).toNat.toUInt8 = some k := by
  decide

theorem hexVal_hexDigit {k : Nat} (hk : k < 16) :
    ∃ b, Utf8.encodeChar (hexDigit k) = [b] ∧ hexVal b = some k :=
  ⟨_, hexDigit_byte k hk⟩

theorem scanTextLoop_escape {x y : UInt8} (h : simpleEscape x = some y) (fuel : Nat)
    (r : List UInt8) (p : Nat) (acc : List UInt8) :
    scanTextLoop (fuel + 1) ⟨0x5C :: x :: r, p⟩ acc = scanTextLoop fuel ⟨r, p + 2⟩ (y :: acc) := by
  simp [scanTextLoop, textEscape, h]

theorem plain_of_toNat {b : UInt8} (h1 : b.toNat ≠ 0x22) (h2 : b.toNat ≠ 0x5C)
    (h3 : 0x20 ≤ b.toNat) : Plain b := by
  refine ⟨fun e => h1 (by simp [e]), fun e => h2 (by simp [e]), ?_⟩
  rw [UInt8.le_iff_toNat_le]
  simpa using h3

/-- A character written as it stands is read back byte by byte. -/
theorem plain_encodeChar {c : Char} (hq : c ≠ '"') (hb : c ≠ '\\') (hc : 0x20 ≤ c.val.toNat) :
    ∀ b ∈ Utf8.encodeChar c, Plain b := by
  have hv : c.val.toNat < 0x110000 := by
    have := c.valid
    simp only [UInt32.isValidChar, Nat.isValidChar] at this
    omega
  have hq' : c.val.toNat ≠ 0x22 := fun e => hq (Char.ext (UInt32.toNat_inj.1 e))
  have hb' : c.val.toNat ≠ 0x5C := fun e => hb (Char.ext (UInt32.toNat_inj.1 e))
  intro b hmem
  unfold Utf8.encodeChar at hmem
  simp only at hmem
  split at hmem
  · simp only [List.mem_singleton] at hmem
    subst hmem
    exact plain_of_toNat (by rw [Utf8.toNat_toUInt8 (by omega)]; omega)
      (by rw [Utf8.toNat_toUInt8 (by omega)]; omega) (by rw [Utf8.toNat_toUInt8 (by omega)]; omega)
  · split at hmem
    · simp only [List.mem_cons, List.not_mem_nil, or_false] at hmem
      rcases hmem with rfl | rfl <;>
        exact plain_of_toNat (by rw [Utf8.toNat_toUInt8 (by omega)]; omega)
          (by rw [Utf8.toNat_toUInt8 (by omega)]; omega) (by rw [Utf8.toNat_toUInt8 (by omega)]; omega)
    · split at hmem
      · simp only [List.mem_cons, List.not_mem_nil, or_false] at hmem
        rcases hmem with rfl | rfl | rfl <;>
          exact plain_of_toNat (by rw [Utf8.toNat_toUInt8 (by omega)]; omega)
            (by rw [Utf8.toNat_toUInt8 (by omega)]; omega) (by rw [Utf8.toNat_toUInt8 (by omega)]; omega)
      · simp only [List.mem_cons, List.not_mem_nil, or_false] at hmem
        rcases hmem with rfl | rfl | rfl | rfl <;>
          exact plain_of_toNat (by rw [Utf8.toNat_toUInt8 (by omega)]; omega)
            (by rw [Utf8.toNat_toUInt8 (by omega)]; omega) (by rw [Utf8.toNat_toUInt8 (by omega)]; omega)

theorem readHex4_of_hexVal {a b d e : UInt8} {w x y z : Nat} (ha : hexVal a = some w)
    (hb : hexVal b = some x) (hd : hexVal d = some y) (he : hexVal e = some z)
    (r : List UInt8) (p : Nat) :
    readHex4 ⟨a :: b :: d :: e :: r, p⟩ = .ok (w * 4096 + x * 256 + y * 16 + z, ⟨r, p + 4⟩) := by
  simp [readHex4, ha, hb, hd, he]

theorem textUnicode_of_lt {c c1 : Cursor} {n : Nat} (h : readHex4 c = .ok (n, c1))
    (hn : n < 0xD800) : textUnicode c = .ok (codeBytes n, c1) := by
  simp only [textUnicode, h, bind, Except.bind]
  rw [if_neg (by omega), if_pos (by omega)]
  rfl

theorem scanTextLoop_backslash (fuel : Nat) (r : List UInt8) (p : Nat) (acc : List UInt8) :
    scanTextLoop (fuel + 1) ⟨0x5C :: r, p⟩ acc =
      match textEscape ⟨r, p + 1⟩ with
      | .ok (bytes, c2) => scanTextLoop fuel c2 (bytes.reverse ++ acc)
      | .error f => .error f := by
  rfl

/-- A `\\u00` escape of a control character is read back as that character. -/
theorem scanTextLoop_control {c : Char} (hc : c.val.toNat < 0x20) (fuel : Nat)
    (r : List UInt8) (p : Nat) (acc : List UInt8) :
    ∃ p', scanTextLoop (fuel + 6)
        ⟨Utf8.encode ['\\', 'u', '0', '0', hexDigit (c.val.toNat / 16),
          hexDigit (c.val.toNat % 16)] ++ r, p⟩ acc
      = scanTextLoop (fuel + 5) ⟨r, p'⟩ ((Utf8.encodeChar c).reverse ++ acc) := by
  obtain ⟨b1, he1, hv1⟩ := hexVal_hexDigit (k := c.val.toNat / 16) (by omega)
  obtain ⟨b2, he2, hv2⟩ := hexVal_hexDigit (k := c.val.toNat % 16) (by omega)
  have hx := readHex4_of_hexVal (a := 0x30) (b := 0x30) (w := 0) (x := 0) (by decide) (by decide) hv1 hv2 r (p + 2)
  rw [show 0 * 4096 + 0 * 256 + c.val.toNat / 16 * 16 + c.val.toNat % 16 = c.val.toNat by omega]
    at hx
  have hu := textUnicode_of_lt hx (by omega)
  refine ⟨p + 2 + 4, ?_⟩
  have henc : Utf8.encode ['\\', 'u', '0', '0', hexDigit (c.val.toNat / 16),
      hexDigit (c.val.toNat % 16)] = [0x5C, 0x75, 0x30, 0x30, b1, b2] := by
    simp only [Utf8.encode, List.flatMap_cons, List.flatMap_nil, he1, he2]
    rfl
  rw [henc, show fuel + 6 = (fuel + 5) + 1 from rfl, List.cons_append, scanTextLoop_backslash]
  have ht : textEscape ⟨0x75 :: 0x30 :: 0x30 :: b1 :: b2 :: r, p + 1⟩
      = textUnicode ⟨0x30 :: 0x30 :: b1 :: b2 :: r, p + 2⟩ := by
    simp [textEscape, simpleEscape]
  simp only [List.cons_append, List.nil_append] at ht ⊢
  have hch : Char.ofNat c.val.toNat = c := Char.ofNat_toNat c
  rw [ht, hu, codeBytes, hch]

theorem scanTextLoop_short {c x : Char} {u v : UInt8} (he : Utf8.encode ['\\', x] = [0x5C, u])
    (hs : simpleEscape u = some v) (hc : Utf8.encodeChar c = [v]) (fuel : Nat)
    (r : List UInt8) (p : Nat) (acc : List UInt8) :
    ∃ f ≥ fuel, ∃ p', scanTextLoop (fuel + (Utf8.encode ['\\', x]).length)
        ⟨Utf8.encode ['\\', x] ++ r, p⟩ acc
      = scanTextLoop f ⟨r, p'⟩ ((Utf8.encodeChar c).reverse ++ acc) := by
  rw [he, hc]
  simp only [List.length_cons, List.length_nil, List.cons_append, List.nil_append,
    List.reverse_cons, List.reverse_nil]
  exact ⟨fuel + 1, by omega, p + 2, scanTextLoop_escape hs (fuel + 1) r p acc⟩

/-- Each written character, escaped or not, is read back as itself. -/
theorem scanTextLoop_escapeChar (c : Char) (fuel : Nat) (r : List UInt8) (p : Nat)
    (acc : List UInt8) :
    ∃ f ≥ fuel, ∃ p', scanTextLoop (fuel + (Utf8.encode (escapeChar c)).length)
        ⟨Utf8.encode (escapeChar c) ++ r, p⟩ acc
      = scanTextLoop f ⟨r, p'⟩ ((Utf8.encodeChar c).reverse ++ acc) := by
  unfold escapeChar
  split
  · subst_vars
    exact scanTextLoop_short (u := 0x22) (v := 0x22) (by decide) (by decide) (by decide) fuel r p acc
  split
  · subst_vars
    exact scanTextLoop_short (u := 0x5C) (v := 0x5C) (by decide) (by decide) (by decide) fuel r p acc
  split
  · subst_vars
    exact scanTextLoop_short (u := 0x6E) (v := 0x0A) (by decide) (by decide) (by decide) fuel r p acc
  split
  · subst_vars
    exact scanTextLoop_short (u := 0x72) (v := 0x0D) (by decide) (by decide) (by decide) fuel r p acc
  split
  · subst_vars
    exact scanTextLoop_short (u := 0x74) (v := 0x09) (by decide) (by decide) (by decide) fuel r p acc
  split
  · rename_i h
    obtain rfl : c = '\x08' := Char.ext h
    exact scanTextLoop_short (u := 0x62) (v := 0x08) (by decide) (by decide) (by decide) fuel r p acc
  split
  · rename_i h
    obtain rfl : c = '\x0C' := Char.ext h
    exact scanTextLoop_short (u := 0x66) (v := 0x0C) (by decide) (by decide) (by decide) fuel r p acc
  split
  · rename_i hlt
    have hn : c.val.toNat < 0x20 := by
      rw [UInt32.lt_iff_toNat_lt] at hlt
      simpa using hlt
    obtain ⟨p', hp'⟩ := scanTextLoop_control hn fuel r p acc
    obtain ⟨b1, he1, -⟩ := hexVal_hexDigit (k := c.val.toNat / 16) (by omega)
    obtain ⟨b2, he2, -⟩ := hexVal_hexDigit (k := c.val.toNat % 16) (by omega)
    have hl : (Utf8.encode ['\\', 'u', '0', '0', hexDigit (c.val.toNat / 16),
        hexDigit (c.val.toNat % 16)]).length = 6 := by
      simp only [Utf8.encode, List.flatMap_cons, List.flatMap_nil, he1, he2]
      rfl
    rw [hl]
    exact ⟨fuel + 5, by omega, p', hp'⟩
  · rename_i hq hb _ _ _ _ _ hlt
    have hn : 0x20 ≤ c.val.toNat := by
      rw [UInt32.lt_iff_toNat_lt] at hlt
      simpa using hlt
    have hplain := plain_encodeChar hq hb hn
    have he : Utf8.encode [c] = Utf8.encodeChar c := by simp [Utf8.encode]
    rw [he]
    exact ⟨fuel, le_refl _, _, scanTextLoop_plain _ hplain fuel r p acc⟩

theorem scanTextLoop_escaped (cs : List Char) (fuel : Nat) (r : List UInt8) (p : Nat)
    (acc : List UInt8) :
    ∃ f ≥ fuel, ∃ p', scanTextLoop (fuel + (Utf8.encode (cs.flatMap escapeChar)).length)
        ⟨Utf8.encode (cs.flatMap escapeChar) ++ r, p⟩ acc
      = scanTextLoop f ⟨r, p'⟩ ((Utf8.encode cs).reverse ++ acc) := by
  induction cs generalizing fuel p acc with
  | nil => exact ⟨fuel, le_refl _, p, rfl⟩
  | cons c cs ih =>
    rw [List.flatMap_cons, Utf8.encode_append, List.length_append, List.append_assoc,
      show fuel + ((Utf8.encode (escapeChar c)).length
          + (Utf8.encode (cs.flatMap escapeChar)).length)
        = (fuel + (Utf8.encode (cs.flatMap escapeChar)).length)
          + (Utf8.encode (escapeChar c)).length by omega]
    obtain ⟨f1, hf1, p1, h1⟩ := scanTextLoop_escapeChar c
      (fuel + (Utf8.encode (cs.flatMap escapeChar)).length)
      (Utf8.encode (cs.flatMap escapeChar) ++ r) p acc
    obtain ⟨f, hf, p', h2⟩ := ih (f1 - (Utf8.encode (cs.flatMap escapeChar)).length) p1
      ((Utf8.encodeChar c).reverse ++ acc)
    rw [Nat.sub_add_cancel (by omega)] at h2
    refine ⟨f, by omega, p', ?_⟩
    rw [h1, h2]
    simp [Utf8.encode, List.reverse_append]

/-- A string literal as the writer quotes it is read back as the string. -/
theorem scanText_quote (s : String) (r : List UInt8) (p : Nat) :
    ∃ p', scanText ⟨Utf8.encode (s.toList.flatMap escapeChar) ++ 0x22 :: r, p⟩
      = .ok (s, ⟨r, p'⟩) := by
  obtain ⟨f, hf, p1, h⟩ := scanTextLoop_escaped s.toList (r.length + 2) (0x22 :: r) p []
  refine ⟨p1 + 1, ?_⟩
  rw [scanText, show (Utf8.encode (s.toList.flatMap escapeChar) ++ 0x22 :: r).length + 1
    = r.length + 2 + (Utf8.encode (s.toList.flatMap escapeChar)).length by simp; omega]
  rw [h, show f = (f - 1) + 1 by omega]
  simp [scanTextLoop, Utf8.toString?, Utf8.decode_encode]

-- ============================================================ integer literals

/-- What may follow a number for it to end where it does: no digit, point or exponent. -/
def NumberEnd (r : List UInt8) : Prop :=
  ∀ b ∈ r.head?, isDigit b = false ∧ b ≠ 0x2E ∧ b ≠ 0x65 ∧ b ≠ 0x45

theorem encodeChar_digit {d : Char} (hd : d.isDigit = true) :
    Utf8.encodeChar d = [d.toNat.toUInt8] := by
  have h := Char.isDigit_iff_toNat.1 hd
  have h9 : ('9' : Char).toNat = 57 := rfl
  have hv : d.val.toNat < 0x80 := by
    change d.toNat < 0x80
    omega
  unfold Utf8.encodeChar
  rw [if_pos hv]
  rfl

theorem isDigit_byte {d : Char} (hd : d.isDigit = true) :
    isDigit d.toNat.toUInt8 = true ∧ digitVal d.toNat.toUInt8 = d.toNat - 48 := by
  have h := Char.isDigit_iff_toNat.1 hd
  have h0 : ('0' : Char).toNat = 48 := rfl
  have h9 : ('9' : Char).toNat = 57 := rfl
  have ht : d.toNat.toUInt8.toNat = d.toNat := Utf8.toNat_toUInt8 (by omega)
  refine ⟨?_, by rw [digitVal, ht]⟩
  simp only [isDigit, Bool.and_eq_true, decide_eq_true_eq, UInt8.le_iff_toNat_le, ht,
    UInt8.reduceToNat]
  omega

theorem encode_digits {ds : List Char} (hds : ∀ d ∈ ds, d.isDigit = true) :
    Utf8.encode ds = ds.map (·.toNat.toUInt8) := by
  induction ds with
  | nil => rfl
  | cons d ds ih =>
    simp only [Utf8.encode, List.flatMap_cons, List.map_cons] at ih ⊢
    rw [encodeChar_digit (hds d (List.mem_cons_self ..)),
      ih (fun x hx => hds x (List.mem_cons_of_mem _ hx))]
    rfl

theorem integerDigits_digits {ds : List Char} (hds : ∀ d ∈ ds, d.isDigit = true)
    {r : List UInt8} (hr : NumberEnd r) (fuel p acc : Nat) (hf : ds.length ≤ fuel)
    (hmax : Nat.ofDigitChars 10 ds acc ≤ u64Max) :
    integerDigits fuel (ds.map (·.toNat.toUInt8) ++ r) p acc 0
      = (Nat.ofDigitChars 10 ds acc, 0, ⟨r, p + ds.length⟩) := by
  induction ds generalizing fuel p acc with
  | nil =>
    cases fuel with
    | zero => rfl
    | succ f =>
      cases r with
      | nil => rfl
      | cons b r' =>
        have hb := (hr b rfl).1
        simp [integerDigits, hb]
  | cons d ds ih =>
    obtain ⟨f, rfl⟩ : ∃ f, fuel = f + 1 := ⟨fuel - 1, by simp at hf; omega⟩
    obtain ⟨hdig, hval⟩ := isDigit_byte (hds d (List.mem_cons_self ..))
    rw [Nat.ofDigitChars_cons] at hmax ⊢
    have hle := Decimal.le_ofDigitChars ds (10 * acc + (d.toNat - '0'.toNat))
    have h0 : ('0' : Char).toNat = 48 := rfl
    simp only [List.map_cons, List.cons_append, integerDigits, hdig, ↓reduceIte, hval]
    rw [if_neg (by simp only [gt_iff_lt, Nat.lt_irrefl, decide_false, Bool.false_or,
      decide_eq_true_eq, not_lt]; omega)]
    rw [show acc * 10 + (d.toNat - 48) = 10 * acc + (d.toNat - '0'.toNat) by omega,
      ih (fun x hx => hds x (List.mem_cons_of_mem _ hx)) f (p + 1) _ (by simp at hf; omega) hmax]
    simp only [List.length_cons, Prod.mk.injEq, Cursor.mk.injEq, true_and]
    omega

theorem ofDigitChars_lt {ds : List Char} (hds : ∀ d ∈ ds, d.isDigit = true) (init : Nat) :
    Nat.ofDigitChars 10 ds init < 10 ^ ds.length * (init + 1) := by
  induction ds generalizing init with
  | nil => simp
  | cons d ds ih =>
    have h := Char.isDigit_iff_toNat.1 (hds d (List.mem_cons_self ..))
    have h0 : ('0' : Char).toNat = 48 := rfl
    have h9 : ('9' : Char).toNat = 57 := rfl
    rw [Nat.ofDigitChars_cons, List.length_cons, Nat.pow_succ]
    have := ih (fun x hx => hds x (List.mem_cons_of_mem _ hx)) (10 * init + (d.toNat - 48))
    rw [h0]
    calc Nat.ofDigitChars 10 ds (10 * init + (d.toNat - 48))
        < 10 ^ ds.length * (10 * init + (d.toNat - 48) + 1) := this
      _ ≤ 10 ^ ds.length * (10 * (init + 1)) := Nat.mul_le_mul_left _ (by omega)
      _ = 10 ^ ds.length * 10 * (init + 1) := (Nat.mul_assoc _ _ _).symm

/-- Decimal digits start with a zero only for zero itself. -/
theorem toDigits_eq_zero_cons {m : Nat} {ds : List Char} (h : Nat.toDigits 10 m = '0' :: ds) :
    m = 0 ∧ ds = [] := by
  have hm := Nat.ofDigitChars_ten_toDigits (n := m)
  have hdig : ∀ d ∈ ds, d.isDigit = true := fun d hd =>
    Nat.isDigit_of_mem_toDigits (by omega) (by omega) (h ▸ List.mem_cons_of_mem _ hd)
  rw [h, Nat.ofDigitChars_cons] at hm
  simp only [Nat.mul_zero, Nat.zero_add, Nat.sub_self] at hm
  cases ds with
  | nil => exact ⟨by simpa using hm.symm, rfl⟩
  | cons d ds' =>
    exfalso
    have hlt := ofDigitChars_lt hdig 0
    rw [hm] at hlt
    have hlen := (Nat.length_toDigits_le_iff (b := 10) (n := m) (k := (d :: ds').length) (by omega)
      (by simp)).2 (by simpa using hlt)
    -- `m` would have one digit more than it is below the power of ten for
    rw [h] at hlen
    simp only [List.length_cons] at hlen
    omega

/-- The tail of a number literal: the literal ends where its digits end. -/
theorem readNumber_toDigits (negative : Bool) {m : Nat} (hm : m ≤ u64Max) {r : List UInt8}
    (hr : NumberEnd r) (start : Cursor) (p : Nat) :
    ∃ p', readNumber negative start ⟨Utf8.encode (Nat.toDigits 10 m) ++ r, p⟩ =
      if !negative then .ok (.int m, ⟨r, p'⟩)
      else if 1 ≤ m ∧ m ≤ 2 ^ 63 then .ok (.int (-(m : Int)), ⟨r, p'⟩)
      else .ok (.num (.float (literalBetween start ⟨r, p'⟩) none), ⟨r, p'⟩) := by
  have hdig : ∀ d ∈ Nat.toDigits 10 m, d.isDigit = true := fun d hd =>
    Nat.isDigit_of_mem_toDigits (by omega) (by omega) hd
  have hval := Nat.ofDigitChars_ten_toDigits (n := m)
  rw [encode_digits hdig]
  cases hds : Nat.toDigits 10 m with
  | nil => exact absurd hds Nat.toDigits_ne_nil
  | cons d ds =>
    rw [hds] at hdig hval
    have hd := hdig d (List.mem_cons_self ..)
    have hdsd : ∀ e ∈ ds, e.isDigit = true := fun e he => hdig e (List.mem_cons_of_mem _ he)
    obtain ⟨hbd, hbv⟩ := isDigit_byte hd
    refine ⟨p + 1 + ds.length, ?_⟩
    unfold readNumber
    simp only [List.map_cons, List.cons_append, hbd, Bool.not_true, Bool.false_eq_true,
      ↓reduceIte]
    generalize hpar : (if (d.toNat.toUInt8 == 48) = true then _ else _) = parsed
    have hparsed : parsed = .ok (m, 0, ⟨r, p + 1 + ds.length⟩) := by
      rw [← hpar]
      by_cases h0 : d = '0'
      · -- a leading zero is the whole numeral, and no digit may follow it
        subst h0
        obtain ⟨rfl, rfl⟩ := toDigits_eq_zero_cons hds
        cases r with
        | nil => rfl
        | cons b r' => simp [Cursor.peek?, (hr b rfl).1]
      · have hd' := Char.isDigit_iff_toNat.1 hd
        have hz : ('0' : Char).toNat = 48 := rfl
        have h9 : ('9' : Char).toNat = 57 := rfl
        rw [hz, h9] at hd'
        have hne : d.toNat.toUInt8 ≠ 48 := by
          intro h
          have h' := congrArg UInt8.toNat h
          simp only [Nat.toUInt8_eq, UInt8.toNat_ofNat', UInt8.reduceToNat] at h'
          exact h0 (Char.toNat_inj.1 (by omega))
        rw [Nat.ofDigitChars_cons, hz, Nat.mul_zero, Nat.zero_add] at hval
        have hlen : ds.length ≤ (List.map (fun x => x.toNat.toUInt8) ds ++ r).length := by simp
        rw [if_neg (by simpa using hne), hbv, integerDigits_digits hdsd hr _ _ _ hlen (by omega),
          hval]
    subst hparsed
    -- nothing after the digits starts a fraction or an exponent
    cases r with
    | nil => simp [Cursor.peek?]; rfl
    | cons b r' =>
      obtain ⟨-, h1, h2, h3⟩ := hr b rfl
      simp only [Cursor.peek?, List.head?_cons]
      split
      · next heq => exact absurd (Option.some.inj heq) h1
      · next heq => exact absurd (Option.some.inj heq) h2
      · next heq => exact absurd (Option.some.inj heq) h3
      · simp; rfl

-- ============================================================ scalar values

theorem ofString_quote (s : String) :
    Utf8.ofString (quote s) = 0x22 :: Utf8.encode (s.toList.flatMap escapeChar) ++ [0x22] := by
  simp only [Utf8.ofString, quote, String.toList_ofList, List.cons_append, Utf8.encode,
    List.flatMap_cons, List.flatMap_append, List.flatMap_nil, List.append_nil]
  rfl

theorem skipSpace_of_not_space {b : UInt8} (hb : isSpace b = false) (r : List UInt8) (p : Nat) :
    (⟨b :: r, p⟩ : Cursor).skipSpace = ⟨b :: r, p⟩ := by
  simp [Cursor.skipSpace, skipSpaceFrom, hb]

theorem readValue_str (s : String) (fuel : Nat) (r : List UInt8) (p : Nat) :
    ∃ p', readValue (fuel + 1) ⟨Utf8.ofString (quote s) ++ r, p⟩ = .ok (.str s, ⟨r, p'⟩) := by
  obtain ⟨p', hp⟩ := scanText_quote s r (p + 1)
  refine ⟨p', ?_⟩
  rw [ofString_quote, readValue]
  simp only [List.cons_append, List.append_assoc,
    skipSpace_of_not_space (by decide : isSpace 0x22 = false)]
  simp [Cursor.bump, isDigit, readString, hp]

theorem ofString_toString_int (n : Int) :
    Utf8.ofString (toString n) =
      (if n < 0 then [0x2D] else []) ++ Utf8.encode (Nat.toDigits 10 n.natAbs) := by
  cases n with
  | ofNat m =>
    show Utf8.encode (Nat.repr m).toList = _
    simp [Nat.toList_repr]
  | negSucc k =>
    show Utf8.encode ("-" ++ Nat.repr (k + 1)).toList = _
    simp only [String.toList_append, Utf8.encode_append, Nat.toList_repr]
    simp
    rfl

theorem ne_of_digit {b : UInt8} (hb : isDigit b = true) {x : UInt8}
    (hx : x.toNat < 0x30 ∨ 0x39 < x.toNat) : b ≠ x := by
  rintro rfl
  simp only [isDigit, Bool.and_eq_true, decide_eq_true_eq, UInt8.le_iff_toNat_le,
    UInt8.reduceToNat] at hb
  omega

theorem readValue_int {n : Int} (hn : -2 ^ 63 ≤ n ∧ n ≤ u64Max) {r : List UInt8}
    (hr : NumberEnd r) (fuel p : Nat) :
    ∃ p', readValue (fuel + 1) ⟨Utf8.ofString (toString n) ++ r, p⟩
      = .ok (.num (.int n), ⟨r, p'⟩) := by
  have hu : (u64Max : Int) = 2 ^ 64 - 1 := by simp [u64Max]
  have hdig : ∀ d ∈ Nat.toDigits 10 n.natAbs, d.isDigit = true := fun d hd =>
    Nat.isDigit_of_mem_toDigits (by omega) (by omega) hd
  rw [ofString_toString_int]
  by_cases hneg : n < 0
  · -- a minus sign, then the digits of the magnitude
    obtain ⟨p', hp⟩ := readNumber_toDigits true (m := n.natAbs) (by omega) hr
      ⟨0x2D :: (Utf8.encode (Nat.toDigits 10 n.natAbs) ++ r), p⟩ (p + 1)
    refine ⟨p', ?_⟩
    rw [readValue]
    simp only [hneg, if_true, List.cons_append, List.nil_append,
      skipSpace_of_not_space (by decide : isSpace 0x2D = false)]
    simp only [Cursor.bump, beq_self_eq_true, ↓reduceIte, hp]
    have h1 : 1 ≤ n.natAbs ∧ n.natAbs ≤ 2 ^ 63 := by omega
    have h2 : -(n.natAbs : Int) = n := by omega
    rw [if_neg (by decide), if_pos h1, h2]
    rfl
  · -- the digits alone, the first of them a digit byte
    obtain ⟨p', hp⟩ := readNumber_toDigits false (m := n.natAbs) (by omega) hr
      ⟨Utf8.encode (Nat.toDigits 10 n.natAbs) ++ r, p⟩ p
    refine ⟨p', ?_⟩
    have h2 : (n.natAbs : Int) = n := by omega
    obtain ⟨d, ds, hds⟩ : ∃ d ds, Nat.toDigits 10 n.natAbs = d :: ds := by
      cases h : Nat.toDigits 10 n.natAbs with
      | nil => exact absurd h Nat.toDigits_ne_nil
      | cons d ds => exact ⟨d, ds, rfl⟩
    obtain ⟨hbd, -⟩ := isDigit_byte (hdig d (by simp [hds]))
    rw [hds, encode_digits (hds ▸ hdig)] at hp ⊢
    rw [readValue]
    simp only [hneg, if_false, List.map_cons, List.nil_append, List.cons_append]
    rw [skipSpace_of_not_space (by
      simp [isSpace, ne_of_digit hbd (x := 0x20) (by decide), ne_of_digit hbd (x := 0x0A) (by decide),
        ne_of_digit hbd (x := 0x09) (by decide), ne_of_digit hbd (x := 0x0D) (by decide)])]
    simp only [beq_false_of_ne (ne_of_digit hbd (x := 0x6E) (by decide)),
      beq_false_of_ne (ne_of_digit hbd (x := 0x74) (by decide)),
      beq_false_of_ne (ne_of_digit hbd (x := 0x66) (by decide)),
      beq_false_of_ne (ne_of_digit hbd (x := 0x2D) (by decide)), Bool.false_eq_true,
      ↓reduceIte, hbd]
    simp only [List.map_cons, List.cons_append] at hp
    rw [hp, if_pos (by decide), h2]
    rfl

/-- The values the writer renders as one token that the reader takes back exactly. -/
def Scalar : Value → Prop
  | .str _ => True
  | .num (.int n) => -2 ^ 63 ≤ n ∧ n ≤ u64Max
  | _ => False

theorem readValue_scalar {v : Value} (hv : Scalar v) {r : List UInt8} (hr : NumberEnd r)
    (fuel p : Nat) :
    ∃ p', readValue (fuel + 1) ⟨Utf8.ofString v.render ++ r, p⟩ = .ok (v, ⟨r, p'⟩) := by
  match v, hv with
  | .str s, _ => exact readValue_str s fuel r p
  | .num (.int n), hn => exact readValue_int hn hr fuel p

-- ============================================================ objects

/-- One field as the writer puts it: its quoted name, a colon and its value. -/
def fieldText (f : String × Value) : String := quote f.1 ++ ":" ++ f.2.render

/-- The fields after the first as the writer puts them, each after a comma. -/
def moreFields : List (String × Value) → String
  | [] => ""
  | f :: fs => "," ++ fieldText f ++ moreFields fs

theorem renderFields_cons (f : String × Value) (fs : List (String × Value)) :
    renderFields (f :: fs) = fieldText f ++ moreFields fs := by
  obtain ⟨k, v⟩ := f
  cases fs with
  | nil => simp [renderFields, moreFields, fieldText]
  | cons g gs => simp [renderFields, moreFields, fieldText, renderFields_cons g gs, String.append_assoc]

theorem ofString_moreFields_close (fs : List (String × Value)) (r : List UInt8) :
    NumberEnd (Utf8.ofString (moreFields fs ++ "\x7d") ++ r) := by
  have hclose : Utf8.ofString "\x7d" = [0x7D] := rfl
  have hcomma : Utf8.ofString "," = [0x2C] := rfl
  cases fs with
  | nil =>
    rw [moreFields, String.empty_append, hclose]
    intro b hb
    obtain rfl : b = 0x7D := by simpa using hb.symm
    decide
  | cons f fs =>
    rw [moreFields, String.append_assoc, String.append_assoc, Utf8.ofString_append, hcomma]
    intro b hb
    obtain rfl : b = 0x2C := by simpa using hb.symm
    decide

theorem readField_scalar (k : String) {v : Value} (hv : Scalar v) {r : List UInt8}
    (hr : NumberEnd r) (fuel p : Nat) (acc : List (String × Value)) :
    ∃ p', readField (fuel + 2) ⟨Utf8.ofString (fieldText (k, v)) ++ r, p⟩ acc
      = readFields (fuel + 1) ⟨r, p'⟩ false ((k, v) :: acc) := by
  have hcolon : Utf8.ofString ":" = [0x3A] := rfl
  obtain ⟨p1, hkey⟩ := scanText_quote k (0x3A :: (Utf8.ofString v.render ++ r)) (p + 1)
  obtain ⟨p2, hval⟩ := readValue_scalar hv hr fuel (p1 + 1)
  refine ⟨p2, ?_⟩
  rw [fieldText, Utf8.ofString_append, Utf8.ofString_append, ofString_quote, hcolon, readField]
  simp only [List.cons_append, List.nil_append, List.append_assoc, Cursor.bump, hkey,
    skipSpace_of_not_space (by decide : isSpace 0x3A = false)]
  simp [hval]

theorem readFields_more (fs : List (String × Value)) (hfs : ∀ f ∈ fs, Scalar f.2)
    (r : List UInt8) (fuel p : Nat) (acc : List (String × Value)) :
    ∃ p', readFields (fuel + 2 * fs.length + 1)
        ⟨Utf8.ofString (moreFields fs ++ "\x7d") ++ r, p⟩ false acc
      = .ok (.obj (acc.reverse ++ fs), ⟨r, p'⟩) := by
  induction fs generalizing p acc with
  | nil =>
    have hclose : Utf8.ofString "\x7d" = [0x7D] := rfl
    refine ⟨p + 1, ?_⟩
    rw [moreFields, String.empty_append, hclose, readFields]
    simp [skipSpace_of_not_space (by decide : isSpace 0x7D = false), Cursor.bump]
  | cons f fs ih =>
    obtain ⟨k, v⟩ := f
    have hcomma : Utf8.ofString "," = [0x2C] := rfl
    obtain ⟨p1, hfield⟩ := readField_scalar k (hfs (k, v) (List.mem_cons_self ..))
      (ofString_moreFields_close fs r) (fuel + 2 * fs.length) (p + 1) acc
    obtain ⟨p2, hrest⟩ := ih (fun g hg => hfs g (List.mem_cons_of_mem _ hg)) p1 ((k, v) :: acc)
    refine ⟨p2, ?_⟩
    have hfuel : fuel + 2 * (fs.length + 1) + 1 = (fuel + 2 * fs.length + 2) + 1 := by omega
    obtain ⟨t, ht⟩ : ∃ t, Utf8.ofString (fieldText (k, v)) = 0x22 :: t :=
      ⟨_, by rw [fieldText, Utf8.ofString_append, Utf8.ofString_append, ofString_quote]; rfl⟩
    rw [ht] at hfield
    rw [List.length_cons, hfuel, moreFields, String.append_assoc, String.append_assoc,
      Utf8.ofString_append, hcomma, Utf8.ofString_append, ht, readFields]
    simp only [List.cons_append, List.append_assoc,
      skipSpace_of_not_space (by decide : isSpace 0x2C = false), Cursor.bump]
    simp only [List.cons_append] at hfield
    simp [skipSpace_of_not_space (by decide : isSpace 0x22 = false), hfield, hrest]

theorem ofString_render_obj (fs : List (String × Value)) :
    Utf8.ofString (Value.render (.obj fs)) = 0x7B :: Utf8.ofString (renderFields fs ++ "\x7d") := by
  rw [Value.render, String.append_assoc, Utf8.ofString_append]
  rfl

theorem readValue_obj (fs : List (String × Value)) (hfs : ∀ f ∈ fs, Scalar f.2)
    (r : List UInt8) (fuel p : Nat) :
    ∃ p', readValue (fuel + 2 * fs.length + 2) ⟨Utf8.ofString (Value.render (.obj fs)) ++ r, p⟩
      = .ok (.obj fs, ⟨r, p'⟩) := by
  rw [ofString_render_obj]
  cases fs with
  | nil =>
    have hclose : Utf8.ofString "\x7d" = [0x7D] := rfl
    refine ⟨p + 2, ?_⟩
    rw [renderFields, String.empty_append, hclose, readValue]
    simp [skipSpace_of_not_space (by decide : isSpace 0x7B = false), Cursor.bump, isDigit,
      readFields, skipSpace_of_not_space (by decide : isSpace 0x7D = false)]
  | cons f fs =>
    obtain ⟨k, v⟩ := f
    obtain ⟨t, ht⟩ : ∃ t, Utf8.ofString (fieldText (k, v)) = 0x22 :: t :=
      ⟨_, by rw [fieldText, Utf8.ofString_append, Utf8.ofString_append, ofString_quote]; rfl⟩
    obtain ⟨p1, hfield⟩ := readField_scalar k (hfs (k, v) (List.mem_cons_self ..))
      (ofString_moreFields_close fs r) (fuel + 2 * fs.length) (p + 1) []
    obtain ⟨p2, hrest⟩ := readFields_more fs (fun g hg => hfs g (List.mem_cons_of_mem _ hg))
      r fuel p1 [(k, v)]
    refine ⟨p2, ?_⟩
    have hfuel : fuel + 2 * (fs.length + 1) + 2 = (fuel + 2 * fs.length + 2) + 1 + 1 := by omega
    rw [ht] at hfield
    rw [List.length_cons, hfuel, renderFields_cons, String.append_assoc, Utf8.ofString_append, ht,
      readValue]
    simp only [List.cons_append, List.append_assoc] at hfield ⊢
    simp [skipSpace_of_not_space (by decide : isSpace 0x7B = false), Cursor.bump, isDigit]
    rw [readFields]
    simp [skipSpace_of_not_space (by decide : isSpace 0x22 = false), hfield, hrest]

theorem length_le_ofString_moreFields (fs : List (String × Value)) :
    fs.length ≤ (Utf8.ofString (moreFields fs)).length := by
  induction fs with
  | nil => simp
  | cons f fs ih =>
    have hcomma : Utf8.ofString "," = [0x2C] := rfl
    rw [moreFields, String.append_assoc, Utf8.ofString_append, Utf8.ofString_append, hcomma]
    simp only [List.length_cons, List.length_append]
    omega

theorem length_le_ofString_render_obj (fs : List (String × Value)) :
    fs.length ≤ (Utf8.ofString (Value.render (.obj fs))).length := by
  rw [ofString_render_obj, List.length_cons, Utf8.ofString_append]
  cases fs with
  | nil => simp
  | cons f fs =>
    have h := length_le_ofString_moreFields fs
    obtain ⟨t, ht⟩ : ∃ t, Utf8.ofString (fieldText f) = 0x22 :: t :=
      ⟨_, by rw [fieldText, Utf8.ofString_append, Utf8.ofString_append, ofString_quote]; rfl⟩
    rw [renderFields_cons, Utf8.ofString_append, ht]
    simp only [List.length_cons, List.length_append]
    omega

/-- The reader takes the writer's text of an object of scalar fields back to the object. -/
theorem parse_render_obj (fs : List (String × Value)) (hfs : ∀ f ∈ fs, Scalar f.2) :
    parse (Utf8.ofString (Value.render (.obj fs))) = .ok (.obj fs) := by
  have hlen := length_le_ofString_render_obj fs
  obtain ⟨p', hp⟩ := readValue_obj fs hfs []
    (2 * (Utf8.ofString (Value.render (.obj fs))).length + 2 - 2 * fs.length) 0
  rw [show 2 * (Utf8.ofString (Value.render (.obj fs))).length + 2 - 2 * fs.length
      + 2 * fs.length + 2 = 2 * (Utf8.ofString (Value.render (.obj fs))).length + 4 by omega,
    List.append_nil] at hp
  rw [parse, hp]
  rfl

end Gatehouse.Json
