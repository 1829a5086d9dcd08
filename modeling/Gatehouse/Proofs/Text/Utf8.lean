import Gatehouse.Text.Utf8
import Gatehouse.Text.Blank
import Mathlib

/-!
UTF-8 reads back what it writes, and trimming leaves blank-free text alone.

`decode_encode` is the round trip: the octets `encode` writes for any character list decode
to that list. It rests on one lemma per row of the table of well-formed sequences (`decode_lead_ascii`,
`decode_lead_two`, `decode_lead_three`, `decode_lead_four`), each saying what `decode` does
with a lead octet of that row followed by well-formed continuation octets, and on the fact
that `encodeChar` writes such a sequence for every scalar value (`decode_encodeChar_append`).
The masks `decode` applies (`&&& 0x1F` and so on) are read as remainders (`land_mask`).
The octets of a string are as many as its UTF-8 byte size (`length_ofString`), and two
different strings never share their octets (`ofString_injective`).

`trim_eq_self` says that a string without White_Space characters is its own trim, and
`isEmpty_trim` that a string trims to nothing exactly when it is all White_Space.
-/

namespace Gatehouse.Text

namespace Utf8

-- ============================================================ octet arithmetic

/-- A number below 256 survives the conversion to an octet. -/
theorem toNat_toUInt8 {k : Nat} (h : k < 256) : k.toUInt8.toNat = k := by
  rw [Nat.toUInt8_eq, UInt8.toNat_ofNat_of_lt' h]

/-- A character rebuilt from its own code point is itself. -/
theorem ofNat_eq_of_eq_val {c : Char} {m : Nat} (h : m = c.val.toNat) : Char.ofNat m = c := by
  subst h
  exact Char.ofNat_toNat c

/-- Masking with `2^k - 1` keeps the remainder by `2^k`. -/
theorem land_mask (n k : Nat) : n &&& (2 ^ k - 1) = n % 2 ^ k :=
  Nat.and_two_pow_sub_one_eq_mod n k

/-- The value of an octet chosen by a test on another octet. -/
theorem toNat_ite_eq (b k x y : UInt8) :
    (if b = k then x else y).toNat = if b.toNat = k.toNat then x.toNat else y.toNat := by
  by_cases h : b = k
  · simp [h]
  · rw [if_neg h, if_neg (fun e => h (UInt8.toNat_inj.1 e))]

-- ============================================================ the rows of the table

/-- An ASCII octet is one character. -/
theorem decode_lead_ascii {b : UInt8} (hb : b.toNat < 0x80) (rest : List UInt8) :
    decode (b :: rest) = (decode rest).map (Char.ofNat b.toNat :: ·) := by
  rw [decode.eq_def]
  simp only [UInt8.lt_iff_toNat_lt]
  rw [if_pos (by simpa using hb)]

/-- A lead octet `C2..DF` and one continuation octet are one character. -/
theorem decode_lead_two {b t : UInt8} (hb : 0xC2 ≤ b.toNat ∧ b.toNat ≤ 0xDF)
    (ht : 0x80 ≤ t.toNat ∧ t.toNat ≤ 0xBF) (rest : List UInt8) :
    decode (b :: t :: rest) =
      (decode rest).map (Char.ofNat (b.toNat % 32 * 64 + t.toNat % 64) :: ·) := by
  rw [decode.eq_def]
  simp only [UInt8.lt_iff_toNat_lt, UInt8.le_iff_toNat_le, isTail, low6, Bool.and_eq_true,
    decide_eq_true_eq, UInt8.toNat_and, UInt8.reduceToNat]
  rw [if_neg (by omega), if_pos (by omega), if_pos (by omega),
    show (31 : Nat) = 2 ^ 5 - 1 from rfl, show (63 : Nat) = 2 ^ 6 - 1 from rfl,
    land_mask, land_mask]
  simp only [Nat.reducePow]

/-- A lead octet `E0..EF` and two continuation octets in its row's ranges are one
character. -/
theorem decode_lead_three {b t1 t2 : UInt8} (hb : 0xE0 ≤ b.toNat ∧ b.toNat ≤ 0xEF)
    (h1 : (if b.toNat = 0xE0 then 0xA0 else 0x80) ≤ t1.toNat
      ∧ t1.toNat ≤ (if b.toNat = 0xED then 0x9F else 0xBF))
    (h2 : 0x80 ≤ t2.toNat ∧ t2.toNat ≤ 0xBF) (rest : List UInt8) :
    decode (b :: t1 :: t2 :: rest) =
      (decode rest).map
        (Char.ofNat (b.toNat % 16 * 4096 + t1.toNat % 64 * 64 + t2.toNat % 64) :: ·) := by
  rw [decode.eq_def]
  simp only [UInt8.lt_iff_toNat_lt, UInt8.le_iff_toNat_le, isTail, low6, Bool.and_eq_true,
    decide_eq_true_eq, UInt8.toNat_and, UInt8.reduceToNat]
  rw [if_neg (by omega), if_neg (by omega), if_pos (by omega)]
  rw [if_pos (by simp only [toNat_ite_eq, UInt8.reduceToNat]; omega),
    show (15 : Nat) = 2 ^ 4 - 1 from rfl, show (63 : Nat) = 2 ^ 6 - 1 from rfl,
    land_mask, land_mask, land_mask]
  simp only [Nat.reducePow]

/-- A lead octet `F0..F4` and three continuation octets in its row's ranges are one
character. -/
theorem decode_lead_four {b t1 t2 t3 : UInt8} (hb : 0xF0 ≤ b.toNat ∧ b.toNat ≤ 0xF4)
    (h1 : (if b.toNat = 0xF0 then 0x90 else 0x80) ≤ t1.toNat
      ∧ t1.toNat ≤ (if b.toNat = 0xF4 then 0x8F else 0xBF))
    (h2 : 0x80 ≤ t2.toNat ∧ t2.toNat ≤ 0xBF) (h3 : 0x80 ≤ t3.toNat ∧ t3.toNat ≤ 0xBF)
    (rest : List UInt8) :
    decode (b :: t1 :: t2 :: t3 :: rest) =
      (decode rest).map (Char.ofNat (b.toNat % 8 * 262144 + t1.toNat % 64 * 4096
        + t2.toNat % 64 * 64 + t3.toNat % 64) :: ·) := by
  rw [decode.eq_def]
  simp only [UInt8.lt_iff_toNat_lt, UInt8.le_iff_toNat_le, isTail, low6, Bool.and_eq_true,
    decide_eq_true_eq, UInt8.toNat_and, UInt8.reduceToNat]
  rw [if_neg (by omega), if_neg (by omega), if_neg (by omega), if_pos (by omega)]
  rw [if_pos (by simp only [toNat_ite_eq, UInt8.reduceToNat]; omega),
    show (7 : Nat) = 2 ^ 3 - 1 from rfl, show (63 : Nat) = 2 ^ 6 - 1 from rfl,
    land_mask, land_mask, land_mask, land_mask]
  simp only [Nat.reducePow]

-- ============================================================ the round trip

/-- The octets of one character decode to that character, whatever follows them. -/
theorem decode_encodeChar_append (c : Char) (rest : List UInt8) :
    decode (encodeChar c ++ rest) = (decode rest).map (c :: ·) := by
  -- a scalar value is below the surrogates or between them and U+10FFFF
  have hv : c.val.toNat < 0xD800 ∨ (0xDFFF < c.val.toNat ∧ c.val.toNat < 0x110000) := c.valid
  unfold encodeChar
  simp only
  split
  · rw [List.singleton_append, decode_lead_ascii (by rw [toNat_toUInt8 (by omega)]; omega),
      ofNat_eq_of_eq_val (toNat_toUInt8 (by omega))]
  split
  · rw [List.cons_append, List.singleton_append, decode_lead_two
      (by rw [toNat_toUInt8 (by omega)]; omega) (by rw [toNat_toUInt8 (by omega)]; omega),
      toNat_toUInt8 (by omega), toNat_toUInt8 (by omega), ofNat_eq_of_eq_val (c := c) (by omega)]
  split
  · -- the row bounds of `E0` and `ED` hold since no surrogate is a scalar value
    rw [List.cons_append, List.cons_append, List.singleton_append, decode_lead_three
      (by rw [toNat_toUInt8 (by omega)]; omega)
      (by rw [toNat_toUInt8 (by omega), toNat_toUInt8 (by omega)]; split <;> split <;> omega)
      (by rw [toNat_toUInt8 (by omega)]; omega),
      toNat_toUInt8 (by omega), toNat_toUInt8 (by omega), toNat_toUInt8 (by omega),
      ofNat_eq_of_eq_val (c := c) (by omega)]
  · rw [List.cons_append, List.cons_append, List.cons_append, List.singleton_append,
      decode_lead_four
      (by rw [toNat_toUInt8 (by omega)]; omega)
      (by rw [toNat_toUInt8 (by omega), toNat_toUInt8 (by omega)]; split <;> split <;> omega)
      (by rw [toNat_toUInt8 (by omega)]; omega) (by rw [toNat_toUInt8 (by omega)]; omega),
      toNat_toUInt8 (by omega), toNat_toUInt8 (by omega), toNat_toUInt8 (by omega),
      toNat_toUInt8 (by omega), ofNat_eq_of_eq_val (c := c) (by omega)]

/-- Decoding reads back every encoding. -/
theorem decode_encode (cs : List Char) : decode (encode cs) = some cs := by
  induction cs with
  | nil => rfl
  | cons c cs ih => rw [encode, List.flatMap_cons, ← encode, decode_encodeChar_append, ih]; rfl

/-- The octets of joined lists are the octets of each, joined. -/
theorem encode_append (xs ys : List Char) : encode (xs ++ ys) = encode xs ++ encode ys :=
  List.flatMap_append

/-- The octets of joined strings are the octets of each, joined. -/
theorem ofString_append (a b : String) : ofString (a ++ b) = ofString a ++ ofString b := by
  rw [ofString, String.toList_append, encode_append]
  rfl

/-- Different strings have different octets, since decoding reads every string back. -/
theorem ofString_injective : Function.Injective ofString := by
  intro a b h
  have hd := congrArg decode h
  rw [ofString, ofString, decode_encode, decode_encode, Option.some.injEq] at hd
  exact String.toList_injective hd

-- ============================================================ lengths

/-- A character takes as many octets as its UTF-8 size. -/
theorem length_encodeChar (c : Char) : (encodeChar c).length = c.utf8Size := by
  simp only [encodeChar, Char.utf8Size, UInt32.le_iff_toNat_le, UInt32.toNat_ofNatLT]
  -- the rows of the table against the size's three bounds: the rows that disagree are empty
  split_ifs <;> simp only [List.length_cons, List.length_nil] <;> omega

theorem length_encode (cs : List Char) : (encode cs).length = String.utf8Len cs := by
  induction cs with
  | nil => rfl
  | cons c cs ih =>
    rw [encode, List.flatMap_cons, List.length_append, ← encode, ih, length_encodeChar,
      String.utf8Len_cons, Nat.add_comm]

/-- The octets of a string are as many as its UTF-8 byte size. -/
theorem length_ofString (s : String) : (ofString s).length = s.utf8ByteSize := by
  rw [ofString, length_encode, ← String.utf8ByteSize_ofList, String.ofList_toList]

end Utf8

-- ============================================================ trimming

/-- Trimming a character list without blanks keeps it. -/
theorem trimList_eq_self {cs : List Char} (h : ∀ c ∈ cs, isBlank c = false) :
    trimList cs = cs := by
  have hd : cs.dropWhile isBlank = cs := List.dropWhile_eq_self_iff.2 fun hl => by
    rw [h _ (List.getElem_mem hl)]
    decide
  have hr : cs.reverse.dropWhile isBlank = cs.reverse := List.dropWhile_eq_self_iff.2 fun hl => by
    rw [h _ (List.mem_reverse.1 (List.getElem_mem hl))]
    decide
  rw [trimList, hd, hr, List.reverse_reverse]

/-- A string without White_Space characters is its own trim. -/
theorem trim_eq_self {s : String} (h : ∀ c ∈ s.toList, isBlank c = false) : trim s = s := by
  rw [trim, trimList_eq_self h, String.ofList_toList]

/-- Trimming leaves nothing of a character list exactly when all of it is blank. -/
theorem trimList_eq_nil_iff (cs : List Char) : trimList cs = [] ↔ ∀ c ∈ cs, isBlank c = true := by
  rw [trimList, List.reverse_eq_nil_iff, List.dropWhile_eq_nil_iff]
  simp only [List.mem_reverse]
  rw [← List.dropWhile_eq_nil_iff (p := isBlank) (l := cs)]
  constructor
  · -- what is left after the leading blanks starts with a character that is no blank
    intro h
    by_contra hne
    have hb := h _ (List.head_mem hne)
    rw [List.head_dropWhile_not isBlank hne] at hb
    cases hb
  · intro h x hx
    rw [h] at hx
    cases hx

/-- A string trims to nothing exactly when it is all White_Space. -/
theorem isEmpty_trim (t : String) : (trim t).isEmpty = isBlankText t := by
  rw [Bool.eq_iff_iff, String.isEmpty_iff, isBlankText, List.all_eq_true, trim,
    ← trimList_eq_nil_iff, ← String.toList_inj, String.toList_ofList]
  rfl

end Gatehouse.Text
