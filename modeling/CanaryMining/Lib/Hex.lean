import CanaryMining.Lib.Text
import Mathlib.Data.UInt

/-!
# Hexadecimal text

Bytes are written as two lower-case hexadecimal digits each.  A text of hexadecimal digits,
in either case, is read back two digits at a time, and reading inverts writing.

A number parser also takes a sign, so it reads more pairs of characters than pairs of digits:
`fromStrRadix16_pair` says which.

## Main definitions

* `hexDigit?` — the value of a hexadecimal digit.
* `hexEncode` — bytes as lower-case hexadecimal digits.
* `hexBytes` — the bytes that pairs of digits denote.
* `fromStrRadix16` — the parser of an unsigned byte in base 16.
-/

namespace CanaryMining

/-- The value of a hexadecimal digit, `char::to_digit(16)`. -/
def hexDigit? (c : Char) : Option ℕ :=
  if '0'.toNat ≤ c.toNat ∧ c.toNat ≤ '9'.toNat then some (c.toNat - '0'.toNat)
  else if 'a'.toNat ≤ c.toNat ∧ c.toNat ≤ 'f'.toNat then some (c.toNat - 'a'.toNat + 10)
  else if 'A'.toNat ≤ c.toNat ∧ c.toNat ≤ 'F'.toNat then some (c.toNat - 'A'.toNat + 10)
  else none

/-- A character that is a hexadecimal digit. -/
def IsHexDigit (c : Char) : Prop := (hexDigit? c).isSome = true

instance (c : Char) : Decidable (IsHexDigit c) :=
  inferInstanceAs (Decidable ((hexDigit? c).isSome = true))

/-- The value of a character, zero where it is no digit. -/
def hexValue (c : Char) : ℕ := (hexDigit? c).getD 0

/-- The lower-case digit of a value below 16. -/
def hexChar (d : ℕ) : Char := if d < 10 then Char.ofNat (48 + d) else Char.ofNat (87 + d)

/-- Bytes as lower-case hexadecimal digits, `hex::encode`. -/
def hexEncode (bytes : List UInt8) : Text :=
  bytes.flatMap fun byte => [hexChar (byte.toNat / 16), hexChar (byte.toNat % 16)]

/-- The bytes that pairs of digits denote. -/
def hexBytes : Text → List UInt8
  | c :: d :: s => UInt8.ofNat (16 * hexValue c + hexValue d) :: hexBytes s
  | _ => []

/-- The digits of an unsigned byte in base 16, each with the number read before it. -/
def parseHexDigits (digits : Text) : Option ℕ :=
  digits.foldlM (fun acc c => (hexDigit? c).bind fun d =>
    if acc * 16 + d ≤ 255 then some (acc * 16 + d) else none) 0

/-- `u8::from_str_radix` at radix 16.  A sign alone is no number; a minus sign before others
is no digit. -/
def fromStrRadix16 (src : Text) : Option UInt8 :=
  match src with
  | [] => none
  | ['+'] => none
  | '+' :: digits => (parseHexDigits digits).map UInt8.ofNat
  | digits => (parseHexDigits digits).map UInt8.ofNat

/-! ## Digits -/

theorem toNat_le_of_isHexDigit {c : Char} (h : IsHexDigit c) : c.toNat ≤ 'f'.toNat := by
  unfold IsHexDigit hexDigit? at h
  have h9 : '9'.toNat ≤ 'f'.toNat := by decide
  have hF : 'F'.toNat ≤ 'f'.toNat := by decide
  split at h
  · omega
  · split at h
    · omega
    · split at h
      · omega
      · cases h

/-- What holds of all digits, looked up. -/
theorem forall_isHexDigit {P : Char → Prop} [DecidablePred P]
    (h : ((List.range 103).map Char.ofNat).all
      (fun c => !(hexDigit? c).isSome || decide (P c)) = true)
    {c : Char} (hc : IsHexDigit c) : P c := by
  have hmem : c ∈ (List.range 103).map Char.ofNat := by
    refine List.mem_map.2 ⟨c.toNat, List.mem_range.2 ?_, Char.ofNat_toNat c⟩
    exact Nat.lt_succ_of_le (toNat_le_of_isHexDigit hc)
  have hat := List.all_eq_true.1 h c hmem
  unfold IsHexDigit at hc
  rw [hc] at hat
  exact of_decide_eq_true (by simpa using hat)

theorem hexValue_lt {c : Char} (h : IsHexDigit c) : hexValue c < 16 :=
  forall_isHexDigit (P := fun c => hexValue c < 16) (by decide) h

/-- A digit is written as itself, in lower case. -/
theorem hexChar_hexValue {c : Char} (h : IsHexDigit c) : hexChar (hexValue c) = c.toLower :=
  forall_isHexDigit (P := fun c => hexChar (hexValue c) = c.toLower) (by decide) h

theorem utf8Size_of_isHexDigit {c : Char} (h : IsHexDigit c) : c.utf8Size = 1 :=
  forall_isHexDigit (P := fun c => c.utf8Size = 1) (by decide) h

/-- A written digit is read as its value. -/
theorem hexDigit?_hexChar {d : ℕ} (h : d < 16) : hexDigit? (hexChar d) = some d := by
  have hall : (List.range 16).all (fun d => hexDigit? (hexChar d) = some d) = true := by decide
  exact of_decide_eq_true (List.all_eq_true.1 hall d (List.mem_range.2 h))

/-! ## Reading and writing -/

/-- **Reading inverts writing.** -/
theorem hexBytes_hexEncode (bytes : List UInt8) : hexBytes (hexEncode bytes) = bytes := by
  induction bytes with
  | nil => rfl
  | cons byte bytes ih =>
    have hbyte : byte.toNat < 256 := byte.toNat_lt
    have hhigh : hexValue (hexChar (byte.toNat / 16)) = byte.toNat / 16 := by
      rw [hexValue, hexDigit?_hexChar (by omega), Option.getD_some]
    have hlow : hexValue (hexChar (byte.toNat % 16)) = byte.toNat % 16 := by
      rw [hexValue, hexDigit?_hexChar (by omega), Option.getD_some]
    have hsum : 16 * (byte.toNat / 16) + byte.toNat % 16 = byte.toNat := by omega
    rw [hexEncode, List.flatMap_cons, List.cons_append, List.cons_append, List.nil_append,
      hexBytes, hhigh, hlow, hsum, UInt8.ofNat_toNat]
    exact congrArg _ ih

theorem hexEncode_injective {bytes bytes' : List UInt8}
    (h : hexEncode bytes = hexEncode bytes') : bytes = bytes' := by
  rw [← hexBytes_hexEncode bytes, h, hexBytes_hexEncode]

theorem length_hexEncode (bytes : List UInt8) : (hexEncode bytes).length = 2 * bytes.length := by
  induction bytes with
  | nil => rfl
  | cons byte bytes ih =>
    rw [hexEncode, List.flatMap_cons, List.length_append, ← hexEncode, ih, List.length_cons,
      List.length_cons, List.length_cons, List.length_nil]
    omega

theorem isHexDigit_of_mem_hexEncode {bytes : List UInt8} {c : Char} (h : c ∈ hexEncode bytes) :
    IsHexDigit c := by
  obtain ⟨byte, -, hc⟩ := List.mem_flatMap.1 h
  have hbyte : byte.toNat < 256 := byte.toNat_lt
  rcases List.mem_pair.1 hc with rfl | rfl
  · rw [IsHexDigit, hexDigit?_hexChar (by omega), Option.isSome_some]
  · rw [IsHexDigit, hexDigit?_hexChar (by omega), Option.isSome_some]

/-- A text of even length is made of pairs of characters. -/
theorem pair_induction {P : Text → Prop} (nil : P [])
    (pair : ∀ c d s, s.length % 2 = 0 → P s → P (c :: d :: s)) (s : Text)
    (heven : s.length % 2 = 0) : P s := by
  induction s using hexBytes.induct with
  | case1 c d s ih =>
    have hrest : s.length % 2 = 0 := by
      rw [List.length_cons, List.length_cons] at heven
      omega
    exact pair c d s hrest (ih hrest)
  | case2 s hs =>
    rcases s with _ | ⟨c, _ | ⟨d, s⟩⟩
    · exact nil
    · cases heven
    · exact absurd rfl (hs c d s)

/-- **Writing inverts reading**, up to case, for an even number of digits. -/
theorem hexEncode_hexBytes {s : Text} (heven : s.length % 2 = 0) (h : ∀ c ∈ s, IsHexDigit c) :
    hexEncode (hexBytes s) = s.map Char.toLower := by
  revert h
  refine pair_induction (P := fun s => (∀ c ∈ s, IsHexDigit c) →
    hexEncode (hexBytes s) = s.map Char.toLower) (fun _ => rfl) ?_ s heven
  intro c d s _ ih h
  obtain ⟨hc, hd, hs⟩ : IsHexDigit c ∧ IsHexDigit d ∧ ∀ c ∈ s, IsHexDigit c := by
    simpa using h
  have hcLt := hexValue_lt hc
  have hdLt := hexValue_lt hd
  have hbyte : (UInt8.ofNat (16 * hexValue c + hexValue d)).toNat =
      16 * hexValue c + hexValue d :=
    UInt8.toNat_ofNat_of_lt' (show _ < 256 by omega)
  have hhigh : (16 * hexValue c + hexValue d) / 16 = hexValue c := by omega
  have hlow : (16 * hexValue c + hexValue d) % 16 = hexValue d := by omega
  rw [hexBytes, hexEncode, List.flatMap_cons, ← hexEncode, ih hs, hbyte, hhigh, hlow,
    hexChar_hexValue hc, hexChar_hexValue hd]
  rfl

theorem length_hexBytes {s : Text} (heven : s.length % 2 = 0) :
    2 * (hexBytes s).length = s.length := by
  refine pair_induction (P := fun s => 2 * (hexBytes s).length = s.length) rfl ?_ s heven
  intro c d s _ ih
  rw [hexBytes, List.length_cons, List.length_cons, List.length_cons]
  omega

/-- Encoded bytes have no upper-case digits. -/
theorem map_toLower_hexEncode (bytes : List UInt8) :
    (hexEncode bytes).map Char.toLower = hexEncode bytes := by
  have heven : (hexEncode bytes).length % 2 = 0 := by
    rw [length_hexEncode]
    omega
  rw [← hexEncode_hexBytes heven fun c => isHexDigit_of_mem_hexEncode, hexBytes_hexEncode]

/-! ## The number parser -/

/-- Two characters that the parser takes for a byte: the first may be a plus sign. -/
def ParsedPair (c d : Char) : Prop := (IsHexDigit c ∨ c = '+') ∧ IsHexDigit d

instance (c d : Char) : Decidable (ParsedPair c d) :=
  inferInstanceAs (Decidable ((IsHexDigit c ∨ c = '+') ∧ IsHexDigit d))

theorem hexDigit?_eq_some {c : Char} (h : IsHexDigit c) : hexDigit? c = some (hexValue c) := by
  obtain ⟨d, hd⟩ := Option.isSome_iff_exists.1 h
  rw [hexValue, hd, Option.getD_some]

theorem hexDigit?_eq_none {c : Char} (h : ¬ IsHexDigit c) : hexDigit? c = none :=
  Option.not_isSome_iff_eq_none.1 h

theorem parseHexDigits_singleton {d : Char} (h : IsHexDigit d) :
    parseHexDigits [d] = some (hexValue d) := by
  have hlt := hexValue_lt h
  simp only [parseHexDigits, List.foldlM_cons, List.foldlM_nil, hexDigit?_eq_some h,
    Option.bind_some]
  rw [if_pos (by omega)]
  simp

theorem parseHexDigits_pair {c d : Char} (hc : IsHexDigit c) (hd : IsHexDigit d) :
    parseHexDigits [c, d] = some (16 * hexValue c + hexValue d) := by
  have hcLt := hexValue_lt hc
  have hdLt := hexValue_lt hd
  simp only [parseHexDigits, List.foldlM_cons, List.foldlM_nil, hexDigit?_eq_some hc,
    hexDigit?_eq_some hd, Option.bind_some]
  rw [if_pos (by omega), Option.bind_eq_bind, Option.bind_some, if_pos (by omega)]
  simp [Nat.mul_comm]

/-- A text with a character that is no digit is no number. -/
theorem parseHexDigits_eq_none {s : Text} {c : Char} (hc : c ∈ s) (h : ¬ IsHexDigit c) :
    parseHexDigits s = none := by
  unfold parseHexDigits
  generalize 0 = acc
  induction s generalizing acc with
  | nil => cases hc
  | cons c' s ih =>
    rw [List.foldlM_cons]
    rcases List.mem_cons.1 hc with rfl | hc
    · rw [hexDigit?_eq_none h]
      rfl
    · cases hstep : (hexDigit? c').bind fun d =>
        if acc * 16 + d ≤ 255 then some (acc * 16 + d) else none with
      | none => rfl
      | some next => exact ih hc next

theorem fromStrRadix16_of_ne {c : Char} (s : Text) (h : c ≠ '+') :
    fromStrRadix16 (c :: s) = (parseHexDigits (c :: s)).map UInt8.ofNat := by
  unfold fromStrRadix16
  split
  · rename_i heq
    cases heq
  · rename_i heq
    exact absurd (List.cons.inj heq).1 h
  · rename_i heq
    exact absurd (List.cons.inj heq).1 h
  · rfl

theorem fromStrRadix16_digits {c d : Char} (hc : IsHexDigit c) (hd : IsHexDigit d) :
    fromStrRadix16 [c, d] = some (UInt8.ofNat (16 * hexValue c + hexValue d)) := by
  have hplus : c ≠ '+' := fun heq => absurd (heq ▸ hc) (by decide)
  rw [fromStrRadix16_of_ne _ hplus, parseHexDigits_pair hc hd, Option.map_some]

/-- **Two characters are parsed** exactly if they are digits, or a plus sign and a digit. -/
theorem fromStrRadix16_pair (c d : Char) :
    (fromStrRadix16 [c, d]).isSome = true ↔ ParsedPair c d := by
  by_cases hd : IsHexDigit d
  · by_cases hplus : c = '+'
    · have hone : fromStrRadix16 [c, d] = (parseHexDigits [d]).map UInt8.ofNat := by
        rw [hplus]
        rfl
      rw [hone, parseHexDigits_singleton hd]
      exact iff_of_true rfl ⟨.inr hplus, hd⟩
    · by_cases hc : IsHexDigit c
      · rw [fromStrRadix16_digits hc hd]
        exact iff_of_true rfl ⟨.inl hc, hd⟩
      · rw [fromStrRadix16_of_ne _ hplus, parseHexDigits_eq_none List.mem_cons_self hc]
        exact iff_of_false nofun fun h => h.1.elim hc hplus
  · have hnone : fromStrRadix16 [c, d] = none := by
      by_cases hplus : c = '+'
      · have hone : fromStrRadix16 [c, d] = (parseHexDigits [d]).map UInt8.ofNat := by
          rw [hplus]
          rfl
        rw [hone, parseHexDigits_eq_none List.mem_cons_self hd, Option.map_none]
      · have hmem : d ∈ [c, d] := List.mem_cons_of_mem _ List.mem_cons_self
        rw [fromStrRadix16_of_ne _ hplus, parseHexDigits_eq_none hmem hd, Option.map_none]
    rw [hnone]
    exact iff_of_false nofun fun h => hd h.2

/-- One character is parsed only if it is a digit. -/
theorem fromStrRadix16_singleton {c : Char} (h : ¬ IsHexDigit c) : fromStrRadix16 [c] = none := by
  by_cases hplus : c = '+'
  · rw [hplus]
    rfl
  · rw [fromStrRadix16_of_ne _ hplus, parseHexDigits_eq_none List.mem_cons_self h, Option.map_none]

end CanaryMining
