import CanaryMining.Lib.Text
import Mathlib.Data.UInt
import Mathlib.Data.Char

/-!
# Text as UTF-8

Strings that are indexed by bytes: a character takes one to four bytes, and a slice of a text
exists only where both its ends lie between characters.  Bytes that need not be UTF-8 are
read with a replacement character for what cannot be read.

## Main definitions

* `Text.utf8Len` — the number of bytes of a text.
* `Text.splitAtByte?`, `Text.slice?` — a text split at, or sliced by, byte offsets.
* `fromUtf8Lossy` — the text that bytes are read as.
-/

namespace CanaryMining

namespace Text

/-- The number of bytes of a text. -/
def utf8Len (s : Text) : ℕ := (s.map Char.utf8Size).sum

@[simp] theorem utf8Len_nil : utf8Len [] = 0 := rfl

@[simp] theorem utf8Len_cons (c : Char) (s : Text) :
    utf8Len (c :: s) = c.utf8Size + utf8Len s := by
  rw [utf8Len, List.map_cons, List.sum_cons, utf8Len]

@[simp] theorem utf8Len_append (s t : Text) : utf8Len (s ++ t) = utf8Len s + utf8Len t := by
  rw [utf8Len, List.map_append, List.sum_append, utf8Len, utf8Len]

/-- A text of one-byte characters has as many bytes as characters. -/
theorem utf8Len_eq_length {s : Text} (h : ∀ c ∈ s, c.utf8Size = 1) : utf8Len s = s.length := by
  induction s with
  | nil => rfl
  | cons c s ih =>
    obtain ⟨hc, hs⟩ := List.forall_mem_cons.1 h
    rw [utf8Len_cons, hc, ih hs, List.length_cons, Nat.add_comm]

/-- The text before and after a byte offset, if this lies between two characters. -/
def splitAtByte? : ℕ → Text → Option (Text × Text)
  | 0, s => some ([], s)
  | _ + 1, [] => none
  | n + 1, c :: s =>
    if c.utf8Size ≤ n + 1 then
      (splitAtByte? (n + 1 - c.utf8Size) s).map fun parts => (c :: parts.1, parts.2)
    else none

/-- The text between two byte offsets, if both lie between characters. -/
def slice? (s : Text) (start stop : ℕ) : Option Text :=
  (splitAtByte? start s).bind fun parts => (splitAtByte? (stop - start) parts.2).map Prod.fst

/-- A text splits at its length. -/
theorem splitAtByte?_append (a s : Text) : splitAtByte? (utf8Len a) (a ++ s) = some (a, s) := by
  induction a with
  | nil => rw [utf8Len_nil, List.nil_append, splitAtByte?]
  | cons c a ih =>
    have hpos := c.utf8Size_pos
    obtain ⟨n, hn⟩ : ∃ n, utf8Len (c :: a) = n + 1 :=
      ⟨utf8Len (c :: a) - 1, by rw [utf8Len_cons]; omega⟩
    have hrest : n + 1 - c.utf8Size = utf8Len a := by
      rw [← hn, utf8Len_cons]
      omega
    have hle : c.utf8Size ≤ n + 1 := by
      rw [← hn, utf8Len_cons]
      omega
    rw [hn, List.cons_append, splitAtByte?, if_pos hle, hrest, ih, Option.map_some]

/-- A slice that starts where a first part ends. -/
theorem slice?_append (a s : Text) (n : ℕ) :
    slice? (a ++ s) (utf8Len a) (utf8Len a + n) = (splitAtByte? n s).map Prod.fst := by
  rw [slice?, splitAtByte?_append, Option.bind_some, Nat.add_sub_cancel_left]

end Text

/-! ## Bytes as text -/

/-- The character that stands for what cannot be read. -/
def replacementCharacter : Char := Char.ofNat 0xFFFD

/-- How a character that starts with a byte goes on: the number of further bytes, the bounds
of the first of them, and what the first byte adds to the code point. -/
def utf8Shape (first : ℕ) : Option (ℕ × ℕ × ℕ × ℕ) :=
  if first ≤ 0x7F then some (0, 0, 0, first)
  else if 0xC2 ≤ first ∧ first ≤ 0xDF then some (1, 0x80, 0xBF, first - 0xC0)
  else if first = 0xE0 then some (2, 0xA0, 0xBF, 0)
  else if first = 0xED then some (2, 0x80, 0x9F, 0xD)
  else if 0xE1 ≤ first ∧ first ≤ 0xEF then some (2, 0x80, 0xBF, first - 0xE0)
  else if first = 0xF0 then some (3, 0x90, 0xBF, 0)
  else if 0xF1 ≤ first ∧ first ≤ 0xF3 then some (3, 0x80, 0xBF, first - 0xF0)
  else if first = 0xF4 then some (3, 0x80, 0x8F, 4)
  else none

/-- Reads so many further bytes, the next within the given bounds: the code point, or none at
the first byte that does not fit, and the bytes left. -/
def utf8Tail : ℕ → ℕ → ℕ → ℕ → List UInt8 → Option ℕ × List UInt8
  | 0, _, _, code, bytes => (some code, bytes)
  | _ + 1, _, _, _, [] => (none, [])
  | n + 1, low, high, code, byte :: bytes =>
    if low ≤ byte.toNat ∧ byte.toNat ≤ high then
      utf8Tail n 0x80 0xBF (code * 64 + (byte.toNat - 0x80)) bytes
    else (none, byte :: bytes)

/-- The character that starts with a byte, or the replacement, and the bytes left. -/
def utf8Next (first : UInt8) (bytes : List UInt8) : Char × List UInt8 :=
  match utf8Shape first.toNat with
  | none => (replacementCharacter, bytes)
  | some (n, low, high, code) =>
    let (point, rest) := utf8Tail n low high code bytes
    (point.elim replacementCharacter Char.ofNat, rest)

/-- The text of bytes, for so many characters at most. -/
def utf8Chars : ℕ → List UInt8 → Text
  | 0, _ => []
  | _ + 1, [] => []
  | n + 1, first :: bytes =>
    let (c, rest) := utf8Next first bytes
    c :: utf8Chars n rest

/-- `String::from_utf8_lossy`: each longest start of a character that does not go on is read
as one replacement character. -/
def fromUtf8Lossy (bytes : List UInt8) : Text := utf8Chars bytes.length bytes

/-- A byte of a character that fits is taken. -/
theorem utf8Tail_cons {n low high code b : ℕ} (hlow : low ≤ b) (hhigh : b ≤ high) (hb : b < 256)
    (bytes : List UInt8) :
    utf8Tail (n + 1) low high code (UInt8.ofNat b :: bytes) =
      utf8Tail n 0x80 0xBF (code * 64 + (b - 0x80)) bytes := by
  have hbyte : (UInt8.ofNat b).toNat = b := UInt8.toNat_ofNat_of_lt' (show b < 256 from hb)
  rw [utf8Tail, hbyte, if_pos ⟨hlow, hhigh⟩]

/-- A character is read where the shape of its first byte goes on. -/
theorem utf8Next_of_shape {b n low high code point : ℕ} {bytes rest : List UInt8} (hb : b < 256)
    (hshape : utf8Shape b = some (n, low, high, code))
    (htail : utf8Tail n low high code bytes = (some point, rest)) :
    utf8Next (UInt8.ofNat b) bytes = (Char.ofNat point, rest) := by
  have hbyte : (UInt8.ofNat b).toNat = b := UInt8.toNat_ofNat_of_lt' (show b < 256 from hb)
  rw [utf8Next, hbyte, hshape]
  simp only [htail, Option.elim_some]

/-- The shape of the first byte of a three-byte character leaves room for the second. -/
theorem utf8Shape_three {v : ℕ} (hlow : 0x800 ≤ v) (hhigh : v ≤ 0xFFFF)
    (hvalid : v < 0xD800 ∨ 0xDFFF < v) :
    ∃ low high, utf8Shape (v / 4096 + 0xE0) = some (2, low, high, v / 4096) ∧
      low ≤ v / 64 % 64 + 0x80 ∧ v / 64 % 64 + 0x80 ≤ high := by
  unfold utf8Shape
  rw [if_neg (by omega), if_neg (by omega)]
  by_cases hE0 : v / 4096 + 0xE0 = 0xE0
  · rw [if_pos hE0, show v / 4096 = 0 by omega]
    exact ⟨_, _, rfl, by omega, by omega⟩
  · rw [if_neg hE0]
    by_cases hED : v / 4096 + 0xE0 = 0xED
    · rw [if_pos hED, show v / 4096 = 0xD by omega]
      exact ⟨_, _, rfl, by omega, by omega⟩
    · rw [if_neg hED, if_pos (by omega), Nat.add_sub_cancel]
      exact ⟨_, _, rfl, by omega, by omega⟩

/-- So does that of a four-byte character. -/
theorem utf8Shape_four {v : ℕ} (hlow : 0x10000 ≤ v) (hhigh : v < 0x110000) :
    ∃ low high, utf8Shape (v / 262144 + 0xF0) = some (3, low, high, v / 262144) ∧
      low ≤ v / 4096 % 64 + 0x80 ∧ v / 4096 % 64 + 0x80 ≤ high := by
  unfold utf8Shape
  rw [if_neg (by omega), if_neg (by omega), if_neg (by omega), if_neg (by omega),
    if_neg (by omega)]
  by_cases hF0 : v / 262144 + 0xF0 = 0xF0
  · rw [if_pos hF0, show v / 262144 = 0 by omega]
    exact ⟨_, _, rfl, by omega, by omega⟩
  · rw [if_neg hF0]
    by_cases hF4 : v / 262144 + 0xF0 = 0xF4
    · rw [if_neg (by omega), if_pos hF4, show v / 262144 = 4 by omega]
      exact ⟨_, _, rfl, by omega, by omega⟩
    · rw [if_pos (by omega), Nat.add_sub_cancel]
      exact ⟨_, _, rfl, by omega, by omega⟩

/-- **A character is read back** from its bytes, whatever follows. -/
theorem utf8Next_utf8EncodeChar (c : Char) (bytes : List UInt8) :
    ∃ first rest, String.utf8EncodeChar c = first :: rest ∧
      utf8Next first (rest ++ bytes) = (c, bytes) := by
  have hvalid : c.val.toNat < 0xD800 ∨ 0xDFFF < c.val.toNat ∧ c.val.toNat < 0x110000 := c.valid
  have hnat : Char.ofNat c.val.toNat = c := Char.ofNat_toNat c
  unfold String.utf8EncodeChar
  generalize c.val.toNat = v at hvalid hnat
  dsimp only
  split
  · rename_i hone
    refine ⟨_, _, rfl, ?_⟩
    rw [← hnat]
    exact utf8Next_of_shape (by omega) (if_pos hone) rfl
  · split
    · rename_i hone htwo
      refine ⟨_, _, rfl, ?_⟩
      have hshape : utf8Shape (v / 64 % 0x20 + 0xC0) = some (1, 0x80, 0xBF, v / 64) := by
        rw [utf8Shape, if_neg (by omega), if_pos (by omega), Nat.add_sub_cancel]
        rw [show v / 64 % 0x20 = v / 64 by omega]
      rw [← hnat]
      refine utf8Next_of_shape (by omega) hshape ?_
      rw [List.singleton_append, utf8Tail_cons (by omega) (by omega) (by omega), utf8Tail]
      rw [show v / 64 * 64 + (v % 64 + 0x80 - 0x80) = v by omega]
    · split
      · rename_i hone htwo hthree
        refine ⟨_, _, rfl, ?_⟩
        obtain ⟨low, high, hshape, hlow, hhigh⟩ :=
          utf8Shape_three (by omega) hthree (hvalid.imp_right And.left)
        rw [show v / 4096 = v / 4096 % 0x10 by omega] at hshape
        rw [← hnat]
        refine utf8Next_of_shape (by omega) hshape ?_
        rw [List.cons_append, List.singleton_append, utf8Tail_cons hlow hhigh (by omega),
          utf8Tail_cons (by omega) (by omega) (by omega), utf8Tail]
        rw [show (v / 4096 % 0x10 * 64 + (v / 64 % 64 + 0x80 - 0x80)) * 64 +
          (v % 64 + 0x80 - 0x80) = v by omega]
      · rename_i hone htwo hthree
        refine ⟨_, _, rfl, ?_⟩
        have hmax : v < 0x110000 := by omega
        obtain ⟨low, high, hshape, hlow, hhigh⟩ := utf8Shape_four (by omega) hmax
        rw [show v / 262144 = v / 262144 % 0x08 by omega] at hshape
        rw [← hnat]
        refine utf8Next_of_shape (by omega) hshape ?_
        rw [List.cons_append, List.cons_append, List.singleton_append,
          utf8Tail_cons hlow hhigh (by omega), utf8Tail_cons (by omega) (by omega) (by omega),
          utf8Tail_cons (by omega) (by omega) (by omega), utf8Tail]
        rw [show ((v / 262144 % 0x08 * 64 + (v / 4096 % 64 + 0x80 - 0x80)) * 64 +
          (v / 64 % 64 + 0x80 - 0x80)) * 64 + (v % 64 + 0x80 - 0x80) = v by omega]

/-- **Valid bytes are read as the text they are of.** -/
theorem fromUtf8Lossy_utf8EncodeChar (s : Text) :
    fromUtf8Lossy (s.flatMap String.utf8EncodeChar) = s := by
  have hchars : ∀ (s : Text) n, s.length ≤ n →
      utf8Chars n (s.flatMap String.utf8EncodeChar) = s := by
    intro s
    induction s with
    | nil =>
      intro n _
      cases n <;> rfl
    | cons c s ih =>
      intro n hn
      cases n with
      | zero => cases hn
      | succ n =>
        obtain ⟨first, rest, hc, hnext⟩ :=
          utf8Next_utf8EncodeChar c (s.flatMap String.utf8EncodeChar)
        rw [List.flatMap_cons, hc, List.cons_append, utf8Chars, hnext]
        exact congrArg _ (ih n (Nat.le_of_succ_le_succ hn))
  refine hchars s _ ?_
  induction s with
  | nil => exact Nat.zero_le _
  | cons c s ih =>
    have hpos := c.utf8Size_pos
    rw [List.flatMap_cons, List.length_append, String.length_utf8EncodeChar, List.length_cons]
    omega

end CanaryMining
