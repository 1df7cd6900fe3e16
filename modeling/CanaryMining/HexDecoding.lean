import CanaryMining.Lib.Hex
import CanaryMining.Lib.Utf8

/-!
# The hex decoders of the dashboard

A coinbase script and a target come as hexadecimal text.  Both decoders cut the text into
slices of two bytes and hand each to a number parser.  A slice that cuts a character is a
panic, and the number parser takes a plus sign before a digit.

`hexDecoders_iff` says for which texts each decoder accepts hexadecimal, and only this, and
does not panic.

## Main definitions

* `decodeChunks` — the loop of both decoders.
* `hexToLossyAscii`, `targetHexToDifficulty` — the decoders.
* `DecodesHex`, `DecodesTarget` — a decoder treats a text as it should.
* `ReachesRejected` — the loop stops at a slice of whole characters that is refused.
-/

namespace CanaryMining

open Text

/-- The text after one optional `0x`. -/
def stripHexPrefix (value : Text) : Text := ("0x".toList.isPrefixOf? value).getD value

/-- The bytes of the slices of two bytes from the given offsets on.  The outer `none` is a
panic; the inner one a slice that is no number. -/
def decodeChunks (hex : Text) : List ℕ → Option (Option (List UInt8))
  | [] => some (some [])
  | index :: indexes =>
    match slice? hex index (index + 2) with
    | none => none
    | some chunk =>
      match fromStrRadix16 chunk with
      | none => some none
      | some byte => (decodeChunks hex indexes).map (Option.map (byte :: ·))

/-- `hex_to_lossy_ascii`, or `none` where it panics. -/
def hexToLossyAscii (value : Text) : Option (Option Text) :=
  let hex := stripHexPrefix value
  if utf8Len hex % 2 ≠ 0 then some none
  else (decodeChunks hex (List.range' 0 (utf8Len hex / 2) 2)).map (Option.map fromUtf8Lossy)

/-- The bytes that `target_hex_to_difficulty` makes a target of. -/
def targetBytes (value : Text) : Option (Option (List UInt8)) :=
  let hex := stripHexPrefix value
  if utf8Len hex ≠ 64 then some none else decodeChunks hex (List.range' 0 32 2)

/-- What is used of a target: its difficulty, by its big-endian bytes. -/
structure DifficultyLib (F : Type) where
  difficultyFloat : List UInt8 → F
  isFinite : F → Bool

/-- `target_hex_to_difficulty`, or `none` where it panics. -/
def targetHexToDifficulty {F : Type} (lib : DifficultyLib F) (value : Text) :
    Option (Option F) :=
  (targetBytes value).map fun bytes => bytes.bind fun bytes =>
    let difficulty := lib.difficultyFloat bytes
    if lib.isFinite difficulty then some difficulty else none

/-! ## The loop -/

/-- A text of pairs that are parsed. -/
inductive ParsedPairs : Text → Prop
  | nil : ParsedPairs []
  | cons {c d : Char} {s : Text} : ParsedPair c d → ParsedPairs s → ParsedPairs (c :: d :: s)

/-- After pairs that are parsed there is a slice of whole characters that is not: two
one-byte characters, or a two-byte one. -/
inductive ReachesRejected : Text → Prop
  | pair {c d : Char} {s : Text} : c.utf8Size = 1 → d.utf8Size = 1 → ¬ ParsedPair c d →
      ReachesRejected (c :: d :: s)
  | wide {c : Char} {s : Text} : c.utf8Size = 2 → ReachesRejected (c :: s)
  | next {c d : Char} {s : Text} : ParsedPair c d → ReachesRejected s →
      ReachesRejected (c :: d :: s)

/-- A text of hexadecimal digits only. -/
def AllHex (s : Text) : Prop := ∀ c ∈ s, IsHexDigit c

theorem allHex_pair_iff {c d : Char} {s : Text} :
    AllHex (c :: d :: s) ↔ IsHexDigit c ∧ IsHexDigit d ∧ AllHex s := by
  unfold AllHex
  rw [List.forall_mem_cons, List.forall_mem_cons]

theorem ParsedPair.utf8Size_fst {c d : Char} (h : ParsedPair c d) : c.utf8Size = 1 := by
  rcases h.1 with hc | rfl
  · exact utf8Size_of_isHexDigit hc
  · rfl

theorem ParsedPair.utf8Size_snd {c d : Char} (h : ParsedPair c d) : d.utf8Size = 1 :=
  utf8Size_of_isHexDigit h.2

theorem ParsedPairs.not_reachesRejected {s : Text} (h : ParsedPairs s) : ¬ ReachesRejected s := by
  induction h with
  | nil => nofun
  | cons hpair _ ih =>
    rintro (⟨-, -, hnot⟩ | hwide | ⟨-, hrest⟩)
    · exact hnot hpair
    · rw [hpair.utf8Size_fst] at hwide
      cases hwide
    · exact ih hrest

/-- An even number of digits are pairs. -/
theorem parsedPairs_of_allHex {s : Text} (heven : s.length % 2 = 0) (h : AllHex s) :
    ParsedPairs s := by
  revert h
  refine pair_induction (P := fun s => AllHex s → ParsedPairs s) (fun _ => .nil) ?_ s heven
  intro c d s _ ih h
  obtain ⟨hc, hd, hs⟩ := allHex_pair_iff.1 h
  exact .cons ⟨.inl hc, hd⟩ (ih hs)

theorem splitAtByte?_pair {c d : Char} (hc : c.utf8Size = 1) (hd : d.utf8Size = 1) (s : Text) :
    splitAtByte? 2 (c :: d :: s) = some ([c, d], s) := by
  have hsplit := splitAtByte?_append [c, d] s
  rwa [utf8Len_cons, utf8Len_cons, utf8Len_nil, hc, hd] at hsplit

theorem splitAtByte?_wide {c : Char} (hc : c.utf8Size = 2) (s : Text) :
    splitAtByte? 2 (c :: s) = some ([c], s) := by
  have hsplit := splitAtByte?_append [c] s
  rwa [utf8Len_cons, utf8Len_nil, hc] at hsplit

/-- A slice of two bytes is two characters or one, or it ends within a character. -/
theorem slice_cases {s : Text} (hlen : 2 ≤ utf8Len s) :
    (∃ c d rest, s = c :: d :: rest ∧ c.utf8Size = 1 ∧ d.utf8Size = 1) ∨
    (∃ c rest, s = c :: rest ∧ c.utf8Size = 2) ∨ splitAtByte? 2 s = none := by
  cases s with
  | nil =>
    rw [utf8Len_nil] at hlen
    omega
  | cons c s =>
    have hpos := c.utf8Size_pos
    by_cases hone : c.utf8Size = 1
    · cases s with
      | nil =>
        rw [utf8Len_cons, utf8Len_nil] at hlen
        omega
      | cons d s =>
        have hpos := d.utf8Size_pos
        by_cases hd : d.utf8Size = 1
        · exact .inl ⟨c, d, s, rfl, hone, hd⟩
        · refine .inr (.inr ?_)
          rw [splitAtByte?, if_pos (by omega), hone, splitAtByte?, if_neg (by omega)]
          rfl
    · by_cases htwo : c.utf8Size = 2
      · exact .inr (.inl ⟨c, s, rfl, htwo⟩)
      · refine .inr (.inr ?_)
        rw [splitAtByte?, if_neg (by omega)]

/-- Where a slice ends within a character, there is no pair and no slice to refuse. -/
theorem not_pairs_of_cut {s : Text} (hne : s ≠ []) (hcut : splitAtByte? 2 s = none) :
    ¬ ParsedPairs s ∧ ¬ ReachesRejected s := by
  have hpair : ∀ {c d : Char} {s : Text}, ParsedPair c d → splitAtByte? 2 (c :: d :: s) ≠ none := by
    intro c d s hparsed
    rw [splitAtByte?_pair hparsed.utf8Size_fst hparsed.utf8Size_snd]
    nofun
  constructor
  · rintro (_ | ⟨hparsed, -⟩)
    · exact hne rfl
    · exact hpair hparsed hcut
  · rintro (⟨hc, hd, -⟩ | hwide | ⟨hparsed, -⟩)
    · rw [splitAtByte?_pair hc hd] at hcut
      cases hcut
    · rw [splitAtByte?_wide hwide] at hcut
      cases hcut
    · exact hpair hparsed hcut

/-- What the loop does with a slice of two one-byte characters. -/
theorem decodeChunks_pair (done s : Text) {c d : Char} (hc : c.utf8Size = 1)
    (hd : d.utf8Size = 1) (n : ℕ) :
    decodeChunks (done ++ c :: d :: s) (List.range' (utf8Len done) (n + 1) 2) =
      match fromStrRadix16 [c, d] with
      | none => some none
      | some byte =>
        (decodeChunks ((done ++ [c, d]) ++ s)
          (List.range' (utf8Len (done ++ [c, d])) n 2)).map (Option.map (byte :: ·)) := by
  have hdone : utf8Len (done ++ [c, d]) = utf8Len done + 2 := by
    rw [utf8Len_append, utf8Len_cons, utf8Len_cons, utf8Len_nil, hc, hd]
  rw [List.range'_succ, decodeChunks, slice?_append, splitAtByte?_pair hc hd, hdone,
    List.append_assoc]
  rfl

/-- What it does with a slice that is one character. -/
theorem decodeChunks_wide (done s : Text) {c : Char} (hc : c.utf8Size = 2) (n : ℕ) :
    decodeChunks (done ++ c :: s) (List.range' (utf8Len done) (n + 1) 2) = some none := by
  have hnot : ¬ IsHexDigit c := fun hdigit => by
    rw [utf8Size_of_isHexDigit hdigit] at hc
    cases hc
  rw [List.range'_succ, decodeChunks, slice?_append, splitAtByte?_wide hc]
  simp only [Option.map_some, fromStrRadix16_singleton hnot]

/-- What it does where a slice ends within a character. -/
theorem decodeChunks_cut (done : Text) {s : Text} (hs : splitAtByte? 2 s = none) (n : ℕ) :
    decodeChunks (done ++ s) (List.range' (utf8Len done) (n + 1) 2) = none := by
  rw [List.range'_succ, decodeChunks, slice?_append, hs]
  rfl

/-- **The outcome of the loop**: it reads all pairs, or it stops at a slice of whole
characters, or it panics. -/
theorem decodeChunks_cases (n : ℕ) (done s : Text) (hlen : utf8Len s = 2 * n) :
    (ParsedPairs s ∧ ∃ bytes,
      decodeChunks (done ++ s) (List.range' (utf8Len done) n 2) = some (some bytes) ∧
        (AllHex s → bytes = hexBytes s)) ∨
    (ReachesRejected s ∧
      decodeChunks (done ++ s) (List.range' (utf8Len done) n 2) = some none) ∨
    (¬ ParsedPairs s ∧ ¬ ReachesRejected s ∧
      decodeChunks (done ++ s) (List.range' (utf8Len done) n 2) = none) := by
  induction n generalizing done s with
  | zero =>
    cases s with
    | nil => exact .inl ⟨.nil, [], rfl, fun _ => rfl⟩
    | cons c s =>
      have hpos := c.utf8Size_pos
      rw [utf8Len_cons] at hlen
      omega
  | succ n ih =>
    have hslice : 2 ≤ utf8Len s := by omega
    rcases slice_cases hslice with ⟨c, d, s, rfl, hc, hd⟩ | ⟨c, s, rfl, hwide⟩ | hcut
    · have hstep := decodeChunks_pair done s hc hd n
      by_cases hpair : ParsedPair c d
      · obtain ⟨byte, hbyte⟩ := Option.isSome_iff_exists.1 ((fromStrRadix16_pair c d).2 hpair)
        have hrest : utf8Len s = 2 * n := by
          rw [utf8Len_cons, utf8Len_cons] at hlen
          omega
        rw [hbyte] at hstep
        rcases ih (done ++ [c, d]) s hrest with
          ⟨hs, bytes, hout, hhex⟩ | ⟨hs, hout⟩ | ⟨hs, hs', hout⟩
        · refine .inl ⟨.cons hpair hs, byte :: bytes, by rw [hstep, hout]; rfl, fun hall => ?_⟩
          obtain ⟨hc, hd, hrest⟩ := allHex_pair_iff.1 hall
          rw [fromStrRadix16_digits hc hd, Option.some.injEq] at hbyte
          rw [hexBytes, hbyte, hhex hrest]
        · exact .inr (.inl ⟨.next hpair hs, by rw [hstep, hout]; rfl⟩)
        · refine .inr (.inr ⟨?_, ?_, by rw [hstep, hout]; rfl⟩)
          · rintro (_ | ⟨-, hrest⟩)
            exact hs hrest
          · rintro (⟨-, -, hnot⟩ | hwide | ⟨-, hrest⟩)
            · exact hnot hpair
            · omega
            · exact hs' hrest
      · have hnone : fromStrRadix16 [c, d] = none :=
          Option.not_isSome_iff_eq_none.1 fun h => hpair ((fromStrRadix16_pair c d).1 h)
        rw [hnone] at hstep
        exact .inr (.inl ⟨.pair hc hd hpair, hstep⟩)
    · exact .inr (.inl ⟨.wide hwide, decodeChunks_wide done s hwide n⟩)
    · have hne : s ≠ [] := by
        rintro rfl
        rw [utf8Len_nil] at hlen
        omega
      obtain ⟨hpairs, hrejected⟩ := not_pairs_of_cut hne hcut
      exact .inr (.inr ⟨hpairs, hrejected, decodeChunks_cut done hcut n⟩)

/-- What the loop does with a whole text of an even number of bytes. -/
theorem decodeChunks_whole {s : Text} {n : ℕ} (hlen : utf8Len s = 2 * n) :
    (ParsedPairs s ∧ ∃ bytes, decodeChunks s (List.range' 0 n 2) = some (some bytes) ∧
      (AllHex s → bytes = hexBytes s)) ∨
    (ReachesRejected s ∧ decodeChunks s (List.range' 0 n 2) = some none) ∨
    (¬ ParsedPairs s ∧ ¬ ReachesRejected s ∧ decodeChunks s (List.range' 0 n 2) = none) :=
  decodeChunks_cases n [] s hlen

/-! ## The decoders -/

/-- A text of digits has as many bytes as characters. -/
theorem AllHex.utf8Len_eq {s : Text} (h : AllHex s) : utf8Len s = s.length :=
  utf8Len_eq_length fun c hc => utf8Size_of_isHexDigit (h c hc)

/-- It has no prefix to remove. -/
theorem AllHex.stripHexPrefix_eq {s : Text} (h : AllHex s) : stripHexPrefix s = s := by
  have hnone : "0x".toList.isPrefixOf? s = none := by
    rw [Option.eq_none_iff_forall_ne_some]
    intro rest hrest
    have happ := List.isPrefixOf?_eq_some_iff_append_eq.1 hrest
    have hmem : 'x' ∈ s := by
      rw [← happ]
      exact List.mem_append_left _ (by decide)
    exact absurd (h 'x' hmem) (by decide)
  rw [stripHexPrefix, hnone, Option.getD_none]

/-- **The text is decoded as it should be**: without a panic, and to a text exactly if it
consists of pairs of digits, which then encode the bytes read. -/
structure DecodesHex (value : Text) : Prop where
  returns : hexToLossyAscii value ≠ none
  accepts : (∃ text, hexToLossyAscii value = some (some text)) ↔
    AllHex (stripHexPrefix value) ∧ (stripHexPrefix value).length % 2 = 0
  bytes : ∀ text, hexToLossyAscii value = some (some text) → ∃ bytes,
    text = fromUtf8Lossy bytes ∧ hexEncode bytes = (stripHexPrefix value).map Char.toLower

/-- **The target is decoded as it should be**: without a panic, and to 32 bytes exactly if it
consists of 64 digits, which then encode the bytes; every other text is refused. -/
structure DecodesTarget {F : Type} (lib : DifficultyLib F) (value : Text) : Prop where
  returns : targetHexToDifficulty lib value ≠ none
  accepts : (∃ bytes, targetBytes value = some (some bytes)) ↔
    AllHex (stripHexPrefix value) ∧ (stripHexPrefix value).length = 64
  refuses : ¬ (AllHex (stripHexPrefix value) ∧ (stripHexPrefix value).length = 64) →
    targetHexToDifficulty lib value = some none
  bytes : ∀ bytes, targetBytes value = some (some bytes) →
    bytes.length = 32 ∧ hexEncode bytes = (stripHexPrefix value).map Char.toLower
  inverts : ∀ bytes : List UInt8, bytes.length = 32 → value = hexEncode bytes →
    targetBytes value = some (some bytes)

/-- The text consists of digits, or the loop stops at a slice of whole characters. -/
def ReadsWhole (s : Text) : Prop := AllHex s ∨ ReachesRejected s

theorem AllHex.not_reachesRejected {s : Text} (h : AllHex s) (heven : s.length % 2 = 0) :
    ¬ ReachesRejected s :=
  (parsedPairs_of_allHex heven h).not_reachesRejected

/-- A text that is no script is treated as it should where it is refused. -/
theorem decodesHex_of_refused {value : Text} (hout : hexToLossyAscii value = some none)
    (hnot : ¬ (AllHex (stripHexPrefix value) ∧ (stripHexPrefix value).length % 2 = 0)) :
    DecodesHex value := by
  constructor
  case returns =>
    rw [hout]
    nofun
  case accepts =>
    rw [hout]
    exact iff_of_false nofun hnot
  case bytes =>
    rw [hout]
    nofun

/-- **The decoder of scripts** treats a text as it should exactly if its length is odd or the
loop reads it whole. -/
theorem decodesHex_iff (value : Text) :
    DecodesHex value ↔
      utf8Len (stripHexPrefix value) % 2 = 1 ∨ ReadsWhole (stripHexPrefix value) := by
  by_cases hodd : utf8Len (stripHexPrefix value) % 2 = 1
  · have hout : hexToLossyAscii value = some none := by
      rw [hexToLossyAscii, if_pos (by omega)]
    refine iff_of_true (decodesHex_of_refused hout fun h => ?_) (.inl hodd)
    rw [h.1.utf8Len_eq] at hodd
    omega
  · have hlen : utf8Len (stripHexPrefix value) = 2 * (utf8Len (stripHexPrefix value) / 2) := by
      omega
    have hloop : hexToLossyAscii value = (decodeChunks (stripHexPrefix value) (List.range' 0
        (utf8Len (stripHexPrefix value) / 2) 2)).map (Option.map fromUtf8Lossy) := by
      rw [hexToLossyAscii, if_neg (by omega)]
    rw [or_iff_right hodd]
    rcases decodeChunks_whole hlen with ⟨hpairs, bytes, hout, hbytes⟩ | ⟨hrejected, hout⟩ |
      ⟨hpairs, hrejected, hout⟩
    · rw [hout] at hloop
      constructor
      · intro h
        exact .inl (h.accepts.1 ⟨_, hloop⟩).1
      · rintro (hall | hrejected)
        · have heven : (stripHexPrefix value).length % 2 = 0 := by
            rw [← hall.utf8Len_eq]
            omega
          refine ⟨by rw [hloop]; nofun, iff_of_true ⟨_, hloop⟩ ⟨hall, heven⟩, ?_⟩
          intro text htext
          rw [hloop, Option.map_some, Option.map_some, Option.some.injEq, Option.some.injEq]
            at htext
          refine ⟨bytes, htext.symm, ?_⟩
          rw [hbytes hall, hexEncode_hexBytes heven hall]
        · exact absurd hrejected hpairs.not_reachesRejected
    · rw [hout, Option.map_some, Option.map_none] at hloop
      exact iff_of_true (decodesHex_of_refused hloop fun h =>
        h.1.not_reachesRejected h.2 hrejected) (.inr hrejected)
    · rw [hout, Option.map_none] at hloop
      refine iff_of_false (fun h => h.returns hloop) ?_
      rintro (hall | hrej)
      · refine hpairs (parsedPairs_of_allHex ?_ hall)
        rw [← hall.utf8Len_eq]
        omega
      · exact hrejected hrej

theorem allHex_hexEncode (bytes : List UInt8) : AllHex (hexEncode bytes) :=
  fun _ => isHexDigit_of_mem_hexEncode

/-- **A script that is text is shown as this text**, if it is sent as the digits of its
bytes. -/
theorem hexToLossyAscii_hexEncode (s : Text) :
    hexToLossyAscii (hexEncode (s.flatMap String.utf8EncodeChar)) = some (some s) := by
  have hall := allHex_hexEncode (s.flatMap String.utf8EncodeChar)
  have hstrip := hall.stripHexPrefix_eq
  have heven : (hexEncode (s.flatMap String.utf8EncodeChar)).length % 2 = 0 := by
    rw [length_hexEncode]
    omega
  have hdecodes := (decodesHex_iff (hexEncode (s.flatMap String.utf8EncodeChar))).2
    (.inr (.inl (hstrip.symm ▸ hall)))
  obtain ⟨text, htext⟩ := hdecodes.accepts.2 ⟨hstrip.symm ▸ hall, hstrip.symm ▸ heven⟩
  obtain ⟨bytes, hlossy, hbytes⟩ := hdecodes.bytes text htext
  rw [hstrip, map_toLower_hexEncode] at hbytes
  rw [htext, hlossy, hexEncode_injective hbytes, fromUtf8Lossy_utf8EncodeChar]

/-- A text that is no target is treated as it should where it is refused. -/
theorem decodesTarget_of_refused {F : Type} (lib : DifficultyLib F) {value : Text}
    (hout : targetBytes value = some none)
    (hnot : ¬ (AllHex (stripHexPrefix value) ∧ (stripHexPrefix value).length = 64)) :
    DecodesTarget lib value := by
  have hrefused : targetHexToDifficulty lib value = some none := by
    rw [targetHexToDifficulty, hout]
    rfl
  constructor
  case returns =>
    rw [hrefused]
    nofun
  case accepts =>
    rw [hout]
    exact iff_of_false nofun hnot
  case refuses => exact fun _ => hrefused
  case bytes =>
    rw [hout]
    nofun
  case inverts =>
    intro bytes hlength hvalue
    refine absurd ⟨?_, ?_⟩ hnot
    · rw [hvalue, (allHex_hexEncode bytes).stripHexPrefix_eq]
      exact allHex_hexEncode bytes
    · rw [hvalue, (allHex_hexEncode bytes).stripHexPrefix_eq, length_hexEncode, hlength]

/-- **The decoder of targets** treats a text as it should exactly if it has another length than
64 bytes or the loop reads it whole. -/
theorem decodesTarget_iff {F : Type} (lib : DifficultyLib F) (value : Text) :
    DecodesTarget lib value ↔
      utf8Len (stripHexPrefix value) ≠ 64 ∨ ReadsWhole (stripHexPrefix value) := by
  by_cases hlen : utf8Len (stripHexPrefix value) = 64
  · have hloop : targetBytes value = decodeChunks (stripHexPrefix value) (List.range' 0 32 2) := by
      rw [targetBytes, if_neg (not_not_intro hlen)]
    rw [or_iff_right (not_not_intro hlen)]
    rcases decodeChunks_whole (n := 32) hlen with ⟨hpairs, bytes, hout, hbytes⟩ |
      ⟨hrejected, hout⟩ | ⟨hpairs, hrejected, hout⟩
    · rw [hout] at hloop
      constructor
      · intro h
        exact .inl (h.accepts.1 ⟨_, hloop⟩).1
      · rintro (hall | hrejected)
        · have hlength : (stripHexPrefix value).length = 64 := by rw [← hall.utf8Len_eq, hlen]
          have hencode := hexEncode_hexBytes (by rw [hlength]) hall
          constructor
          case returns =>
            rw [targetHexToDifficulty, hloop]
            nofun
          case accepts => exact iff_of_true ⟨_, hloop⟩ ⟨hall, hlength⟩
          case refuses => exact fun hnot => absurd ⟨hall, hlength⟩ hnot
          case bytes =>
            intro bytes' hbytes'
            rw [hloop, Option.some.injEq, Option.some.injEq] at hbytes'
            have hcount := length_hexBytes (s := stripHexPrefix value) (by rw [hlength])
            rw [← hbytes', hbytes hall]
            exact ⟨by omega, hencode⟩
          case inverts =>
            intro bytes' _ hvalue
            have hstrip : stripHexPrefix value = value := by
              rw [hvalue]
              exact (allHex_hexEncode bytes').stripHexPrefix_eq
            rw [hloop, hbytes hall, hstrip, hvalue, hexBytes_hexEncode]
        · exact absurd hrejected hpairs.not_reachesRejected
    · rw [hout] at hloop
      have hnot : ¬ (AllHex (stripHexPrefix value) ∧ (stripHexPrefix value).length = 64) :=
        fun h => h.1.not_reachesRejected (by rw [h.2]) hrejected
      exact iff_of_true (decodesTarget_of_refused lib hloop hnot) (.inr hrejected)
    · rw [hout] at hloop
      refine iff_of_false (fun h => h.returns (by rw [targetHexToDifficulty, hloop]; rfl)) ?_
      rintro (hall | hrej)
      · exact hpairs (parsedPairs_of_allHex (by rw [← hall.utf8Len_eq, hlen]) hall)
      · exact hrejected hrej
  · have hloop : targetBytes value = some none := by rw [targetBytes, if_pos hlen]
    have hnot : ¬ (AllHex (stripHexPrefix value) ∧ (stripHexPrefix value).length = 64) :=
      fun h => hlen (h.1.utf8Len_eq.trans h.2)
    exact iff_of_true (decodesTarget_of_refused lib hloop hnot) (.inl hlen)

/-- **Both decoders.**  Each accepts hexadecimal, and only this, and does not panic, exactly
where it does not enter the loop or the loop reads the text whole. -/
theorem hexDecoders_iff {F : Type} (lib : DifficultyLib F) (value : Text) :
    (DecodesHex value ↔
      utf8Len (stripHexPrefix value) % 2 = 1 ∨ ReadsWhole (stripHexPrefix value)) ∧
    (DecodesTarget lib value ↔
      utf8Len (stripHexPrefix value) ≠ 64 ∨ ReadsWhole (stripHexPrefix value)) :=
  ⟨decodesHex_iff value, decodesTarget_iff lib value⟩

/-! ## A sign and a cut character -/

/-- The sign for the euro, of three bytes. -/
def euro : Char := Char.ofNat 0x20AC

/-- **A plus sign is accepted**, and a slice that cuts a character panics. -/
theorem hexDecoders_fail :
    ¬ DecodesHex ['+', 'f'] ∧ hexToLossyAscii [euro, '0'] = none := by
  constructor
  · intro h
    have hsome : hexToLossyAscii ['+', 'f'] = some (some [Char.ofNat 15]) := by decide
    have hdigits := (h.accepts.1 ⟨_, hsome⟩).1
    exact absurd (hdigits '+' (by decide)) (by decide)
  · decide

end CanaryMining
