import Mathlib.Data.List.DropRight

/-!
# Text

Strings as lists of characters, with the string functions parsers are written
from: trimming Unicode white space, splitting at a separator, and testing a
prefix.  `List.splitOn`, `List.isPrefixOf?` and `List.rdropWhile` are used as
they are; what is added here is how trimming and splitting see a text made of a
clean piece, a separator and a remainder.

## Main definitions

* `Text` — a string, as the list of its characters.
* `Text.trim` — the text without leading and trailing white space.
* `Text.splitOnce` — the pieces around the first separator.
* `Text.parseNat` — an unsigned decimal below a bound.
-/

namespace CanaryMining

/-- A string, as the list of its Unicode scalar values. -/
abbrev Text := List Char

namespace Text

variable {d e : Char} {s t a b r : Text}

/-- Unicode `White_Space`. -/
def isWhitespace (c : Char) : Bool :=
  (9 ≤ c.toNat && c.toNat ≤ 13) || c.toNat == 0x20 || c.toNat == 0x85 || c.toNat == 0xA0 ||
    c.toNat == 0x1680 || (0x2000 ≤ c.toNat && c.toNat ≤ 0x200A) || c.toNat == 0x2028 ||
    c.toNat == 0x2029 || c.toNat == 0x202F || c.toNat == 0x205F || c.toNat == 0x3000

/-- The text without its leading white space. -/
def trimStart (s : Text) : Text := s.dropWhile isWhitespace

/-- The text without its trailing white space. -/
def trimEnd (s : Text) : Text := s.rdropWhile isWhitespace

/-- The text without its leading and trailing white space. -/
def trim (s : Text) : Text := trimEnd (trimStart s)

/-- What precedes and what follows the first `d`, if there is one. -/
def splitOnce (d : Char) : Text → Option (Text × Text)
  | [] => none
  | c :: s => if c = d then some ([], s) else (splitOnce d s).map (Prod.map (c :: ·) id)

/-- The pieces of a list of texts, with `sep` between each two. -/
def join (sep : Text) (parts : List Text) : Text := sep.intercalate parts

/-- An unsigned decimal number of at most `max`, with an optional leading `+`. -/
def parseNat (max : ℕ) (s : Text) : Option ℕ :=
  let digits := match s with
    | '+' :: rest => rest
    | _ => s
  if digits = [] then none
  else digits.foldl (fun acc c => acc.bind fun n =>
    if c.isDigit ∧ n * 10 + (c.toNat - '0'.toNat) ≤ max then
      some (n * 10 + (c.toNat - '0'.toNat))
    else none) (some 0)

/-- A text none of whose characters is white space. -/
def NoWhitespace (s : Text) : Prop := ∀ c ∈ s, isWhitespace c = false

instance : Decidable (NoWhitespace s) :=
  List.decidableBAll (fun c => isWhitespace c = false) s

/-! ## Trimming -/

theorem trimEnd_cons (c : Char) (hc : isWhitespace c = false) (s : Text) :
    trimEnd (c :: s) = c :: trimEnd s := by
  simp only [trimEnd, List.rdropWhile, List.reverse_cons, List.dropWhile_append]
  split
  · rename_i h
    rw [List.isEmpty_iff] at h
    simp [h, hc]
  · simp

/-- Trimming the end does not reach across a character that is no white space. -/
theorem trimEnd_append_cons (a : Text) (hd : isWhitespace d = false) (r : Text) :
    trimEnd (a ++ d :: r) = a ++ d :: trimEnd r := by
  have hstop : ((r.reverse ++ [d]).dropWhile isWhitespace).isEmpty = false := by
    rw [Bool.eq_false_iff, ne_eq, List.isEmpty_iff, List.dropWhile_eq_nil_iff]
    intro h
    simp [h d (by simp)] at hd
  rw [← trimEnd_cons d hd]
  simp only [trimEnd, List.rdropWhile, List.reverse_append, List.reverse_cons]
  rw [List.dropWhile_append, hstop]
  simp

theorem NoWhitespace.trimEnd_eq (h : NoWhitespace s) : trimEnd s = s := by
  rw [trimEnd, List.rdropWhile_eq_self_iff]
  intro hl
  simp [h _ (List.getLast_mem hl)]

theorem NoWhitespace.trimStart_append (h : NoWhitespace a) (hne : a ≠ []) (r : Text) :
    trimStart (a ++ r) = a ++ r := by
  cases a with
  | nil => exact absurd rfl hne
  | cons c a => simp [trimStart, h c (by simp)]

theorem NoWhitespace.trim_eq (h : NoWhitespace s) : trim s = s := by
  cases s with
  | nil => rfl
  | cons c s =>
    have hs := h.trimStart_append (by simp) []
    simp only [List.append_nil] at hs
    rw [trim, hs, h.trimEnd_eq]

/-- Trimming a clean nonempty piece, a separator and a remainder only shortens
the remainder. -/
theorem NoWhitespace.trim_append_cons (h : NoWhitespace a) (hne : a ≠ [])
    (hd : isWhitespace d = false) (r : Text) : trim (a ++ d :: r) = a ++ d :: trimEnd r := by
  rw [trim, h.trimStart_append hne, trimEnd_append_cons a hd]

theorem NoWhitespace.append (ha : NoWhitespace a) (hb : NoWhitespace b) :
    NoWhitespace (a ++ b) := by
  intro c hc
  rcases List.mem_append.1 hc with h | h
  · exact ha c h
  · exact hb c h

/-- The order in which the two ends are trimmed does not matter. -/
theorem trimStart_trimEnd (s : Text) : trimStart (trimEnd s) = trimEnd (trimStart s) := by
  unfold trimStart trimEnd
  induction s using List.reverseRecOn with
  | nil => rfl
  | append_singleton s c ih =>
    rw [List.rdropWhile_concat, List.dropWhile_append]
    by_cases hc : isWhitespace c = true
    · rw [if_pos hc, ih]
      split
      · rename_i hs
        rw [List.isEmpty_iff.1 hs]
        simp [hc]
      · rw [List.rdropWhile_concat_pos _ _ _ hc]
    · rw [if_neg hc, List.dropWhile_append]
      split
      · simp [hc, List.rdropWhile_singleton]
      · rw [List.rdropWhile_concat_neg _ _ _ hc]

@[simp] theorem trim_trimEnd (s : Text) : trim (trimEnd s) = trim s := by
  rw [trim, trimStart_trimEnd, trim]
  exact List.rdropWhile_idempotent _ _

/-- Trimming keeps what is not white space. -/
theorem mem_trim {c : Char} (hc : isWhitespace c = false) (h : c ∈ s) : c ∈ trim s := by
  have hdrop : ∀ l : List Char, c ∈ l → c ∈ l.dropWhile isWhitespace := by
    intro l hl
    rw [← List.takeWhile_append_dropWhile (p := isWhitespace) (l := l), List.mem_append] at hl
    refine hl.resolve_left fun htake => ?_
    rw [List.mem_takeWhile_imp htake] at hc
    cases hc
  rw [trim, trimEnd, List.rdropWhile, List.mem_reverse]
  exact hdrop _ (List.mem_reverse.2 (hdrop s h))

@[simp] theorem trim_trim (s : Text) : trim (trim s) = trim s := by
  have hstart : trimStart (trimStart s) = trimStart s := List.dropWhile_idempotent _ s
  calc trim (trim s) = trim (trimStart s) := trim_trimEnd _
    _ = trim s := by rw [trim, hstart, trim]

/-! ## Splitting -/

theorem splitOnce_append_cons (h : d ∉ a) (r : Text) :
    splitOnce d (a ++ d :: r) = some (a, r) := by
  induction a with
  | nil => simp [splitOnce]
  | cons c a ih =>
    have hc : c ≠ d := fun he => h (by simp [he])
    have ha : d ∉ a := fun he => h (by simp [he])
    simp [splitOnce, hc, ih ha]

theorem splitOnce_eq_none (h : d ∉ s) : splitOnce d s = none := by
  induction s with
  | nil => rfl
  | cons c s ih =>
    have hc : c ≠ d := fun he => h (by simp [he])
    simp [splitOnce, hc, ih fun he => h (by simp [he])]

theorem eq_of_splitOnce_eq_some (h : splitOnce d s = some (a, r)) : s = a ++ d :: r := by
  induction s generalizing a r with
  | nil => simp [splitOnce] at h
  | cons c s ih =>
    by_cases hc : c = d
    · simp only [splitOnce, hc, if_true, Option.some.injEq, Prod.mk.injEq] at h
      simp [hc, ← h.1, ← h.2]
    · simp only [splitOnce, hc, if_false, Option.map_eq_some_iff] at h
      obtain ⟨⟨a', r'⟩, hs, he⟩ := h
      simp only [Prod.map_apply, id_eq, Prod.mk.injEq] at he
      rw [ih hs, ← he.1, ← he.2, List.cons_append]

/-- The first piece of a split is the whole text, or is followed by a separator
and the text of the other pieces. -/
theorem splitOn_eq_cons {rest : List Text} (h : s.splitOn d = a :: rest) :
    d ∉ a ∧ (s = a ∧ rest = [] ∨ ∃ r, s = a ++ d :: r ∧ r.splitOn d = rest) := by
  induction s generalizing a rest with
  | nil =>
    simp only [List.splitOn_nil, List.cons.injEq] at h
    simp [← h.1, ← h.2]
  | cons c s ih =>
    rw [List.splitOn_cons_eq_if_modifyHead] at h
    by_cases hc : c = d
    · simp only [hc, BEq.rfl, if_true, List.cons.injEq] at h
      exact ⟨by simp [← h.1], .inr ⟨s, by simp [hc, ← h.1], h.2⟩⟩
    · simp only [beq_iff_eq, hc, if_false] at h
      obtain ⟨x, xs, hx⟩ := List.exists_cons_of_ne_nil (List.splitOn_ne_nil d s)
      rw [hx, List.modifyHead_cons, List.cons.injEq] at h
      obtain ⟨hmem, hcase⟩ := ih hx
      refine ⟨by simp [← h.1, hmem, Ne.symm hc], ?_⟩
      rcases hcase with ⟨rfl, rfl⟩ | ⟨r, rfl, hr⟩
      · exact .inl ⟨h.1, h.2.symm⟩
      · exact .inr ⟨r, by simp [← h.1], by rw [hr, h.2]⟩

/-- Of two different separators the one that the first part of the other side lacks comes
later. -/
theorem mem_of_append_cons_eq (hne : d ≠ e) (hd : d ∉ b) (h : a ++ d :: r = b ++ e :: t) :
    e ∈ a := by
  induction b generalizing a with
  | nil =>
    cases a with
    | nil => exact absurd (List.cons.inj h).1 hne
    | cons c a => exact (List.cons.inj h).1 ▸ List.mem_cons_self
  | cons c b ih =>
    cases a with
    | nil => exact absurd ((List.cons.inj h).1 ▸ List.mem_cons_self) hd
    | cons c' a =>
      have hrest := ih (fun hmem => hd (List.mem_cons_of_mem _ hmem)) (List.cons.inj h).2
      exact List.mem_cons_of_mem _ hrest

/-- Two texts that agree start with the same clean piece, whatever separators
follow it. -/
theorem append_cons_inj {p : Char → Bool} (ha : ∀ c ∈ a, p c) (hb : ∀ c ∈ b, p c)
    (hd : p d = false) (he : p e = false) (h : a ++ d :: r = b ++ e :: t) :
    a = b ∧ d = e ∧ r = t := by
  induction a generalizing b with
  | nil =>
    cases b with
    | nil => simpa using h
    | cons c b =>
      simp only [List.nil_append, List.cons_append, List.cons.injEq] at h
      simp [h.1, hb c (by simp)] at hd
  | cons c a ih =>
    cases b with
    | nil =>
      simp only [List.nil_append, List.cons_append, List.cons.injEq] at h
      simp [← h.1, ha c (by simp)] at he
    | cons c' b =>
      simp only [List.cons_append, List.cons.injEq] at h
      obtain ⟨hab, hde, hrt⟩ := ih (fun x hx => ha x (by simp [hx]))
        (fun x hx => hb x (by simp [hx])) h.2
      exact ⟨by rw [h.1, hab], hde, hrt⟩

end Text

end CanaryMining
