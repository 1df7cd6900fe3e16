import CanaryMining.Address

/-!
# Miner identities

`parse_miner_identity` reads the `user_identity` a miner opens its channel with:
an address, an address followed by `.` and a label, or
`sri/solo/<address>/<label>`.  The history database keys its rows by
`miner_id_from_identity`.

## Main definitions

* `parseMinerIdentity` — the label and the canonical payout address.
* `minerIdFromIdentity` — the key of a miner's row.
-/

namespace CanaryMining

/-- `MinerIdentity`. -/
structure MinerIdentity where
  label : Text
  payoutAddress : Text
  userIdentity : Text
  deriving DecidableEq, Repr

/-- `MinerIdentityError`. -/
inductive MinerIdentityError
  | empty
  | unsupported
  | invalidAddress (source : Text)
  deriving DecidableEq, Repr

/-- `Display for MinerIdentityError`. -/
def MinerIdentityError.toText : MinerIdentityError → Text
  | empty => "miner user_identity must not be empty".toList
  | unsupported =>
    "miner user_identity must be an address, address.worker, or sri/solo/address/worker".toList
  | invalidAddress source => "invalid miner payout address: ".toList ++ source

/-- The address and the label of a trimmed identity, before either is checked. -/
def splitIdentity (userIdentity : Text) : Except MinerIdentityError (Text × Text) :=
  match "sri/solo/".toList.isPrefixOf? userIdentity with
  | some rest =>
    match rest.splitOn '/' with
    | [] => .error .unsupported
    | address :: parts => .ok (address, Text.join ['/'] parts)
  | none =>
    if "sri/".toList.isPrefixOf userIdentity then .error .unsupported
    else match userIdentity.splitOnce '.' with
      | some (address, label) => .ok (address, label)
      | none => .ok (userIdentity, [])

variable {Addr : Type} (lib : AddressLib Addr)

/-- `parse_miner_identity`. -/
def parseMinerIdentity (userIdentity : Text) (network : Network) :
    Except MinerIdentityError MinerIdentity :=
  let userIdentity := userIdentity.trim
  if userIdentity = [] then .error .empty
  else match splitIdentity userIdentity with
    | .error e => .error e
    | .ok (address, label) =>
      match validatePayoutAddress lib address network with
      | .error source => .error (.invalidAddress source.toText)
      | .ok payoutAddress =>
        .ok { label := if label.trim = [] then "default".toList else label.trim
              payoutAddress := payoutAddress
              userIdentity := userIdentity }

/-- `miner_id` of the history module. -/
def minerId (network : Network) (payoutAddress label : Text) : Text :=
  network.toText ++ ':' :: payoutAddress ++ ':' :: label.trim

/-- `miner_id_from_identity` of the history module. -/
def minerIdFromIdentity (network : Network) (userIdentity : Text) : Option Text :=
  match parseMinerIdentity lib userIdentity network with
  | .error _ => none
  | .ok identity => some (minerId network identity.payoutAddress identity.label)

/-- An identity has a row key exactly when it parses. -/
theorem minerIdFromIdentity_isSome_iff (n : Network) (u : Text) :
    (minerIdFromIdentity lib n u).isSome ↔ ∃ i, parseMinerIdentity lib u n = .ok i := by
  unfold minerIdFromIdentity
  cases parseMinerIdentity lib u n <;> simp

/-! ## The address a trimmed identity is split into -/

/-- A piece without `/` is not the beginning of an identity of the `sri/` form. -/
theorem splitIdentity_clean {a : Text} (ha : CleanPiece a) :
    splitIdentity a = .ok (a, []) := by
  have hpre : ∀ p r : Text, '/' ∈ p → p ++ r ≠ a := by
    rintro p r hp rfl
    exact ha.slash_notMem (List.mem_append_left r hp)
  have h1 : "sri/solo/".toList.isPrefixOf? a = none := by
    rw [Option.eq_none_iff_forall_not_mem]
    intro r hr
    exact hpre _ r (by decide) (List.isPrefixOf?_eq_some_iff_append_eq.1 hr)
  have h2 : "sri/".toList.isPrefixOf a = false := by
    rw [Bool.eq_false_iff]
    intro h
    obtain ⟨r, hr⟩ := List.isPrefixOf_iff_prefix.1 h
    exact hpre _ r (by decide) hr
  simp only [splitIdentity, h1, h2, Bool.false_eq_true, if_false,
    Text.splitOnce_eq_none ha.dot_notMem]

/-- A text that starts with `sri/` does not start with a clean piece and a dot. -/
theorem sri_append_ne {a r t : Text} (ha : CleanPiece a) :
    "sri".toList ++ '/' :: t ≠ a ++ '.' :: r := by
  intro h
  have hsep : ∀ c ∈ a, (decide (c ≠ '/') && decide (c ≠ '.')) = true := by
    intro c hc
    have h1 : c ≠ '/' := fun he => ha.slash_notMem (he ▸ hc)
    have h2 : c ≠ '.' := fun he => ha.dot_notMem (he ▸ hc)
    simp [h1, h2]
  have := Text.append_cons_inj (p := fun c => decide (c ≠ '/') && decide (c ≠ '.'))
    (List.all_eq_true.1 (by decide)) hsep (by decide) (by decide) h
  exact absurd this.2.1 (by decide)

theorem splitIdentity_dotted {a : Text} (ha : CleanPiece a) (r : Text) :
    splitIdentity (a ++ '.' :: r) = .ok (a, r) := by
  have h1 : "sri/solo/".toList.isPrefixOf? (a ++ '.' :: r) = none := by
    rw [Option.eq_none_iff_forall_not_mem]
    intro t ht
    have happ := List.isPrefixOf?_eq_some_iff_append_eq.1 ht
    exact sri_append_ne (t := "solo/".toList ++ t) ha happ
  have h2 : "sri/".toList.isPrefixOf (a ++ '.' :: r) = false := by
    rw [Bool.eq_false_iff]
    intro h
    obtain ⟨t, ht⟩ := List.isPrefixOf_iff_prefix.1 h
    exact sri_append_ne (t := t) ha ht
  simp only [splitIdentity, h1, h2, Bool.false_eq_true, if_false,
    Text.splitOnce_append_cons ha.dot_notMem]

theorem splitIdentity_solo {a rest : Text} {parts : List Text}
    (h : rest.splitOn '/' = a :: parts) :
    splitIdentity ("sri/solo/".toList ++ rest) = .ok (a, Text.join ['/'] parts) := by
  have h1 : "sri/solo/".toList.isPrefixOf? ("sri/solo/".toList ++ rest) = some rest :=
    List.isPrefixOf?_eq_some_iff_append_eq.2 rfl
  simp only [splitIdentity, h1, h]

/-! ## The identities that name an address -/

/-- The grammar both readers of a `user_identity` implement: the identity names
the address `a`, alone or followed by a worker name, plainly or in the `sri/solo`
form. -/
inductive NamesAddress (a : Text) : Text → Prop
  | bare : NamesAddress a a
  | worker (label : Text) : NamesAddress a (a ++ '.' :: label)
  | solo : NamesAddress a ("sri/solo/".toList ++ a)
  | soloWorker (label : Text) : NamesAddress a ("sri/solo/".toList ++ (a ++ '/' :: label))

namespace NamesAddress

variable {a u : Text}

/-- Trimming an identity changes at most its label. -/
theorem trim (h : NamesAddress a u) (ha : CleanPiece a) : NamesAddress a u.trim := by
  have hsri : Text.NoWhitespace "sri/solo/".toList := by decide
  have hsolo := hsri.append ha.noWhitespace
  cases h with
  | bare =>
    rw [ha.noWhitespace.trim_eq]
    exact .bare
  | worker label =>
    rw [ha.noWhitespace.trim_append_cons ha.ne_nil (by decide)]
    exact .worker _
  | solo =>
    rw [hsolo.trim_eq]
    exact .solo
  | soloWorker label =>
    rw [← List.append_assoc, hsolo.trim_append_cons (by simp) (by decide), List.append_assoc]
    exact .soloWorker _

theorem ne_nil (h : NamesAddress a u) (ha : CleanPiece a) : u ≠ [] := by
  cases h <;> simp [ha.ne_nil]

/-- An identity is split into the address it names. -/
theorem splitIdentity_eq (h : NamesAddress a u) (ha : CleanPiece a) :
    ∃ label, splitIdentity u = .ok (a, label) := by
  cases h with
  | bare => exact ⟨_, splitIdentity_clean ha⟩
  | worker label => exact ⟨_, splitIdentity_dotted ha label⟩
  | solo => exact ⟨_, splitIdentity_solo (List.splitOn_eq_singleton ha.slash_notMem)⟩
  | soloWorker label =>
    exact ⟨_, splitIdentity_solo (List.splitOn_append_cons_self_of_not_mem ha.slash_notMem label)⟩

end NamesAddress

/-- **The history's reader.**  An identity that names an accepted address of the
network parses, to the canonical form of that address. -/
theorem parseMinerIdentity_of_names {u a : Text} {x : Addr} {n : Network}
    (h : NamesAddress a u) (ha : CleanPiece a) (hx : lib.fromStr a = .ok x)
    (hn : lib.requireNetwork x n.toLib = .ok ()) :
    ∃ i, parseMinerIdentity lib u n = .ok i ∧ i.payoutAddress = lib.toText x := by
  have ht := h.trim ha
  obtain ⟨label, hs⟩ := ht.splitIdentity_eq ha
  simp only [parseMinerIdentity, ht.ne_nil ha, if_false, hs,
    validatePayoutAddress_of_clean lib ha hx hn]
  exact ⟨_, rfl, rfl⟩

/-! ## Canonical identities -/

/-- No string the address library accepts has a `:`. -/
def AddressLib.ColonFree {Addr : Type} (lib : AddressLib Addr) : Prop :=
  ∀ x a, lib.fromStr x = .ok a → ':' ∉ x

/-- The label of a miner that gives `label`. -/
def normalizedLabel (label : Text) : Text :=
  if label.trim = [] then "default".toList else label.trim

/-- Surrounding white space of a label makes no difference. -/
theorem normalizedLabel_trimEnd (label : Text) :
    normalizedLabel label.trimEnd = normalizedLabel label := by
  simp only [normalizedLabel, Text.trim_trimEnd]

theorem trim_normalizedLabel (label : Text) :
    (normalizedLabel label).trim = normalizedLabel label := by
  unfold normalizedLabel
  by_cases h : label.trim = []
  · rw [if_pos h]
    decide
  · rw [if_neg h]
    exact Text.trim_trim label

section Canonical

variable {lib} {a : Text} {n m : Network}

/-- The three forms of an identity that names an accepted address: its label is the
normalized rest. -/
theorem parseMinerIdentity_of_split {u label x : Text} (hu : u.trim ≠ [])
    (hsplit : splitIdentity u.trim = .ok (a, label))
    (hx : validatePayoutAddress lib a n = .ok x) :
    parseMinerIdentity lib u n = .ok ⟨normalizedLabel label, x, u.trim⟩ := by
  simp only [parseMinerIdentity, hu, if_false, hsplit, hx, normalizedLabel]

/-- An identity `address.label` is read as the canonical address and the normalized label. -/
theorem parseMinerIdentity_dotted (ha : CleanPiece a) {x : Text}
    (hx : validatePayoutAddress lib a n = .ok x) (label : Text) :
    ∃ i, parseMinerIdentity lib (a ++ '.' :: label) n = .ok i ∧ i.payoutAddress = x ∧
      i.label = normalizedLabel label := by
  have htrim : (a ++ '.' :: label).trim = a ++ '.' :: label.trimEnd :=
    ha.noWhitespace.trim_append_cons ha.ne_nil (by decide) label
  have hparse := parseMinerIdentity_of_split (u := a ++ '.' :: label) (by simp [htrim])
    (by rw [htrim]; exact splitIdentity_dotted ha _) hx
  exact ⟨_, hparse, rfl, normalizedLabel_trimEnd label⟩

/-- So is an identity `sri/solo/address/label`. -/
theorem parseMinerIdentity_solo (ha : CleanPiece a) {x : Text}
    (hx : validatePayoutAddress lib a n = .ok x) (label : Text) :
    ∃ i, parseMinerIdentity lib ("sri/solo/".toList ++ (a ++ '/' :: label)) n = .ok i ∧
      i.payoutAddress = x ∧ i.label = normalizedLabel label := by
  have hsolo : Text.NoWhitespace ("sri/solo/".toList ++ a) :=
    Text.NoWhitespace.append (by decide) ha.noWhitespace
  have htrim : Text.trim ("sri/solo/".toList ++ (a ++ '/' :: label)) =
      "sri/solo/".toList ++ (a ++ '/' :: label.trimEnd) := by
    rw [← List.append_assoc, hsolo.trim_append_cons (by simp) (by decide), List.append_assoc]
  have hsplit : splitIdentity (Text.trim ("sri/solo/".toList ++ (a ++ '/' :: label))) =
      .ok (a, label.trimEnd) := by
    rw [htrim, splitIdentity_solo
      (List.splitOn_append_cons_self_of_not_mem ha.slash_notMem label.trimEnd)]
    simp [Text.join, List.intercalate_splitOn]
  have hne : Text.trim ("sri/solo/".toList ++ (a ++ '/' :: label)) ≠ [] := by
    rw [htrim]
    simp
  have hparse := parseMinerIdentity_of_split hne hsplit hx
  exact ⟨_, hparse, rfl, normalizedLabel_trimEnd label⟩

/-- Where an accepted identity's address comes from. -/
theorem splitIdentity_of_parseMinerIdentity {u : Text} {i : MinerIdentity}
    (h : parseMinerIdentity lib u n = .ok i) :
    u.trim ≠ [] ∧ ∃ address label y, splitIdentity u.trim = .ok (address, label) ∧
      lib.fromStr address.trim = .ok y ∧ i.payoutAddress = lib.toText y ∧
      i.label = normalizedLabel label := by
  simp only [parseMinerIdentity] at h
  split at h
  · cases h
  · rename_i hne
    split at h
    · cases h
    · rename_i address label hsplit
      split at h
      · cases h
      · rename_i x hx
        cases h
        simp only [validatePayoutAddress] at hx
        split at hx
        · cases hx
        · split at hx
          · cases hx
          · rename_i y hy
            split at hx
            · cases hx
            · cases hx
              exact ⟨hne, address, label, y, hsplit, hy, rfl, rfl⟩

/-- What an accepted identity is read as: the canonical form of an accepted address, and a
normalized label. -/
theorem parseMinerIdentity_eq_ok {u : Text} {i : MinerIdentity}
    (h : parseMinerIdentity lib u n = .ok i) :
    (∃ x y, lib.fromStr x = .ok y ∧ i.payoutAddress = lib.toText y) ∧
      ∃ label, i.label = normalizedLabel label := by
  obtain ⟨-, address, label, y, -, hy, haddress, hlabel⟩ := splitIdentity_of_parseMinerIdentity h
  exact ⟨⟨_, y, hy, haddress⟩, label, hlabel⟩

theorem Network.toText_injective : Function.Injective Network.toText := by
  intro n m h
  cases n <;> cases m <;> first | rfl | exact absurd h (by decide)

theorem Network.colon_notMem_toText (n : Network) : ':' ∉ n.toText := by
  cases n <;> decide

/-- **Miner ids.**  Equal ids are of equal networks, addresses and labels, whatever the
labels contain. -/
theorem minerId_inj {b l k : Text} (ha : ':' ∉ a) (hb : ':' ∉ b) :
    minerId n a l = minerId m b k ↔ n = m ∧ a = b ∧ l.trim = k.trim := by
  constructor
  · intro h
    have hcolon : ∀ s : Text, ':' ∉ s → ∀ c ∈ s, decide (c ≠ ':') = true := by
      intro s hs c hc
      rw [decide_eq_true_eq]
      intro heq
      exact hs (heq ▸ hc)
    have h' : n.toText ++ ':' :: (a ++ ':' :: l.trim) =
        m.toText ++ ':' :: (b ++ ':' :: k.trim) := by
      simpa only [minerId, List.append_assoc, List.cons_append] using h
    obtain ⟨hnet, -, hrest⟩ := Text.append_cons_inj (p := fun c => decide (c ≠ ':'))
      (hcolon _ n.colon_notMem_toText) (hcolon _ m.colon_notMem_toText) (by decide) (by decide) h'
    obtain ⟨haddress, -, hlabel⟩ := Text.append_cons_inj (p := fun c => decide (c ≠ ':'))
      (hcolon _ ha) (hcolon _ hb) (by decide) (by decide) hrest
    exact ⟨Network.toText_injective hnet, haddress, hlabel⟩
  · intro h
    obtain ⟨rfl, rfl, hlabel⟩ := h
    rw [minerId, minerId, hlabel]

/-- The address of an identity that starts like a miner id has a `:`. -/
theorem colon_mem_of_splitIdentity {r address label : Text}
    (h : splitIdentity (n.toText ++ ':' :: r) = .ok (address, label)) : ':' ∈ address := by
  have hsolo : "sri/solo/".toList.isPrefixOf? (n.toText ++ ':' :: r) = none := by
    cases n <;> rfl
  have hsri : "sri/".toList.isPrefixOf (n.toText ++ ':' :: r) = false := by
    cases n <;> rfl
  simp only [splitIdentity, hsolo, hsri, Bool.false_eq_true, if_false] at h
  cases hsplit : Text.splitOnce '.' (n.toText ++ ':' :: r) with
  | none =>
    simp only [hsplit, Except.ok.injEq, Prod.mk.injEq] at h
    rw [← h.1]
    simp
  | some parts =>
    simp only [hsplit, Except.ok.injEq, Prod.mk.injEq] at h
    have happend := Text.eq_of_splitOnce_eq_some hsplit
    have hdot : '.' ∉ n.toText := by cases n <;> decide
    rw [← h.1]
    exact Text.mem_of_append_cons_eq (by decide) hdot happend.symm

/-- **A miner id is no identity**, on no network. -/
theorem parseMinerIdentity_minerId (hcolon : lib.ColonFree) (b l : Text) (i : MinerIdentity) :
    parseMinerIdentity lib (minerId n b l) m ≠ .ok i := by
  intro h
  obtain ⟨-, address, label, y, hsplit, hy, -⟩ := splitIdentity_of_parseMinerIdentity h
  have hid : minerId n b l = n.toText ++ ':' :: (b ++ ':' :: l.trim) := by simp [minerId]
  have htrim : (minerId n b l).trim = n.toText ++ ':' :: Text.trimEnd (b ++ ':' :: l.trim) := by
    have hclean : n.toText.NoWhitespace := by cases n <;> decide
    have hne : n.toText ≠ [] := by cases n <;> decide
    rw [hid, hclean.trim_append_cons hne (by decide)]
  rw [htrim] at hsplit
  have hmem := colon_mem_of_splitIdentity hsplit
  exact hcolon _ _ hy (Text.mem_trim (by decide) hmem)

/-- **Identities.**  The two ways to name an address and a label are read alike, to the
canonical address and the normalized label; and miner ids are equal exactly if the
networks, the canonical addresses and the normalized labels are. -/
theorem minerIdentity_canonical (hlaws : lib.Laws) (hcolon : lib.ColonFree) :
    (∀ n a label x, validatePayoutAddress lib a n = .ok x → a.NoWhitespace → '.' ∉ a → '/' ∉ a →
      ∃ i j, parseMinerIdentity lib (a ++ '.' :: label) n = .ok i ∧
        parseMinerIdentity lib ("sri/solo/".toList ++ (a ++ '/' :: label)) n = .ok j ∧
        i.payoutAddress = x ∧ j.payoutAddress = x ∧ i.label = normalizedLabel label ∧
        j.label = normalizedLabel label) ∧
    ∀ n m u v i j, parseMinerIdentity lib u n = .ok i → parseMinerIdentity lib v m = .ok j →
      (minerIdFromIdentity lib n u = minerIdFromIdentity lib m v ↔
        n = m ∧ i.payoutAddress = j.payoutAddress ∧ i.label = j.label) := by
  refine ⟨fun n a label x hx hwhite hdot hslash => ?_, fun n m u v i j hi hj => ?_⟩
  · have hne : a ≠ [] := by
      intro hnil
      rw [hnil] at hx
      cases hx
    have ha : CleanPiece a := ⟨hne, hwhite, hdot, hslash⟩
    obtain ⟨i, hi, haddress, hlabel⟩ := parseMinerIdentity_dotted ha hx label
    obtain ⟨j, hj, haddress', hlabel'⟩ := parseMinerIdentity_solo ha hx label
    exact ⟨i, j, hi, hj, haddress, haddress', hlabel, hlabel'⟩
  · obtain ⟨⟨x, y, hy, haddress⟩, label, hlabel⟩ := parseMinerIdentity_eq_ok hi
    obtain ⟨⟨x', y', hy', haddress'⟩, label', hlabel'⟩ := parseMinerIdentity_eq_ok hj
    have hclean : ∀ x y, lib.fromStr x = .ok y → ':' ∉ lib.toText y := by
      intro x y hy
      obtain ⟨y', hy', -⟩ := hlaws.reparse x y hy
      exact hcolon _ _ hy'
    have hinj := minerId_inj (n := n) (m := m) (l := i.label) (k := j.label)
      (haddress ▸ hclean x y hy) (haddress' ▸ hclean x' y' hy')
    have htrim : ∀ label, (normalizedLabel label).trim = normalizedLabel label :=
      trim_normalizedLabel
    simp only [minerIdFromIdentity, hi, hj, Option.some.injEq, hinj]
    rw [hlabel, hlabel', htrim, htrim]

theorem tableLib_colonFree : tableLib.ColonFree := by
  intro x a h
  rw [tableLib_fromStr h]
  cases a <;> decide

/-- Alice's garage in the two forms. -/
theorem minerIdentity_canonical_garage :
    minerIdFromIdentity tableLib .regtest (aliceAddress ++ '.' :: "garage/s:19 ".toList) =
      minerIdFromIdentity tableLib .regtest
        ("sri/solo/".toList ++ (aliceAddress ++ '/' :: "garage/s:19 ".toList)) := by
  obtain ⟨hforms, hids⟩ := minerIdentity_canonical tableLib_laws tableLib_colonFree
  obtain ⟨i, j, hi, hj, haddress, haddress', hlabel, hlabel'⟩ := hforms .regtest aliceAddress
    "garage/s:19 ".toList aliceAddress (by decide) (by decide) (by decide) (by decide)
  refine (hids _ _ _ _ i j hi hj).2 ⟨rfl, haddress.trans haddress'.symm, hlabel.trans hlabel'.symm⟩

end Canonical

end CanaryMining
