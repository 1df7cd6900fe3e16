import CanaryMining.MinerIdentity

/-!
# Payout modes

The pool's own reader of a `user_identity`: `PayoutMode::try_from_user_identity`
decides where the coinbase reward of a channel goes.  It does not trim, tries
the dotted form first and splits at `/` after that, where the history's reader
trims and tests the `sri/solo/` prefix first; the two agree on every identity
the pool accepts.

## Main definitions

* `PoolErrorKind` — the kinds of error the modelled handlers raise.
* `PayoutMode` — who is paid by the coinbase.
* `PayoutMode.tryFromUserIdentity`, `PayoutMode.coinbaseOutputs`.
-/

namespace CanaryMining

/-- `PoolErrorKind`, the kinds raised by the modelled functions.  The error of the
channel library is kept as its text. -/
inductive PoolErrorKind
  | channelSv2 (error : Text)
  | binarySv2
  | channelErrorSender
  | channelSend
  | downstreamNotFound (downstreamId : ℕ)
  | downstreamIdNotFound
  | futureTemplateNotPresent
  | lastNewPrevhashNotFound
  | jobNotFound
  | vardiff (error : Text)
  | payoutModeError (message : Text)
  deriving DecidableEq, Repr

/-- `bitcoin::TxOut`, with the amount in satoshi. -/
structure TxOut where
  value : UInt64
  scriptPubkey : Script
  deriving DecidableEq, Repr

/-- `PayoutMode`: how the coinbase reward is distributed. -/
inductive PayoutMode
  | solo (script : Script)
  | donate (percentage : UInt8) (script : Script)
  | fullDonation
  deriving DecidableEq, Repr

namespace PayoutMode

section

variable {Addr : Type} (lib : AddressLib Addr)

/-- `payout_script`: the script of an address, which has to be of the expected
network if one is given. -/
def payoutScript (payoutAddress : Text) (expectedNetwork : Option BitcoinNetwork) :
    Except PoolErrorKind Script :=
  let script := match lib.fromDescriptor (addrDescriptor payoutAddress) with
    | .error source => .error (.payoutModeError source)
    | .ok script => .ok script
  match expectedNetwork with
  | none => script
  | some network =>
    match lib.fromStr payoutAddress with
    | .error source => .error (.payoutModeError source)
    | .ok a =>
      match lib.requireNetwork a (bitcoinNetwork network) with
      | .error source => .error (.payoutModeError source)
      | .ok () => script

/-- The message of an identity that names no payout. -/
def errMissing : Text := "Miner user_identity must include a payout address.".toList

/-- The message of a malformed `sri/` identity. -/
def errPattern : Text := "Invalid user_identity pattern for solo mining mode.".toList

/-- The message of a donation identity. -/
def errDonation : Text := "Donation payout modes are disabled by Canary solo mining.".toList

/-- The message of any other identity that is not accepted. -/
def errPlain : Text := "Miner user_identity must be a payout address or address.worker.".toList

/-- The second reading of an identity, by its pieces between slashes. -/
def fromParts (parts : List Text) (expectedNetwork : Option BitcoinNetwork) :
    Except PoolErrorKind PayoutMode :=
  match parts with
  | sri :: mode :: rest =>
    if sri ≠ "sri".toList then .error (.payoutModeError errPlain)
    else if mode = "solo".toList then
      match rest with
      | payoutAddress :: _ =>
        match payoutScript lib payoutAddress expectedNetwork with
        | .ok script => .ok (.solo script)
        | .error _ => .error (.payoutModeError errPattern)
      | [] => .error (.payoutModeError errPattern)
    else if mode = "donate".toList then
      match rest with
      | percentage :: payoutAddress :: _ =>
        match Text.parseNat 255 percentage, payoutScript lib payoutAddress expectedNetwork with
        | some _, .ok _ => .error (.payoutModeError errDonation)
        | _, _ => .error (.payoutModeError errPattern)
      | _ => .error (.payoutModeError errDonation)
    else .error (.payoutModeError errPattern)
  | _ => .error (.payoutModeError errPlain)

/-- `PayoutMode::try_from_user_identity`. -/
def tryFromUserIdentity (userIdentity : Text) (expectedNetwork : Option BitcoinNetwork) :
    Except PoolErrorKind PayoutMode :=
  if userIdentity = [] then .error (.payoutModeError errMissing)
  else
    let addr := match userIdentity.splitOnce '.' with
      | some (addr, _) => addr
      | none => userIdentity
    match payoutScript lib addr expectedNetwork with
    | .ok script => .ok (.solo script)
    | .error _ => fromParts lib (userIdentity.splitOn '/') expectedNetwork

end

/-- `PayoutMode::coinbase_outputs`. -/
def coinbaseOutputs (mode : PayoutMode) (totalValue : UInt64) (poolScript : Script) :
    List TxOut :=
  match mode with
  | solo script => [⟨totalValue, script⟩]
  | donate percentage script =>
    let poolValue := totalValue * percentage.toUInt64 / 100
    let minerValue := if poolValue ≤ totalValue then totalValue - poolValue else 0
    [⟨poolValue, poolScript⟩, ⟨minerValue, script⟩]
  | fullDonation => [⟨totalValue, poolScript⟩]

@[simp] theorem coinbaseOutputs_solo (script : Script) (v : UInt64) (p : Script) :
    (solo script).coinbaseOutputs v p = [⟨v, script⟩] := rfl

/-! ## What an accepted identity names -/

section

variable {Addr : Type} {lib : AddressLib Addr}

/-- An accepted payout address is an address of the expected network, and its
script is the address's. -/
theorem payoutScript_eq_ok (hl : lib.Laws) {a : Text} {n : BitcoinNetwork} {s : Script}
    (h : payoutScript lib a (some n) = .ok s) :
    ∃ x, lib.fromStr a = .ok x ∧ lib.requireNetwork x (bitcoinNetwork n) = .ok () ∧
      s = lib.scriptPubkey x := by
  simp only [payoutScript] at h
  cases hx : lib.fromStr a with
  | error e => simp [hx] at h
  | ok x =>
    cases hn : lib.requireNetwork x (bitcoinNetwork n) with
    | error e => simp [hx, hn] at h
    | ok u =>
      refine ⟨x, rfl, hn, ?_⟩
      cases hd : lib.fromDescriptor (addrDescriptor a) with
      | error e => simp [hx, hn, hd] at h
      | ok s' =>
        have hs : s' = s := by simpa [hx, hn, hd] using h
        exact hl.descriptor a x s hx (hs ▸ hd)

/-- The pieces of an accepted `sri/` identity are `sri`, `solo` and an accepted
address. -/
theorem fromParts_eq_ok {parts : List Text} {n : Option BitcoinNetwork} {mode : PayoutMode}
    (h : fromParts lib parts n = .ok mode) :
    ∃ a rest s, parts = "sri".toList :: "solo".toList :: a :: rest ∧
      payoutScript lib a n = .ok s ∧ mode = .solo s := by
  unfold fromParts at h
  split at h
  · rename_i sri kind rest
    by_cases hsri : sri = "sri".toList
    · by_cases hsolo : kind = "solo".toList
      · rw [if_neg (not_not.2 hsri), if_pos hsolo] at h
        cases rest with
        | nil => cases h
        | cons a rest =>
          cases hs : payoutScript lib a n with
          | error e => simp [hs] at h
          | ok s =>
            refine ⟨a, rest, s, by rw [hsri, hsolo], hs, ?_⟩
            simpa [hs, eq_comm] using h
      · -- No other mode is accepted, whatever its pieces are.
        rw [if_neg (not_not.2 hsri), if_neg hsolo] at h
        exfalso
        split at h
        · split at h
          · split at h <;> cases h
          · cases h
        · cases h
    · rw [if_pos hsri] at h
      cases h
  · cases h

/-- The pieces of an `sri/solo` identity put together again. -/
theorem namesAddress_of_splitOn {u a : Text} {rest : List Text}
    (h : u.splitOn '/' = "sri".toList :: "solo".toList :: a :: rest) : NamesAddress a u := by
  obtain ⟨-, ⟨-, h0⟩ | ⟨u₁, rfl, h₁⟩⟩ := Text.splitOn_eq_cons h
  · cases h0
  obtain ⟨-, ⟨-, h0⟩ | ⟨u₂, rfl, h₂⟩⟩ := Text.splitOn_eq_cons h₁
  · cases h0
  obtain ⟨-, ⟨rfl, -⟩ | ⟨u₃, rfl, -⟩⟩ := Text.splitOn_eq_cons h₂
  · exact NamesAddress.solo
  · exact NamesAddress.soloWorker u₃

/-- **The pool's reader.**  An accepted identity is in solo mode, with the script
of an address it names. -/
theorem tryFromUserIdentity_eq_ok {u : Text} {n : Option BitcoinNetwork} {mode : PayoutMode}
    (h : tryFromUserIdentity lib u n = .ok mode) :
    ∃ a s, NamesAddress a u ∧ payoutScript lib a n = .ok s ∧ mode = .solo s := by
  unfold tryFromUserIdentity at h
  split at h
  · cases h
  cases hs : u.splitOnce '.' with
  | none =>
    simp only [hs] at h
    split at h
    · rename_i s hok
      exact ⟨u, s, .bare, hok, (Except.ok.inj h).symm⟩
    · obtain ⟨a, rest, s, hparts, hok, hmode⟩ := fromParts_eq_ok h
      exact ⟨a, s, namesAddress_of_splitOn hparts, hok, hmode⟩
  | some p =>
    obtain ⟨a, label⟩ := p
    simp only [hs] at h
    split at h
    · rename_i s hok
      refine ⟨a, s, ?_, hok, (Except.ok.inj h).symm⟩
      rw [Text.eq_of_splitOnce_eq_some hs]
      exact .worker label
    · obtain ⟨a', rest, s, hparts, hok, hmode⟩ := fromParts_eq_ok h
      exact ⟨a', s, namesAddress_of_splitOn hparts, hok, hmode⟩

end

/-! ## The two readers agree -/

/-- **Payout and history name the same address.**  Whatever identity the pool
accepts pays its whole value to one script, the history's reader accepts the
identity too, and that script is the script of the address it reports. -/
theorem tryFromUserIdentity_agrees {Addr : Type} {lib : AddressLib Addr} (hl : lib.Laws)
    (n : Network) (u : Text) (mode : PayoutMode)
    (h : tryFromUserIdentity lib u (some n.toBitcoinNetwork) = .ok mode) :
    ∃ script, mode = .solo script ∧
      (∀ total pool, mode.coinbaseOutputs total pool = [⟨total, script⟩]) ∧
      (minerIdFromIdentity lib n u).isSome ∧
      ∃ identity a, parseMinerIdentity lib u n = .ok identity ∧
        lib.fromStr identity.payoutAddress = .ok a ∧ script = lib.scriptPubkey a := by
  obtain ⟨address, script, hnames, hscript, rfl⟩ := tryFromUserIdentity_eq_ok h
  obtain ⟨x, hx, hn, rfl⟩ := payoutScript_eq_ok hl hscript
  rw [bitcoinNetwork_toBitcoinNetwork] at hn
  obtain ⟨identity, hparse, haddr⟩ :=
    parseMinerIdentity_of_names lib hnames (hl.clean address x hx) hx hn
  obtain ⟨a, ha, hsame⟩ := hl.reparse address x hx
  refine ⟨lib.scriptPubkey x, rfl, fun _ _ => rfl, ?_, identity, a, hparse, ?_, hsame.symm⟩
  · exact (minerIdFromIdentity_isSome_iff lib n u).2 ⟨identity, hparse⟩
  · rw [haddr, ha]

/-- The two readers on an identity of the `sri/solo` form with a dotted label. -/
theorem tryFromUserIdentity_agrees_alice :
    let u := "sri/solo/".toList ++ (aliceAddress ++ "/garage.s19 ".toList)
    tryFromUserIdentity tableLib u (some .regtest) = .ok (.solo aliceScript) ∧
      ∃ script, PayoutMode.solo aliceScript = .solo script ∧
        (∀ total pool, (PayoutMode.solo aliceScript).coinbaseOutputs total pool =
          [⟨total, script⟩]) ∧
        (minerIdFromIdentity tableLib .regtest u).isSome ∧
        ∃ identity a, parseMinerIdentity tableLib u .regtest = .ok identity ∧
          tableLib.fromStr identity.payoutAddress = .ok a ∧
          script = tableLib.scriptPubkey a := by
  have h : tryFromUserIdentity tableLib
      ("sri/solo/".toList ++ (aliceAddress ++ "/garage.s19 ".toList)) (some .regtest) =
        .ok (.solo aliceScript) := by
    decide
  exact ⟨h, tryFromUserIdentity_agrees tableLib_laws .regtest _ _ h⟩

end PayoutMode

end CanaryMining
