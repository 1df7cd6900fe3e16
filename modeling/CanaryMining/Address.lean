import CanaryMining.Lib.Text

/-!
# Networks and payout addresses

The networks a server can be configured for, the address library it parses
payout addresses with, and `validate_payout_address`.

The address library is a dependency whose code is not part of the repository, so
it is a parameter: `AddressLib` is what is called, `AddressLib.Laws` what is
relied on.

## Main definitions

* `Network`, `BitcoinNetwork`, `LibNetwork` — the application's network, the
  pool library's and the address library's.
* `AddressLib` — the address library.
* `validatePayoutAddress` — the canonical form of an address of the network.
-/

namespace CanaryMining

/-- The bytes of a script. -/
abbrev Script := List UInt8

/-- `app_config::Network`. -/
inductive Network
  | mainnet
  | testnet4
  | signet
  | regtest
  deriving DecidableEq, Repr

/-- `tp_type::BitcoinNetwork`, the pool library's own copy of the enumeration. -/
inductive BitcoinNetwork
  | mainnet
  | testnet4
  | signet
  | regtest
  deriving DecidableEq, Repr

/-- `bitcoin::Network`, the address library's enumeration. -/
inductive LibNetwork
  | bitcoin
  | testnet
  | testnet4
  | signet
  | regtest
  deriving DecidableEq, Repr

namespace Network

/-- `Display for Network`. -/
def toText : Network → Text
  | mainnet => "mainnet".toList
  | testnet4 => "testnet4".toList
  | signet => "signet".toList
  | regtest => "regtest".toList

/-- `From<Network> for bitcoin::Network`. -/
def toLib : Network → LibNetwork
  | mainnet => .bitcoin
  | testnet4 => .testnet4
  | signet => .signet
  | regtest => .regtest

/-- `From<Network> for tp_type::BitcoinNetwork`, by which the application hands
its network to the pool. -/
def toBitcoinNetwork : Network → BitcoinNetwork
  | mainnet => .mainnet
  | testnet4 => .testnet4
  | signet => .signet
  | regtest => .regtest

end Network

/-- `bitcoin_network` of the pool's utilities. -/
def bitcoinNetwork : BitcoinNetwork → LibNetwork
  | .mainnet => .bitcoin
  | .testnet4 => .testnet4
  | .signet => .signet
  | .regtest => .regtest

/-- Both ways from the application's network to the address library's agree. -/
@[simp] theorem bitcoinNetwork_toBitcoinNetwork (n : Network) :
    bitcoinNetwork n.toBitcoinNetwork = n.toLib := by
  cases n <;> rfl

/-! ## The address library -/

/-- The calls into the address and descriptor libraries.  A parsed address is
kept as it is by `require_network`, which only checks it. -/
structure AddressLib (Addr : Type) where
  /-- `Address::from_str`. -/
  fromStr : Text → Except Text Addr
  /-- `Address::require_network`. -/
  requireNetwork : Addr → LibNetwork → Except Text Unit
  /-- `Address::to_string`. -/
  toText : Addr → Text
  /-- `Address::script_pubkey`. -/
  scriptPubkey : Addr → Script
  /-- `CoinbaseRewardScript::from_descriptor`. -/
  fromDescriptor : Text → Except Text Script

/-- A text that can stand between the separators of a user identity. -/
structure CleanPiece (s : Text) : Prop where
  ne_nil : s ≠ []
  noWhitespace : s.NoWhitespace
  dot_notMem : '.' ∉ s
  slash_notMem : '/' ∉ s

/-- The descriptor `addr(x)`. -/
def addrDescriptor (x : Text) : Text := "addr(".toList ++ x ++ ")".toList

/-- What is relied on of the address library. -/
structure AddressLib.Laws {Addr : Type} (lib : AddressLib Addr) : Prop where
  /-- An accepted string is nonempty and has no white space, `.` or `/`. -/
  clean : ∀ x a, lib.fromStr x = .ok a → CleanPiece x
  /-- The canonical form of an address parses to the same script. -/
  reparse : ∀ x a, lib.fromStr x = .ok a →
    ∃ a', lib.fromStr (lib.toText a) = .ok a' ∧ lib.scriptPubkey a' = lib.scriptPubkey a
  /-- The descriptor of an address yields the script of the address. -/
  descriptor : ∀ x a s, lib.fromStr x = .ok a → lib.fromDescriptor (addrDescriptor x) = .ok s →
    s = lib.scriptPubkey a

/-! ## `validate_payout_address` -/

/-- `PayoutAddressError`. -/
inductive PayoutAddressError
  | empty
  | invalid (source : Text)
  deriving DecidableEq, Repr

/-- `Display for PayoutAddressError`. -/
def PayoutAddressError.toText : PayoutAddressError → Text
  | empty => "payout address must not be empty".toList
  | invalid source => "invalid payout address: ".toList ++ source

section

variable {Addr : Type} (lib : AddressLib Addr)

/-- The canonical form of `address`, if it is an address of `network`. -/
def validatePayoutAddress (address : Text) (network : Network) :
    Except PayoutAddressError Text :=
  let trimmed := address.trim
  if trimmed = [] then .error .empty
  else match lib.fromStr trimmed with
    | .error source => .error (.invalid source)
    | .ok a =>
      match lib.requireNetwork a network.toLib with
      | .error source => .error (.invalid source)
      | .ok () => .ok (lib.toText a)

/-- An address that needs no trimming is validated to its canonical form. -/
theorem validatePayoutAddress_of_clean {x : Text} {a : Addr} {n : Network} (hx : CleanPiece x)
    (ha : lib.fromStr x = .ok a) (hn : lib.requireNetwork a n.toLib = .ok ()) :
    validatePayoutAddress lib x n = .ok (lib.toText a) := by
  simp only [validatePayoutAddress, hx.noWhitespace.trim_eq, hx.ne_nil, if_false, ha, hn]

end

/-! ## A table of addresses

The address library restricted to two witness addresses of the regression
network, with the scripts they encode. -/

/-- The address of the repository's tests. -/
def aliceAddress : Text := "bcrt1q2nfxmhd4n3c8834pj72xagvyr9gl57n5r94fsl".toList

/-- A second address of the same form. -/
def bobAddress : Text := "bcrt1qtzqxqaxyy6lda2fhdtp5dp0v56vlf6g0rss6xu".toList

/-- The pay-to-witness-key-hash script of `aliceAddress`. -/
def aliceScript : Script :=
  [0, 20, 84, 210, 109, 221, 181, 156, 112, 115, 198, 161, 151, 148, 110, 161, 132, 25, 81, 250,
    122, 116]

/-- The pay-to-witness-key-hash script of `bobAddress`. -/
def bobScript : Script :=
  [0, 20, 88, 128, 96, 116, 196, 38, 190, 222, 169, 55, 106, 195, 70, 133, 236, 166, 153, 244,
    233, 15]

/-- The address library on the two addresses: `false` is Alice's, `true` Bob's. -/
def tableLib : AddressLib Bool where
  fromStr x :=
    if x = aliceAddress then .ok false
    else if x = bobAddress then .ok true
    else .error "base58 error".toList
  requireNetwork _ n :=
    if n = .regtest then .ok () else .error "address is not valid on the network".toList
  toText a := if a then bobAddress else aliceAddress
  scriptPubkey a := if a then bobScript else aliceScript
  fromDescriptor d :=
    if d = addrDescriptor aliceAddress then .ok aliceScript
    else if d = addrDescriptor bobAddress then .ok bobScript
    else .error "invalid descriptor".toList

theorem tableLib_fromStr {x : Text} {a : Bool} (h : tableLib.fromStr x = .ok a) :
    x = tableLib.toText a := by
  by_cases hA : x = aliceAddress
  · have h' : tableLib.fromStr x = .ok false := if_pos hA
    rw [h', Except.ok.injEq] at h
    subst h
    exact hA
  · by_cases hB : x = bobAddress
    · have h' : tableLib.fromStr x = .ok true := (if_neg hA).trans (if_pos hB)
      rw [h', Except.ok.injEq] at h
      subst h
      exact hB
    · have h' : tableLib.fromStr x = .error "base58 error".toList :=
        (if_neg hA).trans (if_neg hB)
      rw [h'] at h
      cases h

theorem cleanPiece_toText (a : Bool) : CleanPiece (tableLib.toText a) := by
  cases a <;> constructor <;> decide

theorem tableLib_laws : tableLib.Laws where
  clean x a h := by
    rw [tableLib_fromStr h]
    exact cleanPiece_toText a
  reparse x a h := by
    refine ⟨a, ?_, rfl⟩
    rw [← tableLib_fromStr h, h]
  descriptor x a s h hd := by
    rw [tableLib_fromStr h] at hd
    cases a
    · exact (Except.ok.inj hd).symm
    · exact (Except.ok.inj hd).symm

end CanaryMining
