import CanaryMining.Address
import CanaryMining.Lib.Path

/-!
# The socket of the node

The application tests whether the node's socket exists before it starts the pool, and
the pool connects to a socket of its own choice.  The configuration names the socket
itself or a data directory, and reaches the pool through one field that holds either; the
pool takes that field for a socket when its extension is `sock`.

## Main definitions

* `AppConfig`, `buildPoolConfig` — the configuration and what the pool gets of it.
* `resolveIpcSocketPath` — the path the application tests.
* `resolveBitcoinCoreIpcSocketPath` — the path the pool connects to.
* `SocketNamedAlike` — when they are the same.
-/

namespace CanaryMining

/-- `BitcoinCoreConfig`, as far as the pool gets it. -/
structure BitcoinCoreConfig where
  dataDir : Option PathBuf
  ipcSocketPath : Option Text
  feeThreshold : UInt64
  minInterval : UInt8

/-- `AppConfig`, as far as the node's socket depends on it. -/
structure AppConfig where
  network : Network
  bitcoinCore : BitcoinCoreConfig

/-- `AppConfig::default_pool_payout_address`. -/
def AppConfig.defaultPoolPayoutAddress (config : AppConfig) : Text :=
  match config.network with
  | .mainnet => "bc1qvzvkjn4q3nszqxrv3nraga2r822xjty3ykvkuw".toList
  | .testnet4 | .signet =>
    "tb1qrp33g0q5c5txsp9arysrx4k6zdkfs4nce4xj0gdcccefvpysxf3q0sl5k7".toList
  | .regtest => "bcrt1q2nfxmhd4n3c8834pj72xagvyr9gl57n5r94fsl".toList

/-- `TemplateProviderType::BitcoinCoreIpc`, the only type the application builds. -/
structure BitcoinCoreIpc where
  network : BitcoinNetwork
  dataDir : Option PathBuf
  feeThreshold : UInt64
  minInterval : UInt8

/-- `PoolConfig`, less the fields that have nothing to do with the node. -/
structure PoolConfig where
  templateProviderType : BitcoinCoreIpc
  coinbaseRewardScript : Script

/-- `PoolConfigError::InvalidCoinbaseAddress`. -/
structure PoolConfigError where
  address : Text
  message : Text
  deriving DecidableEq, Repr

/-- `Display for PoolConfigError`. -/
def PoolConfigError.toText (error : PoolConfigError) : Text :=
  "invalid coinbase reward descriptor addr(".toList ++ error.address ++ "): ".toList ++
    error.message

/-- `normalize_ipc_socket_path`. -/
def normalizeIpcSocketPath (path : Text) : PathBuf :=
  .ofText (("unix:".toList.isPrefixOf? path).getD path)

/-- `build_pool_config`. -/
def buildPoolConfig {Addr : Type} (lib : AddressLib Addr) (config : AppConfig) :
    Except PoolConfigError PoolConfig :=
  match lib.fromDescriptor (addrDescriptor config.defaultPoolPayoutAddress) with
  | .error message => .error ⟨config.defaultPoolPayoutAddress, message⟩
  | .ok script =>
    .ok {
      templateProviderType := {
        network := config.network.toBitcoinNetwork
        dataDir := (config.bitcoinCore.ipcSocketPath.map normalizeIpcSocketPath).or
          config.bitcoinCore.dataDir
        feeThreshold := config.bitcoinCore.feeThreshold
        minInterval := config.bitcoinCore.minInterval }
      coinbaseRewardScript := script }

section Resolve

-- `tp_type::resolve_ipc_socket_path` of the pool's library.
variable (libResolve : BitcoinNetwork → Option PathBuf → Option PathBuf)

/-- What is relied on of `tp_type::resolve_ipc_socket_path`: it joins the data directory, or
a default one, the directories of the network and the name of the socket. -/
def JoinsSocket : Prop :=
  ∃ (default : Option PathBuf) (networkDirs : BitcoinNetwork → List Text),
    ∀ network dataDir, libResolve network dataDir = (dataDir.or default).map fun dir =>
      ((networkDirs network).foldl PathBuf.join dir).join "node.sock".toList

/-- `resolve_ipc_socket_path`, whose result `run`, `check` and the dashboard test. -/
def resolveIpcSocketPath (config : AppConfig) : Option PathBuf :=
  match config.bitcoinCore.ipcSocketPath with
  | some path => some (normalizeIpcSocketPath path)
  | none => libResolve config.network.toBitcoinNetwork config.bitcoinCore.dataDir

/-- Whether the pool takes a path for a socket. -/
def isSocketPath (path : PathBuf) : Bool := path.extension == some "sock".toList

/-- `resolve_bitcoin_core_ipc_socket_path` of the pool. -/
def resolveBitcoinCoreIpcSocketPath (network : BitcoinNetwork)
    (dataDirOrSocketPath : Option PathBuf) : Option PathBuf :=
  match dataDirOrSocketPath with
  | some path => if isSocketPath path then some path else libResolve network (some path)
  | none => libResolve network none

/-- The path `PoolSv2::start` connects to. -/
def PoolConfig.socketPath (pool : PoolConfig) : Except Text PathBuf :=
  match resolveBitcoinCoreIpcSocketPath libResolve pool.templateProviderType.network
    pool.templateProviderType.dataDir with
  | some path => .ok path
  | none =>
    .error "Could not determine Bitcoin data directory. Please set data_dir in config.".toList

end Resolve

/-- The configured socket has the extension `sock`, or none is configured and the data
directory does not have it. -/
def SocketNamedAlike (config : AppConfig) : Prop :=
  match config.bitcoinCore.ipcSocketPath, config.bitcoinCore.dataDir with
  | some path, _ => isSocketPath (normalizeIpcSocketPath path) = true
  | none, some dataDir => isSocketPath dataDir = false
  | none, none => True

section Compare

variable {Addr : Type} {lib : AddressLib Addr}
  {libResolve : BitcoinNetwork → Option PathBuf → Option PathBuf}

/-- The socket of a data directory is not the directory. -/
theorem JoinsSocket.ne_self (h : JoinsSocket libResolve) (network : BitcoinNetwork)
    (dir : PathBuf) : libResolve network (some dir) ≠ some dir := by
  obtain ⟨default, networkDirs, hjoins⟩ := h
  intro heq
  rw [hjoins] at heq
  have hlength := congrArg (fun path => path.components.length) (Option.some.inj heq)
  simp only [PathBuf.length_components_join] at hlength
  have hle := PathBuf.length_components_foldl_join dir (networkDirs network)
  omega

/-- **One socket.**  The path the pool connects to is the path the application tests
exactly if the configured path is named as the pool expects. -/
theorem socketPath_eq_iff (hjoins : JoinsSocket libResolve) {config : AppConfig}
    {pool : PoolConfig} (hpool : buildPoolConfig lib config = .ok pool) :
    resolveBitcoinCoreIpcSocketPath libResolve pool.templateProviderType.network
        pool.templateProviderType.dataDir = resolveIpcSocketPath libResolve config ↔
      SocketNamedAlike config := by
  have hfields : pool.templateProviderType.network = config.network.toBitcoinNetwork ∧
      pool.templateProviderType.dataDir =
        (config.bitcoinCore.ipcSocketPath.map normalizeIpcSocketPath).or
          config.bitcoinCore.dataDir := by
    simp only [buildPoolConfig] at hpool
    split at hpool
    · cases hpool
    · cases hpool
      exact ⟨rfl, rfl⟩
  rw [hfields.1, hfields.2]
  simp only [resolveIpcSocketPath, SocketNamedAlike]
  cases config.bitcoinCore.ipcSocketPath with
  | some path =>
    simp only [Option.map_some, Option.some_or, resolveBitcoinCoreIpcSocketPath]
    by_cases hsock : isSocketPath (normalizeIpcSocketPath path) = true
    · simp [hsock]
    · simp [hsock, hjoins.ne_self]
  | none =>
    simp only [Option.map_none, Option.none_or]
    cases config.bitcoinCore.dataDir with
    | none => simp [resolveBitcoinCoreIpcSocketPath]
    | some dir =>
      have hne := hjoins.ne_self config.network.toBitcoinNetwork dir
      by_cases hsock : isSocketPath dir = true
      · simp [resolveBitcoinCoreIpcSocketPath, hsock, Ne.symm hne]
      · simp [resolveBitcoinCoreIpcSocketPath, hsock]

end Compare

/-! ## Two configurations -/

/-- The directories of a network under the node's data directory. -/
def nodeDirs : BitcoinNetwork → List Text
  | .mainnet => []
  | .testnet4 => ["testnet4".toList]
  | .signet => ["signet".toList]
  | .regtest => ["regtest".toList]

/-- The pool's library on a machine without a default data directory. -/
def nodeSocket (network : BitcoinNetwork) (dataDir : Option PathBuf) : Option PathBuf :=
  dataDir.map fun dir => ((nodeDirs network).foldl PathBuf.join dir).join "node.sock".toList

theorem joinsSocket_nodeSocket : JoinsSocket nodeSocket := by
  refine ⟨none, nodeDirs, fun network dataDir => ?_⟩
  rw [Option.or_none]
  rfl

/-- A regression test server that names its socket `path`. -/
def regtestConfig (path : Text) : AppConfig := ⟨.regtest, ⟨none, some path, 100000, 60⟩⟩

theorem socketPath_eq_nodeSock :
    resolveBitcoinCoreIpcSocketPath nodeSocket .regtest
        (some (normalizeIpcSocketPath "unix:/bitcoin/regtest/node.sock".toList)) =
      resolveIpcSocketPath nodeSocket
        (regtestConfig "unix:/bitcoin/regtest/node.sock".toList) := by
  have hpool : ∃ pool, buildPoolConfig tableLib
      (regtestConfig "unix:/bitcoin/regtest/node.sock".toList) = .ok pool ∧
      pool.templateProviderType.network = .regtest ∧ pool.templateProviderType.dataDir =
        some (normalizeIpcSocketPath "unix:/bitcoin/regtest/node.sock".toList) :=
    ⟨_, rfl, rfl, rfl⟩
  obtain ⟨pool, hpool, hnetwork, hdir⟩ := hpool
  have hsock : isSocketPath
      (normalizeIpcSocketPath "unix:/bitcoin/regtest/node.sock".toList) = true := by decide
  rw [← hnetwork, ← hdir]
  exact (socketPath_eq_iff joinsSocket_nodeSocket hpool).2 hsock

/-- **A socket of another name.**  The application tests the socket, and the pool takes it
for a data directory. -/
theorem socketPath_fails_otherName :
    ¬ ∀ (libResolve : BitcoinNetwork → Option PathBuf → Option PathBuf) (config : AppConfig)
      pool, JoinsSocket libResolve → buildPoolConfig tableLib config = .ok pool →
      resolveBitcoinCoreIpcSocketPath libResolve pool.templateProviderType.network
        pool.templateProviderType.dataDir = resolveIpcSocketPath libResolve config := by
  intro hall
  have heq := hall nodeSocket (regtestConfig "/run/bitcoin/ipc".toList) _
    joinsSocket_nodeSocket rfl
  exact absurd heq (by decide)

end CanaryMining
