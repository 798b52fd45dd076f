import Pist.Core.GenesisSetup
import Pist.Consensus.Minerva.Engine

/-! # Starting a node on its database

`pist.New` (in `pist/backend.go`) opens the chain database, runs `core.SetupGenesisBlock` on it,
builds the consensus engine, checks the database version and builds the blockchain. When setup
refused an incompatible configuration upgrade, `New` goes on: it rewinds the chain and stores the
new configuration itself. This file models:

* **`NodeDb`** — the node's database: the `rawdb` tables genesis setup reads and writes, and the
  database version;
* **`Pistchain.Services`** — what `New` calls from packages that are not among the sources; the
  blockchain layer keeps the genesis records (`KeepsGenesis`);
* **`Pistchain.new`** — `New`, in its phases `checkSyncMode`, `fatalError`, `checkVersion`,
  `rewind` and `build`; **`Pistchain.run`** — starts of a node, one after another, with the
  chain's own writes between them.

The main results:

* **`new_chainConfig`** — every node `New` returns runs on the chain configuration its database
  stores for its genesis block, and that configuration is set, also after an upgrade that setup
  refused;
* **`run_new_genesis`** — from a database with no genesis and no version, along every run of
  starts with one genesis, no start panics, fails at genesis setup or fails for the database
  version, and every node started runs on the genesis configuration. -/

namespace Pist

variable {Cfg Key Impl E : Type}

/-! ## (1) The node's database -/

/-- **The node's database**: the `rawdb` tables genesis setup reads and writes, and the version
`rawdb.ReadDatabaseVersion` reads, `0` when none is stored. -/
structure NodeDb (Cfg : Type) extends Database Cfg where
  /-- `ReadDatabaseVersion(db)`. -/
  databaseVersion : Int

/-- **What the blockchain layer keeps** when it writes the database: block zero's canonical hash,
the stored chain configurations, a head header's number once there is one, and the version. -/
structure KeepsGenesis (db db' : NodeDb Cfg) : Prop where
  /-- Block zero stays. -/
  canonicalHash : db'.canonicalHash 0 = db.canonicalHash 0
  /-- The configurations stay. -/
  chainConfig : db'.chainConfig = db.chainConfig
  /-- A numbered head header stays numbered. -/
  headNumber : (db.headerNumber db.headHeaderHash).isSome →
    (db'.headerNumber db'.headHeaderHash).isSome
  /-- The version stays. -/
  databaseVersion : db'.databaseVersion = db.databaseVersion

/-! ## (2) `New` -/

/-- **The node** `New` returns, by the fields it sets from what the model computes. -/
structure Pistchain (Cfg : Type) where
  /-- `chainConfig`. -/
  chainConfig : Option Cfg
  /-- `engine`: the address of the engine `CreateConsensusEngine` built. -/
  engine : Nat
  /-- `networkID`. -/
  networkId : UInt64
  /-- `gasPrice`. -/
  gasPrice : Option Int
  /-- The default price of the gas price oracle, `gpoParams.Default`. -/
  gpoDefault : Option Int

namespace Pistchain

/-- The settings of `pist.Config` that `New` reads. -/
structure Config (Cfg : Type) where
  /-- `SyncMode`. -/
  syncMode : Int
  /-- `Genesis`. -/
  genesis : Option (Genesis Cfg)
  /-- `NetworkId`. -/
  networkId : UInt64
  /-- `GasPrice`. -/
  gasPrice : Option Int
  /-- `SkipBcVersionCheck`. -/
  skipBcVersionCheck : Bool
  /-- `GPO.Default`. -/
  gpoDefault : Option Int

/-- The errors `New` returns. -/
inductive NewError where
  /-- The light sync mode. -/
  | lightSync
  /-- A sync mode `IsValid` refuses. -/
  | invalidSyncMode (mode : Int)
  /-- The error of `ctx.OpenDatabase`. -/
  | openDatabase (text : String)
  /-- An error of `SetupGenesisBlock` other than a `*params.ConfigCompatError`. -/
  | genesis (e : SetupError)
  /-- A stored version other than the current one and `0`. -/
  | versionMismatch (stored current : Int)
  /-- The error of `core.NewBlockChain`. -/
  | blockChain (text : String)
  /-- The error of `NewProtocolManager`. -/
  | protocolManager (text : String)
deriving DecidableEq, Repr

/-- The text of each error. -/
def NewError.text : NewError → String
  | .lightSync => "can't run pist.Pistchain in light sync mode, use les.LightTruechain"
  | .invalidSyncMode mode => "invalid sync mode " ++ toString mode
  | .openDatabase text => text
  | .genesis e => e.text
  | .versionMismatch stored current =>
    "Blockchain DB version mismatch (" ++ toString stored ++ " / " ++ toString current ++
      "). Run gpist upgradedb.\n"
  | .blockChain text => text
  | .protocolManager text => text

/-- **The collaborators of `New`** from packages that are not among the sources: the sync modes
of `downloader`, `core.BlockChainVersion`, the database `ctx.OpenDatabase` opens, and the
blockchain layer, whose writes keep the genesis records. -/
structure Services (Cfg : Type) where
  /-- `downloader.LightSync`. -/
  lightSync : Int
  /-- `SyncMode.IsValid`. -/
  isValid : Int → Bool
  /-- `core.BlockChainVersion`. -/
  blockChainVersion : Int
  /-- The error of `ctx.OpenDatabase`, if it fails. -/
  openError : Option String
  /-- `core.NewBlockChain` with the chain configuration: its error, or the database after it. -/
  newBlockChain : NodeDb Cfg → Option Cfg → Except String (NodeDb Cfg)
  /-- `blockchain.SetHead(number)`. -/
  setHead : NodeDb Cfg → UInt64 → NodeDb Cfg
  /-- The error of `NewProtocolManager`, if it fails. -/
  newProtocolManager : NodeDb Cfg → Option String
  newBlockChain_keeps : ∀ db c db', newBlockChain db c = .ok db' → KeepsGenesis db db'
  setHead_keeps : ∀ db n, KeepsGenesis db (setHead db n)

/-- What `New` returns, with the database, the engines of the process and the genesis pointer
`config.Genesis`, whose committee setup may rewrite, after the call. -/
structure Outcome (Cfg E : Type) where
  /-- The node or the error. -/
  result : Except NewError (Pistchain Cfg)
  /-- The database after the call. -/
  db : NodeDb Cfg
  /-- The engines of the process after the call. -/
  engines : Engines E
  /-- `config.Genesis` after the call. -/
  genesis : Option (Genesis Cfg)

variable (S : Services Cfg)

/-- The sync-mode checks at the top of `New`. -/
def checkSyncMode (mode : Int) : Option NewError :=
  if mode = S.lightSync then some .lightSync
  else if S.isValid mode then none
  else some (.invalidSyncMode mode)

/-- The genesis error that stops `New`: any but a `*params.ConfigCompatError`. -/
def fatalError : Option SetupError → Option SetupError
  | some (.configCompat _) => none
  | e => e

/-- The database version check, unless `SkipBcVersionCheck`: a version other than the current
one and `0` is refused; otherwise the current one is written. -/
def checkVersion (skip : Bool) (db : NodeDb Cfg) : Except NewError (NodeDb Cfg) :=
  if skip then .ok db
  else if db.databaseVersion ≠ S.blockChainVersion ∧ db.databaseVersion ≠ 0 then
    .error (.versionMismatch db.databaseVersion S.blockChainVersion)
  else .ok { db with databaseVersion := S.blockChainVersion }

/-- The rewind after a configuration upgrade that setup refused: `SetHead(compat.RewindTo)`, then
`WriteChainConfig(chainDb, genesisHash, chainConfig)`. -/
def rewind (genesisErr : Option SetupError) (genesisHash : Hash) (chainConfig : Option Cfg)
    (db : NodeDb Cfg) : NodeDb Cfg :=
  match genesisErr with
  | some (.configCompat compat) =>
    let db := S.setHead db compat.rewindTo
    { db with toDatabase := db.toDatabase.writeChainConfig genesisHash chainConfig }
  | _ => db

/-- The rest of `New` once setup returned `r` with no error that stops it: the engine of mode
`ModeNormal`, the version check, the blockchain, the rewind and the protocol manager. -/
def build (fake : E) (config : Config Cfg) (r : SetupOutcome Cfg) (db : NodeDb Cfg)
    (engines : Engines E) : Outcome Cfg E :=
  let created := engines.createConsensusEngine fake .normal
  match checkVersion S config.skipBcVersionCheck db with
  | .error e => ⟨.error e, db, created.1, r.genesis⟩
  | .ok db =>
    match S.newBlockChain db r.config with
    | .error e => ⟨.error (.blockChain e), db, created.1, r.genesis⟩
    | .ok db =>
      let db := rewind S r.err r.hash r.config db
      match S.newProtocolManager db with
      | some e => ⟨.error (.protocolManager e), db, created.1, r.genesis⟩
      | none =>
        ⟨.ok ⟨r.config, created.2, config.networkId, config.gasPrice,
          if config.gpoDefault.isNone then config.gasPrice else config.gpoDefault⟩,
          db, created.1, r.genesis⟩

/-- **`New`** on the database `db` and the engines `engines` of the process; `fake` is what
`newFakeElection()` returns and `ord` the order of the Go maps. A panic of setup is one of
`New`. -/
def new (B : Backend Cfg Key Impl) (fake : E) (config : Config Cfg) (ord : RangeOrder)
    (db : NodeDb Cfg) (engines : Engines E) : Except GoPanic (Outcome Cfg E) :=
  match checkSyncMode S config.syncMode with
  | some e => .ok ⟨.error e, db, engines, config.genesis⟩
  | none =>
    match S.openError with
    | some e => .ok ⟨.error (.openDatabase e), db, engines, config.genesis⟩
    | none =>
      (setupGenesisBlock B db.toDatabase config.genesis ord).map fun r =>
        match fatalError r.err with
        | some e => ⟨.error (.genesis e), { db with toDatabase := r.db }, engines, r.genesis⟩
        | none => build S fake config r { db with toDatabase := r.db } engines

/-- **`makeExtraData`**: the given extra data, or, when it is empty, `defaultExtra` (the `rlp`
encoding of the client's version, name, Go version and OS); data longer than
`params.MaximumExtraDataSize` is dropped, with a warning. -/
def makeExtraData (defaultExtra : List UInt8) (maximumExtraDataSize : UInt64)
    (extra : List UInt8) : List UInt8 :=
  let extra := if extra.length = 0 then defaultExtra else extra
  if extra.length > maximumExtraDataSize.toNat then [] else extra

end Pistchain

/-! ## (3) Genesis setup as `New` sees it -/

section Setup

variable {B : Backend Cfg Key Impl}

/-- A `CommitFast` that returns a block has made the writes of a genesis block. -/
theorem commitFast_ok {g : Genesis Cfg} {ord : RangeOrder} {db db' : Database Cfg} {block : Block}
    {g' : Genesis Cfg} (h : g.commitFast B ord db = .ok (.ok block, db', g')) :
    db' = db.commitGenesis (block.hash B) (g.config.getD B.allMinervaProtocolChanges) := by
  unfold Genesis.commitFast at h
  split at h
  · cases h
  · split_ifs at h
    · cases h
    · cases h; rfl

/-- **What setup leaves when no error of it stops `New`**: block zero is the hash it returns, the
configuration it returns is set, and with no error at all it is the one stored under that hash. -/
structure SetupOutcome.Settled (r : SetupOutcome Cfg) : Prop where
  /-- Block zero is the hash returned. -/
  canonicalHash : r.db.canonicalHash 0 = r.hash
  /-- The configuration returned is set. -/
  config : r.config.isSome
  /-- With no error, it is stored. -/
  stored : r.err = none → r.db.chainConfig r.hash = r.config

/-- Given a genesis, the configuration half returns the genesis configuration in every case. -/
theorem setupChainConfig_config (db : Database Cfg) (g : Genesis Cfg) (stored : Hash) :
    (setupChainConfig B db (some g) stored).config = g.config := by
  unfold setupChainConfig
  simp only [configOrDefault, Option.isNone_some, Bool.false_eq_true, false_and, ite_false]
  repeat' split
  all_goals rfl

theorem settled_setupChainConfig (db : Database Cfg) (genesis : Option (Genesis Cfg)) (stored : Hash)
    (hs : db.canonicalHash 0 = stored) (hc : (configOrDefault B genesis stored).isSome)
    (hf : Pistchain.fatalError (setupChainConfig B db genesis stored).err = none) :
    (setupChainConfig B db genesis stored).Settled := by
  obtain ⟨c, hc⟩ := Option.isSome_iff_exists.1 hc
  unfold setupChainConfig at hf ⊢
  simp only [hc] at hf ⊢
  cases hsc : db.chainConfig stored with
  | none => exact ⟨by simpa using hs, rfl, fun _ => by simp⟩
  | some sc =>
    simp only [hsc] at hf ⊢
    split_ifs at hf ⊢
    · exact ⟨hs, rfl, fun _ => hsc⟩
    · cases hn : db.headerNumber db.headHeaderHash with
      | none => simp [hn, Pistchain.fatalError] at hf
      | some height =>
        cases he : compatError B sc (some c) height with
        | some e => exact ⟨by simpa [hn, he] using hs, by simp [hn, he], by simp [hn, he]⟩
        | none => exact ⟨by simpa [hn, he] using hs, by simp [hn, he], fun _ => by simp [hn, he]⟩

/-- **Every setup that returns no error stopping `New` is settled.** -/
theorem settled_setupGenesisBlock {db : Database Cfg} {genesis : Option (Genesis Cfg)}
    {ord : RangeOrder} {r : SetupOutcome Cfg} (h : setupGenesisBlock B db genesis ord = .ok r)
    (hf : Pistchain.fatalError r.err = none) : r.Settled := by
  unfold setupGenesisBlock at h
  split at h
  · cases h; cases hf
  · rename_i hnone
    unfold setupFastGenesisBlock at h
    rw [if_neg hnone] at h
    dsimp only at h
    have hcfg : (genesis.getD (defaultGenesisBlock B)).config.isSome := by
      cases genesis with
      | none => rfl
      | some g => exact Option.ne_none_iff_isSome.1 (by simpa using hnone)
    split at h
    · -- no stored genesis: the commit
      split at h
      · cases h
      · cases h
      · rename_i block db' g' hcommit
        cases h
        obtain ⟨c, hc⟩ := Option.isSome_iff_exists.1 hcfg
        rw [commitFast_ok hcommit]
        exact ⟨by simp, by simp [hc], fun _ => by simp [hc]⟩
    · cases genesis with
      | none =>
        have hc : (configOrDefault B none (db.canonicalHash 0)).isSome := by
          unfold configOrDefault; split_ifs <;> rfl
        exact Except.ok.inj h ▸ settled_setupChainConfig _ _ _ rfl hc (Except.ok.inj h ▸ hf)
      | some g =>
        dsimp only at h
        split at h
        · cases h
        · split_ifs at h
          · cases h; cases hf
          · exact Except.ok.inj h ▸ settled_setupChainConfig _ _ _ rfl hcfg (Except.ok.inj h ▸ hf)

end Setup

/-! ## (4) The phases of `New` -/

namespace Pistchain

variable (S : Services Cfg)

theorem checkSyncMode_eq_some {mode : Int} {e : NewError} (h : checkSyncMode S mode = some e) :
    e = .lightSync ∨ e = .invalidSyncMode mode := by
  unfold checkSyncMode at h
  split_ifs at h <;> cases h
  · exact .inl rfl
  · exact .inr rfl

theorem checkVersion_toDatabase {skip : Bool} {db db' : NodeDb Cfg}
    (h : checkVersion S skip db = .ok db') : db'.toDatabase = db.toDatabase := by
  unfold checkVersion at h
  split_ifs at h <;> cases h <;> rfl

/-- The rewind leaves block zero, and the configuration stored under it is the one `New` runs
on: written by setup, or, after an upgrade setup refused, by the rewind itself. -/
theorem rewind_chainConfig {err : Option SetupError} {hash : Hash} {c : Cfg} {db : NodeDb Cfg}
    (hf : fatalError err = none) (hcanon : db.canonicalHash 0 = hash)
    (hstored : err = none → db.chainConfig hash = some c) :
    (rewind S err hash (some c) db).canonicalHash 0 = hash ∧
      (rewind S err hash (some c) db).chainConfig hash = some c := by
  cases err with
  | none => exact ⟨hcanon, hstored rfl⟩
  | some e =>
    cases e with
    | configCompat e =>
      have hk := S.setHead_keeps db e.rewindTo
      exact ⟨by simp [rewind, hk.canonicalHash, hcanon], by simp [rewind]⟩
    | _ => cases hf

/-- **A node `build` returns runs on the configuration stored for block zero.** -/
theorem build_chainConfig {fake : E} {config : Config Cfg} {r : SetupOutcome Cfg}
    {db : NodeDb Cfg} {engines : Engines E} {p : Pistchain Cfg} (hr : r.Settled)
    (hf : fatalError r.err = none) (hdb : db.toDatabase = r.db)
    (hp : (build S fake config r db engines).result = .ok p) :
    (build S fake config r db engines).db.chainConfig
        ((build S fake config r db engines).db.canonicalHash 0) = p.chainConfig ∧
      p.chainConfig.isSome := by
  obtain ⟨c, hc⟩ := Option.isSome_iff_exists.1 hr.config
  unfold build at hp ⊢
  cases hv : checkVersion S config.skipBcVersionCheck db with
  | error e => simp [hv] at hp
  | ok db₁ =>
    cases hb : S.newBlockChain db₁ r.config with
    | error e => simp [hv, hb] at hp
    | ok db₂ =>
      have hk := S.newBlockChain_keeps _ _ _ hb
      have h₁ : db₁.toDatabase = r.db := (checkVersion_toDatabase S hv).trans hdb
      have hcanon : db₂.canonicalHash 0 = r.hash := by
        rw [hk.canonicalHash, show db₁.canonicalHash = r.db.canonicalHash by rw [← h₁]]
        exact hr.canonicalHash
      have hstored : r.err = none → db₂.chainConfig r.hash = some c := fun he => by
        rw [hk.chainConfig, show db₁.chainConfig = r.db.chainConfig by rw [← h₁], hr.stored he, hc]
      obtain ⟨h₃, h₄⟩ := rewind_chainConfig S hf hcanon hstored
      cases hm : S.newProtocolManager (rewind S r.err r.hash r.config db₂) with
      | some e => simp [hv, hb, hm] at hp
      | none =>
        simp only [hv, hb, hm, Except.ok.injEq] at hp ⊢
        subst hp
        rw [hc, h₃]
        exact ⟨h₄, rfl⟩

/-! ## (5) Concrete inputs -/

/-- A genesis over `Bool` configurations with no allocations and no committee. -/
def boolGenesis (config : Bool) : Genesis Bool where
  config := some config
  timestamp := 0
  extraData := []
  gasLimit := 0
  difficulty := some 1
  alloc := ⟨[], List.nodup_nil⟩
  committee := []
  number := 0
  gasUsed := 0
  parentHash := FixedBytes.zero 32

/-- A backend over `Bool` configurations, `true` the upgraded one: `CheckCompatible` asks for a
rewind to block `1` whenever the two differ, and every block hashes to `onesHash`. -/
def upgradeBackend : Backend Bool Unit Unit where
  allMinervaProtocolChanges := false
  mainnetChainConfig := false
  testnetChainConfig := false
  mainnetGenesisHash := FixedBytes.zero 32
  testnetGenesisHash := FixedBytes.zero 32
  genesisGasLimit := 0
  checkCompatible stored new _ := if new = some stored then none else some ⟨"mismatching fork", 1⟩
  mainnetGenesis := boolGenesis false
  unmarshalPubkey k := if k = [] then none else some ()
  pubkeyToAddress _ := FixedBytes.zero 20
  stateUsedFlag := 0
  typeFixed := 0
  blockHash _ _ := onesHash
  stateRoot _ := FixedBytes.zero 32
  onceInitImpawnState := id
  setPOSLocked _ := id
  newImpawnImpl := ()
  insertSAccount2 _ _ _ := id
  doElections := id
  shift := id
  save _ := id

/-- Collaborators that always succeed; `SetHead` leaves the database as it is. -/
def okServices : Services Bool where
  lightSync := 2
  isValid mode := decide (0 ≤ mode ∧ mode ≤ 2)
  blockChainVersion := 3
  openError := none
  newBlockChain db _ := .ok db
  setHead db _ := db
  newProtocolManager _ := none
  newBlockChain_keeps _ _ _ h := by cases h; exact ⟨rfl, rfl, id, rfl⟩
  setHead_keeps _ _ := ⟨rfl, rfl, id, rfl⟩

/-- The settings of a full-sync node started with `boolGenesis config`. -/
def boolConfig (config : Bool) : Config Bool :=
  ⟨0, some (boolGenesis config), 1, none, false, none⟩

/-- A database of the genesis `boolGenesis false` whose head header is block `5`. -/
def headAtFive : NodeDb Bool :=
  ⟨((Database.empty.commitGenesis onesHash false).writeBlock twosHash 5).writeHeadHeaderHash
    twosHash, 3⟩

/-- A database with nothing stored, version included. -/
def emptyDb : NodeDb Bool := ⟨Database.empty, 0⟩

/-! ## (6) Every node runs on its stored configuration -/

/-- **Every node `New` returns runs on the chain configuration its database stores for its
genesis block**, and that configuration is set: whatever the database, the genesis and the
settings, and also after an incompatible upgrade that setup refused, which `New` then writes
itself. -/
theorem new_chainConfig {B : Backend Cfg Key Impl} {fake : E} {config : Config Cfg}
    {ord : RangeOrder} {db : NodeDb Cfg} {engines : Engines E} {o : Outcome Cfg E}
    {p : Pistchain Cfg} (h : new S B fake config ord db engines = .ok o) (hp : o.result = .ok p) :
    o.db.chainConfig (o.db.canonicalHash 0) = p.chainConfig ∧ p.chainConfig.isSome := by
  unfold new at h
  split at h
  · cases h; cases hp
  · split at h
    · cases h; cases hp
    · cases hs : setupGenesisBlock B db.toDatabase config.genesis ord with
      | error e => rw [hs] at h; cases h
      | ok r =>
        rw [hs] at h
        cases h
        cases hf : fatalError r.err with
        | some e => simp only [hf] at hp; cases hp
        | none =>
          simp only [hf] at hp ⊢
          exact build_chainConfig S (settled_setupGenesisBlock hs hf) hf rfl hp

/-- Started with the upgraded configuration on a database whose head is block `5` and which
stores the old one, setup refuses the upgrade; `New` rewinds and stores it. -/
theorem new_chainConfig_upgrade :
    (setupGenesisBlock upgradeBackend headAtFive.toDatabase (some (boolGenesis true))
        .listed).map SetupOutcome.err = .ok (some (.configCompat ⟨"mismatching fork", 1⟩)) ∧
      ∃ o p, new okServices upgradeBackend () (boolConfig true) .listed headAtFive Engines.init =
          .ok o ∧ o.result = .ok p ∧ p.chainConfig = some true ∧
        o.db.chainConfig (o.db.canonicalHash 0) = p.chainConfig ∧ p.chainConfig.isSome :=
  have h : new okServices upgradeBackend () (boolConfig true) .listed headAtFive Engines.init =
      .ok _ := rfl
  ⟨rfl, _, _, h, rfl, rfl, new_chainConfig okServices h rfl⟩

/-! ## (7) Restarts -/

/-- **A write of the running chain** between two starts (blocks inserted, heads moved), which
keeps the genesis records. -/
structure ChainWrite (Cfg : Type) where
  /-- The database after the write. -/
  write : NodeDb Cfg → NodeDb Cfg
  keeps : ∀ db, KeepsGenesis db (write db)

/-- What happens to a node's database: a start of the node, or a write of its chain. -/
inductive Event (Cfg : Type) where
  /-- `New` with the settings `config`, the Go maps ranged in the order `ord`. -/
  | start (config : Config Cfg) (ord : RangeOrder)
  /-- A write of the chain. -/
  | chain (w : ChainWrite Cfg)

/-- The database after one event. Each start is a new process, with the engines of the
package's initialisation; a start that panics has written nothing. -/
def step (B : Backend Cfg Key Impl) (fake : E) (db : NodeDb Cfg) : Event Cfg → NodeDb Cfg
  | .start config ord =>
    match new S B fake config ord db Engines.init with
    | .ok o => o.db
    | .error _ => db
  | .chain w => w.write db

/-- The database after a run of events. -/
def run (B : Backend Cfg Key Impl) (fake : E) (db : NodeDb Cfg) (es : List (Event Cfg)) :
    NodeDb Cfg :=
  es.foldl (step S B fake) db

/-- Two starts with `boolGenesis true`. -/
def twoStarts : List (Event Bool) :=
  [.start (boolConfig true) .listed, .start (boolConfig true) .listed]

variable {B : Backend Cfg Key Impl}

/-- **The genesis records of a node started with `g`**, whose block is `b`: block zero is not
stored yet, or it is `b` with `g`'s configuration and a numbered head header; the version is
not stored yet, or it is the current one. -/
structure Recorded (B : Backend Cfg Key Impl) (g : Genesis Cfg) (b : Block) (db : NodeDb Cfg) :
    Prop where
  /-- No genesis yet, or `g`'s. -/
  genesis : db.canonicalHash 0 = FixedBytes.zero 32 ∨
    db.canonicalHash 0 = b.hash B ∧ db.chainConfig (b.hash B) = g.config ∧
      (db.headerNumber db.headHeaderHash).isSome
  /-- No version yet, or the current one. -/
  version : db.databaseVersion = 0 ∨ db.databaseVersion = S.blockChainVersion

section Restart

variable {g : Genesis Cfg} {b : Block}

theorem Recorded.keeps {db db' : NodeDb Cfg} (hr : Recorded S B g b db)
    (hk : KeepsGenesis db db') : Recorded S B g b db' where
  genesis := by
    rw [hk.canonicalHash, hk.chainConfig]
    exact hr.genesis.imp_right fun ⟨h₁, h₂, h₃⟩ => ⟨h₁, h₂, hk.headNumber h₃⟩
  version := hk.databaseVersion ▸ hr.version

/-- On recorded genesis records the version check passes and keeps them. -/
theorem checkVersion_recorded (skip : Bool) {db : NodeDb Cfg} (hr : Recorded S B g b db) :
    ∃ db', checkVersion S skip db = .ok db' ∧ Recorded S B g b db' := by
  unfold checkVersion
  cases skip with
  | true => exact ⟨db, rfl, hr⟩
  | false =>
    have hv : ¬(db.databaseVersion ≠ S.blockChainVersion ∧ db.databaseVersion ≠ 0) := by
      rcases hr.version with h | h <;> simp [h]
    exact ⟨{ db with databaseVersion := S.blockChainVersion },
      by simp only [hv, ite_false, Bool.false_eq_true], hr.genesis, .inr rfl⟩

/-- **`build` keeps the records** after a setup with no error, fails neither at genesis setup nor
for the version, and runs the node on the configuration setup returned. -/
theorem build_recorded (fake : E) (config : Config Cfg) {r : SetupOutcome Cfg} {db : NodeDb Cfg}
    (engines : Engines E) (hr : Recorded S B g b db) (herr : r.err = none) :
    Recorded S B g b (build S fake config r db engines).db ∧
      (∀ e, (build S fake config r db engines).result ≠ .error (.genesis e)) ∧
      (∀ v w, (build S fake config r db engines).result ≠ .error (.versionMismatch v w)) ∧
      ∀ p, (build S fake config r db engines).result = .ok p → p.chainConfig = r.config := by
  obtain ⟨db₁, hv, hr₁⟩ := checkVersion_recorded S config.skipBcVersionCheck hr
  cases hbc : S.newBlockChain db₁ r.config with
  | error e =>
    simp only [build, hv, hbc]
    exact ⟨hr₁, by simp, by simp, by simp⟩
  | ok db₂ =>
    have hr₂ := hr₁.keeps S (S.newBlockChain_keeps _ _ _ hbc)
    cases hm : S.newProtocolManager db₂ <;> simp only [build, hv, hbc, herr, rewind, hm] <;>
      exact ⟨hr₂, by simp, by simp, by simp⟩

variable {c : Cfg} (hself : ∀ c h, B.checkCompatible c (some c) h = none) (hc : g.config = some c)
  (h0 : g.number = 0) (hb : ∀ ord, g.toFastBlock B ord = .ok b)
include hself hc h0 hb

/-- **Setup on `g`'s records** returns no error and `g`'s configuration, and leaves `g`'s block
stored, with its configuration and a numbered head. -/
theorem setupGenesisBlock_recorded {db : NodeDb Cfg} (hr : Recorded S B g b db) (ord : RangeOrder) :
    ∃ r, setupGenesisBlock B db.toDatabase (some g) ord = .ok r ∧ r.err = none ∧
      r.config = some c ∧ Recorded S B g b { db with toDatabase := r.db } := by
  by_cases hz : db.canonicalHash 0 = FixedBytes.zero 32
  · -- no genesis yet: it is committed
    exact ⟨_, setupGenesisBlock_of_empty hc hz (hb ord) h0, rfl, rfl,
      .inr ⟨by simp, by simp [hc], by simp⟩, hr.version⟩
  · -- `g`'s block: the configuration is checked against itself and written again
    obtain ⟨hh, hsc, hn⟩ := hr.genesis.resolve_left hz
    obtain ⟨height, hn⟩ := Option.isSome_iff_exists.1 hn
    have hc' : ({ g with committee := b.members } : Genesis Cfg).config = some c := hc
    have hsc' : db.chainConfig (db.canonicalHash 0) = some c := by rw [hh]; exact hsc.trans hc
    have herr := setupChainConfig_ok hc' hsc' hn (.inr (hself c height))
    refine ⟨_, setupGenesisBlock_of_stored hc hz (hb ord) hh.symm, herr,
      (setupChainConfig_config _ _ _).trans hc, .inr ⟨?_, ?_, ?_⟩, hr.version⟩
    all_goals rw [setupChainConfig_db_of_ok hc' herr]; simp [hh, hc, hn]

/-- **A start with `g` on `g`'s records** does not panic, fails neither at genesis setup nor for
the version, keeps the records, and runs the node on `g`'s configuration. -/
theorem new_recorded {config : Config Cfg} (hg : config.genesis = some g) (ord : RangeOrder)
    {db : NodeDb Cfg} (hr : Recorded S B g b db) (fake : E) (engines : Engines E) :
    ∃ o, new S B fake config ord db engines = .ok o ∧ Recorded S B g b o.db ∧
      (∀ e, o.result ≠ .error (.genesis e)) ∧ (∀ v w, o.result ≠ .error (.versionMismatch v w)) ∧
      ∀ p, o.result = .ok p → p.chainConfig = some c := by
  obtain ⟨r, hs, herr, hcfg, hr'⟩ := setupGenesisBlock_recorded S hself hc h0 hb hr ord
  obtain ⟨hr'', hg', hv, hp⟩ := build_recorded S fake config engines hr' herr
  unfold new
  cases hsync : checkSyncMode S config.syncMode with
  | some e =>
    rcases checkSyncMode_eq_some S hsync with rfl | rfl <;>
      exact ⟨_, rfl, hr, by simp, by simp, by simp⟩
  | none =>
    cases S.openError with
    | some e => exact ⟨_, rfl, hr, by simp, by simp, by simp⟩
    | none =>
      exact ⟨build S fake config r { db with toDatabase := r.db } engines,
        by simp only [hg, hs, Except.map, herr, fatalError], hr'', hg', hv,
        fun p h => (hp p h).trans hcfg⟩

/-- **Every run of starts with `g` and chain writes keeps `g`'s records.** -/
theorem run_recorded (fake : E) : ∀ (es : List (Event Cfg)) {db : NodeDb Cfg},
    (∀ config ord, Event.start config ord ∈ es → config.genesis = some g) →
      Recorded S B g b db → Recorded S B g b (run S B fake db es)
  | [], _, _, hr => hr
  | .start config ord :: es, db, hes, hr => by
    obtain ⟨o, ho, hr', -⟩ := new_recorded S hself hc h0 hb
      (hes config ord (List.mem_cons_self _ _)) ord hr fake Engines.init
    have hstep : step S B fake db (.start config ord) = o.db := by simp only [step, ho]
    exact run_recorded fake es (fun c o h => hes c o (List.mem_cons_of_mem _ h)) (hstep ▸ hr')
  | .chain w :: es, db, hes, hr =>
    run_recorded fake es (fun c o h => hes c o (List.mem_cons_of_mem _ h)) (hr.keeps S (w.keeps db))

end Restart

/-- **No start of a node with its genesis fails for what its database holds.** From a database
with no genesis block and no version, along every run of starts with the genesis `g` (with any
other settings and map orders, each in a new process) and of the chain's writes between them, a
start with `g` does not panic, fails neither at genesis setup nor for the database version, and
runs the node on `g`'s configuration. The block of `g` must build at number zero, and
`CheckCompatible` must find a configuration compatible with itself. -/
theorem run_new_genesis {B : Backend Cfg Key Impl}
    (hself : ∀ c h, B.checkCompatible c (some c) h = none) {g : Genesis Cfg} {c : Cfg} {b : Block}
    {ord₀ : RangeOrder} (hc : g.config = some c) (h0 : g.number = 0)
    (hb : g.toFastBlock B ord₀ = .ok b) (fake : E) {db : NodeDb Cfg}
    (hz : db.canonicalHash 0 = FixedBytes.zero 32) (hv : db.databaseVersion = 0)
    (es : List (Event Cfg)) (hes : ∀ config ord, Event.start config ord ∈ es → config.genesis = some g)
    {config : Config Cfg} (hg : config.genesis = some g) (ord : RangeOrder) :
    ∃ o, new S B fake config ord (run S B fake db es) Engines.init = .ok o ∧
      (∀ e, o.result ≠ .error (.genesis e)) ∧ (∀ v w, o.result ≠ .error (.versionMismatch v w)) ∧
      ∀ p, o.result = .ok p → p.chainConfig = some c := by
  have hb' : ∀ ord, g.toFastBlock B ord = .ok b := fun ord => (toFastBlock_ord g ord ord₀).trans hb
  obtain ⟨o, ho, -, hgen, hver, hcfg⟩ := new_recorded S hself hc h0 hb' hg ord
    (run_recorded S hself hc h0 hb' fake es hes ⟨.inl hz, .inl hv⟩) fake Engines.init
  exact ⟨o, ho, hgen, hver, hcfg⟩

/-- Two starts with `boolGenesis true` on an empty database, and a third one. -/
theorem run_new_genesis_third_start :
    (∀ c h, upgradeBackend.checkCompatible c (some c) h = none) ∧
      (boolGenesis true).config = some true ∧ (boolGenesis true).number = 0 ∧
      (boolGenesis true).toFastBlock upgradeBackend .listed =
        .ok ⟨(boolGenesis true).header upgradeBackend (FixedBytes.zero 32), []⟩ ∧
      emptyDb.canonicalHash 0 = FixedBytes.zero 32 ∧ emptyDb.databaseVersion = 0 ∧
      (∀ config ord, Event.start config ord ∈ twoStarts →
        config.genesis = some (boolGenesis true)) ∧
      (boolConfig true).genesis = some (boolGenesis true) ∧
      ∃ o, new okServices upgradeBackend () (boolConfig true) .listed
          (run okServices upgradeBackend () emptyDb twoStarts) Engines.init = .ok o ∧
        (∀ e, o.result ≠ .error (.genesis e)) ∧ (∀ v w, o.result ≠ .error (.versionMismatch v w)) ∧
        ∀ p, o.result = .ok p → p.chainConfig = some true :=
  have hself : ∀ c h, upgradeBackend.checkCompatible c (some c) h = none := fun c _ => by
    cases c <;> rfl
  have hes : ∀ config ord, Event.start config ord ∈ twoStarts →
      config.genesis = some (boolGenesis true) := fun config ord h => by
    simp only [twoStarts, List.mem_cons, Event.start.injEq, List.mem_nil_iff, or_false,
      or_self] at h
    rw [h.1]; rfl
  have hc : (boolGenesis true).config = some true := rfl
  have hb : (boolGenesis true).toFastBlock upgradeBackend .listed =
      .ok ⟨(boolGenesis true).header upgradeBackend (FixedBytes.zero 32), []⟩ := rfl
  have hz : emptyDb.canonicalHash 0 = FixedBytes.zero 32 := rfl
  have hv : emptyDb.databaseVersion = 0 := rfl
  have hg : (boolConfig true).genesis = some (boolGenesis true) := rfl
  ⟨hself, hc, rfl, hb, hz, hv, hes, hg,
    run_new_genesis okServices hself hc rfl hb () hz hv twoStarts hes hg .listed⟩

end Pistchain

end Pist
