import Pist.Core.State

/-! # Genesis setup

`core/genesis.go` writes the genesis block of the fast chain into a fresh database, or checks an
existing database against the genesis it is given. This file models it, from the data it reads
to the three functions of the decision table:

* **`Genesis`**, **`GenesisAccount`** — the genesis specification, its allocations held in Go
  maps, and **`RangeOrder`**, the orders one run visits those maps in;
* **`Backend`** — the constants and functions of packages not among the sources (`params`,
  `crypto`, `types`, `core/state`, the staking implementation), each a parameter;
* **`Database`** — the `rawdb` tables that setup reads and writes;
* **`Genesis.toFastBlock`**, **`Genesis.commitFast`**, **`setupFastGenesisBlock`**,
  **`setupGenesisBlock`** — `ToFastBlock`, `CommitFast`, `setupFastGenesisBlock` and
  `SetupGenesisBlock`.

A Go run-time panic is a `GoPanic`; the functions that can panic return `Except GoPanic`. -/

namespace Pist

/-! ## (1) The genesis specification -/

/-- **`GenesisAccount`**: an allocation of the genesis state. -/
structure GenesisAccount where
  /-- `Code`. -/
  code : List UInt8
  /-- `Storage map[common.Hash]common.Hash`. -/
  storage : GoMap Hash Hash
  /-- `Balance`. -/
  balance : Int
  /-- `Nonce`. -/
  nonce : UInt64

/-- **`Genesis`**: the fields `ToFastBlock` and setup read. -/
structure Genesis (Cfg : Type) where
  /-- `Config *params.ChainConfig`, possibly `nil`. -/
  config : Option Cfg
  /-- `Timestamp`. -/
  timestamp : UInt64
  /-- `ExtraData`. -/
  extraData : List UInt8
  /-- `GasLimit`; zero stands for `params.GenesisGasLimit`. -/
  gasLimit : UInt64
  /-- `Difficulty *big.Int`, possibly `nil`. -/
  difficulty : Option Int
  /-- `Alloc types.GenesisAlloc`, a map from addresses to accounts. -/
  alloc : GoMap Address GenesisAccount
  /-- `Committee []*types.CommitteeMember`; `ToFastBlock` rewrites its entries in place. -/
  committee : List CommitteeMember
  /-- `Number`. -/
  number : UInt64
  /-- `GasUsed`. -/
  gasUsed : UInt64
  /-- `ParentHash`. -/
  parentHash : Hash

/-- **The orders one run of `ToFastBlock` visits its Go maps in**: the runtime picks any order
for each `range`, for the allocations and for each account's storage. -/
structure RangeOrder where
  /-- The order of `range g.Alloc`. -/
  alloc : GoMap Address GenesisAccount → List (Address × GenesisAccount)
  /-- It visits every entry once. -/
  alloc_perm : ∀ m, (alloc m).Perm m.entries
  /-- The order of `range account.Storage` for the account at an address. -/
  storage : Address → GoMap Hash Hash → List (Hash × Hash)
  /-- It visits every entry once. -/
  storage_perm : ∀ a m, (storage a m).Perm m.entries

/-- The order in which the entries are listed. -/
def RangeOrder.listed : RangeOrder :=
  ⟨GoMap.entries, fun _ => .refl _, fun _ => GoMap.entries, fun _ _ => .refl _⟩

/-! ## (2) Blocks, errors and collaborators -/

/-- `types.Header`: the fields `ToFastBlock` sets. -/
structure Header where
  /-- `Number`. -/
  number : UInt64
  /-- `Time`. -/
  time : UInt64
  /-- `ParentHash`. -/
  parentHash : Hash
  /-- `Extra`. -/
  extra : List UInt8
  /-- `GasLimit`. -/
  gasLimit : UInt64
  /-- `GasUsed`. -/
  gasUsed : UInt64
  /-- `Root`, the state root. -/
  root : Hash
deriving DecidableEq, Repr

/-- `types.Block` as `types.NewBlock(head, nil, nil, nil, members)` makes it. -/
structure Block where
  /-- The header. -/
  header : Header
  /-- The committee carried by the block. -/
  members : List CommitteeMember
deriving DecidableEq, Repr

/-- A Go run-time panic. -/
inductive GoPanic where
  /-- A nil pointer dereference; `what` names the pointer. -/
  | nilDereference (what : String)
deriving DecidableEq, Repr

/-- `*params.ConfigCompatError`: the fields setup reads. -/
structure ConfigCompatError where
  /-- The text of the error. -/
  text : String
  /-- `RewindTo`, the block the chain would have to rewind to. -/
  rewindTo : UInt64
deriving DecidableEq, Repr

/-- The errors setup returns. -/
inductive SetupError where
  /-- `errGenesisNoConfig`. -/
  | errGenesisNoConfig
  /-- `*GenesisMismatchError{Stored, New}`. -/
  | genesisMismatch (stored new : Hash)
  /-- The error of `CommitFast` for a block whose number is not zero. -/
  | commitNumber
  /-- The error for a head header hash with no block number. -/
  | missingHeadNumber
  /-- A `*params.ConfigCompatError`. -/
  | configCompat (e : ConfigCompatError)
deriving DecidableEq, Repr

/-- The text of each error. -/
def SetupError.text : SetupError → String
  | .errGenesisNoConfig => "genesis has no chain configuration"
  | .genesisMismatch stored new =>
    "database already contains an incompatible genesis block (have " ++
      Hex.encodeToString (stored.bytes.take 8) ++ ", new " ++ Hex.encodeToString (new.bytes.take 8) ++ ")"
  | .commitNumber => "can't commit genesis block with number > 0"
  | .missingHeadNumber => "missing block number for head header hash"
  | .configCompat e => e.text

/-- **The collaborators of genesis setup** from packages that are not among the sources, over
the types of chain configurations `Cfg`, public keys `Key` and staking state `Impl`. -/
structure Backend (Cfg Key Impl : Type) where
  /-- `params.AllMinervaProtocolChanges`. -/
  allMinervaProtocolChanges : Cfg
  /-- `params.MainnetChainConfig`. -/
  mainnetChainConfig : Cfg
  /-- `params.TestnetChainConfig`. -/
  testnetChainConfig : Cfg
  /-- `params.MainnetGenesisHash`. -/
  mainnetGenesisHash : Hash
  /-- `params.TestnetGenesisHash`. -/
  testnetGenesisHash : Hash
  /-- `params.GenesisGasLimit`. -/
  genesisGasLimit : UInt64
  /-- `storedcfg.CheckCompatible(newcfg, height)`. -/
  checkCompatible : Cfg → Option Cfg → UInt64 → Option ConfigCompatError
  /-- The contents of `DefaultGenesisBlock()` (its configuration apart). -/
  mainnetGenesis : Genesis Cfg
  /-- `crypto.UnmarshalPubkey`: `none` for bytes that are no public key. -/
  unmarshalPubkey : List UInt8 → Option Key
  /-- `crypto.PubkeyToAddress`. -/
  pubkeyToAddress : Key → Address
  /-- `types.StateUsedFlag`. -/
  stateUsedFlag : UInt32
  /-- `types.TypeFixed`. -/
  typeFixed : UInt32
  /-- The hash of the block `types.NewBlock` makes from a header and a committee. -/
  blockHash : Header → List CommitteeMember → Hash
  /-- `statedb.IntermediateRoot(false)`, a commitment to the accounts. -/
  stateRoot : WorldState → Hash
  /-- `consensus.OnceInitImpawnState`. -/
  onceInitImpawnState : WorldState → WorldState
  /-- `statedb.SetPOSLocked(addr, params.ElectionMinLimitForStaking)`. -/
  setPOSLocked : Address → WorldState → WorldState
  /-- `vm.NewImpawnImpl()`. -/
  newImpawnImpl : Impl
  /-- `impl.InsertSAccount2(height, coinbase, pubkey, params.ElectionMinLimitForStaking, 100,
  true)`; an error is only logged. -/
  insertSAccount2 : UInt64 → Address → List UInt8 → Impl → Impl
  /-- `impl.DoElections(1, 0)`. -/
  doElections : Impl → Impl
  /-- `impl.Shift(1)`. -/
  shift : Impl → Impl
  /-- `impl.Save(statedb, types.StakingAddress)`. -/
  save : Impl → WorldState → WorldState

variable {Cfg Key Impl : Type}

/-- `block.Hash()`. -/
def Block.hash (B : Backend Cfg Key Impl) (b : Block) : Hash := B.blockHash b.header b.members

/-! ## (3) The database -/

/-- Modelled from the spec: **the tables of `rawdb`** (in `core/rawdb`, not among the sources)
that setup reads and writes. -/
structure Database (Cfg : Type) where
  /-- `ReadCanonicalHash(db, n)`, the zero hash when none is stored. -/
  canonicalHash : UInt64 → Hash
  /-- `ReadHeadBlockHash(db)`. -/
  headBlockHash : Hash
  /-- `ReadHeadHeaderHash(db)`. -/
  headHeaderHash : Hash
  /-- `ReadHeaderNumber(db, hash)`. -/
  headerNumber : Hash → Option UInt64
  /-- `ReadChainConfig(db, hash)`. -/
  chainConfig : Hash → Option Cfg

namespace Database

/-- A database with nothing stored, as `rawdb` reads an empty key-value store. -/
def empty : Database Cfg :=
  ⟨fun _ => FixedBytes.zero 32, FixedBytes.zero 32, FixedBytes.zero 32, fun _ => none, fun _ => none⟩

/-- `WriteBlock`: among what it writes, the number of the block's hash. -/
def writeBlock (db : Database Cfg) (hash : Hash) (number : UInt64) : Database Cfg :=
  { db with headerNumber := Function.update db.headerNumber hash (some number) }

/-- `WriteCanonicalHash(db, hash, number)`. -/
def writeCanonicalHash (db : Database Cfg) (hash : Hash) (number : UInt64) : Database Cfg :=
  { db with canonicalHash := Function.update db.canonicalHash number hash }

/-- `WriteHeadBlockHash`. -/
def writeHeadBlockHash (db : Database Cfg) (hash : Hash) : Database Cfg :=
  { db with headBlockHash := hash }

/-- `WriteHeadHeaderHash`. -/
def writeHeadHeaderHash (db : Database Cfg) (hash : Hash) : Database Cfg :=
  { db with headHeaderHash := hash }

/-- `WriteChainConfig(db, hash, cfg)`, which writes nothing for a `nil` configuration. -/
def writeChainConfig (db : Database Cfg) (hash : Hash) : Option Cfg → Database Cfg
  | none => db
  | some cfg => { db with chainConfig := Function.update db.chainConfig hash (some cfg) }

/-- The writes of `CommitFast` for the genesis block of hash `hash`: the block, its hash as
canonical for number zero, as head block and as head header, and the configuration `cfg`. -/
def commitGenesis (db : Database Cfg) (hash : Hash) (cfg : Cfg) : Database Cfg :=
  ((((db.writeBlock hash 0).writeCanonicalHash hash 0).writeHeadBlockHash hash).writeHeadHeaderHash
    hash).writeChainConfig hash (some cfg)

end Database

/-! ## (4) `ToFastBlock` and `CommitFast` -/

/-- The body of `range g.Alloc`: the account's balance, code and nonce, then its storage in the
order the run visits it. -/
def applyAccount (ord : RangeOrder) (s : WorldState) (p : Address × GenesisAccount) : WorldState :=
  (ord.storage p.1 p.2.storage).foldl (fun s kv => s.setState p.1 kv.1 kv.2)
    (((s.addBalance p.1 p.2.balance).setCode p.1 p.2.code).setNonce p.1 p.2.nonce)

/-- The state after `range g.Alloc`, from the empty state `state.New` opens. -/
def allocState (ord : RangeOrder) (alloc : GoMap Address GenesisAccount) : WorldState :=
  (ord.alloc alloc).foldl (applyAccount ord) WorldState.empty

/-- The main-chain difficulty `ToFastBlock` compares with. -/
def mainDifficulty : Int := 2147483648

/-- The fields of a member that `range g.Committee` reads. -/
def stakeKey (m : CommitteeMember) : Address × List UInt8 := (m.coinbase, m.publickey)

/-- `range g.Committee`, which reads each member's coinbase and public key: the member is
registered with the staking implementation and, when the difficulty is the main chain's, locked
as a staker. Comparing with a `nil` difficulty dereferences it. -/
def stakeCommittee (B : Backend Cfg Key Impl) (g : Genesis Cfg) (s : WorldState) :
    Except GoPanic (Impl × WorldState) :=
  (g.committee.map stakeKey).foldlM (fun st m =>
    match g.difficulty with
    | none => .error (.nilDereference "Difficulty")
    | some d =>
      .ok (B.insertSAccount2 g.number m.1 m.2 st.1,
        if d = mainDifficulty then B.setPOSLocked m.1 st.2 else st.2))
    (B.newImpawnImpl, s)

/-- The rewrite of a committee entry: flag and type are set, and the committee address is
derived from the public key, whose `*pubkey` dereferences `nil` when it fails to unmarshal. -/
def rewriteMember (B : Backend Cfg Key Impl) (m : CommitteeMember) :
    Except GoPanic CommitteeMember :=
  match B.unmarshalPubkey m.publickey with
  | none => .error (.nilDereference "pubkey")
  | some k =>
    .ok { m with
      flag := B.stateUsedFlag
      mType := B.typeFixed
      committeeBase := B.pubkeyToAddress k }

/-- The header `ToFastBlock` builds over the state root `root`. -/
def Genesis.header (B : Backend Cfg Key Impl) (g : Genesis Cfg) (root : Hash) : Header where
  number := g.number
  time := g.timestamp
  parentHash := g.parentHash
  extra := g.extraData
  gasLimit := if g.gasLimit = 0 then B.genesisGasLimit else g.gasLimit
  gasUsed := g.gasUsed
  root := root

/-- **`ToFastBlock`**: the genesis state (allocations, then staking), its root in the header,
and the committee rewritten. The state is built from the empty root whatever database is
given, so the database is not an argument; what `Commit` writes into it is not modelled. The
block's `members` are `g.Committee` after the rewrite. -/
def Genesis.toFastBlock (B : Backend Cfg Key Impl) (g : Genesis Cfg) (ord : RangeOrder) :
    Except GoPanic Block :=
  match stakeCommittee B g (B.onceInitImpawnState (allocState ord g.alloc)) with
  | .error p => .error p
  | .ok (impl, s) =>
    match g.committee.mapM (rewriteMember B) with
    | .error p => .error p
    | .ok members => .ok ⟨g.header B (B.stateRoot (B.save (B.shift (B.doElections impl)) s)), members⟩

/-- **`CommitFast`**: the block, or an error for a block whose number is not zero; then the
writes of a genesis block: the block, its hash as canonical, head block and head header, and the
configuration. The genesis is returned with its committee rewritten. -/
def Genesis.commitFast (B : Backend Cfg Key Impl) (g : Genesis Cfg) (ord : RangeOrder)
    (db : Database Cfg) : Except GoPanic (Except SetupError Block × Database Cfg × Genesis Cfg) :=
  match g.toFastBlock B ord with
  | .error p => .error p
  | .ok block =>
    let g' := { g with committee := block.members }
    if block.header.number ≠ 0 then .ok (.error .commitNumber, db, g')
    else .ok (.ok block, db.commitGenesis (block.hash B) (g.config.getD B.allMinervaProtocolChanges), g')

/-- A panic of `MustFastCommit`: a run-time panic of `CommitFast`, or `panic(err)` on its error. -/
inductive MustPanic where
  /-- A run-time panic. -/
  | runtime (p : GoPanic)
  /-- `panic(err)`. -/
  | error (e : SetupError)
deriving DecidableEq, Repr

/-- **`MustFastCommit`**: `CommitFast`, whose error is a panic. -/
def Genesis.mustFastCommit (B : Backend Cfg Key Impl) (g : Genesis Cfg) (ord : RangeOrder)
    (db : Database Cfg) : Except MustPanic (Block × Database Cfg) :=
  match g.commitFast B ord db with
  | .error p => .error (.runtime p)
  | .ok (.error e, _, _) => .error (.error e)
  | .ok (.ok block, db', _) => .ok (block, db')

/-- The genesis of `GenesisBlockForTesting`: one account, of balance `balance`, and
`params.AllMinervaProtocolChanges`. -/
def testingGenesis (B : Backend Cfg Key Impl) (addr : Address) (balance : Int) : Genesis Cfg where
  config := some B.allMinervaProtocolChanges
  timestamp := 0
  extraData := []
  gasLimit := 0
  difficulty := none
  alloc := ⟨[(addr, ⟨[], ⟨[], List.nodup_nil⟩, balance, 0⟩)], List.nodup_singleton _⟩
  committee := []
  number := 0
  gasUsed := 0
  parentHash := FixedBytes.zero 32

/-- **`GenesisBlockForTesting`**: the testing genesis, committed with `MustFastCommit`. -/
def genesisBlockForTesting (B : Backend Cfg Key Impl) (ord : RangeOrder) (db : Database Cfg)
    (addr : Address) (balance : Int) : Except MustPanic (Block × Database Cfg) :=
  (testingGenesis B addr balance).mustFastCommit B ord db

/-- **`GenesisFastBlockForTesting`**, whose body is that of `GenesisBlockForTesting`. -/
def genesisFastBlockForTesting (B : Backend Cfg Key Impl) (ord : RangeOrder) (db : Database Cfg)
    (addr : Address) (balance : Int) : Except MustPanic (Block × Database Cfg) :=
  genesisBlockForTesting B ord db addr balance

/-! ## (5) Setup -/

/-- `DefaultGenesisBlock()`: the main-net genesis, with `params.MainnetChainConfig`. -/
def defaultGenesisBlock (B : Backend Cfg Key Impl) : Genesis Cfg :=
  { B.mainnetGenesis with config := some B.mainnetChainConfig }

/-- `configOrDefault(ghash)` on the genesis pointer `genesis`. -/
def configOrDefault (B : Backend Cfg Key Impl) (genesis : Option (Genesis Cfg)) (ghash : Hash) :
    Option Cfg :=
  match genesis with
  | some g => g.config
  | none =>
    if ghash = B.mainnetGenesisHash then some B.mainnetChainConfig
    else if ghash = B.testnetGenesisHash then some B.testnetChainConfig
    else some B.allMinervaProtocolChanges

/-- What setup returns, with the database and the genesis (whose committee it may rewrite)
after the call. -/
structure SetupOutcome (Cfg : Type) where
  /-- The chain configuration returned. -/
  config : Option Cfg
  /-- The genesis hash returned. -/
  hash : Hash
  /-- The error returned. -/
  err : Option SetupError
  /-- The database after the call. -/
  db : Database Cfg
  /-- The genesis pointer after the call. -/
  genesis : Option (Genesis Cfg)

/-- The compatibility error that stops setup: `CheckCompatible` reports one, the head is not at
block zero, and the error asks for a rewind. -/
def compatError (B : Backend Cfg Key Impl) (storedcfg : Cfg) (newcfg : Option Cfg)
    (height : UInt64) : Option ConfigCompatError :=
  match B.checkCompatible storedcfg newcfg height with
  | some e => if height ≠ 0 ∧ e.rewindTo ≠ 0 then some e else none
  | none => none

/-- **The configuration half of `setupFastGenesisBlock`**, once the stored genesis `stored` is
the given one (or none is given): a missing configuration is written; a non-main-net chain given
no genesis keeps its own; otherwise the new configuration is checked at the head header's height
and written unless `compatError` stops it. -/
def setupChainConfig (B : Backend Cfg Key Impl) (db : Database Cfg)
    (genesis : Option (Genesis Cfg)) (stored : Hash) : SetupOutcome Cfg :=
  let newcfg := configOrDefault B genesis stored
  match db.chainConfig stored with
  | none => ⟨newcfg, stored, none, db.writeChainConfig stored newcfg, genesis⟩
  | some storedcfg =>
    if genesis.isNone ∧ stored ≠ B.mainnetGenesisHash then ⟨some storedcfg, stored, none, db, genesis⟩
    else
      match db.headerNumber db.headHeaderHash with
      | none => ⟨newcfg, stored, some .missingHeadNumber, db, genesis⟩
      | some height =>
        match compatError B storedcfg newcfg height with
        | some e => ⟨newcfg, stored, some (.configCompat e), db, genesis⟩
        | none => ⟨newcfg, stored, none, db.writeChainConfig stored newcfg, genesis⟩

/-- The result of a genesis pointer whose configuration is `nil`. -/
def noConfig (B : Backend Cfg Key Impl) (db : Database Cfg) (genesis : Option (Genesis Cfg)) :
    SetupOutcome Cfg :=
  ⟨some B.allMinervaProtocolChanges, FixedBytes.zero 32, some .errGenesisNoConfig, db, genesis⟩

/-- **`setupFastGenesisBlock`**. With no stored genesis, the genesis (or the main-net default) is
committed and the hash of the block `CommitFast` returns is taken, which dereferences a `nil`
block when `CommitFast` fails. With a stored genesis, a given genesis must hash to it, and then
`setupChainConfig` decides. -/
def setupFastGenesisBlock (B : Backend Cfg Key Impl) (db : Database Cfg)
    (genesis : Option (Genesis Cfg)) (ord : RangeOrder) : Except GoPanic (SetupOutcome Cfg) :=
  if genesis.any (·.config.isNone) then .ok (noConfig B db genesis)
  else
    let stored := db.canonicalHash 0
    if stored = FixedBytes.zero 32 then
      let g := genesis.getD (defaultGenesisBlock B)
      match g.commitFast B ord db with
      | .error p => .error p
      | .ok (.error _, _, _) => .error (.nilDereference "block")
      | .ok (.ok block, db', g') => .ok ⟨g.config, block.hash B, none, db', genesis.map fun _ => g'⟩
    else
      match genesis with
      | none => .ok (setupChainConfig B db none stored)
      | some g =>
        match g.toFastBlock B ord with
        | .error p => .error p
        | .ok block =>
          let g' := { g with committee := block.members }
          if block.hash B ≠ stored then
            .ok ⟨g.config, block.hash B, some (.genesisMismatch stored (block.hash B)), db, some g'⟩
          else .ok (setupChainConfig B db (some g') stored)

/-- **`SetupGenesisBlock`**: the configuration check, then `setupFastGenesisBlock`. -/
def setupGenesisBlock (B : Backend Cfg Key Impl) (db : Database Cfg)
    (genesis : Option (Genesis Cfg)) (ord : RangeOrder) : Except GoPanic (SetupOutcome Cfg) :=
  if genesis.any (·.config.isNone) then .ok (noConfig B db genesis)
  else setupFastGenesisBlock B db genesis ord

end Pist
