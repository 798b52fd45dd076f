import Pist.Core.GenesisBlock

/-! # The decision table of genesis setup

`SetupGenesisBlock` commits a genesis to an empty database, or checks a stored one against it and
then updates the stored configuration. This file proves what the table gives over whole calls:

* **`setupGenesisBlock_again`** — a second call with the same genesis succeeds with the same
  hash, for a database that has a head header number whenever it has a genesis; a database that
  holds only a genesis hash (`setupGenesisBlock_again_missing_head`) shows the condition is
  needed;
* **`setupGenesisBlock_err_db`** — a call that returns an error leaves the database as it was;
* **`setupGenesisBlock_panics`** — a committee key that does not unmarshal, or a genesis number
  other than zero on an empty database, makes the call panic;
* **`setupGenesisBlock_config_isSome`** — the configuration a call returns is never `nil`. -/

namespace Pist

variable {Cfg Key Impl : Type} {B : Backend Cfg Key Impl}

/-! ## (1) Database writes -/

namespace Database

variable (db : Database Cfg) (hash : Hash)

@[simp] theorem writeChainConfig_canonicalHash (c : Option Cfg) :
    (db.writeChainConfig hash c).canonicalHash = db.canonicalHash := by cases c <;> rfl

@[simp] theorem writeChainConfig_headHeaderHash (c : Option Cfg) :
    (db.writeChainConfig hash c).headHeaderHash = db.headHeaderHash := by cases c <;> rfl

@[simp] theorem writeChainConfig_headerNumber (c : Option Cfg) :
    (db.writeChainConfig hash c).headerNumber = db.headerNumber := by cases c <;> rfl

@[simp] theorem writeChainConfig_chainConfig_self (c : Cfg) :
    (db.writeChainConfig hash (some c)).chainConfig hash = some c := by
  simp [writeChainConfig]

@[simp] theorem commitGenesis_canonicalHash (c : Cfg) :
    (db.commitGenesis hash c).canonicalHash 0 = hash := by
  simp [commitGenesis, writeCanonicalHash, writeHeadHeaderHash, writeHeadBlockHash]

@[simp] theorem commitGenesis_headHeaderHash (c : Cfg) :
    (db.commitGenesis hash c).headHeaderHash = hash := by
  simp [commitGenesis, writeHeadHeaderHash]

@[simp] theorem commitGenesis_headerNumber (c : Cfg) :
    (db.commitGenesis hash c).headerNumber hash = some 0 := by
  simp [commitGenesis, writeBlock, writeCanonicalHash, writeHeadHeaderHash, writeHeadBlockHash]

@[simp] theorem commitGenesis_chainConfig (c : Cfg) :
    (db.commitGenesis hash c).chainConfig hash = some c := by
  simp [commitGenesis]

end Database

/-! ## (2) The configuration half -/

section ChainConfig

variable {db : Database Cfg} {stored : Hash}

/-- **Every outcome of `setupChainConfig`**: it returns the stored hash and the genesis it was
given; with no error it writes at most the new configuration, and with an error nothing. -/
theorem setupChainConfig_cases (db : Database Cfg) (genesis : Option (Genesis Cfg)) (stored : Hash) :
    (setupChainConfig B db genesis stored).hash = stored ∧
      (setupChainConfig B db genesis stored).genesis = genesis ∧
      ((setupChainConfig B db genesis stored).err = none ∧
          ((setupChainConfig B db genesis stored).db = db ∨
            (setupChainConfig B db genesis stored).db =
              db.writeChainConfig stored (configOrDefault B genesis stored)) ∨
        ((setupChainConfig B db genesis stored).err.isSome ∧
          (setupChainConfig B db genesis stored).db = db)) := by
  unfold setupChainConfig
  dsimp only
  repeat' split
  all_goals simp

/-- Given a genesis, a call of `setupChainConfig` that returns no error has written the
genesis configuration. -/
theorem setupChainConfig_db_of_ok {g : Genesis Cfg} {c : Cfg} (hg : g.config = some c)
    (h : (setupChainConfig B db (some g) stored).err = none) :
    (setupChainConfig B db (some g) stored).db = db.writeChainConfig stored (some c) := by
  unfold setupChainConfig at h ⊢
  simp only [configOrDefault, hg, Option.isNone_some, Bool.false_eq_true, false_and, ite_false]
    at h ⊢
  repeat' split
  all_goals simp_all

/-- Given a genesis and a stored configuration, `setupChainConfig` returns no error when the
head header has a number, zero or one at which the configurations are compatible. -/
theorem setupChainConfig_ok {g : Genesis Cfg} {c sc : Cfg} {height : UInt64}
    (hg : g.config = some c) (hc : db.chainConfig stored = some sc)
    (hn : db.headerNumber db.headHeaderHash = some height)
    (hok : height = 0 ∨ B.checkCompatible sc (some c) height = none) :
    (setupChainConfig B db (some g) stored).err = none := by
  have hcompat : compatError B sc (some c) height = none := by
    unfold compatError
    rcases hok with rfl | hok
    · split <;> simp
    · rw [hok]
  simp only [setupChainConfig, configOrDefault, hg, hc, hn, hcompat, Option.isNone_some,
    Bool.false_eq_true, false_and, ite_false]

end ChainConfig

/-! ## (3) The calls -/

section Calls

variable {db : Database Cfg} {g : Genesis Cfg} {c : Cfg} {ord : RangeOrder} {b : Block}

/-- For a genesis with a configuration, `SetupGenesisBlock` is `setupFastGenesisBlock` past its
check. -/
theorem setupGenesisBlock_of_config (hg : g.config = some c) :
    setupGenesisBlock B db (some g) ord = setupFastGenesisBlock B db (some g) ord := by
  simp [setupGenesisBlock, hg]

/-- **On an empty database** a genesis of number zero is committed. -/
theorem setupGenesisBlock_of_empty (hg : g.config = some c)
    (hz : db.canonicalHash 0 = FixedBytes.zero 32) (hb : g.toFastBlock B ord = .ok b)
    (h0 : g.number = 0) :
    setupGenesisBlock B db (some g) ord =
      .ok ⟨some c, b.hash B, none, db.commitGenesis (b.hash B) c,
        some { g with committee := b.members }⟩ := by
  simp [setupGenesisBlock_of_config hg, setupFastGenesisBlock, hg, hz, Genesis.commitFast, hb,
    toFastBlock_number hb, h0]

/-- **On an empty database** a genesis of another number makes `CommitFast` return a `nil`
block, whose hash is then taken. -/
theorem setupGenesisBlock_of_empty_number (hg : g.config = some c)
    (hz : db.canonicalHash 0 = FixedBytes.zero 32) (hb : g.toFastBlock B ord = .ok b)
    (h0 : g.number ≠ 0) :
    setupGenesisBlock B db (some g) ord = .error (.nilDereference "block") := by
  simp [setupGenesisBlock_of_config hg, setupFastGenesisBlock, hg, hz, Genesis.commitFast, hb,
    toFastBlock_number hb, h0]

/-- **On a database with a genesis**, a genesis that hashes to it goes on to the configuration. -/
theorem setupGenesisBlock_of_stored (hg : g.config = some c)
    (hz : db.canonicalHash 0 ≠ FixedBytes.zero 32) (hb : g.toFastBlock B ord = .ok b)
    (hh : b.hash B = db.canonicalHash 0) :
    setupGenesisBlock B db (some g) ord =
      .ok (setupChainConfig B db (some { g with committee := b.members }) (db.canonicalHash 0)) := by
  simp [setupGenesisBlock_of_config hg, setupFastGenesisBlock, hg, hz, hb, hh]

/-- **On a database with a genesis**, a genesis that hashes elsewhere is a mismatch. -/
theorem setupGenesisBlock_of_mismatch (hg : g.config = some c)
    (hz : db.canonicalHash 0 ≠ FixedBytes.zero 32) (hb : g.toFastBlock B ord = .ok b)
    (hh : b.hash B ≠ db.canonicalHash 0) :
    setupGenesisBlock B db (some g) ord =
      .ok ⟨some c, b.hash B, some (.genesisMismatch (db.canonicalHash 0) (b.hash B)), db,
        some { g with committee := b.members }⟩ := by
  simp [setupGenesisBlock_of_config hg, setupFastGenesisBlock, hg, hz, hb, hh]

/-- When `ToFastBlock` panics, so does setup, whatever the database. -/
theorem setupGenesisBlock_of_panic (hg : g.config = some c) {p : GoPanic}
    (hb : g.toFastBlock B ord = .error p) : setupGenesisBlock B db (some g) ord = .error p := by
  rw [setupGenesisBlock_of_config hg]
  by_cases hz : db.canonicalHash 0 = FixedBytes.zero 32 <;>
    simp [setupFastGenesisBlock, hg, hz, Genesis.commitFast, hb]

end Calls

/-! ## (4) Concrete inputs -/

/-- The word of ones. -/
def onesHash : Hash := ⟨List.replicate 32 1, List.length_replicate _ _⟩

/-- The word of twos. -/
def twosHash : Hash := ⟨List.replicate 32 2, List.length_replicate _ _⟩

/-- A genesis over unit configurations with no allocations: a configuration, difficulty one,
the number `number` and the committee `committee`. -/
def unitGenesis (number : UInt64) (committee : List CommitteeMember) : Genesis Unit where
  config := some ()
  timestamp := 0
  extraData := []
  gasLimit := 0
  difficulty := some 1
  alloc := ⟨[], List.nodup_nil⟩
  committee := committee
  number := number
  gasUsed := 0
  parentHash := FixedBytes.zero 32

/-- A backend over unit types, to run setup on concrete inputs: the empty byte string is the one
malformed public key, and every block hashes to `onesHash`. -/
def unitBackend : Backend Unit Unit Unit where
  allMinervaProtocolChanges := ()
  mainnetChainConfig := ()
  testnetChainConfig := ()
  mainnetGenesisHash := FixedBytes.zero 32
  testnetGenesisHash := FixedBytes.zero 32
  genesisGasLimit := 0
  checkCompatible _ _ _ := none
  mainnetGenesis := unitGenesis 0 []
  unmarshalPubkey k := if k = [] then none else some ()
  pubkeyToAddress _ := FixedBytes.zero 20
  stateUsedFlag := 0
  typeFixed := 0
  blockHash _ _ := onesHash
  stateRoot _ := FixedBytes.zero 32
  onceInitImpawnState := id
  setPOSLocked _ := id
  newImpawnImpl := ()
  insertSAccount2 _ _ _ := id
  doElections := id
  shift := id
  save _ := id

/-! ## (5) Setup twice -/

/-- **A second setup with the same genesis succeeds with the same hash**: after a call that
returns no error, a call on the database it left, with the genesis whose committee it rewrote,
in any order of the Go maps. The database must have a block number for its head header whenever
it has a genesis, and `CheckCompatible` must find a configuration compatible with itself. -/
theorem setupGenesisBlock_again (hself : ∀ c h, B.checkCompatible c (some c) h = none)
    {db : Database Cfg} {g : Genesis Cfg} (hcfg : g.config.isSome) (hnum : g.number = 0)
    (hhead : db.canonicalHash 0 ≠ FixedBytes.zero 32 → (db.headerNumber db.headHeaderHash).isSome)
    {ord₁ : RangeOrder} {r : SetupOutcome Cfg} (h₁ : setupGenesisBlock B db (some g) ord₁ = .ok r)
    (herr : r.err = none) (ord₂ : RangeOrder) :
    (setupGenesisBlock B r.db r.genesis ord₂).map (fun r₂ => (r₂.err, r₂.hash)) =
      .ok (none, r.hash) := by
  obtain ⟨c, hc⟩ := Option.isSome_iff_exists.1 hcfg
  cases hb : g.toFastBlock B ord₁ with
  | error p => rw [setupGenesisBlock_of_panic hc hb] at h₁; cases h₁
  | ok b =>
    have hb₂ := toFastBlock_rewritten hb ord₂
    have hc' : ({ g with committee := b.members } : Genesis Cfg).config = some c := hc
    by_cases hz : db.canonicalHash 0 = FixedBytes.zero 32
    · -- an empty database: the first call commits the genesis
      rw [setupGenesisBlock_of_empty hc hz hb hnum] at h₁
      cases h₁
      by_cases hz' : b.hash B = FixedBytes.zero 32
      · rw [setupGenesisBlock_of_empty hc' (by simpa using hz') hb₂ hnum]
        rfl
      · rw [setupGenesisBlock_of_stored hc' (by simpa using hz') hb₂ (by simp)]
        exact congrArg Except.ok (Prod.ext
          (setupChainConfig_ok hc' (by simp : _ = some c) (by simp) (.inl rfl))
          ((setupChainConfig_cases _ _ _).1.trans (by simp)))
    · by_cases hh : b.hash B = db.canonicalHash 0
      · -- a database with this genesis: the first call writes its configuration
        rw [setupGenesisBlock_of_stored hc hz hb hh] at h₁
        cases h₁
        obtain ⟨hhash, hgen, -⟩ := setupChainConfig_cases (B := B) db
          (some { g with committee := b.members }) (db.canonicalHash 0)
        obtain ⟨height, hn⟩ := Option.isSome_iff_exists.1 (hhead hz)
        rw [setupChainConfig_db_of_ok hc' herr, hgen, hhash,
          setupGenesisBlock_of_stored hc' (by simpa using hz) hb₂ (by simpa using hh)]
        exact congrArg Except.ok (Prod.ext
          (setupChainConfig_ok hc' (by simp : _ = some c) (by simpa using hn) (.inr (hself c height)))
          ((setupChainConfig_cases _ _ _).1.trans (by simp)))
      · -- a database with another genesis: the first call fails
        rw [setupGenesisBlock_of_mismatch hc hz hb hh] at h₁
        cases h₁
        cases herr

/-- A committee member with a key that unmarshals, whose committee address, flag and type
`ToFastBlock` rewrites. -/
def keyedMember : CommitteeMember :=
  ⟨FixedBytes.zero 20, ⟨List.replicate 20 1, List.length_replicate _ _⟩, [4], 1, 1⟩

/-- Two allocations, so that the order of the Go map matters to the loop. -/
def twoAllocs : GoMap Address GenesisAccount :=
  ⟨[(FixedBytes.zero 20, ⟨[], ⟨[], List.nodup_nil⟩, 5, 0⟩),
    (⟨List.replicate 20 1, List.length_replicate _ _⟩, ⟨[], ⟨[], List.nodup_nil⟩, 7, 0⟩)],
    by decide⟩

/-- The genesis of number zero with `keyedMember` and `twoAllocs`. -/
def keyedGenesis : Genesis Unit := { unitGenesis 0 [keyedMember] with alloc := twoAllocs }

/-- A database that holds a genesis block, its head header and the header's number. -/
def storedDb : Database Unit := Database.empty.commitGenesis onesHash ()

/-- The Go maps ranged in reverse. -/
def RangeOrder.reversed : RangeOrder :=
  ⟨fun m => m.entries.reverse, fun _ => List.reverse_perm _, fun _ m => m.entries.reverse,
    fun _ _ => List.reverse_perm _⟩

/-- A second setup on a database that already holds the genesis and a head header number: the
first call rewrites the committee of the genesis, and the second, with the maps ranged the other
way, succeeds with the same hash. -/
theorem setupGenesisBlock_again_stored :
    (∀ c h, unitBackend.checkCompatible c (some c) h = none) ∧
      keyedGenesis.config.isSome ∧ keyedGenesis.number = 0 ∧
      (storedDb.canonicalHash 0 ≠ FixedBytes.zero 32 →
        (storedDb.headerNumber storedDb.headHeaderHash).isSome) ∧
      ∃ r, setupGenesisBlock unitBackend storedDb (some keyedGenesis) RangeOrder.listed = .ok r ∧
        r.err = none ∧
        r.genesis.map Genesis.committee =
          some [{ keyedMember with committeeBase := FixedBytes.zero 20, flag := 0, mType := 0 }] ∧
        (setupGenesisBlock unitBackend r.db r.genesis RangeOrder.reversed).map
          (fun r₂ => (r₂.err, r₂.hash)) = .ok (none, r.hash) :=
  have h₁ : setupGenesisBlock unitBackend storedDb (some keyedGenesis) RangeOrder.listed =
      .ok _ := rfl
  ⟨fun _ _ => rfl, rfl, rfl, fun _ => rfl, _, h₁, rfl, rfl,
    setupGenesisBlock_again (fun _ _ => rfl) (by rfl) (by rfl) (by intro; rfl) h₁ rfl
      RangeOrder.reversed⟩

/-- On a database that holds the genesis hash and nothing else, the first setup writes the
configuration and succeeds, and the second finds no block number for the head header. -/
theorem setupGenesisBlock_again_missing_head :
    (setupGenesisBlock unitBackend (Database.empty.writeCanonicalHash onesHash 0)
        (some (unitGenesis 0 [])) RangeOrder.listed).map SetupOutcome.err = .ok none ∧
      (setupGenesisBlock unitBackend (Database.empty.writeCanonicalHash onesHash 0)
          (some (unitGenesis 0 [])) RangeOrder.listed >>= fun r =>
        setupGenesisBlock unitBackend r.db r.genesis RangeOrder.listed).map SetupOutcome.err =
        .ok (some .missingHeadNumber) :=
  ⟨rfl, rfl⟩

/-! ## (6) Errors and panics -/

/-- **A setup that returns an error writes nothing** to the database. -/
theorem setupGenesisBlock_err_db {db : Database Cfg} {genesis : Option (Genesis Cfg)}
    {ord : RangeOrder} {r : SetupOutcome Cfg} (h : setupGenesisBlock B db genesis ord = .ok r)
    (herr : r.err.isSome) : r.db = db := by
  have hkeep : ∀ {genesis stored}, setupChainConfig B db genesis stored = r → r.db = db := by
    rintro genesis stored rfl
    exact ((setupChainConfig_cases _ _ _).2.2.resolve_left fun h => by simp [h.1] at herr).2
  unfold setupGenesisBlock at h
  split at h
  · cases h; rfl
  · unfold setupFastGenesisBlock at h
    rw [if_neg ‹_›] at h
    dsimp only at h
    split at h
    · -- no stored genesis: a commit that returns has no error
      split at h <;> cases h
      cases herr
    · split at h
      · exact hkeep (Except.ok.inj h)
      · split at h
        · cases h
        · split at h
          · cases h; rfl
          · exact hkeep (Except.ok.inj h)

/-- A database holding another genesis: setup reports the mismatch and leaves the database. -/
theorem setupGenesisBlock_err_db_mismatch :
    setupGenesisBlock unitBackend (Database.empty.writeCanonicalHash twosHash 0)
        (some (unitGenesis 0 [])) RangeOrder.listed =
      .ok ⟨some (), onesHash, some (.genesisMismatch twosHash onesHash),
        Database.empty.writeCanonicalHash twosHash 0, some (unitGenesis 0 [])⟩ ∧
      (some (SetupError.genesisMismatch twosHash onesHash)).isSome ∧
      (Database.empty.writeCanonicalHash twosHash 0 : Database Unit) =
        Database.empty.writeCanonicalHash twosHash 0 :=
  have h : setupGenesisBlock unitBackend (Database.empty.writeCanonicalHash twosHash 0)
      (some (unitGenesis 0 [])) RangeOrder.listed =
        .ok ⟨some (), onesHash, some (.genesisMismatch twosHash onesHash),
          Database.empty.writeCanonicalHash twosHash 0, some (unitGenesis 0 [])⟩ := rfl
  ⟨h, rfl, setupGenesisBlock_err_db h rfl⟩

/-- **Setup panics** for a genesis with a configuration and a difficulty: on every database when
a committee key does not unmarshal, and on an empty database when the genesis number is not
zero, since `CommitFast` then returns a `nil` block whose hash is taken. -/
theorem setupGenesisBlock_panics (db : Database Cfg) (g : Genesis Cfg) (ord : RangeOrder)
    (hcfg : g.config.isSome) (hd : g.difficulty.isSome) :
    ((∃ m ∈ g.committee, B.unmarshalPubkey m.publickey = none) →
        setupGenesisBlock B db (some g) ord = .error (.nilDereference "pubkey")) ∧
      (db.canonicalHash 0 = FixedBytes.zero 32 → g.number ≠ 0 →
        (∀ m ∈ g.committee, (B.unmarshalPubkey m.publickey).isSome) →
        setupGenesisBlock B db (some g) ord = .error (.nilDereference "block")) := by
  obtain ⟨c, hc⟩ := Option.isSome_iff_exists.1 hcfg
  obtain ⟨d, hd⟩ := Option.isSome_iff_exists.1 hd
  refine ⟨fun hk => setupGenesisBlock_of_panic hc (toFastBlock_error hd hk ord), fun hz h0 hk => ?_⟩
  obtain ⟨b, hb, -⟩ := toFastBlock_ok hd hk ord
  exact setupGenesisBlock_of_empty_number hc hz hb h0

theorem setupGenesisBlock_panics_number_one :
    (unitGenesis 1 []).config.isSome ∧ (unitGenesis 1 []).difficulty.isSome ∧
      setupGenesisBlock unitBackend Database.empty (some (unitGenesis 1 [])) RangeOrder.listed =
        .error (.nilDereference "block") :=
  ⟨rfl, rfl, (setupGenesisBlock_panics Database.empty (unitGenesis 1 []) RangeOrder.listed rfl
    rfl).2 rfl (by decide) (by simp [unitGenesis])⟩

/-! ## (7) The configuration returned -/

/-- The configuration half returns the stored configuration or the new one. -/
theorem setupChainConfig_config_isSome {db : Database Cfg} {genesis : Option (Genesis Cfg)}
    {stored : Hash} (hc : (configOrDefault B genesis stored).isSome) :
    (setupChainConfig B db genesis stored).config.isSome := by
  unfold setupChainConfig
  dsimp only
  repeat' split
  all_goals first | exact hc | rfl

/-- **The chain configuration setup returns is never `nil`**, as its documentation says: for
every database, genesis pointer and order of the Go maps, whenever the call returns, with or
without an error. -/
theorem setupGenesisBlock_config_isSome {db : Database Cfg} {genesis : Option (Genesis Cfg)}
    {ord : RangeOrder} {r : SetupOutcome Cfg} (h : setupGenesisBlock B db genesis ord = .ok r) :
    r.config.isSome := by
  unfold setupGenesisBlock at h
  split at h
  · cases h; rfl
  · rename_i hnone
    have hcfg : (genesis.getD (defaultGenesisBlock B)).config.isSome := by
      cases genesis with
      | none => rfl
      | some g => exact Option.ne_none_iff_isSome.1 (by simpa using hnone)
    unfold setupFastGenesisBlock at h
    rw [if_neg hnone] at h
    dsimp only at h
    split at h
    · -- no stored genesis: the given genesis, or the default, is committed
      split at h <;> cases h
      exact hcfg
    · cases genesis with
      | none =>
        cases h
        exact setupChainConfig_config_isSome (by unfold configOrDefault; split_ifs <;> rfl)
      | some g =>
        dsimp only at h
        split at h
        · cases h
        · split_ifs at h <;> cases h
          · exact hcfg
          · exact setupChainConfig_config_isSome hcfg

/-- A genesis without a configuration is refused, and `AllMinervaProtocolChanges` returned. -/
theorem setupGenesisBlock_config_isSome_noConfig :
    setupGenesisBlock unitBackend Database.empty (some { unitGenesis 0 [] with config := none })
        RangeOrder.listed =
      .ok ⟨some (), FixedBytes.zero 32, some .errGenesisNoConfig, Database.empty,
        some { unitGenesis 0 [] with config := none }⟩ ∧
      (some () : Option Unit).isSome :=
  have h : setupGenesisBlock unitBackend Database.empty (some { unitGenesis 0 [] with config := none })
      RangeOrder.listed =
        .ok ⟨some (), FixedBytes.zero 32, some .errGenesisNoConfig, Database.empty,
          some { unitGenesis 0 [] with config := none }⟩ := rfl
  ⟨h, setupGenesisBlock_config_isSome h⟩

end Pist
