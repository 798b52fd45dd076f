import Pist.Core.State
import Mathlib.Data.Option.Basic

/-! # The RPC backend

`pist/api_backend.go` answers the RPC layer from the node's fast chain, its database and its
transaction pool. A block number is an `rpc.BlockNumber`, an `int64` in which the constants
`PendingBlockNumber` and `LatestBlockNumber` (of the `rpc` package, not among the sources) stand
for the pending and the latest block; any other number is converted with `uint64(blockNr)`. This
file models:

* **`headerByNumber`**, **`blockByNumber`**, **`stateAndHeaderByNumber`** — the lookups by
  number, over a chain whose header lookup is the header of its block lookup (`Chain`);
  `headerByNumber` has no case for the pending number, which it converts like any other;
* **`getReceipts`**, **`getLogs`** — the receipts of a block by hash, and their logs;
* **`getPoolTransactions`** — the pending transactions of the pool, batch after batch in the
  order `range` visits the pool's map;
* **`getCommittee`** — the committee of a number, of the agent's current one for the latest.

The main result, **`getPoolTransactions_perm`**: every order in which `range` may visit the
pool's map gives the same transactions, each once. -/

namespace Pist

namespace ApiBackend

/-- **The fast chain**, by the lookups the backend calls. A header lookup by number finds the
header of the block the block lookup finds. -/
structure Chain (Header Block : Type) where
  /-- `Block.Header()`. -/
  header : Block → Header
  /-- `CurrentBlock()`. -/
  currentBlock : Block
  /-- `GetBlockByNumber`. -/
  getBlockByNumber : UInt64 → Option Block
  /-- `GetHeaderByNumber`. -/
  getHeaderByNumber : UInt64 → Option Header
  getHeaderByNumber_eq : ∀ n, getHeaderByNumber n = (getBlockByNumber n).map header

/-- The named block numbers of `rpc` (not among the sources). -/
structure BlockNumbers where
  /-- `rpc.PendingBlockNumber`. -/
  pending : Int
  /-- `rpc.LatestBlockNumber`. -/
  latest : Int

/-- Go's `uint64(blockNr)` of an `int64`: the number modulo `2^64`. -/
def toUint64 (blockNr : Int) : UInt64 := UInt64.ofNat (blockNr % UInt64.size).toNat

variable {Header Block State : Type} (k : BlockNumbers) (c : Chain Header Block)

/-- **`HeaderByNumber`**: the current header for the latest number, otherwise the header of the
converted number; the error is always `nil`. -/
def headerByNumber (blockNr : Int) : Option Header :=
  if blockNr = k.latest then some (c.header c.currentBlock)
  else c.getHeaderByNumber (toUint64 blockNr)

/-- **`BlockByNumber`**: the current block for the pending and the latest number, otherwise the
block of the converted number. -/
def blockByNumber (blockNr : Int) : Option Block :=
  if blockNr = k.pending then some c.currentBlock
  else if blockNr = k.latest then some c.currentBlock
  else c.getBlockByNumber (toUint64 blockNr)

/-- **`StateAndHeaderByNumber`**: for the pending number, the chain's current state (`state`,
whose error is dropped) and the current header; otherwise the header `HeaderByNumber` finds and
the state at its root (`stateAt`, `none` where `StateAt` fails), or `nil`s when there is no
header. -/
def stateAndHeaderByNumber (state : Option State) (stateAt : Header → Option State)
    (blockNr : Int) : Option State × Option Header :=
  if blockNr = k.pending then (state, some (c.header c.currentBlock))
  else
    match headerByNumber k c blockNr with
    | none => (none, none)
    | some header => (stateAt header, some header)

/-! ## (2) Receipts and logs -/

/-- The `rawdb` tables the receipt lookups read. -/
structure ReceiptDb (Receipt : Type) where
  /-- `ReadHeaderNumber(db, hash)`. -/
  headerNumber : Hash → Option UInt64
  /-- `ReadReceipts(db, hash, number)`, `nil` when none are stored. -/
  readReceipts : Hash → UInt64 → Option (List Receipt)

variable {Receipt Log : Type}

/-- **`GetReceipts`**: the receipts stored for the block of hash `hash`, `nil` when the hash has
no number. -/
def getReceipts (db : ReceiptDb Receipt) (hash : Hash) : Option (List Receipt) :=
  match db.headerNumber hash with
  | some number => db.readReceipts hash number
  | none => none

/-- **`GetLogs`**: the logs of each receipt (`receipt.Logs`), `nil` when the hash has no number
or no receipts are stored. -/
def getLogs (logs : Receipt → List Log) (db : ReceiptDb Receipt) (hash : Hash) :
    Option (List (List Log)) :=
  match db.headerNumber hash with
  | none => none
  | some number =>
    match db.readReceipts hash number with
    | none => none
    | some receipts => some (receipts.map logs)

/-! ## (3) The pool -/

variable {Tx : Type}

/-- **`GetPoolTransactions`**: the error of `txPool.Pending()`, or its batches appended one after
another in the order `visit` ranges over the map. -/
def getPoolTransactions (pending : Except String (GoMap Address (List Tx)))
    (visit : GoMap Address (List Tx) → List (Address × List Tx)) : Except String (List Tx) :=
  match pending with
  | .error err => .error err
  | .ok pending => .ok ((visit pending).foldl (fun txs batch => txs ++ batch.2) [])

theorem foldl_append_batches (l : List (Address × List Tx)) (acc : List Tx) :
    l.foldl (fun txs batch => txs ++ batch.2) acc = acc ++ l.flatMap Prod.snd := by
  induction l generalizing acc with
  | nil => simp
  | cons p l ih => simp [ih]

/-- **Every order of the pool's map gives the same transactions, each once**: whenever
`Pending()` succeeds and `range` visits every account once, the result is a permutation of the
batches in the map's own order. -/
theorem getPoolTransactions_perm (pending : GoMap Address (List Tx))
    (visit : GoMap Address (List Tx) → List (Address × List Tx))
    (hvisit : (visit pending).Perm pending.entries) :
    ∃ txs, getPoolTransactions (.ok pending) visit = .ok txs ∧
      txs.Perm (pending.entries.flatMap Prod.snd) :=
  ⟨_, rfl, by rw [foldl_append_batches, List.nil_append]; exact hvisit.flatMap_right _⟩

/-- A pool of two accounts, with two pending transactions and one. -/
def twoAccounts : GoMap Address (List Nat) :=
  ⟨[(FixedBytes.zero 20, [1, 2]), (⟨List.replicate 20 1, List.length_replicate _ _⟩, [3])],
    by decide⟩

theorem getPoolTransactions_perm_reversed :
    (twoAccounts.entries.reverse).Perm twoAccounts.entries ∧
      ∃ txs, getPoolTransactions (.ok twoAccounts) (fun m => m.entries.reverse) = .ok txs ∧
        txs.Perm (twoAccounts.entries.flatMap Prod.snd) :=
  ⟨List.reverse_perm _, getPoolTransactions_perm twoAccounts _ (List.reverse_perm _)⟩

/-! ## (4) Committees -/

/-- **`GetCommittee`**: the committee of the agent's current number for the latest number,
otherwise the one of `big.NewInt(number.Int64())`. -/
def getCommittee {Committee : Type} (getCommitteeById : Int → Committee)
    (committeeNumber : UInt64) (number : Int) : Committee :=
  if number = k.latest then getCommitteeById committeeNumber.toNat
  else getCommitteeById number

end ApiBackend

end Pist
