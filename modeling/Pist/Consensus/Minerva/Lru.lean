import Pist.Consensus.Minerva.SimpleLru

/-! # The minerva epoch dataset cache (`lru`)

`lru` in `consensus/minerva/minerva.go` keeps the verification caches (or mining datasets) of
recent epochs in a `SimpleLru`, and besides them one *future item*, built ahead of time for the
epoch after the highest one requested so far.

* **`newlru maxItems`** — an empty cache of bound `maxItems`, or `5` when `maxItems ≤ 1`;
* **`Lru.getItem`**, **`Lru.startFuture`** — the two halves of `get`: get or create the item of
  the requested epoch, then start the future item;
* **`Lru.get`** — the whole call, with its two results;
* **`Lru.run`** — a sequence of calls.

The constructor `new` builds a fresh object each time it is called: an `Item` is tagged with
the epoch it was built for and identified by its construction serial, and the state records
the epochs `new` was called with. The epoch ceiling `maxEpoch` is a package constant that is
not among the sources, so it is a variable here. -/

namespace Pist

/-- Epoch numbers: Go's `uint64`. -/
abbrev Epoch := BitVec 64

/-- **An item `new(epoch)` returns.** Go compares the `interface{}` values by pointer, so an
item is the epoch it was built for and the serial of its construction. -/
structure Item where
  /-- The epoch `new` was called with. -/
  epoch : Epoch
  /-- How many items were built before this one. -/
  serial : Nat
deriving DecidableEq, Repr

/-- **The `lru` struct.** `what` only labels log lines and `mu` only serialises calls, so both
are left out; `built` records the calls of `new`. -/
structure Lru where
  /-- The LRU cache of items, keyed by epoch. -/
  cache : SimpleLru Epoch (Option Item)
  /-- The epoch of the future item, or `0` while there is none. -/
  future : Epoch
  /-- The future item. -/
  futureItem : Option Item
  /-- The epochs `new` was called with, oldest first. -/
  built : List Epoch

/-- `newlru(what, maxItems, new)`: an empty cache; a bound of at most one becomes `5`. -/
def newlru (maxItems : Int) : Lru where
  cache := SimpleLru.newLRU (if maxItems ≤ 1 then 5 else maxItems.toNat)
  future := 0
  futureItem := none
  built := []

/-- The bound `newlru` installs. -/
def capacity (maxItems : Int) : Nat := if maxItems ≤ 1 then 5 else maxItems.toNat

@[simp] theorem size_newlru (maxItems : Int) : (newlru maxItems).cache.size = capacity maxItems :=
  rfl

theorem capacity_pos (maxItems : Int) : 0 < capacity maxItems := by
  unfold capacity; split <;> omega

namespace Lru

/-- The constructor `new(epoch)`: a fresh item tagged `epoch`. -/
def new (l : Lru) (epoch : Epoch) : Item × Lru :=
  (⟨epoch, l.built.length⟩, { l with built := l.built ++ [epoch] })

/-! ## (1) `get`, in two halves -/

/-- Lines 99–109 of `get`: the cached item of `epoch`; on a miss the future item if it is the
one for `epoch`, else a new one, which is then added to the cache. -/
def getItem (l : Lru) (epoch : Epoch) : Option Item × Lru :=
  let (found, cache) := l.cache.get epoch
  match found with
  | some item => (item, { l with cache })
  | none =>
    let (item, l) :=
      if 0 < l.future ∧ l.future = epoch then (l.futureItem, l)
      else
        let (x, l) := l.new epoch
        (some x, l)
    (item, { l with cache := cache.add epoch item })

variable (maxEpoch : Epoch)

/-- Lines 111–117 of `get`: below the ceiling, and when the future item is older than
`epoch + 1`, build the item of `epoch + 1` as the new future item. -/
def startFuture (l : Lru) (epoch : Epoch) : Lru :=
  if epoch < maxEpoch - 1 ∧ l.future < epoch + 1 then
    let (x, l) := l.new (epoch + 1)
    { l with future := epoch + 1, futureItem := some x }
  else l

/-- **`get(epoch)`**: the item of `epoch`, and the future item when it is the one of
`epoch + 1`. -/
def get (l : Lru) (epoch : Epoch) : (Option Item × Option Item) × Lru :=
  let (item, l) := l.getItem epoch
  let l := l.startFuture maxEpoch epoch
  if epoch + 1 ≠ l.future then ((item, none), l) else ((item, l.futureItem), l)

/-- The results of the calls `get(e)` for `e` in `reqs`, in order, and the state after them. -/
def run (l : Lru) : List Epoch → List (Option Item × Option Item) × Lru
  | [] => ([], l)
  | e :: es =>
    let r := l.get maxEpoch e
    let rest := r.2.run es
    (r.1 :: rest.1, rest.2)

/-! ## (2) What each half does

One lemma per outcome of each half; every later proof goes through these. -/

variable {l : Lru} {e : Epoch}

/-- A hit: the cached value, its element moved to the front. -/
theorem getItem_of_hit {v : Option Item} (h : l.cache.peek e = some v) :
    l.getItem e = (v, { l with cache := (l.cache.get e).2 }) := by
  simp only [getItem, SimpleLru.get_of_peek_some h]

/-- A miss on the future item's epoch: the future item is reused and cached. -/
theorem getItem_of_future (h : l.cache.peek e = none) (hf : 0 < l.future ∧ l.future = e) :
    l.getItem e = (l.futureItem, { l with cache := l.cache.add e l.futureItem }) := by
  simp only [getItem, SimpleLru.get_of_peek_none h, if_pos hf]

/-- Any other miss: a new item is built for `e` and cached. -/
theorem getItem_of_build (h : l.cache.peek e = none) (hf : ¬(0 < l.future ∧ l.future = e)) :
    l.getItem e = (some ⟨e, l.built.length⟩,
      { l with cache := l.cache.add e (some ⟨e, l.built.length⟩), built := l.built ++ [e] }) := by
  simp only [getItem, SimpleLru.get_of_peek_none h, if_neg hf, new]

/-- **The three outcomes of `getItem`**: a hit, the future item reused, a new item built. -/
theorem getItem_cases (l : Lru) (e : Epoch) :
    (∃ v, l.cache.peek e = some v ∧ l.getItem e = (v, { l with cache := (l.cache.get e).2 })) ∨
    (l.cache.peek e = none ∧ (0 < l.future ∧ l.future = e) ∧
      l.getItem e = (l.futureItem, { l with cache := l.cache.add e l.futureItem })) ∨
    (l.cache.peek e = none ∧ ¬(0 < l.future ∧ l.future = e) ∧
      l.getItem e = (some ⟨e, l.built.length⟩,
        { l with cache := l.cache.add e (some ⟨e, l.built.length⟩), built := l.built ++ [e] })) := by
  cases h : l.cache.peek e with
  | some v => exact .inl ⟨v, rfl, getItem_of_hit h⟩
  | none =>
    by_cases hf : 0 < l.future ∧ l.future = e
    · exact .inr (.inl ⟨rfl, hf, getItem_of_future h hf⟩)
    · exact .inr (.inr ⟨rfl, hf, getItem_of_build h hf⟩)

@[simp] theorem future_getItem : (l.getItem e).2.future = l.future := by
  rcases getItem_cases l e with ⟨_, _, hg⟩ | ⟨_, _, hg⟩ | ⟨_, _, hg⟩ <;> rw [hg]

@[simp] theorem futureItem_getItem : (l.getItem e).2.futureItem = l.futureItem := by
  rcases getItem_cases l e with ⟨_, _, hg⟩ | ⟨_, _, hg⟩ | ⟨_, _, hg⟩ <;> rw [hg]

@[simp] theorem size_getItem : (l.getItem e).2.cache.size = l.cache.size := by
  rcases getItem_cases l e with ⟨_, _, hg⟩ | ⟨_, _, hg⟩ | ⟨_, _, hg⟩ <;> simp [hg]

/-- The future item is replaced by a new item of `e + 1`. -/
theorem startFuture_of_lt (h : e < maxEpoch - 1 ∧ l.future < e + 1) :
    l.startFuture maxEpoch e =
      { l with
        future := e + 1
        futureItem := some ⟨e + 1, l.built.length⟩
        built := l.built ++ [e + 1] } :=
  if_pos h

theorem startFuture_of_not_lt (h : ¬(e < maxEpoch - 1 ∧ l.future < e + 1)) :
    l.startFuture maxEpoch e = l :=
  if_neg h

@[simp] theorem cache_startFuture : (l.startFuture maxEpoch e).cache = l.cache := by
  unfold startFuture; split <;> rfl

/-- The state after `get` is the state after its two halves. -/
theorem get_snd : (l.get maxEpoch e).2 = (l.getItem e).2.startFuture maxEpoch e := by
  unfold get; cases l.getItem e; dsimp only; split <;> rfl

theorem get_fst_fst : (l.get maxEpoch e).1.1 = (l.getItem e).1 := by
  unfold get; cases l.getItem e; dsimp only; split <;> rfl

/-- The second result is the future item after the call, when it is the one of `e + 1`. -/
theorem get_fst_snd : (l.get maxEpoch e).1.2 =
    if e + 1 = (l.get maxEpoch e).2.future then (l.get maxEpoch e).2.futureItem else none := by
  unfold get; cases l.getItem e; dsimp only; split <;> simp_all

@[simp] theorem run_nil : l.run maxEpoch [] = ([], l) := rfl

@[simp] theorem run_cons (es : List Epoch) :
    l.run maxEpoch (e :: es) =
      ((l.get maxEpoch e).1 :: ((l.get maxEpoch e).2.run maxEpoch es).1,
        ((l.get maxEpoch e).2.run maxEpoch es).2) := rfl

theorem run_append (xs ys : List Epoch) :
    l.run maxEpoch (xs ++ ys) =
      ((l.run maxEpoch xs).1 ++ ((l.run maxEpoch xs).2.run maxEpoch ys).1,
        ((l.run maxEpoch xs).2.run maxEpoch ys).2) := by
  induction xs generalizing l with
  | nil => rfl
  | cons x xs ih => simp [ih]

/-- One result per call. -/
@[simp] theorem length_run_fst (reqs : List Epoch) :
    (l.run maxEpoch reqs).1.length = reqs.length := by
  induction reqs generalizing l with
  | nil => rfl
  | cons x xs ih => simp [ih]

@[simp] theorem size_get : (l.get maxEpoch e).2.cache.size = l.cache.size := by
  rw [get_snd, cache_startFuture, size_getItem]

@[simp] theorem size_run (reqs : List Epoch) :
    (l.run maxEpoch reqs).2.cache.size = l.cache.size := by
  induction reqs generalizing l with
  | nil => rfl
  | cons x xs ih => simp [ih]

end Lru

end Pist
