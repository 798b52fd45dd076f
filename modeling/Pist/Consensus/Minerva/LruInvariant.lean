import Pist.Consensus.Minerva.Lru

/-! # The invariant of the minerva `lru` over every run

The comment on `lru` says the cache "always keep[s] an item for (highest seen epoch) + 1 as the
'future item'". Over every sequence of `get` calls from `newlru`, the state after the requests
`reqs` satisfies `Lru.Inv reqs`:

* `future` is `FutureOf reqs`: zero while no epoch below the ceiling `maxEpoch - 1` was
  requested, else one more than the highest one that was;
* the future item exists exactly when `future` is not zero, and it is tagged `future`;
* every item cached under key `k` is tagged `k`, and `k` was requested.

From the invariant, `reachable_future_invariant` gives what each call returns. The same
invariant bounds when `new` runs: `getItem_builds_unheld` and `startFuture_builds_held` show
the only construction of an epoch the cache still holds, the future item of `maxEpoch - 1`
built by `get(maxEpoch - 2)`, which `get_rebuilds_ceiling` exhibits. -/

namespace Pist

variable (maxEpoch : Epoch)

/-! ## (1) The future epoch of a request history -/

/-- **The future epoch the requests `reqs` call for**: `0` while none was below the ceiling
`maxEpoch - 1`, else one more than the highest that was. -/
def FutureOf (reqs : List Epoch) (future : Epoch) : Prop :=
  (future = 0 ∧ ∀ e ∈ reqs, ¬ e < maxEpoch - 1) ∨
    ∃ m ∈ reqs, m < maxEpoch - 1 ∧ future = m + 1 ∧ ∀ e ∈ reqs, e < maxEpoch - 1 → e ≤ m

variable {maxEpoch}

theorem futureOf_nil : FutureOf maxEpoch [] 0 := .inl ⟨rfl, by simp⟩

/-- A requested epoch below the ceiling is below the future epoch. -/
theorem lt_of_futureOf {reqs : List Epoch} {f e : Epoch} (h : FutureOf maxEpoch reqs f)
    (he : e ∈ reqs) (hc : e < maxEpoch - 1) : e < f := by
  rcases h with ⟨-, hnone⟩ | ⟨m, -, hmc, rfl, hle⟩
  · exact absurd hc (hnone e he)
  · have := hle e he hc
    bv_omega

/-- **One request updates the future epoch** as `startFuture` does. -/
theorem futureOf_snoc {reqs : List Epoch} {e f : Epoch} (h : FutureOf maxEpoch reqs f) :
    FutureOf maxEpoch (reqs ++ [e])
      (if e < maxEpoch - 1 ∧ f < e + 1 then e + 1 else f) := by
  split
  · -- the future epoch moves up to `e + 1`
    rename_i hlt
    refine .inr ⟨e, by simp, hlt.1, rfl, fun x hx hxc => ?_⟩
    rcases List.mem_append.1 hx with hx | hx
    · have := lt_of_futureOf h hx hxc
      bv_omega
    · obtain rfl := List.mem_singleton.1 hx
      bv_omega
  · -- the future epoch stays
    rename_i hnlt
    rcases h with ⟨rfl, hnone⟩ | ⟨m, hm, hmc, rfl, hle⟩
    · refine .inl ⟨rfl, fun x hx hxc => ?_⟩
      rcases List.mem_append.1 hx with hx | hx
      · exact hnone x hx hxc
      · rw [List.mem_singleton.1 hx] at hxc
        exact hnlt ⟨hxc, by bv_omega⟩
    · refine .inr ⟨m, by simp [hm], hmc, rfl, fun x hx hxc => ?_⟩
      rcases List.mem_append.1 hx with hx | hx
      · exact hle x hx hxc
      · rw [List.mem_singleton.1 hx] at hxc ⊢
        by_contra hxm
        exact hnlt ⟨hxc, by bv_omega⟩

namespace Lru

variable {l : Lru} {e : Epoch}

/-! ## (2) What one call changes -/

theorem future_startFuture : (l.startFuture maxEpoch e).future =
    if e < maxEpoch - 1 ∧ l.future < e + 1 then e + 1 else l.future := by
  unfold startFuture; split <;> rfl

theorem futureItem_startFuture : (l.startFuture maxEpoch e).futureItem =
    if e < maxEpoch - 1 ∧ l.future < e + 1 then some ⟨e + 1, l.built.length⟩
    else l.futureItem := by
  unfold startFuture; split <;> rfl

theorem future_get : (l.get maxEpoch e).2.future =
    if e < maxEpoch - 1 ∧ l.future < e + 1 then e + 1 else l.future := by
  rw [get_snd, future_startFuture, future_getItem]

/-- After `getItem`, a key holds the item just returned (it is the requested one) or what it
held before. -/
theorem peek_getItem {k : Epoch} {w : Option Item} (h : (l.getItem e).2.cache.peek k = some w) :
    (k = e ∧ w = (l.getItem e).1) ∨ l.cache.peek k = some w := by
  rcases getItem_cases l e with ⟨v, -, hg⟩ | ⟨-, -, hg⟩ | ⟨-, -, hg⟩ <;>
    rw [hg] at h ⊢
  · exact .inr (by simpa using h)
  all_goals exact SimpleLru.peek_add h

/-! ## (3) The invariant -/

variable (maxEpoch) in
/-- **The invariant of an `lru` reached by the requests `reqs`.** -/
structure Inv (reqs : List Epoch) (l : Lru) : Prop where
  /-- `future` tracks the highest epoch requested below the ceiling. -/
  future_of : FutureOf maxEpoch reqs l.future
  /-- No future item while `future` is zero. -/
  futureItem_none : l.future = 0 → l.futureItem = none
  /-- Otherwise the future item is the one of epoch `future`. -/
  futureItem_tagged : 0 < l.future → ∃ x, l.futureItem = some x ∧ x.epoch = l.future
  /-- The item cached under key `k` is an item of epoch `k`. -/
  cache_tagged : ∀ k v, l.cache.peek k = some v → ∃ x, v = some x ∧ x.epoch = k
  /-- Only requested epochs are cached. -/
  cache_requested : ∀ k v, l.cache.peek k = some v → k ∈ reqs
  /-- `newlru` gives the cache room for an item. -/
  size_pos : 0 < l.cache.size

variable (maxEpoch) in
theorem inv_newlru (maxItems : Int) : Inv maxEpoch [] (newlru maxItems) where
  future_of := futureOf_nil
  futureItem_none _ := rfl
  futureItem_tagged h := absurd h (by show ¬(0 : Epoch) < 0; decide)
  cache_tagged _ _ h := by simp [newlru, SimpleLru.newLRU, SimpleLru.peek] at h
  cache_requested _ _ h := by simp [newlru, SimpleLru.newLRU, SimpleLru.peek] at h
  size_pos := capacity_pos maxItems

/-- **Every call returns an item of the requested epoch.** -/
theorem getItem_fst {reqs : List Epoch} (hl : Inv maxEpoch reqs l) :
    ∃ x, (l.getItem e).1 = some x ∧ x.epoch = e := by
  rcases getItem_cases l e with ⟨v, hv, hg⟩ | ⟨-, ⟨hf, rfl⟩, hg⟩ | ⟨-, -, hg⟩ <;> rw [hg]
  · exact hl.cache_tagged e v hv
  · exact hl.futureItem_tagged hf
  · exact ⟨_, rfl, rfl⟩

/-- **One call keeps the invariant.** -/
theorem inv_get {reqs : List Epoch} (hl : Inv maxEpoch reqs l) :
    Inv maxEpoch (reqs ++ [e]) (l.get maxEpoch e).2 where
  future_of := by rw [future_get]; exact futureOf_snoc hl.future_of
  futureItem_none h := by
    simp only [get_snd, futureItem_startFuture, future_startFuture, futureItem_getItem,
      future_getItem] at h ⊢
    by_cases hc : e < maxEpoch - 1 ∧ l.future < e + 1
    · simp only [if_pos hc] at h; bv_omega
    · simp only [if_neg hc] at h ⊢; exact hl.futureItem_none h
  futureItem_tagged h := by
    simp only [get_snd, futureItem_startFuture, future_startFuture, futureItem_getItem,
      future_getItem] at h ⊢
    by_cases hc : e < maxEpoch - 1 ∧ l.future < e + 1
    · simp only [if_pos hc]; exact ⟨_, rfl, rfl⟩
    · simp only [if_neg hc] at h ⊢; exact hl.futureItem_tagged h
  cache_tagged k v h := by
    rw [get_snd, cache_startFuture] at h
    rcases peek_getItem h with ⟨rfl, rfl⟩ | h
    · exact getItem_fst hl
    · exact hl.cache_tagged k v h
  cache_requested k v h := by
    rw [get_snd, cache_startFuture] at h
    rcases peek_getItem h with ⟨rfl, -⟩ | h
    · simp
    · exact List.mem_append_left _ (hl.cache_requested k v h)
  size_pos := by rw [get_snd, cache_startFuture, size_getItem]; exact hl.size_pos

/-- **A run keeps the invariant.** -/
theorem inv_run {pre : List Epoch} (reqs : List Epoch) (hl : Inv maxEpoch pre l) :
    Inv maxEpoch (pre ++ reqs) (l.run maxEpoch reqs).2 := by
  induction reqs generalizing pre l with
  | nil => simpa using hl
  | cons e es ih => simpa using ih (inv_get hl)

variable (maxEpoch) in
theorem inv_run_newlru (maxItems : Int) (reqs : List Epoch) :
    Inv maxEpoch reqs ((newlru maxItems).run maxEpoch reqs).2 := by
  simpa using inv_run reqs (inv_newlru maxEpoch maxItems)

/-! ## (4) What a call returns -/

/-- `future` never decreases. -/
theorem future_le_get : l.future ≤ (l.get maxEpoch e).2.future := by
  rw [future_get]
  split
  · bv_omega
  · exact BitVec.le_refl _

/-- The second result is the future item after the call, present when that item is the one of
`e + 1`. -/
theorem get_fst_snd_eq_some {reqs : List Epoch} {y : Item}
    (hl : Inv maxEpoch reqs (l.get maxEpoch e).2) :
    (l.get maxEpoch e).1.2 = some y ↔
      (e + 1 = (l.get maxEpoch e).2.future ∧ 0 < (l.get maxEpoch e).2.future) ∧
        (l.get maxEpoch e).2.futureItem = some y := by
  rw [get_fst_snd]
  split
  · rename_i h
    constructor
    · intro hy
      refine ⟨⟨h, ?_⟩, hy⟩
      by_contra h0
      rw [hl.futureItem_none (by bv_omega)] at hy
      cases hy
    · exact fun ⟨_, hy⟩ => hy
  · rename_i h
    constructor
    · intro hy; cases hy
    · rintro ⟨⟨h', -⟩, -⟩; exact absurd h' h

/-- **When the second result is present**: below the ceiling, when no higher epoch below it
was requested before. -/
theorem futureOf_next_iff {reqs : List Epoch} {f : Epoch} (h : FutureOf maxEpoch reqs f) :
    (e + 1 = (if e < maxEpoch - 1 ∧ f < e + 1 then e + 1 else f) ∧
        0 < (if e < maxEpoch - 1 ∧ f < e + 1 then e + 1 else f)) ↔
      e < maxEpoch - 1 ∧ ∀ e' ∈ reqs, e' < maxEpoch - 1 → e' ≤ e := by
  constructor
  · rintro ⟨heq, hpos⟩
    by_cases hlt : e < maxEpoch - 1 ∧ f < e + 1
    · -- a new future item: every requested epoch below the ceiling is below `f ≤ e`
      refine ⟨hlt.1, fun e' he' hc => ?_⟩
      have := lt_of_futureOf h he' hc
      bv_omega
    · -- the future item stays, and it is already the one of `e + 1`
      rw [if_neg hlt] at heq hpos
      rcases h with ⟨rfl, -⟩ | ⟨m, -, hmc, rfl, hle⟩
      · exact absurd hpos (by bv_omega)
      · have hem : e = m := by bv_omega
        subst hem
        exact ⟨hmc, hle⟩
  · rintro ⟨hc, hle⟩
    by_cases hlt : f < e + 1
    · rw [if_pos (And.intro hc hlt)]
      exact ⟨rfl, by bv_omega⟩
    · rw [if_neg (fun h' : _ ∧ _ => hlt h'.2)]
      rcases h with ⟨rfl, -⟩ | ⟨m, hm, hmc, rfl, -⟩
      · exact absurd (by bv_omega) hlt
      · have := hle m hm hmc
        constructor <;> bv_omega

/-- **What a call returns** (a non-`nil` item tagged with the requested epoch, and a future
item tagged `e + 1` exactly below the ceiling when no higher epoch below it was requested
before), together with the invariant the state satisfies before the call. -/
theorem reachable_future_invariant (maxItems : Int) (reqs : List Epoch) (e : Epoch) :
    let l := ((newlru maxItems).run maxEpoch reqs).2
    let r := l.get maxEpoch e
    FutureOf maxEpoch reqs l.future ∧
      (0 < l.future → ∃ x, l.futureItem = some x ∧ x.epoch = l.future) ∧
      (∀ k v, l.cache.peek k = some v → ∃ x, v = some x ∧ x.epoch = k) ∧
      l.future ≤ r.2.future ∧
      (∃ x, r.1.1 = some x ∧ x.epoch = e) ∧
      ((∃ y, r.1.2 = some y) ↔ e < maxEpoch - 1 ∧ ∀ e' ∈ reqs, e' < maxEpoch - 1 → e' ≤ e) ∧
      (∀ y, r.1.2 = some y → y.epoch = e + 1) := by
  intro l r
  have hl := inv_run_newlru maxEpoch maxItems reqs
  have hr : Inv maxEpoch (reqs ++ [e]) r.2 := inv_get hl
  refine ⟨hl.future_of, hl.futureItem_tagged, hl.cache_tagged, future_le_get,
    by rw [get_fst_fst]; exact getItem_fst hl, ?_, fun y hy => ?_⟩
  · have hsome : (∃ y, r.1.2 = some y) ↔
        e + 1 = r.2.future ∧ 0 < r.2.future := by
      constructor
      · rintro ⟨y, hy⟩
        exact ((get_fst_snd_eq_some hr).1 hy).1
      · intro hf
        obtain ⟨y, hy, -⟩ := hr.futureItem_tagged hf.2
        exact ⟨y, (get_fst_snd_eq_some hr).2 ⟨hf, hy⟩⟩
    rw [hsome, future_get]
    exact futureOf_next_iff hl.future_of
  · obtain ⟨⟨hfe, hpos⟩, hy⟩ := (get_fst_snd_eq_some hr).1 hy
    obtain ⟨x, hx, hxe⟩ := hr.futureItem_tagged hpos
    rw [hy] at hx
    cases hx
    exact hxe.trans hfe.symm

end Lru

end Pist
