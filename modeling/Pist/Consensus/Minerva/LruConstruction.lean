import Pist.Consensus.Minerva.LruInvariant

/-! # When `get` builds a dataset

Building an item is the expensive step of the cache (`new` generates a verification cache or
a mining dataset). An item is *held* while the cache stores it under its epoch or while it is
the future item. Along every run from `newlru`:

* **`get_builds_unheld_below_ceiling`** — the first half of `get` builds only an epoch it does
  not hold; the second half builds `e + 1` while holding it only when `e + 1 = maxEpoch - 1`;
* **`get_rebuilds_ceiling`** — that case happens: after `get(maxEpoch - 1)`, the call
  `get(maxEpoch - 2)` builds the item of `maxEpoch - 1` again although the cache still holds
  the first one, since `future` never moved to `maxEpoch`. -/

namespace Pist

namespace Lru

variable {maxEpoch : Epoch} {l : Lru} {e : Epoch}

/-- The item of epoch `k` is held: cached under `k`, or the future item of epoch `k`. -/
def Held (l : Lru) (k : Epoch) : Prop :=
  (l.cache.peek k).isSome ∨ (l.future = k ∧ l.futureItem.isSome)

instance (l : Lru) (k : Epoch) : Decidable (l.Held k) := by
  unfold Held; infer_instance

/-- **The first half builds only an epoch it does not hold.** -/
theorem getItem_builds_unheld {reqs : List Epoch} (hl : Inv maxEpoch reqs l)
    (hb : (l.getItem e).2.built ≠ l.built) : ¬l.Held e := by
  rcases getItem_cases l e with ⟨_, -, hg⟩ | ⟨-, -, hg⟩ | ⟨hmiss, hf, -⟩
  · rw [hg] at hb; exact absurd rfl hb
  · rw [hg] at hb; exact absurd rfl hb
  · rintro (hc | ⟨rfl, hfi⟩)
    · simp [hmiss] at hc
    · by_cases h0 : l.future = 0
      · simp [hl.futureItem_none h0] at hfi
      · exact hf ⟨by bv_omega, rfl⟩

/-- **The second half builds `e + 1` while holding it only at the ceiling.** -/
theorem startFuture_builds_held {reqs : List Epoch} (hl : Inv maxEpoch reqs l)
    (hb : ((l.getItem e).2.startFuture maxEpoch e).built ≠ (l.getItem e).2.built)
    (hh : (l.getItem e).2.Held (e + 1)) : e + 1 = maxEpoch - 1 := by
  unfold startFuture at hb
  split at hb
  · rename_i hlt
    rw [future_getItem] at hlt
    rcases hh with hc | ⟨hfe, -⟩
    · -- the cache holds `e + 1`, so it was requested before; below the ceiling it would be
      -- below `future`
      obtain ⟨w, hw⟩ := Option.isSome_iff_exists.1 hc
      rcases peek_getItem hw with ⟨he, -⟩ | hw
      · exact absurd he (by bv_omega)
      · have hreq := hl.cache_requested _ _ hw
        by_contra hne
        have := lt_of_futureOf hl.future_of hreq (by bv_omega)
        bv_omega
    · rw [future_getItem] at hfe
      exact absurd hfe (by bv_omega)
  · exact absurd rfl hb

variable (maxEpoch) in
/-- **Along every run from `newlru`, `get` builds only datasets it does not hold**, except the
future item of `maxEpoch - 1`, built by `get(maxEpoch - 2)` while the cache holds an item of
`maxEpoch - 1`. -/
theorem get_builds_unheld_below_ceiling (maxItems : Int) (reqs : List Epoch) (e : Epoch) :
    let l := ((newlru maxItems).run maxEpoch reqs).2
    ((l.getItem e).2.built ≠ l.built → ¬l.Held e) ∧
      (((l.getItem e).2.startFuture maxEpoch e).built ≠ (l.getItem e).2.built →
        (l.getItem e).2.Held (e + 1) → e + 1 = maxEpoch - 1) := by
  intro l
  have hl := inv_run_newlru maxEpoch maxItems reqs
  exact ⟨getItem_builds_unheld hl, startFuture_builds_held hl⟩

theorem two_le_capacity (maxItems : Int) : 2 ≤ capacity maxItems := by
  unfold capacity; split <;> omega

variable (maxEpoch) in
/-- **`get(maxEpoch - 2)` after `get(maxEpoch - 1)` rebuilds the item of `maxEpoch - 1`**: the
state then holds two items of that epoch, the first one (serial `0`) in the cache and the
one built third (serial `2`) as the future item. -/
theorem get_rebuilds_ceiling (maxItems : Int) (hM : maxEpoch ≠ 1) :
    ((newlru maxItems).run maxEpoch [maxEpoch - 1, maxEpoch - 2]).2.built =
        [maxEpoch - 1, maxEpoch - 2, maxEpoch - 1] ∧
      ((newlru maxItems).run maxEpoch [maxEpoch - 1, maxEpoch - 2]).2.cache.peek (maxEpoch - 1) =
        some (some ⟨maxEpoch - 1, 0⟩) ∧
      ((newlru maxItems).run maxEpoch [maxEpoch - 1, maxEpoch - 2]).2.futureItem =
        some ⟨maxEpoch - 1, 2⟩ := by
  have hne : maxEpoch - 2 ≠ maxEpoch - 1 := by bv_omega
  have hsub : maxEpoch - 2 + 1 = maxEpoch - 1 := by bv_omega
  have hzero : ¬(0 : Epoch) < 0 := BitVec.lt_irrefl 0
  let c₁ := (newlru maxItems).cache.add (maxEpoch - 1) (some ⟨maxEpoch - 1, 0⟩)
  let c₂ := c₁.add (maxEpoch - 2) (some ⟨maxEpoch - 2, 1⟩)
  -- the first call builds item 0 and, at the ceiling, no future item
  have h₁ : ((newlru maxItems).get maxEpoch (maxEpoch - 1)).2 = ⟨c₁, 0, none, [maxEpoch - 1]⟩ := by
    rw [get_snd, getItem_of_build (l := newlru maxItems) (e := maxEpoch - 1) rfl (fun h => hzero h.1),
      startFuture_of_not_lt maxEpoch (fun h => BitVec.lt_irrefl _ h.1)]
    rfl
  have hroom : c₁.entries.length < c₁.size := by
    have := SimpleLru.length_add_le (newlru maxItems).cache (maxEpoch - 1) (some ⟨maxEpoch - 1, 0⟩)
    have := two_le_capacity maxItems
    simp only [c₁, SimpleLru.size_add, size_newlru] at *
    exact Nat.lt_of_le_of_lt ‹_ ≤ 0 + 1› (by omega)
  -- the second call misses, builds item 1, then item 2 for `maxEpoch - 1`
  have hmiss : c₁.peek (maxEpoch - 2) = none :=
    SimpleLru.peek_add_ne hne (by simpa using capacity_pos maxItems)
  have h₂ : (Lru.get maxEpoch ⟨c₁, 0, none, [maxEpoch - 1]⟩ (maxEpoch - 2)).2 =
      ⟨c₂, maxEpoch - 1, some ⟨maxEpoch - 1, 2⟩, [maxEpoch - 1, maxEpoch - 2, maxEpoch - 1]⟩ := by
    rw [get_snd, getItem_of_build hmiss (fun h => hzero h.1),
      startFuture_of_lt maxEpoch ⟨by bv_omega, show (0 : Epoch) < _ by bv_omega⟩]
    simp only [hsub]
    rfl
  have hl : ((newlru maxItems).run maxEpoch [maxEpoch - 1, maxEpoch - 2]).2 =
      ⟨c₂, maxEpoch - 1, some ⟨maxEpoch - 1, 2⟩, [maxEpoch - 1, maxEpoch - 2, maxEpoch - 1]⟩ := by
    rw [run_cons, run_cons, run_nil, h₁, h₂]
  rw [hl]
  refine ⟨rfl, ?_, rfl⟩
  show c₂.peek _ = _
  rw [SimpleLru.peek_add_ne hne.symm hroom]
  exact SimpleLru.peek_add_self _ _ _ (capacity_pos maxItems)

/-- `get_rebuilds_ceiling` at the ceiling `2048`. -/
theorem get_rebuilds_ceiling_at_2048 :
    (2048#64 : Epoch) ≠ 1 ∧
      ((newlru 0).run 2048#64 [2048#64 - 1, 2048#64 - 2]).2.built =
          [2048#64 - 1, 2048#64 - 2, 2048#64 - 1] ∧
        ((newlru 0).run 2048#64 [2048#64 - 1, 2048#64 - 2]).2.cache.peek (2048#64 - 1) =
          some (some ⟨2048#64 - 1, 0⟩) ∧
        ((newlru 0).run 2048#64 [2048#64 - 1, 2048#64 - 2]).2.futureItem =
          some ⟨2048#64 - 1, 2⟩ :=
  ⟨by decide, get_rebuilds_ceiling 2048#64 0 (by decide)⟩

end Lru

end Pist
