import Pist.Consensus.Minerva.LruInvariant

/-! # Two requests of an epoch return the same item

The spec's test idea — "calling `get(e)` twice without intervening eviction returns the
identical cached item" — holds over every run: after `get(e)` the item of `e` is at the front
of the eviction list, and each later call moves at most one other key ahead of it, so it stays
cached while fewer than `size` other epochs are requested.

* **`behind_get`** — one call keeps the item of `e` behind the epochs requested since;
* **`get_run_get`** — `get(e)`, any calls of fewer than `size` other epochs, then `get(e)`
  again, return the same item;
* **`get_returns_cached_item`** — two calls at positions `i < j` of any run from `newlru`:
  the first returns an item of `e`, and the second returns that same item. -/

namespace Pist

namespace Lru

variable {maxEpoch : Epoch} {l : Lru} {e k : Epoch} {v : Option Item} {S : Finset Epoch}

/-- **After `get(e)`, the returned item is at the front of the eviction list.** -/
theorem behind_get_self (hs : 0 < l.cache.size) (S : Finset Epoch) :
    (l.get maxEpoch e).2.cache.Behind e (l.get maxEpoch e).1.1 S := by
  rw [get_snd, cache_startFuture, get_fst_fst]
  rcases getItem_cases l e with ⟨w, hw, hg⟩ | ⟨-, -, hg⟩ | ⟨-, -, hg⟩ <;> rw [hg]
  · rw [SimpleLru.get_of_peek_some hw]
    exact SimpleLru.behind_toFront_self (by simp [hw]) S
  all_goals exact SimpleLru.behind_add_self hs S

/-- **One call keeps an item behind the epochs requested since it was used**: a call of `k`
itself moves it to the front, and a call of another epoch of `S` puts that epoch ahead. -/
theorem behind_get (hb : l.cache.Behind k v S) (hS : e ≠ k → e ∈ S)
    (hcard : S.card < l.cache.size) : (l.get maxEpoch e).2.cache.Behind k v S := by
  rw [get_snd, cache_startFuture]
  by_cases hk : e = k
  · subst hk
    rw [getItem_of_hit (SimpleLru.peek_of_behind hb)]
    exact SimpleLru.behind_get_self hb S
  · rcases getItem_cases l e with ⟨_, -, hg⟩ | ⟨-, -, hg⟩ | ⟨-, -, hg⟩ <;> rw [hg]
    · exact SimpleLru.behind_get hb hk (hS hk)
    all_goals exact SimpleLru.behind_add hb hk (hS hk) hcard

theorem behind_run (mid : List Epoch) (hb : l.cache.Behind k v S)
    (hS : ∀ e ∈ mid, e ≠ k → e ∈ S) (hcard : S.card < l.cache.size) :
    (l.run maxEpoch mid).2.cache.Behind k v S := by
  induction mid generalizing l with
  | nil => exact hb
  | cons e es ih =>
    exact ih (behind_get hb (hS e (List.mem_cons_self _ _)) hcard)
      (fun e' he' => hS e' (List.mem_cons_of_mem _ he')) (by rwa [size_get])

/-- **`get(e)`, calls of fewer than `size` other epochs, then `get(e)` return the same item.** -/
theorem get_run_get (mid : List Epoch) (hs : 0 < l.cache.size)
    (hfew : (mid.filter (· ≠ e)).toFinset.card < l.cache.size) :
    (((l.get maxEpoch e).2.run maxEpoch mid).2.get maxEpoch e).1.1 = (l.get maxEpoch e).1.1 := by
  have hb : (((l.get maxEpoch e).2.run maxEpoch mid).2.cache.Behind e (l.get maxEpoch e).1.1
      (mid.filter (· ≠ e)).toFinset) :=
    behind_run mid (behind_get_self hs _) (fun e' he' hne => by simp [he', hne])
      (by rwa [size_get])
  rw [get_fst_fst, getItem_of_hit (SimpleLru.peek_of_behind hb)]

/-- A request sequence with the epoch `e` at positions `i < j`, cut around them. -/
theorem eq_split_of_getElem? {reqs : List Epoch} {i j : Nat} (hij : i < j)
    (hi : reqs[i]? = some e) (hj : reqs[j]? = some e) :
    reqs = reqs.take i ++ e :: ((reqs.drop (i + 1)).take (j - i - 1) ++ e :: reqs.drop (j + 1)) := by
  obtain ⟨hil, rfl⟩ := List.getElem?_eq_some_iff.1 hi
  obtain ⟨hjl, hje⟩ := List.getElem?_eq_some_iff.1 hj
  have hdrop : (reqs.drop (i + 1)).drop (j - i - 1) = reqs.drop j := by
    rw [List.drop_drop]; congr 1; omega
  conv_lhs => rw [← List.take_append_drop i reqs, List.drop_eq_getElem_cons hil]
  rw [← hje, ← List.drop_eq_getElem_cons hjl, ← hdrop, List.take_append_drop]

variable (maxEpoch) in
/-- The results of the two calls of `e` in `pre ++ e :: (mid ++ e :: post)`. -/
theorem run_getElem?_split (pre mid post : List Epoch) :
    (l.run maxEpoch (pre ++ e :: (mid ++ e :: post))).1[pre.length]? =
        some ((l.run maxEpoch pre).2.get maxEpoch e).1 ∧
      (l.run maxEpoch (pre ++ e :: (mid ++ e :: post))).1[pre.length + 1 + mid.length]? =
        some ((((l.run maxEpoch pre).2.get maxEpoch e).2.run maxEpoch mid).2.get maxEpoch e).1 := by
  simp only [run_append, run_cons]
  constructor
  · rw [List.getElem?_append_right (by simp), length_run_fst, Nat.sub_self,
      List.getElem?_cons_zero]
  · rw [List.getElem?_append_right (by simp; omega), length_run_fst,
      show pre.length + 1 + mid.length - pre.length = mid.length + 1 by omega,
      List.getElem?_cons_succ, List.getElem?_append_right (by simp), length_run_fst,
      Nat.sub_self, List.getElem?_cons_zero]

variable (maxEpoch) in
/-- **Two calls `get(e)` at positions `i < j` of a run from `newlru` return the same item**
when fewer than `capacity` distinct epochs other than `e` are requested in between: the first
returns an item `x` built for `e`, and the second returns `x` again. -/
theorem get_returns_cached_item (maxItems : Int) (reqs : List Epoch) (i j : Nat) (e : Epoch)
    (hij : i < j) (hi : reqs[i]? = some e) (hj : reqs[j]? = some e)
    (hfew : (((reqs.drop (i + 1)).take (j - i - 1)).filter (· ≠ e)).toFinset.card <
      capacity maxItems) :
    ∃ x : Item, x.epoch = e ∧
      (((newlru maxItems).run maxEpoch reqs).1[i]?).map Prod.fst = some (some x) ∧
      (((newlru maxItems).run maxEpoch reqs).1[j]?).map Prod.fst = some (some x) := by
  have hil : i < reqs.length := (List.getElem?_eq_some_iff.1 hi).1
  have hjl : j < reqs.length := (List.getElem?_eq_some_iff.1 hj).1
  have hpre : (reqs.take i).length = i := by simp; omega
  have hmid : ((reqs.drop (i + 1)).take (j - i - 1)).length = j - i - 1 := by simp; omega
  have hsplit := run_getElem?_split maxEpoch (l := newlru maxItems) (e := e)
    (reqs.take i) ((reqs.drop (i + 1)).take (j - i - 1)) (reqs.drop (j + 1))
  rw [hpre, hmid, show i + 1 + (j - i - 1) = j by omega, ← eq_split_of_getElem? hij hi hj]
    at hsplit
  obtain ⟨x, hx, hxe⟩ := getItem_fst (e := e) (inv_run_newlru maxEpoch maxItems (reqs.take i))
  refine ⟨x, hxe, ?_, ?_⟩
  · rw [hsplit.1, Option.map_some', get_fst_fst, hx]
  · rw [hsplit.2, Option.map_some', get_run_get _ (by simp [capacity_pos]) (by simpa using hfew),
      get_fst_fst, hx]

/-- `get_returns_cached_item` on the requests `3, 4, 3`. -/
theorem get_returns_cached_item_three_four_three :
    ((0 < 2 ∧ [3#64, 4#64, 3#64][0]? = some 3#64 ∧ [3#64, 4#64, 3#64][2]? = some 3#64) ∧
        ((([3#64, 4#64, 3#64].drop 1).take 1).filter (· ≠ 3#64)).toFinset.card < capacity 0) ∧
      ∃ x : Item, x.epoch = 3#64 ∧
        (((newlru 0).run 2048#64 [3, 4, 3]).1[0]?).map Prod.fst = some (some x) ∧
        (((newlru 0).run 2048#64 [3, 4, 3]).1[2]?).map Prod.fst = some (some x) :=
  ⟨⟨⟨by decide, rfl, rfl⟩, by decide⟩,
    get_returns_cached_item 2048#64 0 [3, 4, 3] 0 2 3 (by decide) rfl rfl (by decide)⟩

end Lru

end Pist
