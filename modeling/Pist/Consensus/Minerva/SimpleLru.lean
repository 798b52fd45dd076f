import Mathlib.Data.List.Infix
import Mathlib.Data.Finset.Card

/-! # The `simplelru.LRU` behind the minerva dataset cache

`consensus/minerva/minerva.go` keeps its epoch items in a `simplelru.LRU` of the golang-lru
library (`github.com/hashicorp/golang-lru/simplelru`), which the repository imports but does not
contain. This file models the three operations the cache calls, as the library implements them:

* **`SimpleLru.newLRU size`** — `NewLRU(size, onEvict)`: an empty cache bounded by `size`;
* **`SimpleLru.get c k`** — `Get`: look the key up and move its element to the front;
* **`SimpleLru.add c k v`** — `Add`: overwrite and move to the front, or push a new element at
  the front and `removeOldest` once the list outgrows the bound.

The eviction list is `entries`, most recently used first. The library's `items` index is the
key column of that list, so a `SimpleLru` carries the two facts the index keeps true: one
element per key, and at most `size` elements. -/

namespace Pist

/-- **A `simplelru.LRU`**: its eviction list, front first, with the bound given to `NewLRU`. -/
structure SimpleLru (κ ν : Type) where
  /-- The bound `NewLRU` was given. -/
  size : Nat
  /-- The eviction list: `(key, value)` elements, most recently used first. -/
  entries : List (κ × ν)
  /-- The `items` index maps each key to one element. -/
  nodup : (entries.map Prod.fst).Nodup
  /-- `Add` evicts as soon as the list outgrows the bound. -/
  length_le : entries.length ≤ size

namespace SimpleLru

variable {κ ν : Type} [DecidableEq κ]

/-- `NewLRU(size, onEvict)`: an empty cache. (`NewLRU` refuses a non-positive size, which
`newlru` never passes.) -/
def newLRU (size : Nat) : SimpleLru κ ν := ⟨size, [], List.nodup_nil, Nat.zero_le _⟩

/-- The value of the element of key `k`: the `items[key]` lookup. -/
def peek (c : SimpleLru κ ν) (k : κ) : Option ν := c.entries.lookup k

/-! ## (1) Moving an element to the front, pushing a new one -/

@[simp] theorem lookup_cons_ne {l : List (κ × ν)} {a k : κ} {b : ν} (h : k ≠ a) :
    ((a, b) :: l).lookup k = l.lookup k := by
  rw [List.lookup_cons, beq_false_of_ne h]

/-- Dropping the elements of key `k` leaves the other keys' lookups alone. -/
theorem lookup_filter_ne {l : List (κ × ν)} {k k' : κ} (h : k' ≠ k) :
    (l.filter (·.1 ≠ k)).lookup k' = l.lookup k' := by
  induction l with
  | nil => rfl
  | cons p l ih =>
    obtain ⟨a, b⟩ := p
    by_cases ha : a = k
    · subst ha
      rw [List.filter_cons_of_neg (by simp), ih, lookup_cons_ne h]
    · rw [List.filter_cons_of_pos (by simpa using ha)]
      by_cases hk : k' = a
      · subst hk; simp
      · rw [lookup_cons_ne hk, lookup_cons_ne hk, ih]

/-- In a list with distinct keys, the element of key `k` is the one `lookup` finds. -/
theorem lookup_of_mem {l : List (κ × ν)} {k : κ} {v : ν} (hl : (l.map Prod.fst).Nodup)
    (hm : (k, v) ∈ l) : l.lookup k = some v := by
  induction l with
  | nil => cases hm
  | cons p l ih =>
    obtain ⟨a, b⟩ := p
    rw [List.map_cons, List.nodup_cons] at hl
    rcases List.mem_cons.1 hm with h | h
    · cases h; simp
    · have hka : k ≠ a := by rintro rfl; exact hl.1 (List.mem_map.2 ⟨_, h, rfl⟩)
      rw [lookup_cons_ne hka, ih hl.2 h]

/-- The element `lookup` finds is an element of the list. -/
theorem mem_of_lookup {l : List (κ × ν)} {k : κ} {v : ν} (h : l.lookup k = some v) :
    (k, v) ∈ l := by
  obtain ⟨l₁, l₂, rfl, -⟩ := List.lookup_eq_some_iff.1 h
  simp

/-- What a sublist finds, the whole list (with distinct keys) finds too. -/
theorem lookup_of_sublist {l₁ l₂ : List (κ × ν)} {k : κ} {v : ν} (hs : l₁.Sublist l₂)
    (hn : (l₂.map Prod.fst).Nodup) (h : l₁.lookup k = some v) : l₂.lookup k = some v :=
  lookup_of_mem hn (hs.subset (mem_of_lookup h))

/-- A key `lookup` misses is not in the key column. -/
theorem not_mem_keys_of_lookup {l : List (κ × ν)} {k : κ} (h : l.lookup k = none) :
    k ∉ l.map Prod.fst := by
  intro hm
  obtain ⟨p, hp, rfl⟩ := List.mem_map.1 hm
  simpa using List.lookup_eq_none_iff.1 h p hp

/-- `MoveToFront` of the element of key `k`, which then holds `v` (`Get` keeps its value,
`Add` overwrites it first). -/
def toFront (c : SimpleLru κ ν) (k : κ) (v : ν) (h : (c.peek k).isSome) : SimpleLru κ ν where
  size := c.size
  entries := (k, v) :: c.entries.filter (·.1 ≠ k)
  nodup := by
    refine List.nodup_cons.2 ⟨fun hk => ?_, c.nodup.sublist ((List.filter_sublist _).map _)⟩
    obtain ⟨p, hp, hpk⟩ := List.mem_map.1 hk
    exact of_decide_eq_true (List.mem_filter.1 hp).2 hpk
  length_le := by
    obtain ⟨p, hp, hk⟩ := List.lookup_isSome_iff.1 h
    have : (c.entries.filter (·.1 ≠ k)).length < c.entries.length :=
      List.length_filter_lt_length_iff_exists.2 ⟨p, hp, by simp [(beq_iff_eq.1 hk).symm]⟩
    exact Nat.lt_of_lt_of_le this c.length_le

/-- A new element `(k, v)` pushed at the front, then `removeOldest` if the list outgrew the
bound. -/
def pushFront (c : SimpleLru κ ν) (k : κ) (v : ν) (h : c.peek k = none) : SimpleLru κ ν where
  size := c.size
  entries := if c.size < c.entries.length + 1 then ((k, v) :: c.entries).dropLast
    else (k, v) :: c.entries
  nodup := by
    have hcons := List.nodup_cons.2 ⟨not_mem_keys_of_lookup h, c.nodup⟩
    split
    · exact hcons.sublist ((List.dropLast_sublist _).map _)
    · exact hcons
  length_le := by
    have := c.length_le
    split <;> simp <;> omega

@[simp] theorem size_toFront (c : SimpleLru κ ν) (k : κ) (v : ν) (h) :
    (c.toFront k v h).size = c.size := rfl

@[simp] theorem size_pushFront (c : SimpleLru κ ν) (k : κ) (v : ν) (h) :
    (c.pushFront k v h).size = c.size := rfl

/-- After `MoveToFront`, key `k` holds `v` and every other key what it held. -/
theorem peek_toFront (c : SimpleLru κ ν) (k k' : κ) (v : ν) (h) :
    (c.toFront k v h).peek k' = if k' = k then some v else c.peek k' := by
  by_cases hk : k' = k
  · subst hk; simp [toFront, peek]
  · simp only [toFront, peek, lookup_cons_ne hk, lookup_filter_ne hk, if_neg hk]

/-! ## (2) `Get` and `Add` -/

/-- `Get`: the value of key `k`, whose element moves to the front. -/
def get (c : SimpleLru κ ν) (k : κ) : Option ν × SimpleLru κ ν :=
  match h : c.peek k with
  | some v => (some v, c.toFront k v (by simp [h]))
  | none => (none, c)

/-- `Add`: an existing element is overwritten and moved to the front; otherwise a new element
is pushed, evicting the oldest once the list outgrows the bound. -/
def add (c : SimpleLru κ ν) (k : κ) (v : ν) : SimpleLru κ ν :=
  match h : c.peek k with
  | some _ => c.toFront k v (by simp [h])
  | none => c.pushFront k v h

theorem get_of_peek_some {c : SimpleLru κ ν} {k : κ} {v : ν} (h : c.peek k = some v) :
    c.get k = (some v, c.toFront k v (by simp [h])) := by
  unfold get
  split
  · rename_i v' hv'
    obtain rfl : v' = v := Option.some.inj (hv'.symm.trans h)
    rfl
  · simp_all

theorem get_of_peek_none {c : SimpleLru κ ν} {k : κ} (h : c.peek k = none) :
    c.get k = (none, c) := by
  unfold get; split <;> simp_all

@[simp] theorem get_fst (c : SimpleLru κ ν) (k : κ) : (c.get k).1 = c.peek k := by
  unfold get; split <;> simp_all

@[simp] theorem size_get (c : SimpleLru κ ν) (k : κ) : (c.get k).2.size = c.size := by
  unfold get; split <;> rfl

@[simp] theorem size_add (c : SimpleLru κ ν) (k : κ) (v : ν) : (c.add k v).size = c.size := by
  unfold add; split <;> rfl

/-- `Get` changes the order of the eviction list only: every key keeps its value. -/
@[simp] theorem peek_get (c : SimpleLru κ ν) (k k' : κ) : (c.get k).2.peek k' = c.peek k' := by
  unfold get
  split
  · rename_i v hv
    rw [peek_toFront]; split <;> simp_all
  · rfl

/-- A pushed element holds its value, and the others what they held (unless evicted). -/
theorem peek_pushFront {c : SimpleLru κ ν} {k k' : κ} {v w : ν} (h : c.peek k = none)
    (hw : (c.pushFront k v h).peek k' = some w) : ((k, v) :: c.entries).lookup k' = some w := by
  unfold pushFront peek at hw
  split at hw
  · exact lookup_of_sublist (List.dropLast_sublist _)
      (List.nodup_cons.2 ⟨not_mem_keys_of_lookup h, c.nodup⟩) hw
  · exact hw

/-- After `Add(k, v)`, a key holds either `v` (it is `k`) or what it held before. -/
theorem peek_add {c : SimpleLru κ ν} {k k' : κ} {v w : ν} (hw : (c.add k v).peek k' = some w) :
    (k' = k ∧ w = v) ∨ c.peek k' = some w := by
  unfold add at hw
  split at hw
  · rw [peek_toFront] at hw
    split at hw <;> simp_all
  · have hl := peek_pushFront _ hw
    by_cases hk : k' = k
    · subst hk
      exact .inl ⟨rfl, by simpa using hl.symm⟩
    · rw [lookup_cons_ne hk] at hl
      exact .inr hl

/-- A cache with room for an element keeps the one just added. -/
theorem peek_add_self (c : SimpleLru κ ν) (k : κ) (v : ν) (hs : 0 < c.size) :
    (c.add k v).peek k = some v := by
  unfold add
  split
  · simp [peek_toFront]
  · simp only [pushFront, peek]
    split
    · have hne : c.entries ≠ [] := List.ne_nil_of_length_pos (by have := c.length_le; omega)
      obtain ⟨e, es, he⟩ := List.exists_cons_of_ne_nil hne
      simp [he]
    · simp

/-- With room for one more element, `Add` leaves the other keys alone. -/
theorem peek_add_ne {c : SimpleLru κ ν} {k k' : κ} {v : ν} (hk : k' ≠ k)
    (hroom : c.entries.length < c.size) : (c.add k v).peek k' = c.peek k' := by
  unfold add
  split
  · rw [peek_toFront, if_neg hk]
  · simp only [pushFront, peek, if_neg (show ¬c.size < c.entries.length + 1 by omega),
      lookup_cons_ne hk]

theorem length_add_le (c : SimpleLru κ ν) (k : κ) (v : ν) :
    (c.add k v).entries.length ≤ c.entries.length + 1 := by
  unfold add
  split
  · exact Nat.succ_le_succ (List.length_filter_le _ _)
  · simp only [pushFront]; split <;> simp

/-! ## (3) Recency

An element survives eviction while few other keys are used after it: the keys ahead of it in
the eviction list are keys used since, and the element is not the last one while fewer than
`size` of them are ahead. -/

/-- The element `(k, v)` is in the eviction list, and every element ahead of it has its key
in `S`. -/
def Behind (c : SimpleLru κ ν) (k : κ) (v : ν) (S : Finset κ) : Prop :=
  ∃ ahead rest, c.entries = ahead ++ (k, v) :: rest ∧ ∀ p ∈ ahead, p.1 ∈ S

variable {c : SimpleLru κ ν} {k k' : κ} {v v' : ν} {S : Finset κ}

/-- The element of `k` is the one `Get` finds. -/
theorem peek_of_behind (h : c.Behind k v S) : c.peek k = some v := by
  obtain ⟨ahead, rest, he, -⟩ := h
  exact lookup_of_mem c.nodup (by simp [he])

/-- An element moved to the front has nothing ahead of it. -/
theorem behind_toFront_self (h) (S : Finset κ) : (c.toFront k v h).Behind k v S :=
  ⟨[], _, rfl, by simp⟩

/-- Moving another key of `S` to the front keeps the element behind keys of `S`. -/
theorem behind_toFront (hb : c.Behind k v S) (hk : k' ≠ k) (hS : k' ∈ S) (h) :
    (c.toFront k' v' h).Behind k v S := by
  obtain ⟨ahead, rest, he, hahead⟩ := hb
  refine ⟨(k', v') :: ahead.filter (·.1 ≠ k'), rest.filter (·.1 ≠ k'), ?_, ?_⟩
  · simp only [toFront, he, List.filter_append, List.cons_append]
    rw [List.filter_cons_of_pos (by simpa using hk.symm)]
  · intro p hp
    rcases List.mem_cons.1 hp with rfl | hp
    · exact hS
    · exact hahead p (List.mem_filter.1 hp).1

/-- Pushing another key of `S` keeps the element behind keys of `S`, and does not evict it
while fewer than `size` keys are in `S`. -/
theorem behind_pushFront (hb : c.Behind k v S) (hk : k' ≠ k) (hS : k' ∈ S)
    (hcard : S.card < c.size) (h : c.peek k' = none) : (c.pushFront k' v' h).Behind k v S := by
  obtain ⟨ahead, rest, he, hahead⟩ := hb
  have hkeys : ((k' :: ahead.map Prod.fst)).Nodup := by
    have hn := c.nodup
    rw [he, List.map_append] at hn
    exact List.nodup_cons.2 ⟨fun hm => not_mem_keys_of_lookup h (by rw [he]; simp_all),
      hn.sublist (List.sublist_append_left _ _)⟩
  have hlen : ahead.length + 1 ≤ S.card := by
    have := Finset.card_le_card (s := (k' :: ahead.map Prod.fst).toFinset) (t := S) (by
      intro x hx
      rcases List.mem_cons.1 (List.mem_toFinset.1 hx) with rfl | hx
      · exact hS
      · obtain ⟨p, hp, rfl⟩ := List.mem_map.1 hx
        exact hahead p hp)
    rwa [List.toFinset_card_of_nodup hkeys, List.length_cons, List.length_map] at this
  have hahead' : ∀ p ∈ (k', v') :: ahead, p.1 ∈ S := by
    intro p hp
    rcases List.mem_cons.1 hp with rfl | hp
    exacts [hS, hahead p hp]
  have hpush : (c.pushFront k' v' h).entries =
      if c.size < c.entries.length + 1 then ((k', v') :: c.entries).dropLast
      else (k', v') :: c.entries := rfl
  unfold Behind
  rw [hpush]
  split
  · -- `removeOldest` takes an element of `rest`, which is not empty
    rename_i hover
    obtain ⟨r, rs, rfl⟩ : ∃ r rs, rest = r :: rs := List.exists_cons_of_ne_nil (by
      rintro rfl
      simp only [he, List.length_append, List.length_singleton] at hover
      omega)
    refine ⟨(k', v') :: ahead, (r :: rs).dropLast, ?_, hahead'⟩
    rw [he, ← List.cons_append, List.dropLast_append_cons, List.dropLast_cons₂]
  · exact ⟨(k', v') :: ahead, rest, by rw [he]; rfl, hahead'⟩

/-- `Get` of the element's own key moves it to the front. -/
theorem behind_get_self (hb : c.Behind k v S) (S' : Finset κ) : (c.get k).2.Behind k v S' := by
  rw [get_of_peek_some (peek_of_behind hb)]
  exact behind_toFront_self (by simp [peek_of_behind hb]) S'

/-- `Get` of another key of `S` keeps the element behind keys of `S`. -/
theorem behind_get (hb : c.Behind k v S) (hk : k' ≠ k) (hS : k' ∈ S) :
    (c.get k').2.Behind k v S := by
  unfold get
  split
  · exact behind_toFront hb hk hS (by simp_all)
  · exact hb

/-- `Add` of another key of `S` keeps the element behind keys of `S` while `S` has fewer
than `size` keys. -/
theorem behind_add (hb : c.Behind k v S) (hk : k' ≠ k) (hS : k' ∈ S)
    (hcard : S.card < c.size) : (c.add k' v').Behind k v S := by
  unfold add
  split
  · exact behind_toFront hb hk hS (by simp_all)
  · exact behind_pushFront hb hk hS hcard (by simp_all)

/-- The element just added is at the front. -/
theorem behind_add_self (hs : 0 < c.size) (S : Finset κ) : (c.add k v).Behind k v S := by
  suffices ∃ rest, (c.add k v).entries = (k, v) :: rest from
    let ⟨rest, he⟩ := this
    ⟨[], rest, he, by simp⟩
  unfold add
  split
  · exact ⟨_, rfl⟩
  · simp only [pushFront]
    split
    · obtain ⟨e, es, he⟩ := List.exists_cons_of_ne_nil
        (List.ne_nil_of_length_pos (by have := c.length_le; omega) : c.entries ≠ [])
      exact ⟨(e :: es).dropLast, by simp [he]⟩
    · exact ⟨_, rfl⟩

end SimpleLru

end Pist
