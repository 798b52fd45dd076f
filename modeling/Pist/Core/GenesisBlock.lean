import Pist.Core.Genesis

/-! # The genesis block does not depend on the run

`ToFastBlock` ranges over Go maps, whose order the runtime picks anew on each run, and rewrites
in place the committee of the genesis it is given. Neither changes the block it builds:

* **`allocState_eq`** — the state after the allocations is the same in every order, since
  writes to distinct accounts commute and a Go map holds each address once;
* **`mapM_rewriteMember`** — the committee rewrite keeps coinbases and public keys, and a
  rewritten committee rewrites to itself;
* **`toFastBlock_rewritten`** — run again on the genesis it rewrote, in any order, `ToFastBlock`
  builds the same block.

The last section says when `ToFastBlock` returns and when it panics. -/

namespace Pist

variable {Cfg Key Impl : Type} {B : Backend Cfg Key Impl}

/-! ## (1) The allocation state -/

/-- What one allocation writes into the account at its address. -/
def writeAccount (acct : GenesisAccount) (a : Account) : Account where
  balance := a.balance + acct.balance
  code := acct.code
  nonce := acct.nonce
  storage := acct.storage.entries.foldl (fun st kv => Function.update st kv.1 kv.2) a.storage

/-- One allocation, whatever the order of its storage, is one write to its account. -/
theorem applyAccount_eq_modify (ord : RangeOrder) (s : WorldState) (p : Address × GenesisAccount) :
    applyAccount ord s p = s.modify p.1 (writeAccount p.2) := by
  rw [applyAccount, WorldState.setNonce, WorldState.setCode, WorldState.addBalance,
    WorldState.modify_modify, WorldState.modify_modify,
    WorldState.foldl_setState_perm p.1 p.2.storage (ord.storage_perm _ _),
    WorldState.foldl_setState_modify]
  rfl

/-- **The allocation state is the same in every order** of the Go maps. -/
theorem allocState_eq (ord : RangeOrder) (alloc : GoMap Address GenesisAccount) :
    allocState ord alloc =
      alloc.entries.foldl (fun s p => s.modify p.1 (writeAccount p.2)) WorldState.empty := by
  have hperm := ord.alloc_perm alloc
  have hnd := (hperm.map Prod.fst).nodup_iff.2 alloc.nodup
  rw [allocState, show applyAccount ord = fun s p => s.modify p.1 (writeAccount p.2) from
    funext₂ (applyAccount_eq_modify ord)]
  exact hperm.foldl_eq' (fun x hx y hy z => by
    by_cases h : x.1 = y.1
    · rw [List.inj_on_of_nodup_map hnd hx hy h]
    · exact WorldState.modify_comm z h _ _) _

/-! ## (2) The committee -/

/-- The rewrite of a member keeps what the staking loop reads, and a rewritten member rewrites to
itself. -/
theorem rewriteMember_ok {m m' : CommitteeMember} (h : rewriteMember B m = .ok m') :
    stakeKey m' = stakeKey m ∧ rewriteMember B m' = .ok m' := by
  unfold rewriteMember at h
  split at h
  · cases h
  · rename_i k hk
    cases h
    exact ⟨rfl, by simp [rewriteMember, hk]⟩

/-- **The committee rewrite is idempotent** and keeps coinbases and public keys. -/
theorem mapM_rewriteMember : ∀ {ms ms' : List CommitteeMember},
    ms.mapM (rewriteMember B) = .ok ms' →
      ms'.map stakeKey = ms.map stakeKey ∧ ms'.mapM (rewriteMember B) = .ok ms'
  | [], _, h => by cases h; exact ⟨rfl, rfl⟩
  | m :: ms, ms', h => by
    simp only [List.mapM_cons] at h
    cases hm : rewriteMember B m with
    | error p => rw [hm] at h; cases h
    | ok m' =>
      cases hms : ms.mapM (rewriteMember B) with
      | error p => rw [hm, hms] at h; cases h
      | ok ms'' =>
        rw [hm, hms] at h
        cases h
        obtain ⟨hk, hm'⟩ := rewriteMember_ok hm
        obtain ⟨hks, hms'⟩ := mapM_rewriteMember hms
        refine ⟨by rw [List.map_cons, List.map_cons, hk, hks], ?_⟩
        simp only [List.mapM_cons, hm', hms']
        rfl

/-- The staking loop reads only coinbases and public keys. -/
theorem stakeCommittee_of_map_eq {g : Genesis Cfg} {ms : List CommitteeMember}
    (h : ms.map stakeKey = g.committee.map stakeKey) (s : WorldState) :
    stakeCommittee B { g with committee := ms } s = stakeCommittee B g s := by
  simp only [stakeCommittee]
  exact congrArg (List.foldlM _ _) h

/-! ## (3) The block -/

/-- **`ToFastBlock` run again builds the same block**: on the genesis whose committee the first
run rewrote, and in any order of its maps. -/
theorem toFastBlock_rewritten {g : Genesis Cfg} {ord : RangeOrder} {b : Block}
    (h : g.toFastBlock B ord = .ok b) (ord' : RangeOrder) :
    { g with committee := b.members }.toFastBlock B ord' = .ok b := by
  unfold Genesis.toFastBlock at h
  split at h
  · cases h
  · rename_i impl s hs
    split at h
    · cases h
    · rename_i members hm
      cases h
      obtain ⟨hkeys, hidem⟩ := mapM_rewriteMember hm
      have hs' : stakeCommittee B { g with committee := members }
          (B.onceInitImpawnState (allocState ord' g.alloc)) = .ok (impl, s) := by
        rw [stakeCommittee_of_map_eq hkeys, allocState_eq, ← allocState_eq ord, hs]
      simp only [Genesis.toFastBlock, hs', hidem]
      rfl

/-- `ToFastBlock` builds the same block in every order of the Go maps. -/
theorem toFastBlock_ord (g : Genesis Cfg) (ord ord' : RangeOrder) :
    g.toFastBlock B ord = g.toFastBlock B ord' := by
  simp only [Genesis.toFastBlock, allocState_eq]

/-- The block's number is the genesis number. -/
theorem toFastBlock_number {g : Genesis Cfg} {ord : RangeOrder} {b : Block}
    (h : g.toFastBlock B ord = .ok b) : b.header.number = g.number := by
  unfold Genesis.toFastBlock at h
  split at h
  · cases h
  · split at h
    · cases h
    · cases h; rfl

/-! ## (4) When `ToFastBlock` returns -/

/-- The staking loop returns when the difficulty is set. -/
theorem stakeCommittee_ok {g : Genesis Cfg} {d : Int} (hd : g.difficulty = some d)
    (s : WorldState) : ∃ r, stakeCommittee B g s = .ok r := by
  simp only [stakeCommittee, hd]
  generalize (B.newImpawnImpl, s) = st
  induction g.committee.map stakeKey generalizing st with
  | nil => exact ⟨st, rfl⟩
  | cons m ms ih => exact ih _

/-- The committee rewrite returns when every public key unmarshals. -/
theorem mapM_rewriteMember_ok : ∀ {ms : List CommitteeMember},
    (∀ m ∈ ms, (B.unmarshalPubkey m.publickey).isSome) → ∃ ms', ms.mapM (rewriteMember B) = .ok ms'
  | [], _ => ⟨[], rfl⟩
  | m :: ms, h => by
    obtain ⟨k, hk⟩ := Option.isSome_iff_exists.1 (h m (List.mem_cons_self _ _))
    obtain ⟨ms', hms'⟩ := mapM_rewriteMember_ok fun m' hm' => h m' (List.mem_cons_of_mem _ hm')
    exact ⟨_, by simp only [List.mapM_cons, rewriteMember, hk, hms']; rfl⟩

/-- The committee rewrite dereferences `nil` when a public key fails to unmarshal. -/
theorem mapM_rewriteMember_error : ∀ {ms : List CommitteeMember},
    (∃ m ∈ ms, B.unmarshalPubkey m.publickey = none) →
      ms.mapM (rewriteMember B) = .error (.nilDereference "pubkey")
  | [], ⟨_, hm, _⟩ => absurd hm (List.not_mem_nil _)
  | m :: ms, ⟨m₀, hm₀, hk₀⟩ => by
    simp only [List.mapM_cons]
    cases hk : B.unmarshalPubkey m.publickey with
    | none => simp only [rewriteMember, hk]; rfl
    | some k =>
      rcases List.mem_cons.1 hm₀ with rfl | hm₀
      · rw [hk] at hk₀; cases hk₀
      · simp only [rewriteMember, hk, mapM_rewriteMember_error ⟨m₀, hm₀, hk₀⟩]; rfl

/-- **`ToFastBlock` returns a block of the genesis number** when the difficulty is set and every
public key unmarshals. -/
theorem toFastBlock_ok {g : Genesis Cfg} {d : Int} (hd : g.difficulty = some d)
    (hk : ∀ m ∈ g.committee, (B.unmarshalPubkey m.publickey).isSome) (ord : RangeOrder) :
    ∃ b, g.toFastBlock B ord = .ok b ∧ b.header.number = g.number := by
  obtain ⟨⟨impl, s⟩, hs⟩ := stakeCommittee_ok (B := B) hd (B.onceInitImpawnState (allocState ord g.alloc))
  obtain ⟨ms, hms⟩ := mapM_rewriteMember_ok hk
  exact ⟨⟨g.header B (B.stateRoot (B.save (B.shift (B.doElections impl)) s)), ms⟩,
    by simp only [Genesis.toFastBlock, hs, hms], rfl⟩

/-- **`ToFastBlock` panics** when the difficulty is set and a public key fails to unmarshal. -/
theorem toFastBlock_error {g : Genesis Cfg} {d : Int} (hd : g.difficulty = some d)
    (hk : ∃ m ∈ g.committee, B.unmarshalPubkey m.publickey = none) (ord : RangeOrder) :
    g.toFastBlock B ord = .error (.nilDereference "pubkey") := by
  obtain ⟨⟨impl, s⟩, hs⟩ := stakeCommittee_ok (B := B) hd (B.onceInitImpawnState (allocState ord g.alloc))
  simp only [Genesis.toFastBlock, hs, mapM_rewriteMember_error hk]

end Pist
