import Pist.Core.Types.Committee

/-! # The fake committee election of minerva

`NewFaker` and its siblings in `consensus/minerva/minerva.go` install a `fakeElection`: a fixed
committee of seven members built from compiled-in private keys. Its `VerifySigns` recovers the
signer of each vote and looks it up in the committee.

Signature recovery (`crypto.SigToPub`), the vote digest (`PbftSign.HashWithNoSign`) and the
key encodings are not among the sources; they are the variables `sigToPub`,
`hashWithNoSign` and `marshalPubkey`, and `crypto.FromECDSAPub` keeps its one visible rule: a
`nil` key serialises to `nil`.

* **`FakeElection.verifySigns`** — the nested loop of `VerifySigns`;
* **`verifySigns_spec`** — what the two result slices hold: every error is `nil`, and a
  member is found exactly when the recovered key is a committee member's key (the last such
  member in committee order). -/

namespace Pist

/-- **`fakeElection`**: the private keys and the committee built from them. -/
structure FakeElection (PrivateKey : Type) where
  /-- The private keys, in the order of the source. -/
  privates : List PrivateKey
  /-- The committee, one member per key. -/
  members : List CommitteeMember

/-- The private keys `newFakeElection` decodes with `crypto.HexToECDSA`. -/
def fakeElectionKeys : List String :=
  ["68161a6bf59df3261038d99a132d9125c75bc2260e2f89c87b15b1b1b657baaa",
   "17be747053f88bf4cd500785284a5c79ecca235081bda0d335c14e32e9d772db",
   "5e2108e3186b6dc0e723fd767978d59dc9fefb0290d85e5ed567d715776a7142",
   "9427c2357d2d87d4a8f88977af14277035889e09d43a5d58c0867fa68e4ae7dc",
   "61aca120387023b33ad46c7804fcb9deaa22d5185208548ef3f041eed4131efb",
   "df47c4b6f0d5b72fc0bf98551dac344fe5f79a1993e8340c9f90e195939ccd30",
   "5b58e95edbf4db558d49ed15849a7cc5b7dc2e3530ff599cf1440285f7d4586e"]

section Crypto

variable {PrivateKey PublicKey : Type}
  (hexToECDSA : String → PrivateKey) (publicKeyOf : PrivateKey → PublicKey)
  (pubkeyToAddress : PublicKey → Address) (marshalPubkey : PublicKey → List UInt8)
  (stateUsedFlag typeFixed : UInt32)

/-- `crypto.FromECDSAPub`: the serialised key, `nil` for a `nil` key. -/
def fromECDSAPub (pub : Option PublicKey) : List UInt8 :=
  match pub with
  | none => []
  | some p => marshalPubkey p

/-- **`newFakeElection`**: one member per compiled-in key, with `coinbase` and `committeeBase`
the key's address, flagged used and fixed. -/
def newFakeElection : FakeElection PrivateKey :=
  let priKeys := fakeElectionKeys.map hexToECDSA
  { privates := priKeys
    members := priKeys.map fun priKey =>
      { coinbase := pubkeyToAddress (publicKeyOf priKey)
        committeeBase := pubkeyToAddress (publicKeyOf priKey)
        publickey := fromECDSAPub marshalPubkey (some (publicKeyOf priKey))
        flag := stateUsedFlag
        mType := typeFixed } }

variable (hashWithNoSign : PbftSign → Hash) (sigToPub : List UInt8 → List UInt8 → Option PublicKey)

/-- The serialised key recovered from a vote: `FromECDSAPub(SigToPub(HashWithNoSign(), Sign))`. -/
def recoveredKey (sign : PbftSign) : List UInt8 :=
  fromECDSAPub marshalPubkey (sigToPub (hashWithNoSign sign).bytes sign.sign)

/-- The inner loop of `VerifySigns`: every member whose key equals `pubkeyByte` overwrites the
slot, so the last one stays. -/
def matchMember (pubkeyByte : List UInt8) (members : List CommitteeMember) :
    Option CommitteeMember :=
  members.foldl (fun found m => if pubkeyByte = m.publickey then some m else found) none

/-- **`(*fakeElection).VerifySigns`**: a member slot and an error slot per vote; the error
slots are never written. -/
def FakeElection.verifySigns {PrivateKey : Type} (e : FakeElection PrivateKey)
    (signs : List PbftSign) : List (Option CommitteeMember) × List (Option String) :=
  (signs.map fun sign => matchMember (recoveredKey marshalPubkey hashWithNoSign sigToPub sign)
      e.members,
    signs.map fun _ => none)

/-- **The inner loop keeps the last matching member**, or the slot's old value when none
matches. -/
theorem foldl_matchMember (pk : List UInt8) :
    ∀ (members : List CommitteeMember) (init : Option CommitteeMember),
      members.foldl (fun found m => if pk = m.publickey then some m else found) init =
        ((members.filter fun m => m.publickey = pk).getLast?).or init
  | [], _ => rfl
  | m :: ms, init => by
    rw [List.foldl_cons, foldl_matchMember pk ms]
    by_cases h : pk = m.publickey
    · rw [if_pos h, List.filter_cons_of_pos (by simp [h]), List.getLast?_cons]
      cases (ms.filter fun m => m.publickey = pk).getLast? <;> rfl
    · rw [if_neg h, List.filter_cons_of_neg (by simpa [eq_comm] using h)]

theorem matchMember_eq (pk : List UInt8) (members : List CommitteeMember) :
    matchMember pk members = (members.filter fun m => m.publickey = pk).getLast? := by
  rw [matchMember, foldl_matchMember]
  cases (members.filter fun m => m.publickey = pk).getLast? <;> rfl

/-- A member is found exactly when some member has the key. -/
theorem isSome_matchMember (pk : List UInt8) (members : List CommitteeMember) :
    (matchMember pk members).isSome ↔ ∃ m ∈ members, m.publickey = pk := by
  rw [matchMember_eq, List.getLast?_isSome, ne_eq, List.filter_eq_nil_iff]
  simp

/-- **What `VerifySigns` returns**: one member slot and one error slot per vote; every error
slot is `nil`; the member slot of a vote holds the last committee member whose key is the key
recovered from the vote, and is `nil` exactly when no member has that key. -/
theorem verifySigns_spec {PrivateKey : Type} (e : FakeElection PrivateKey)
    (signs : List PbftSign) :
    (e.verifySigns marshalPubkey hashWithNoSign sigToPub signs).1.length = signs.length ∧
      (e.verifySigns marshalPubkey hashWithNoSign sigToPub signs).2.length = signs.length ∧
      (∀ err ∈ (e.verifySigns marshalPubkey hashWithNoSign sigToPub signs).2, err = none) ∧
      ∀ (i : Nat) (s : PbftSign), signs[i]? = some s →
        ∃ slot, (e.verifySigns marshalPubkey hashWithNoSign sigToPub signs).1[i]? = some slot ∧
          slot = (e.members.filter fun m =>
            m.publickey = recoveredKey marshalPubkey hashWithNoSign sigToPub s).getLast? ∧
          (slot.isSome ↔
            ∃ m ∈ e.members, m.publickey = recoveredKey marshalPubkey hashWithNoSign sigToPub s) := by
  refine ⟨List.length_map _ _, List.length_map _ _, fun err herr => ?_, fun i s hs => ?_⟩
  · obtain ⟨_, -, rfl⟩ := List.mem_map.1 herr
    rfl
  · refine ⟨_, by simp [FakeElection.verifySigns, hs], matchMember_eq _ _, isSome_matchMember _ _⟩

end Crypto

/-- Stand-in key decoding: a private key is the bytes of the first two digits of its hex text. -/
def twoDigitKey (s : String) : List UInt8 := (s.data.take 2).map fun c => c.toNat.toUInt8

/-- Stand-in signature recovery: a signature recovers the key it holds, an empty one none. -/
def recoverUnlessEmpty (_ sig : List UInt8) : Option (List UInt8) :=
  if sig = [] then none else some sig

/-- **An unknown signer gets no error.** The seven-member committee of `newFakeElection`, under
the stand-in crypto, and two votes: one whose signature recovers a key no member has, and one
whose signature recovers no key. Both member slots are `nil`, and so are both error slots. -/
theorem verifySigns_unknown_signer :
    (newFakeElection twoDigitKey id (fun _ => FixedBytes.zero 20) id 0 0).verifySigns id
        (fun _ => FixedBytes.zero 32) recoverUnlessEmpty
        [⟨some 5, FixedBytes.zero 32, 1, [9, 9]⟩, ⟨some 5, FixedBytes.zero 32, 1, []⟩] =
      ([none, none], [none, none]) := by
  decide

/-! ## Fake votes -/

section Signing

variable {PrivateKey PublicKey : Type} (publicKeyOf : PrivateKey → PublicKey)
  (marshalPubkey : PublicKey → List UInt8) (voteAgree : UInt32)
  (hashWithNoSign : PbftSign → Hash) (sigToPub : List UInt8 → List UInt8 → Option PublicKey)
  (cryptoSign : List UInt8 → PrivateKey → List UInt8)

/-- **`GenerateFakeSigns`**: from every private key, an agreeing vote on the block of height
`fastHeight` and hash `fastHash`, signed (`crypto.Sign`) over its `HashWithNoSign()`. -/
def FakeElection.generateFakeSigns (e : FakeElection PrivateKey) (fastHeight : Option Int)
    (fastHash : Hash) : List PbftSign :=
  e.privates.map fun privateKey =>
    let voteSign : PbftSign := ⟨fastHeight, fastHash, voteAgree, []⟩
    { voteSign with sign := cryptoSign (hashWithNoSign voteSign).bytes privateKey }

/-- With distinct keys, a member's own key finds that member. -/
theorem matchMember_publickey : ∀ {members : List CommitteeMember} {m : CommitteeMember},
    (members.map (·.publickey)).Nodup → m ∈ members → matchMember m.publickey members = some m
  | x :: xs, m, hnd, hm => by
    rw [List.map_cons, List.nodup_cons] at hnd
    rw [matchMember_eq]
    rcases List.mem_cons.1 hm with rfl | hm
    · have hnone : xs.filter (fun y => y.publickey = m.publickey) = [] :=
        List.filter_eq_nil_iff.2 fun y hy h =>
          hnd.1 (List.mem_map.2 ⟨y, hy, of_decide_eq_true h⟩)
      simp [hnone]
    · have hne : x.publickey ≠ m.publickey := fun h => hnd.1 (h ▸ List.mem_map_of_mem _ hm)
      rw [List.filter_cons_of_neg (by simpa using hne), ← matchMember_eq]
      exact matchMember_publickey hnd.2 hm

/-- The key recovered from each fake vote is the key that signed it, when a signature recovers
the key that made it and the vote digest does not read the signature. -/
theorem recoveredKey_generateFakeSigns
    (hsign : ∀ h k, sigToPub h (cryptoSign h k) = some (publicKeyOf k))
    (hhash : ∀ h hs r sig, hashWithNoSign ⟨h, hs, r, sig⟩ = hashWithNoSign ⟨h, hs, r, []⟩)
    (e : FakeElection PrivateKey) (fastHeight : Option Int) (fastHash : Hash) :
    (e.generateFakeSigns voteAgree hashWithNoSign cryptoSign fastHeight fastHash).map
        (recoveredKey marshalPubkey hashWithNoSign sigToPub) =
      e.privates.map fun k => marshalPubkey (publicKeyOf k) := by
  rw [FakeElection.generateFakeSigns, List.map_map]
  exact List.map_congr_left fun k _ => by
    simp only [Function.comp, recoveredKey, hhash, hsign]
    rfl

/-- **The fake election recognises its own votes.** When a signature recovers the key that made
it, the vote digest does not read the signature, and the committee's keys are its private keys'
keys, all distinct: `VerifySigns` attributes every vote of `GenerateFakeSigns` to the member at
its position, with no error. -/
theorem verifySigns_generateFakeSigns
    (hsign : ∀ h k, sigToPub h (cryptoSign h k) = some (publicKeyOf k))
    (hhash : ∀ h hs r sig, hashWithNoSign ⟨h, hs, r, sig⟩ = hashWithNoSign ⟨h, hs, r, []⟩)
    (e : FakeElection PrivateKey)
    (hkeys : e.members.map (·.publickey) = e.privates.map fun k => marshalPubkey (publicKeyOf k))
    (hnodup : (e.members.map (·.publickey)).Nodup) (fastHeight : Option Int) (fastHash : Hash) :
    e.verifySigns marshalPubkey hashWithNoSign sigToPub
        (e.generateFakeSigns voteAgree hashWithNoSign cryptoSign fastHeight fastHash) =
      (e.members.map some, e.members.map fun _ => none) := by
  have hlen : e.privates.length = e.members.length := by
    simpa using (congrArg List.length hkeys).symm
  refine Prod.ext ?_ ?_
  · rw [FakeElection.verifySigns,
      show (fun sign => matchMember (recoveredKey marshalPubkey hashWithNoSign sigToPub sign)
        e.members) = (matchMember · e.members) ∘ recoveredKey marshalPubkey hashWithNoSign sigToPub
        from rfl,
      ← List.map_map, recoveredKey_generateFakeSigns publicKeyOf marshalPubkey voteAgree
        hashWithNoSign sigToPub cryptoSign hsign hhash, ← hkeys, List.map_map]
    exact List.map_congr_left fun m hm => matchMember_publickey hnodup hm
  · simp only [FakeElection.verifySigns, List.map_const', FakeElection.generateFakeSigns,
      List.length_map, hlen]

/-- The committee of `newFakeElection` is keyed by its private keys. -/
theorem newFakeElection_keys (hexToECDSA : String → PrivateKey)
    (pubkeyToAddress : PublicKey → Address) (stateUsedFlag typeFixed : UInt32) :
    (newFakeElection hexToECDSA publicKeyOf pubkeyToAddress marshalPubkey stateUsedFlag
        typeFixed).members.map (·.publickey) =
      (newFakeElection hexToECDSA publicKeyOf pubkeyToAddress marshalPubkey stateUsedFlag
        typeFixed).privates.map fun k => marshalPubkey (publicKeyOf k) := by
  simp [newFakeElection, fromECDSAPub]

/-- **The seven-member fake committee recognises its own votes**: with the laws of
`verifySigns_generateFakeSigns` and the seven compiled-in keys serialising to distinct public
keys, `VerifySigns` attributes the votes of `GenerateFakeSigns` to the members in order. -/
theorem newFakeElection_verifySigns_generateFakeSigns (hexToECDSA : String → PrivateKey)
    (pubkeyToAddress : PublicKey → Address) (stateUsedFlag typeFixed : UInt32)
    (hsign : ∀ h k, sigToPub h (cryptoSign h k) = some (publicKeyOf k))
    (hhash : ∀ h hs r sig, hashWithNoSign ⟨h, hs, r, sig⟩ = hashWithNoSign ⟨h, hs, r, []⟩)
    (hdistinct : (fakeElectionKeys.map fun s => marshalPubkey (publicKeyOf (hexToECDSA s))).Nodup)
    (fastHeight : Option Int) (fastHash : Hash) :
    (newFakeElection hexToECDSA publicKeyOf pubkeyToAddress marshalPubkey stateUsedFlag
        typeFixed).verifySigns marshalPubkey hashWithNoSign sigToPub
        ((newFakeElection hexToECDSA publicKeyOf pubkeyToAddress marshalPubkey stateUsedFlag
          typeFixed).generateFakeSigns voteAgree hashWithNoSign cryptoSign fastHeight fastHash) =
      ((newFakeElection hexToECDSA publicKeyOf pubkeyToAddress marshalPubkey stateUsedFlag
          typeFixed).members.map some,
        (newFakeElection hexToECDSA publicKeyOf pubkeyToAddress marshalPubkey stateUsedFlag
          typeFixed).members.map fun _ => none) := by
  have hkeys := newFakeElection_keys publicKeyOf marshalPubkey hexToECDSA pubkeyToAddress
    stateUsedFlag typeFixed
  refine verifySigns_generateFakeSigns publicKeyOf marshalPubkey voteAgree hashWithNoSign sigToPub
    cryptoSign hsign hhash _ hkeys ?_ fastHeight fastHash
  rw [hkeys]
  simpa [newFakeElection] using hdistinct

end Signing

/-- The votes of the fake committee verify, with a stand-in signature scheme in which a private
key is the first two digits of its hex text and a signature is the key itself. -/
theorem newFakeElection_verifySigns_generateFakeSigns_twoDigits :
    (∀ h k, (fun _ sig => some sig : List UInt8 → List UInt8 → Option (List UInt8)) h
        ((fun _ k => k : List UInt8 → List UInt8 → List UInt8) h k) = some (id k)) ∧
      (∀ h hs r sig, (fun _ => FixedBytes.zero 32 : PbftSign → Hash) ⟨h, hs, r, sig⟩ =
        (fun _ => FixedBytes.zero 32 : PbftSign → Hash) ⟨h, hs, r, []⟩) ∧
      (fakeElectionKeys.map fun s => id (id ((s.data.take 2).map fun c => c.toNat.toUInt8))).Nodup ∧
      (newFakeElection (fun s => (s.data.take 2).map fun c => c.toNat.toUInt8) id
          (fun _ => FixedBytes.zero 20) id 0 0).verifySigns id (fun _ => FixedBytes.zero 32)
          (fun _ sig => some sig)
          ((newFakeElection (fun s => (s.data.take 2).map fun c => c.toNat.toUInt8) id
            (fun _ => FixedBytes.zero 20) id 0 0).generateFakeSigns 1 (fun _ => FixedBytes.zero 32)
            (fun _ k => k) (some 5) (FixedBytes.zero 32)) =
        ((newFakeElection (fun s => (s.data.take 2).map fun c => c.toNat.toUInt8) id
            (fun _ => FixedBytes.zero 20) id 0 0).members.map some,
          (newFakeElection (fun s => (s.data.take 2).map fun c => c.toNat.toUInt8) id
            (fun _ => FixedBytes.zero 20) id 0 0).members.map fun _ => none) :=
  have hdistinct :
      (fakeElectionKeys.map fun s => id (id ((s.data.take 2).map fun c => c.toNat.toUInt8))).Nodup :=
    by decide
  ⟨fun _ _ => rfl, fun _ _ _ _ => rfl, hdistinct,
    newFakeElection_verifySigns_generateFakeSigns id id 1 (fun _ => FixedBytes.zero 32)
      (fun _ sig => some sig) (fun _ k => k) _ (fun _ => FixedBytes.zero 20) 0 0
      (fun _ _ => rfl) (fun _ _ _ _ => rfl) hdistinct (some 5) (FixedBytes.zero 32)⟩

end Pist
