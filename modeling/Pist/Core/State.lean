import Pist.Core.Types.Committee
import Mathlib.Logic.Function.Basic
import Mathlib.Data.List.Nodup

/-! # Go maps and account state

`Genesis.ToFastBlock` ranges over Go maps and writes what it finds into a `state.StateDB`. This
file models both:

* **`GoMap`** — a Go map's contents, its keys distinct; a `range` over it may visit them in any
  order, that is in any permutation of `entries`;
* **`Account`**, **`WorldState`** — the accounts a state database commits to, and the writes
  `AddBalance`, `SetCode`, `SetNonce` and `SetState`, each an update of one account.

The main facts are that writes to two distinct accounts commute (`modify_comm`), and that a run
of `SetState` over a Go map's entries gives the same state in every order
(`foldl_setState_perm`). -/

namespace Pist

/-! ## (1) Go maps -/

/-- **A Go map `map[κ]ν`**, by its entries; a map holds each key once. -/
structure GoMap (κ ν : Type) where
  /-- The entries, in some order. -/
  entries : List (κ × ν)
  /-- Keys are distinct. -/
  nodup : (entries.map Prod.fst).Nodup

/-! ## (2) Accounts -/

/-- Modelled from the spec: **an account of `state.StateDB`** (in `core/state`, not among the
sources), by what the state commits to. Storage is a total map: a slot never written reads
zero, as a slot set to zero does. -/
structure Account where
  /-- The balance. -/
  balance : Int
  /-- The contract code. -/
  code : List UInt8
  /-- The nonce. -/
  nonce : UInt64
  /-- The storage slots. -/
  storage : Hash → Hash

/-- The account `getOrNewStateObject` creates. -/
def Account.empty : Account := ⟨0, [], 0, fun _ => FixedBytes.zero 32⟩

/-- Modelled from the spec: **the accounts a state database holds**; an address with no account
is `none`. -/
structure WorldState where
  /-- The account at each address. -/
  accounts : Address → Option Account

/-- The state `state.New` opens at the empty root. -/
def WorldState.empty : WorldState := ⟨fun _ => none⟩

namespace WorldState

/-- The account at `addr`, created if it does not exist, changed by `f`. Every write of the
state database is of this form. -/
def modify (s : WorldState) (addr : Address) (f : Account → Account) : WorldState :=
  ⟨Function.update s.accounts addr (some (f ((s.accounts addr).getD Account.empty)))⟩

/-- `StateDB.AddBalance`. -/
def addBalance (s : WorldState) (addr : Address) (amount : Int) : WorldState :=
  s.modify addr fun a => { a with balance := a.balance + amount }

/-- `StateDB.SetCode`. -/
def setCode (s : WorldState) (addr : Address) (code : List UInt8) : WorldState :=
  s.modify addr fun a => { a with code := code }

/-- `StateDB.SetNonce`. -/
def setNonce (s : WorldState) (addr : Address) (nonce : UInt64) : WorldState :=
  s.modify addr fun a => { a with nonce := nonce }

/-- `StateDB.SetState`: the slot `key` of the account at `addr` holds `value`. -/
def setState (s : WorldState) (addr : Address) (key value : Hash) : WorldState :=
  s.modify addr fun a => { a with storage := Function.update a.storage key value }

/-- States with the same accounts are equal. -/
theorem ext {s t : WorldState} (h : s.accounts = t.accounts) : s = t := by
  cases s; cases t; cases h; rfl

/-- Two writes to one account are one write. -/
theorem modify_modify (s : WorldState) (addr : Address) (f g : Account → Account) :
    (s.modify addr f).modify addr g = s.modify addr (g ∘ f) := by
  apply ext
  simp [modify, Function.update_idem]

/-- **Writes to distinct accounts commute.** -/
theorem modify_comm (s : WorldState) {a b : Address} (hab : a ≠ b) (f g : Account → Account) :
    (s.modify a f).modify b g = (s.modify b g).modify a f := by
  apply ext
  simp only [modify, Function.update_noteq hab.symm, Function.update_noteq hab]
  exact Function.update_comm hab _ _ _

/-- A run of `SetState`s after a write to the account is one write to it. -/
theorem foldl_setState_modify (addr : Address) (l : List (Hash × Hash)) (s : WorldState)
    (f : Account → Account) :
    l.foldl (fun s kv => s.setState addr kv.1 kv.2) (s.modify addr f) =
      s.modify addr fun a => { f a with
        storage := l.foldl (fun st kv => Function.update st kv.1 kv.2) (f a).storage } := by
  induction l generalizing f with
  | nil => rfl
  | cons kv l ih =>
    rw [List.foldl_cons, setState, modify_modify, ih]
    rfl

/-- **Setting the slots of a Go map gives the same storage in every order.** -/
theorem foldl_update_perm {l₁ l₂ : List (Hash × Hash)} (hp : l₁.Perm l₂)
    (hnd : (l₁.map Prod.fst).Nodup) (st : Hash → Hash) :
    l₁.foldl (fun st kv => Function.update st kv.1 kv.2) st =
      l₂.foldl (fun st kv => Function.update st kv.1 kv.2) st :=
  hp.foldl_eq' (fun x hx y hy z => by
    by_cases h : x.1 = y.1
    · rw [List.inj_on_of_nodup_map hnd hx hy h]
    · exact Function.update_comm h _ _ _) st

/-- `SetState` over any order of a Go map's entries gives the same state. -/
theorem foldl_setState_perm (addr : Address) (m : GoMap Hash Hash) {l : List (Hash × Hash)}
    (hp : l.Perm m.entries) (s : WorldState) (f : Account → Account) :
    l.foldl (fun s kv => s.setState addr kv.1 kv.2) (s.modify addr f) =
      m.entries.foldl (fun s kv => s.setState addr kv.1 kv.2) (s.modify addr f) := by
  simp only [foldl_setState_modify, foldl_update_perm hp ((hp.map Prod.fst).nodup_iff.2 m.nodup)]

end WorldState

end Pist
