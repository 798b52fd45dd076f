import Mathlib.Logic.Function.Basic

/-! # The minerva engines of a process and their thread counts

`consensus/minerva/minerva.go` builds `Minerva` engines with `New` and its variants, and keeps
one process-wide engine, `sharedMinerva`. `NewShared` builds an engine that points at it, and
`SetThreads` on such an engine sets the count of `sharedMinerva` instead of its own, while
`Threads` reads the engine's own count. This file models:

* **`Minerva`** — an engine, by the fields its constructors set and its methods use;
* **`Engines`** — the engines of a process by address, `sharedMinerva` at address `0`; the
  structure carries the invariant that only `sharedMinerva` is pointed at, and that it points at
  nothing, so the call `SetThreads` passes on ends there;
* **`new`**, **`newShared`**, … — the constructors, **`Engines.createConsensusEngine`** — the
  choice `pist/backend.go` makes among them, and **`Engines.setThreads`**,
  **`Engines.threads`**, **`Engines.run`** — the methods and a run of calls.

The main results:

* **`setThreads_threads`** — `SetThreads(n)` sets the count of exactly one engine, the one it
  was called on or, for an engine that shares, `sharedMinerva`;
* **`run_threads_shared`** — along every run from the package's initialisation, an engine built
  by `NewShared` reports `0` threads, whatever `SetThreads` calls were made on it, and the next
  `SetThreads` on it writes the count of `sharedMinerva` and of no other engine. -/

namespace Pist

namespace Minerva

/-! ## (1) Engines -/

/-- `Mode`, the kind of proof-of-work check an engine makes; `ModeNormal` is the zero value. -/
inductive Mode where
  | normal
  | shared
  | test
  | fake
  | fullFake
deriving DecidableEq, Repr

end Minerva

/-- **`Minerva`**, by the fields the constructors set and the methods use; `E` is the type of
committee elections. -/
structure Minerva (E : Type) where
  /-- `config.PowMode`. -/
  powMode : Minerva.Mode
  /-- `threads`. -/
  threads : Int
  /-- Whether the `update` channel was made; it is `nil` otherwise. -/
  update : Bool
  /-- The address of the engine `shared` points at, if any. -/
  shared : Option Nat
  /-- `fakeFail`. -/
  fakeFail : UInt64
  /-- `fakeDelay`, in nanoseconds. -/
  fakeDelay : Int
  /-- `election`, `nil` until set. -/
  election : Option E

namespace Minerva

variable {E : Type}

/-- The zero value `&Minerva{}`. -/
def zero : Minerva E := ⟨.normal, 0, false, none, 0, 0, none⟩

/-- **`New(config)`**: the mode, and a made `update` channel. -/
def new (powMode : Mode) : Minerva E := { (zero : Minerva E) with powMode, update := true }

/-- `NewTester`. -/
def newTester : Minerva E := new .test

/-- **`NewFaker`**: fake mode with the fake election `fake` (`newFakeElection()`); the
`update` channel is not made. -/
def newFaker (fake : E) : Minerva E := { (zero : Minerva E) with powMode := .fake, election := some fake }

/-- `NewFakeFailer(fail)`. -/
def newFakeFailer (fake : E) (fail : UInt64) : Minerva E :=
  { (zero : Minerva E) with powMode := .fake, fakeFail := fail, election := some fake }

/-- `NewFakeDelayer(delay)`. -/
def newFakeDelayer (fake : E) (delay : Int) : Minerva E :=
  { (zero : Minerva E) with powMode := .fake, fakeDelay := delay, election := some fake }

/-- `NewFullFaker`: full fake mode, no election. -/
def newFullFaker : Minerva E := { (zero : Minerva E) with powMode := .fullFake }

/-- **`NewShared`**: `&Minerva{shared: sharedMinerva}`, all else zero. -/
def newShared : Minerva E := { (zero : Minerva E) with shared := some 0 }

end Minerva

/-- **The engines of a process**, by address. `sharedMinerva`, made by `New(Config{ModeNormal})`
when the package is initialised, is at address `0`; addresses from `next` on are free. -/
structure Engines (E : Type) where
  /-- The engine at each address. -/
  engine : Nat → Minerva E
  /-- The first free address. -/
  next : Nat
  next_pos : 0 < next
  /-- Only `sharedMinerva` is pointed at. -/
  shared_eq : ∀ a s, (engine a).shared = some s → s = 0
  /-- `sharedMinerva` points at nothing. -/
  shared_zero : (engine 0).shared = none

namespace Engines

variable {E : Type}

/-- The process after the package is initialised: `sharedMinerva` and nothing else. -/
def init : Engines E where
  engine a := if a = 0 then Minerva.new .normal else Minerva.zero
  next := 1
  next_pos := Nat.one_pos
  shared_eq a s h := by by_cases ha : a = 0 <;> simp [ha, Minerva.new, Minerva.zero] at h
  shared_zero := rfl

/-- A constructor's `&Minerva{...}`: the engine is placed at the first free address. -/
def alloc (p : Engines E) (m : Minerva E) (hm : ∀ s, m.shared = some s → s = 0) :
    Engines E × Nat :=
  (⟨Function.update p.engine p.next m, p.next + 1, Nat.succ_pos _,
    fun a s h => by
      by_cases ha : a = p.next
      · rw [ha, Function.update_same] at h; exact hm s h
      · rw [Function.update_noteq ha] at h; exact p.shared_eq a s h,
    by rw [Function.update_noteq (Nat.ne_of_lt p.next_pos)]; exact p.shared_zero⟩, p.next)

/-- The engine at `a` with the thread count `n`. -/
def writeThreads (p : Engines E) (a : Nat) (n : Int) : Engines E where
  engine := Function.update p.engine a { p.engine a with threads := n }
  next := p.next
  next_pos := p.next_pos
  shared_eq b s h := by
    by_cases hb : b = a
    · subst hb; rw [Function.update_same] at h; exact p.shared_eq b s h
    · rw [Function.update_noteq hb] at h; exact p.shared_eq b s h
  shared_zero := by
    by_cases h0 : (0 : Nat) = a
    · subst h0; rw [Function.update_same]; exact p.shared_zero
    · rw [Function.update_noteq h0]; exact p.shared_zero

/-- **`(*Minerva).Threads`**: the engine's own count. -/
def threads (p : Engines E) (a : Nat) : Int := (p.engine a).threads

/-- The body of `SetThreads` past the `shared` test: the count is written, and the `select`
sends on `update` (a ping the result reports) only when the channel was made and a sealer waits
on it. -/
def setOwnThreads (p : Engines E) (a : Nat) (n : Int) (waiting : Bool) : Engines E × Bool :=
  (p.writeThreads a n, (p.engine a).update && waiting)

/-- **`(*Minerva).SetThreads`**: an engine that shares passes the call to the engine it points
at, which shares nothing (`shared_zero`), so that call sets its count. -/
def setThreads (p : Engines E) (a : Nat) (n : Int) (waiting : Bool) : Engines E × Bool :=
  match (p.engine a).shared with
  | some s => p.setOwnThreads s n waiting
  | none => p.setOwnThreads a n waiting

/-- **`CreateConsensusEngine`** (`pist/backend.go`, where `ethash` is this package): the
engine of the configured mode; every other mode, `ModeFullFake` included, gets `New(Config{})`
and `SetThreads(-1)`, on a channel no sealer can wait on yet. -/
def createConsensusEngine (fake : E) (p : Engines E) : Minerva.Mode → Engines E × Nat
  | .fake => p.alloc (Minerva.newFaker fake) fun _ h => by cases h
  | .test => p.alloc Minerva.newTester fun _ h => by cases h
  | .shared => p.alloc Minerva.newShared fun _ h => (Option.some.inj h).symm
  | _ =>
    let engine := p.alloc (Minerva.new .normal) fun _ h => by cases h
    ((engine.1.setThreads engine.2 (-1) false).1, engine.2)

/-- A call a process makes on its engines. -/
inductive Call (E : Type) where
  | new (powMode : Minerva.Mode)
  | newTester
  | newFaker
  | newFakeFailer (fail : UInt64)
  | newFakeDelayer (delay : Int)
  | newFullFaker
  | newShared
  | createConsensusEngine (powMode : Minerva.Mode)
  | setThreads (a : Nat) (n : Int) (waiting : Bool)

/-- The engine each constructor call builds; `fake` is what `newFakeElection()` returns. -/
def Call.built (fake : E) : Call E → Option (Minerva E)
  | .new powMode => some (Minerva.new powMode)
  | .newTester => some Minerva.newTester
  | .newFaker => some (Minerva.newFaker fake)
  | .newFakeFailer fail => some (Minerva.newFakeFailer fake fail)
  | .newFakeDelayer delay => some (Minerva.newFakeDelayer fake delay)
  | .newFullFaker => some Minerva.newFullFaker
  | .newShared => some Minerva.newShared
  | .createConsensusEngine _ => none
  | .setThreads .. => none

/-- Every constructor points at `sharedMinerva` or at nothing. -/
theorem built_shared (fake : E) {c : Call E} {m : Minerva E} (h : c.built fake = some m) :
    ∀ s, m.shared = some s → s = 0 := by
  intro s hs
  cases c <;> cases h <;> cases hs
  rfl

/-- The process after one call. -/
def step (fake : E) (p : Engines E) : Call E → Engines E
  | .setThreads a n waiting => (p.setThreads a n waiting).1
  | .createConsensusEngine powMode => (p.createConsensusEngine fake powMode).1
  | c => match hc : c.built fake with
    | some m => (p.alloc m (built_shared fake hc)).1
    | none => p

/-- The process after a run of calls. -/
def run (fake : E) (p : Engines E) (cs : List (Call E)) : Engines E :=
  cs.foldl (step fake) p

/-! ## (2) One call -/

/-- The engine whose count `SetThreads` on `a` sets. -/
def target (p : Engines E) (a : Nat) : Nat := ((p.engine a).shared).getD a

/-- The target shares nothing. -/
theorem shared_target (p : Engines E) (a : Nat) : (p.engine (p.target a)).shared = none := by
  unfold target
  cases hs : (p.engine a).shared with
  | none => exact hs
  | some s => rw [Option.getD_some, p.shared_eq a s hs]; exact p.shared_zero

theorem threads_writeThreads (p : Engines E) (a b : Nat) (n : Int) :
    (p.writeThreads a n).threads b = if b = a then n else p.threads b := by
  unfold threads writeThreads
  dsimp only
  split_ifs with h
  · rw [h, Function.update_same]
  · rw [Function.update_noteq h]

theorem shared_writeThreads (p : Engines E) (a b : Nat) (n : Int) :
    ((p.writeThreads a n).engine b).shared = (p.engine b).shared := by
  unfold writeThreads
  dsimp only
  by_cases h : b = a
  · rw [h, Function.update_same]
  · rw [Function.update_noteq h]

/-- **`SetThreads(n)` sets the count of exactly one engine**: the target, which is the engine
called for one that does not share and `sharedMinerva` for one that does. -/
theorem setThreads_threads (p : Engines E) (a b : Nat) (n : Int) (waiting : Bool) :
    (p.setThreads a n waiting).1.threads b = if b = p.target a then n else p.threads b := by
  unfold setThreads target
  cases (p.engine a).shared <;> exact threads_writeThreads _ _ _ _

theorem shared_setThreads (p : Engines E) (a b : Nat) (n : Int) (waiting : Bool) :
    ((p.setThreads a n waiting).1.engine b).shared = (p.engine b).shared := by
  unfold setThreads
  cases (p.engine a).shared <;> exact shared_writeThreads _ _ _ _

/-! ## (3) Runs -/

/-- **Engines that share report no threads.** -/
def SharedIdle (p : Engines E) : Prop :=
  ∀ a, (p.engine a).shared.isSome → p.threads a = 0

theorem sharedIdle_init : SharedIdle (init : Engines E) := by
  intro a h
  by_cases ha : a = 0 <;> simp [init, ha, Minerva.new, Minerva.zero] at h

theorem sharedIdle_setThreads {p : Engines E} (hp : SharedIdle p) (a : Nat) (n : Int)
    (waiting : Bool) : SharedIdle (p.setThreads a n waiting).1 := by
  intro b hb
  rw [shared_setThreads] at hb
  rw [setThreads_threads, if_neg fun h => by simp [h, shared_target] at hb]
  exact hp b hb

theorem sharedIdle_alloc {p : Engines E} (hp : SharedIdle p) {m : Minerva E}
    (hm : ∀ s, m.shared = some s → s = 0) (hm0 : m.shared.isSome → m.threads = 0) :
    SharedIdle (p.alloc m hm).1 := by
  intro b hb
  unfold alloc threads at *
  dsimp only at *
  by_cases h : b = p.next
  · subst h; rw [Function.update_same] at hb ⊢; exact hm0 hb
  · rw [Function.update_noteq h] at hb ⊢; exact hp b hb

/-- Every constructor builds an engine that shares with no threads, or one that does not share. -/
theorem built_threads (fake : E) {c : Call E} {m : Minerva E} (h : c.built fake = some m) :
    m.shared.isSome → m.threads = 0 := by
  cases c <;> cases h <;> intro <;> rfl

theorem sharedIdle_createConsensusEngine (fake : E) {p : Engines E} (hp : SharedIdle p)
    (powMode : Minerva.Mode) : SharedIdle (p.createConsensusEngine fake powMode).1 := by
  have hnew : SharedIdle (p.alloc (Minerva.new .normal) fun _ h => by cases h).1 :=
    sharedIdle_alloc hp _ fun h => by cases h
  cases powMode <;> unfold createConsensusEngine
  case fake | test | shared => exact sharedIdle_alloc hp _ fun _ => rfl
  all_goals exact sharedIdle_setThreads hnew _ _ _

theorem sharedIdle_step (fake : E) {p : Engines E} (hp : SharedIdle p) (c : Call E) :
    SharedIdle (step fake p c) := by
  unfold step
  split
  · exact sharedIdle_setThreads hp _ _ _
  · exact sharedIdle_createConsensusEngine fake hp _
  · split
    · exact sharedIdle_alloc hp _ (built_threads fake ‹_›)
    · exact hp

theorem sharedIdle_run (fake : E) :
    ∀ (cs : List (Call E)) (p : Engines E), SharedIdle p → SharedIdle (run fake p cs)
  | [], _, hp => hp
  | c :: cs, _, hp => sharedIdle_run fake cs _ (sharedIdle_step fake hp c)

/-- An engine that shares passes `SetThreads` to `sharedMinerva`. -/
theorem target_of_shared {p : Engines E} {a : Nat} (ha : (p.engine a).shared.isSome) :
    p.target a = 0 := by
  obtain ⟨s, hs⟩ := Option.isSome_iff_exists.1 ha
  rw [target, hs, Option.getD_some, p.shared_eq a s hs]

/-- **Along every run from the package's initialisation, an engine built by `NewShared` reports
`0` threads**, and `SetThreads(n)` on it sets the count of `sharedMinerva` to `n` and leaves every
other engine's count, its own included, as it was. -/
theorem run_threads_shared (fake : E) (cs : List (Call E)) (a : Nat)
    (ha : ((run fake init cs).engine a).shared.isSome) :
    (run fake init cs).threads a = 0 ∧
      ∀ n waiting b, ((run fake init cs).setThreads a n waiting).1.threads b =
        if b = 0 then n else (run fake init cs).threads b := by
  refine ⟨sharedIdle_run fake cs init sharedIdle_init a ha, fun n waiting b => ?_⟩
  rw [setThreads_threads, target_of_shared ha]

/-- `NewShared`, then `SetThreads(8)` on it: the engine still reports `0` threads, and a further
`SetThreads(n)` on it sets the count of `sharedMinerva`, which `SetThreads(8)` had set to `8`. -/
theorem run_threads_shared_set_eight :
    ((run () init [.newShared, .setThreads 1 8 false]).engine 1).shared.isSome ∧
      ((run () init [.newShared, .setThreads 1 8 false]).threads 1 = 0 ∧
        ∀ n waiting b, ((run () init [.newShared, .setThreads 1 8 false]).setThreads 1 n
            waiting).1.threads b =
          if b = 0 then n else (run () init [.newShared, .setThreads 1 8 false]).threads b) ∧
      (run () init [.newShared, .setThreads 1 8 false]).threads 0 = 8 :=
  ⟨rfl, run_threads_shared () [.newShared, .setThreads 1 8 false] 1 rfl, rfl⟩

end Engines

end Pist
