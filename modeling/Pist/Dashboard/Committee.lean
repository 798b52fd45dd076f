import Mathlib.Data.List.Basic

/-! # The committee data of the dashboard

`collectCommitteeData` (in `dashboard/committee.go`) is the dashboard's goroutine for the
committee. Each time its `Refresh` timer fires, it reads the pbft agent's committee number, its
membership and leadership, and the current and alternative committees, and sends them to all
clients in one message. When a quit request arrives, it answers `nil` on the request's channel
and returns, and its deferred `wg.Done()` runs. Which case of the `select` fires is up to the Go
scheduler; the model takes the cases that fire as a list of events. This file models:

* **`AgentView`** — what the agent answers at a refresh; **`CommitteeMessage`** — the message
  built from it;
* **`Collector`**, **`step`** — the goroutine's state and one case of its `select`;
  **`collectCommitteeData`** — the goroutine over a list of events.

The main result, **`collectCommitteeData_spec`**: over every list of events, the goroutine has
sent exactly the messages of the refreshes before the first quit, in order; it has returned
exactly when a quit came, answering that quit with `nil` and marking the wait group done once,
and it has received nothing after it. -/

namespace Pist

namespace Dashboard

variable {C A : Type}

/-! ## (1) The goroutine -/

/-- **What the agent answers at a refresh**: `CommitteeNumber()`, `IsCommitteeMember()`,
`IsLeader()`, `GetCurrentCommittee()` and `GetAlternativeCommittee()`; `C` and `A` are the types
of the two committees. -/
structure AgentView (C A : Type) where
  committeeNumber : UInt64
  isCommitteeMember : Bool
  isLeader : Bool
  currentCommittee : C
  alternativeCommittee : A

/-- **`CommitteeMessage`**: the fields the goroutine sets. -/
structure CommitteeMessage (C A : Type) where
  number : UInt64
  isCommitteeMember : Bool
  isLeader : Bool
  committee : C
  backCommittee : A

/-- The message of a refresh: `&Message{Committee: &CommitteeMessage{...}}`. -/
def AgentView.message (v : AgentView C A) : CommitteeMessage C A :=
  ⟨v.committeeNumber, v.isCommitteeMember, v.isLeader, v.currentCommittee,
    v.alternativeCommittee⟩

/-- **A case of the `select` that fires.** -/
inductive Event (C A : Type) where
  /-- `errc := <-db.quit`. -/
  | quit
  /-- `<-time.After(db.config.Refresh)`; `v` is what the agent answers then. -/
  | refresh (v : AgentView C A)

/-- Whether the event is a quit request. -/
def Event.isQuit : Event C A → Bool
  | .quit => true
  | .refresh _ => false

/-- What the agent answered at a refresh. -/
def Event.agentView : Event C A → Option (AgentView C A)
  | .quit => none
  | .refresh v => some v

/-- **The goroutine's state**: whether it still runs its loop, the messages it has passed to
`db.sendToAll`, oldest first, the errors it has sent on quit channels, and how often
`wg.Done()` has run. -/
structure Collector (C A : Type) where
  running : Bool
  sent : List (CommitteeMessage C A)
  answers : List (Option String)
  doneCalls : Nat

/-- The goroutine when it starts. -/
def Collector.init : Collector C A := ⟨true, [], [], 0⟩

/-- **One case of the `select`**: a quit is answered with `nil` and ends the goroutine, whose
deferred `wg.Done()` runs; a refresh sends the agent's answers to all clients. A goroutine that
has returned receives nothing. -/
def step (c : Collector C A) : Event C A → Collector C A
  | .quit => if c.running then ⟨false, c.sent, c.answers ++ [none], c.doneCalls + 1⟩ else c
  | .refresh v => if c.running then { c with sent := c.sent ++ [v.message] } else c

/-- **`collectCommitteeData`**, over the cases of its `select` that fire, in order. -/
def collectCommitteeData (es : List (Event C A)) : Collector C A :=
  es.foldl step Collector.init

/-! ## (2) What the goroutine sends -/

/-- A goroutine that has returned stays as it is. -/
theorem foldl_step_returned (es : List (Event C A)) {c : Collector C A} (hc : c.running = false) :
    es.foldl step c = c := by
  induction es with
  | nil => rfl
  | cons e es ih => cases e <;> simp [step, hc, ih]

/-- **A running goroutine over a list of events** sends the refreshes before the first quit and
returns at that quit. -/
theorem foldl_step_running (es : List (Event C A)) {c : Collector C A} (hc : c.running = true) :
    es.foldl step c =
      ⟨!es.any Event.isQuit,
        c.sent ++
          ((es.takeWhile fun e => !e.isQuit).filterMap Event.agentView).map AgentView.message,
        c.answers ++ (if es.any Event.isQuit then [none] else []),
        c.doneCalls + if es.any Event.isQuit then 1 else 0⟩ := by
  induction es generalizing c with
  | nil => cases c; cases hc; simp
  | cons e es ih =>
    cases e with
    | quit =>
      rw [List.foldl_cons, foldl_step_returned es (by simp [step, hc])]
      simp [step, hc, Event.isQuit]
    | refresh v =>
      rw [List.foldl_cons, ih (by simp [step, hc])]
      simp [step, hc, Event.isQuit, Event.agentView]

/-- **What `collectCommitteeData` has done after any list of events**: it has sent the agent's
answers at the refreshes before the first quit, in order and one message each; it has returned
exactly when a quit came, answering `nil` once and running `wg.Done()` once. -/
theorem collectCommitteeData_spec (es : List (Event C A)) :
    collectCommitteeData es =
      ⟨!es.any Event.isQuit,
        ((es.takeWhile fun e => !e.isQuit).filterMap Event.agentView).map AgentView.message,
        if es.any Event.isQuit then [none] else [],
        if es.any Event.isQuit then 1 else 0⟩ := by
  rw [collectCommitteeData, foldl_step_running es rfl]
  simp [Collector.init]

end Dashboard

end Pist
