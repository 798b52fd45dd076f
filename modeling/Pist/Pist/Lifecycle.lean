import Mathlib.Data.List.Basic

/-! # Starting and stopping the node service

`Pistchain` is a `node.Service` (in `pist/backend.go`): the node hands it the light server
(`AddLesServer`), asks for its protocols (`Protocols`), starts it (`Start`, which builds the pbft
server in `startPbftServer`) and stops it (`Stop`, with `stopPbftServer`). These methods call, in a
fixed order, components that are not among the sources; the model keeps the fields of `Pistchain`
they read and write, and the calls made so far. This file models:

* **`Lifecycle.Fields`** — the light server, the pbft server, the agent's server, whether the
  shutdown channel is closed, and the calls made; **`Fields.init`** — as `New` leaves them;
* **`Lifecycle.PbftEnv`** — what `crypto.ToECDSA`, `tbft.NewNode` and the new server's `Start`
  answer;
* **`addLesServer`**, **`protocols`**, **`startPbftServer`**, **`start`**, **`stopPbftServer`**,
  **`stop`** — the methods; **`run`** — the methods the node calls, one after another, until one
  panics.

The main results:

* **`run_agentServer`** — along every run, once the agent has been started its server is the
  service's pbft server, which is set;
* **`run_init_stop`** — a run from `New`'s fields panics exactly when it stops the service twice:
  the second `Stop` closes the closed shutdown channel.

The other components `Stop` calls are not among the sources; the model takes each of their calls
to return. -/

namespace Pist

namespace Lifecycle

variable {N P : Type}

/-! ## (1) The fields and the calls -/

/-- **A call the service methods make** on a component of the node; `N` is the type of the pbft
servers `tbft.NewNode` builds. -/
inductive Call (N : Type) where
  /-- `s.startBloomHandlers()`. -/
  | startBloomHandlers
  /-- `s.protocolManager.Start(maxPeers)`. -/
  | protocolManagerStart (maxPeers : Int)
  /-- `s.lesServer.Start(srvr)`. -/
  | lesServerStart
  /-- `ls.SetBloomBitsIndexer(s.bloomIndexer)`. -/
  | setBloomBitsIndexer
  /-- `n1.Start()`, on the server `tbft.NewNode` built. -/
  | pbftServerStart (n : N)
  /-- `s.agent.Start()`. -/
  | agentStart
  /-- `s.election.Start()`. -/
  | electionStart
  /-- `s.pbftServer.Stop()`. -/
  | pbftServerStop (n : N)
  /-- `s.bloomIndexer.Close()`. -/
  | bloomIndexerClose
  /-- `s.blockchain.Stop()`. -/
  | blockchainStop
  /-- `s.protocolManager.Stop()`. -/
  | protocolManagerStop
  /-- `s.lesServer.Stop()`. -/
  | lesServerStop
  /-- `s.txPool.Stop()`. -/
  | txPoolStop
  /-- `s.eventMux.Stop()`. -/
  | eventMuxStop
  /-- `s.chainDb.Close()`. -/
  | chainDbClose
deriving DecidableEq, Repr

/-- **The fields of `Pistchain` the service methods read and write**, and the calls made so far,
oldest first. -/
structure Fields (N P : Type) where
  /-- `lesServer`: the protocols of the light server, `none` for `nil`. -/
  lesServer : Option (List P)
  /-- `pbftServer`, `none` for `nil`. -/
  pbftServer : Option N
  /-- `agent.server`. -/
  agentServer : Option N
  /-- Whether `close(s.shutdownChan)` has run. -/
  shutdownClosed : Bool
  /-- The calls made so far. -/
  calls : List (Call N)

/-- **The fields `New` sets**: no light server and no pbft server, and an open shutdown channel
(`make(chan bool)`); `agentServer` is the server `NewPbftAgent` leaves in the agent. -/
def Fields.init (agentServer : Option N) : Fields N P := ⟨none, none, agentServer, false, []⟩

/-- The fields after the calls `cs`. -/
def Fields.call (s : Fields N P) (cs : List (Call N)) : Fields N P :=
  { s with calls := s.calls ++ cs }

section Call

variable (s : Fields N P) (cs : List (Call N))

@[simp] theorem Fields.call_lesServer : (s.call cs).lesServer = s.lesServer := rfl
@[simp] theorem Fields.call_pbftServer : (s.call cs).pbftServer = s.pbftServer := rfl
@[simp] theorem Fields.call_agentServer : (s.call cs).agentServer = s.agentServer := rfl
@[simp] theorem Fields.call_shutdownClosed : (s.call cs).shutdownClosed = s.shutdownClosed := rfl
@[simp] theorem Fields.call_calls : (s.call cs).calls = s.calls ++ cs := rfl

end Call

/-- The call `c` on the light server, when there is one: `if s.lesServer != nil { ... }`. -/
def onLesServer (s : Fields N P) (c : Call N) : List (Call N) :=
  if s.lesServer.isSome then [c] else []

/-! ## (2) The light server -/

/-- **`AddLesServer`**: store the light server, whose protocols are `les`, and hand it the bloom
indexer. -/
def addLesServer (les : List P) (s : Fields N P) : Fields N P :=
  { s with lesServer := some les }.call [.setBloomBitsIndexer]

/-- **`Protocols`**: the sub-protocols of the protocol manager, `subProtocols`, then those of the
light server. -/
def protocols (subProtocols : List P) (s : Fields N P) : List P :=
  match s.lesServer with
  | none => subProtocols
  | some les => subProtocols ++ les

/-! ## (3) `Start` -/

/-- **What the packages `startPbftServer` calls answer**: the error of
`crypto.ToECDSA(s.config.CommitteeKey)`, what `tbft.NewNode` returns, and the error of the new
server's `Start`. -/
structure PbftEnv (N : Type) where
  /-- The error of `crypto.ToECDSA`. -/
  toECDSA : Option String
  /-- `tbft.NewNode(cfg, "1", priv, s.agent)`. -/
  newNode : Except String N
  /-- The error of `n1.Start()`. -/
  nodeStart : Option String

/-- The server `startPbftServer` builds, if any: the key parses and `tbft.NewNode` succeeds. -/
def PbftEnv.built (env : PbftEnv N) : Option N :=
  match env.toECDSA, env.newNode with
  | none, .ok n1 => some n1
  | _, _ => none

/-- **`startPbftServer`**: build the pbft server from the committee key, store it and start it;
the error of the first step that fails. -/
def startPbftServer (env : PbftEnv N) (s : Fields N P) : Option String × Fields N P :=
  match env.toECDSA with
  | some e => (some e, s)
  | none =>
    match env.newNode with
    | .error e => (some e, s)
    | .ok n1 => (env.nodeStart, { s with pbftServer := some n1 }.call [.pbftServerStart n1])

/-- The error `Start` returns when the service has no pbft server. -/
def startPbftFailed : String := "start pbft server failed."

/-- **`Start`**, on a p2p server of `maxPeers` peers: the bloom handlers, the protocol manager and
the light server, then `startPbftServer`, whose error is not read; without a pbft server, the
error; with one, the agent on it, the election, and the light server again. -/
def start (maxPeers : Int) (env : PbftEnv N) (s : Fields N P) : Option String × Fields N P :=
  let s := s.call ([.startBloomHandlers, .protocolManagerStart maxPeers] ++
    onLesServer s .lesServerStart)
  let s := (startPbftServer env s).2
  match s.pbftServer with
  | none => (some startPbftFailed, s)
  | some _ =>
    (none, { s with agentServer := s.pbftServer }.call
      ([Call.agentStart, .electionStart] ++ onLesServer s .lesServerStart))

/-- What `startPbftServer` leaves: the server it built, stored and started, if any. -/
theorem startPbftServer_snd (env : PbftEnv N) (s : Fields N P) :
    (startPbftServer env s).2 = match env.built with
      | some n1 => { s with pbftServer := some n1 }.call [.pbftServerStart n1]
      | none => s := by
  unfold startPbftServer PbftEnv.built
  cases env.toECDSA <;> cases env.newNode <;> rfl

/-- The service after `Start` has a pbft server when it had one or `Start` built one. -/
def started (env : PbftEnv N) (s : Fields N P) : Option N := env.built.or s.pbftServer

/-- **The fields after `Start`**: the pbft server is the one `Start` has; when there is one, the
agent holds it; the light server and the shutdown channel are unchanged. -/
theorem start_snd (m : Int) (env : PbftEnv N) (s : Fields N P) :
    (start m env s).2 = { s with
      pbftServer := started env s
      agentServer := if (started env s).isSome then started env s else s.agentServer
      calls := s.calls ++ [.startBloomHandlers, .protocolManagerStart m] ++
        onLesServer s .lesServerStart ++ (env.built.map .pbftServerStart).toList ++
        if (started env s).isSome then
          [.agentStart, .electionStart] ++ onLesServer s .lesServerStart
        else [] } := by
  unfold start started
  dsimp only
  rw [startPbftServer_snd]
  cases env.built <;> cases hp : s.pbftServer <;> simp [hp, Fields.call, onLesServer]

/-! ## (4) `Stop` -/

/-- **The panic of `close` on a closed channel**: `close of closed channel`. -/
inductive ClosePanic where
  | closeOfClosedChannel
deriving DecidableEq, Repr

/-- **`stopPbftServer`**: stop the pbft server, when there is one. -/
def stopPbftServer (s : Fields N P) : Fields N P :=
  match s.pbftServer with
  | some n => s.call [.pbftServerStop n]
  | none => s

/-- **`Stop`**: stop the components in order, then close the shutdown channel, which panics when
it is closed already. The components (`bloomIndexer`, `blockchain`, `protocolManager`, the light
server, `txPool`, `eventMux`, `chainDb`) are not among the sources: each of their calls is taken
to return. -/
def stop (s : Fields N P) : Except ClosePanic (Fields N P) :=
  let s := (stopPbftServer s).call ([.bloomIndexerClose, .blockchainStop, .protocolManagerStop] ++
    onLesServer s .lesServerStop ++ [.txPoolStop, .eventMuxStop, .chainDbClose])
  if s.shutdownClosed then .error .closeOfClosedChannel else .ok { s with shutdownClosed := true }

/-- `stopPbftServer` only calls. -/
theorem stopPbftServer_eq (s : Fields N P) :
    stopPbftServer s = s.call (s.pbftServer.map .pbftServerStop).toList := by
  unfold stopPbftServer
  cases s.pbftServer with
  | none => simp [Fields.call]
  | some n => rfl

/-- **What `Stop` does**: it panics on a closed channel; otherwise it closes it and adds its stop
calls, and changes no other field. -/
theorem stop_eq (s : Fields N P) :
    stop s = if s.shutdownClosed then .error .closeOfClosedChannel else
      .ok { s.call ((s.pbftServer.map .pbftServerStop).toList ++
        [.bloomIndexerClose, .blockchainStop, .protocolManagerStop] ++
        onLesServer s .lesServerStop ++ [.txPoolStop, .eventMuxStop, .chainDbClose]) with
        shutdownClosed := true } := by
  simp only [stop, stopPbftServer_eq, Fields.call_shutdownClosed]
  split <;> simp [Fields.call, List.append_assoc]

/-! ## (5) Runs -/

/-- **A method the node calls** on the service. -/
inductive Event (N P : Type) where
  /-- `AddLesServer`, with a light server of the protocols `les`. -/
  | addLesServer (les : List P)
  /-- `Start`, on a p2p server of `maxPeers` peers. -/
  | start (maxPeers : Int) (env : PbftEnv N)
  /-- `Stop`. -/
  | stop

/-- Whether the event is a `Stop`. -/
def Event.isStop : Event N P → Bool
  | .stop => true
  | _ => false

/-- The fields after one method; only `Stop` can panic. The error of `Start` goes to the node,
which the model does not follow further. -/
def step (s : Fields N P) : Event N P → Except ClosePanic (Fields N P)
  | .addLesServer les => .ok (addLesServer les s)
  | .start maxPeers env => .ok (start maxPeers env s).2
  | .stop => stop s

/-- The fields after a run of methods; a panic ends it. -/
def run (s : Fields N P) : List (Event N P) → Except ClosePanic (Fields N P)
  | [] => .ok s
  | e :: es => (step s e).bind fun s => run s es

@[simp] theorem run_nil (s : Fields N P) : run s [] = .ok s := rfl

theorem run_cons (s : Fields N P) (e : Event N P) (es : List (Event N P)) :
    run s (e :: es) = (step s e).bind fun s => run s es := rfl

/-- A run that does not panic went through a state after its first method. -/
theorem run_cons_ok {s s' : Fields N P} {e : Event N P} {es : List (Event N P)}
    (h : run s (e :: es) = .ok s') : ∃ s₁, step s e = .ok s₁ ∧ run s₁ es = .ok s' := by
  rw [run_cons] at h
  cases hs : step s e with
  | error p => rw [hs] at h; cases h
  | ok s₁ => rw [hs] at h; exact ⟨s₁, rfl, h⟩

/-! ## (6) The agent's server -/

/-- **The agent runs on the service's pbft server**: once the agent has been started, the
service has a pbft server and the agent holds it. -/
def AgentOnServer (s : Fields N P) : Prop :=
  .agentStart ∈ s.calls → s.pbftServer.isSome ∧ s.agentServer = s.pbftServer

theorem agentOnServer_init (a : Option N) : AgentOnServer (Fields.init a : Fields N P) :=
  fun h => nomatch h

/-- Calls that do not start the agent keep the agent on the server. -/
theorem AgentOnServer.call {s : Fields N P} {cs : List (Call N)} (hi : AgentOnServer s)
    (hc : .agentStart ∉ cs) : AgentOnServer (s.call cs) := fun h =>
  hi ((List.mem_append.1 h).resolve_right hc)

theorem step_agentOnServer {s s' : Fields N P} {e : Event N P} (h : step s e = .ok s')
    (hi : AgentOnServer s) : AgentOnServer s' := by
  cases e with
  | addLesServer les =>
    cases h
    exact AgentOnServer.call (s := { s with lesServer := some les }) hi (by simp)
  | start m env =>
    cases h
    intro ha
    rw [start_snd] at ha ⊢
    cases hs : (started env s).isSome
    · have ha' : .agentStart ∈ s.calls := by simpa [hs, onLesServer] using ha
      simp [started, Option.isSome_or, (hi ha').1] at hs
    · simp [hs]
  | stop =>
    rw [step, stop_eq] at h
    split at h
    · cases h
    · cases h
      exact AgentOnServer.call hi (by simp [onLesServer])

theorem run_agentOnServer {s s' : Fields N P} {es : List (Event N P)} (h : run s es = .ok s')
    (hi : AgentOnServer s) : AgentOnServer s' := by
  induction es generalizing s with
  | nil => cases h; exact hi
  | cons e es ih =>
    obtain ⟨s₁, h₁, h₂⟩ := run_cons_ok h
    exact ih h₂ (step_agentOnServer h₁ hi)

/-- **Along every run from `New`'s fields, the agent runs on the service's pbft server**: once
`Start` has started the agent, the service has a pbft server and the agent holds it. -/
theorem run_agentServer (a : Option N) (es : List (Event N P)) {s : Fields N P}
    (h : run (Fields.init a) es = .ok s) (ha : .agentStart ∈ s.calls) :
    s.pbftServer.isSome ∧ s.agentServer = s.pbftServer :=
  run_agentOnServer h (agentOnServer_init a) ha

/-- A pbft server that is built, but whose own `Start` fails. -/
def nodeStartFails : PbftEnv Unit := ⟨none, .ok (), some "listen tcp 0.0.0.0:10000: bind"⟩

theorem run_agentServer_nodeStartFails :
    ∃ s, run (Fields.init none) [.addLesServer [()], .start 50 nodeStartFails] = .ok s ∧
      .agentStart ∈ s.calls ∧ (s.pbftServer.isSome ∧ s.agentServer = s.pbftServer) :=
  have h : run (Fields.init none) [.addLesServer [()], .start 50 nodeStartFails] = .ok _ := rfl
  have ha : Call.agentStart ∈ _ := by decide
  ⟨_, h, ha, run_agentServer none _ h ha⟩

/-! ## (7) The shutdown channel -/

/-- The number of `Stop`s of a run. -/
def stops (es : List (Event N P)) : Nat := (es.filter Event.isStop).length

@[simp] theorem stops_nil : stops ([] : List (Event N P)) = 0 := rfl

theorem stops_cons (e : Event N P) (es : List (Event N P)) :
    stops (e :: es) = e.isStop.toNat + stops es := by
  unfold stops
  cases e <;> simp [Event.isStop, List.filter_cons, Nat.add_comm]

theorem toNat_or {a b : Bool} (h : ¬(a ∧ b)) : (a || b).toNat = a.toNat + b.toNat := by
  cases a <;> cases b <;> first | rfl | exact absurd ⟨rfl, rfl⟩ h

theorem decide_pos_toNat_add (b : Bool) (n : Nat) :
    decide (0 < b.toNat + n) = (b || decide (0 < n)) := by
  cases b
  · rw [Bool.toNat_false, Nat.zero_add, Bool.false_or]
  · exact decide_eq_true (by rw [Bool.toNat_true]; omega)

/-- Only `Stop` touches the shutdown channel, and it panics exactly on a closed one. -/
theorem step_shutdown (s : Fields N P) (e : Event N P) :
    (e.isStop ∧ s.shutdownClosed ∧ step s e = .error .closeOfClosedChannel) ∨
      (¬(e.isStop ∧ s.shutdownClosed) ∧ ∃ s', step s e = .ok s' ∧
        s'.shutdownClosed = (s.shutdownClosed || e.isStop)) := by
  cases e with
  | addLesServer les => simp [step, addLesServer, Event.isStop]
  | start m env => simp [step, start_snd, Event.isStop]
  | stop =>
    rw [step, stop_eq]
    cases s.shutdownClosed <;> simp [Event.isStop]

/-- **The shutdown channel along a run**: the run panics exactly when the channel is closed
twice, counting a close before the run; otherwise the channel is closed after it when it was
closed before or the run stops the service. -/
theorem run_shutdown (s : Fields N P) (es : List (Event N P)) :
    (run s es).isOk = decide (s.shutdownClosed.toNat + stops es ≤ 1) ∧
      ∀ s', run s es = .ok s' →
        s'.shutdownClosed = (s.shutdownClosed || decide (0 < stops es)) := by
  induction es generalizing s with
  | nil =>
    refine ⟨(decide_eq_true (by rw [stops_nil]; exact s.shutdownClosed.toNat_le)).symm,
      fun s' h => ?_⟩
    cases h
    exact (Bool.or_false _).symm
  | cons e es ih =>
    rcases step_shutdown s e with ⟨he, hc, hs⟩ | ⟨hne, s₁, hs, hc⟩
    · have hr : run s (e :: es) = .error .closeOfClosedChannel := by rw [run_cons, hs]; rfl
      refine ⟨?_, fun s' h => nomatch hr ▸ h⟩
      rw [hr, stops_cons, he, hc, Bool.toNat_true]
      exact (decide_eq_false (by omega)).symm
    · obtain ⟨ih₁, ih₂⟩ := ih s₁
      have hr : run s (e :: es) = run s₁ es := by rw [run_cons, hs]; rfl
      rw [hr, ih₁, hc, stops_cons, toNat_or fun h => hne ⟨h.2, h.1⟩, Nat.add_assoc]
      exact ⟨rfl, fun s' h => by rw [ih₂ s' h, hc, decide_pos_toNat_add, Bool.or_assoc]⟩

/-- **A run from `New`'s fields panics exactly when it stops the service twice**: the second
`Stop` closes the closed shutdown channel. A run that does not panic has closed the channel
exactly when it stopped the service. -/
theorem run_init_stop (a : Option N) (es : List (Event N P)) :
    (run (Fields.init a) es).isOk = decide (stops es ≤ 1) ∧
      ∀ s, run (Fields.init a) es = .ok s → s.shutdownClosed = decide (stops es = 1) := by
  obtain ⟨h₁, h₂⟩ := run_shutdown (Fields.init a : Fields N P) es
  have hc : (Fields.init a : Fields N P).shutdownClosed = false := rfl
  rw [hc, Bool.toNat_false, Nat.zero_add] at h₁
  refine ⟨h₁, fun s h => ?_⟩
  have hle : stops es ≤ 1 := of_decide_eq_true (by rw [← h₁, h]; rfl)
  rw [h₂ s h, hc, Bool.false_or]
  exact decide_eq_decide.2 ⟨fun _ => by omega, fun _ => by omega⟩

end Lifecycle

end Pist
