import Mathlib.Tactic.DeriveFintype
import Mathlib.Algebra.BigOperators.Group.Finset
import Mathlib.Algebra.Ring.Int.Defs

/-! # The traffic meters of the `pist` protocol

`pist/metrics.go` wraps a peer's message stream in `meteredMsgReadWriter`. Every message read
or written marks two meters chosen by a `switch` on its code: a packets meter by one and a
traffic meter by the message size. This file models:

* **`Meter`** — the meters the two switches use, by class, direction and quantity;
* **`readArms`**, **`writeArms`**, **`select`**, **`markMsg`** — the two switches and the marking;
* **`readMsg`**, **`writeMsg`**, **`newMeteredMsgWriter`**, **`run`** — the wrapper's methods and
  a run of them on one stream.

What the meters are for is stated apart: a message counts once on the packets meter and by its
size on the traffic meter of its class, in its own direction (`MeterPair.intended`). The main
results compare a run with that design:

* **`run_meter`** — every meter holds what the design says, in every run, except that a
  `GetBlockBodiesMsg` written is counted on the inbound `get/head` packets meter and not on the
  outbound one: the last arm of `WriteMsg` is the one whose packets meter points the other way;
* **`run_totals`** — the four totals by direction: no message is lost or counted twice, but
  the packets move between the directions. -/

namespace Pist

namespace Metrics

/-! ## (1) Meters -/

/-- The message classes the meters are kept for, by their registered names:
`prop/txns`, `prop/fhashes`, `prop/fblocks`, `prop/nodeinfo`, `prop/nodeinfohash`,
`req/headers`, `req/fbodies`, `req/states`, `req/receipts`, `get/head`, `get/nodeinfo`,
`misc`. -/
inductive MsgClass where
  | propTxn
  | propFHash
  | propFBlock
  | propNodeInfo
  | propNodeInfoHash
  | reqFHeader
  | reqFBody
  | reqState
  | reqReceipt
  | getHead
  | getNodeInfo
  | misc
deriving DecidableEq, Repr, Fintype

/-- `in` or `out`. -/
inductive Direction where
  | inbound
  | outbound
deriving DecidableEq, Repr, Fintype

/-- `packets` or `traffic`. -/
inductive Quantity where
  | packets
  | traffic
deriving DecidableEq, Repr, Fintype

/-- **A meter**: `⟨.reqFHeader, .inbound, .packets⟩` is `reqFHeaderInPacketsMeter`, registered
as `pist/req/headers/in/packets`. -/
structure Meter where
  /-- The message class. -/
  cls : MsgClass
  /-- The direction. -/
  dir : Direction
  /-- What is counted. -/
  quantity : Quantity
deriving DecidableEq, Repr, Fintype

/-- `Meter.Mark(n)`: the count of meter `m` grows by `n`. -/
def mark (ms : Meter → Int) (m : Meter) (n : Int) : Meter → Int :=
  Function.update ms m (ms m + n)

theorem mark_apply (ms : Meter → Int) (m m' : Meter) (n : Int) :
    mark ms m n m' = ms m' + if m' = m then n else 0 := by
  unfold mark
  split_ifs with h
  · rw [h, Function.update_same]
  · rw [Function.update_noteq h, add_zero]

/-- **The pair of meters a switch arm picks**: a packets meter and a traffic meter. -/
structure MeterPair where
  /-- Marked by one. -/
  packets : Meter
  /-- Marked by the message size. -/
  traffic : Meter
  packets_quantity : packets.quantity = .packets := by rfl
  traffic_quantity : traffic.quantity = .traffic := by rfl

/-- The meters of class `cls` in direction `dir`, e.g. `reqFHeaderInPacketsMeter` and
`reqFHeaderInTrafficMeter`. -/
def MeterPair.of (cls : MsgClass) (dir : Direction) : MeterPair where
  packets := ⟨cls, dir, .packets⟩
  traffic := ⟨cls, dir, .traffic⟩

/-- What marking the pair for a message of `size` bytes adds to meter `m`. -/
def MeterPair.delta (pair : MeterPair) (size : Nat) (m : Meter) : Int :=
  (if m = pair.packets then 1 else 0) + if m = pair.traffic then (size : Int) else 0

/-! ## (2) The switches -/

/-- The message codes the switches compare with (constants of `pist/protocol.go`, not among the
sources). -/
structure MsgCodes where
  blockHeadersMsg : UInt64
  blockBodiesMsg : UInt64
  nodeDataMsg : UInt64
  receiptsMsg : UInt64
  newBlockHashesMsg : UInt64
  newBlockMsg : UInt64
  transactionMsg : UInt64
  tbftNodeInfoMsg : UInt64
  tbftNodeInfoHashMsg : UInt64
  getTbftNodeInfoMsg : UInt64
  getBlockHeadersMsg : UInt64
  getBlockBodiesMsg : UInt64

/-- `p2p.Msg`, by what the meters read. -/
structure Msg where
  /-- `Code`. -/
  code : UInt64
  /-- `Size`, the payload length. -/
  size : UInt32

/-- **`switch` with `case msg.Code == code` arms**: the pair of the first arm whose code is the
message's, else the default. -/
def select (arms : List (UInt64 × MeterPair)) (dflt : MeterPair) (code : UInt64) : MeterPair :=
  match arms.find? (·.1 = code) with
  | some arm => arm.2
  | none => dflt

/-- **The arms of `ReadMsg`**, in source order. -/
def readArms (c : MsgCodes) : List (UInt64 × MeterPair) :=
  [(c.blockHeadersMsg, .of .reqFHeader .inbound),
   (c.blockBodiesMsg, .of .reqFBody .inbound),
   (c.nodeDataMsg, .of .reqState .inbound),
   (c.receiptsMsg, .of .reqReceipt .inbound),
   (c.newBlockHashesMsg, .of .propFHash .inbound),
   (c.newBlockMsg, .of .propFBlock .inbound),
   (c.transactionMsg, .of .propTxn .inbound),
   (c.tbftNodeInfoMsg, .of .propNodeInfo .inbound),
   (c.tbftNodeInfoHashMsg, .of .propNodeInfoHash .inbound),
   (c.getTbftNodeInfoMsg, .of .getNodeInfo .inbound),
   (c.getBlockHeadersMsg, .of .getHead .inbound),
   (c.getBlockBodiesMsg, .of .getHead .inbound)]

/-- The pair the last arm of `WriteMsg` picks: `getHeadInPacketsMeter` with
`getHeadOutTrafficMeter`. -/
def getBlockBodiesOutPair : MeterPair where
  packets := ⟨.getHead, .inbound, .packets⟩
  traffic := ⟨.getHead, .outbound, .traffic⟩

/-- **The arms of `WriteMsg`**, in source order. -/
def writeArms (c : MsgCodes) : List (UInt64 × MeterPair) :=
  [(c.blockHeadersMsg, .of .reqFHeader .outbound),
   (c.blockBodiesMsg, .of .reqFBody .outbound),
   (c.nodeDataMsg, .of .reqState .outbound),
   (c.receiptsMsg, .of .reqReceipt .outbound),
   (c.newBlockHashesMsg, .of .propFHash .outbound),
   (c.newBlockMsg, .of .propFBlock .outbound),
   (c.transactionMsg, .of .propTxn .outbound),
   (c.tbftNodeInfoMsg, .of .propNodeInfo .outbound),
   (c.tbftNodeInfoHashMsg, .of .propNodeInfoHash .outbound),
   (c.getTbftNodeInfoMsg, .of .getNodeInfo .outbound),
   (c.getBlockHeadersMsg, .of .getHead .outbound),
   (c.getBlockBodiesMsg, getBlockBodiesOutPair)]

/-- **`packets.Mark(1); traffic.Mark(int64(msg.Size))`** with the pair the switch picks. -/
def markMsg (arms : List (UInt64 × MeterPair)) (dflt : MeterPair) (ms : Meter → Int)
    (msg : Msg) : Meter → Int :=
  mark (mark ms (select arms dflt msg.code).packets 1) (select arms dflt msg.code).traffic
    msg.size.toNat

/-! ## (3) The wrapper -/

/-- **`(*meteredMsgReadWriter).ReadMsg`**, given what the wrapped stream's `ReadMsg` returned:
an error is passed on with no meter marked; a message marks the pair of its code, or the
`misc/in` pair. -/
def readMsg {ε : Type} (c : MsgCodes) (ms : Meter → Int) :
    Except ε Msg → (Meter → Int) × Except ε Msg
  | .error e => (ms, .error e)
  | .ok msg => (markMsg (readArms c) (.of .misc .inbound) ms msg, .ok msg)

/-- **`(*meteredMsgReadWriter).WriteMsg`**, given what the wrapped stream's `WriteMsg` returns:
the meters are marked first, whatever the write then returns. -/
def writeMsg {ε : Type} (c : MsgCodes) (ms : Meter → Int) (msg : Msg) (sent : Option ε) :
    (Meter → Int) × Option ε :=
  (markMsg (writeArms c) (.of .misc .outbound) ms msg, sent)

/-- The stream a peer uses: the original one, or the metering wrapper around it. -/
inductive MsgReadWriter where
  | plain
  | metered
deriving DecidableEq, Repr

/-- **`newMeteredMsgWriter`**: the original stream when `metrics.Enabled` is false. -/
def newMeteredMsgWriter (enabled : Bool) : MsgReadWriter :=
  if enabled then .metered else .plain

/-- A call on the stream: a `ReadMsg` whose wrapped read returned `r`, or a `WriteMsg` of `msg`
whose wrapped write returned `sent`. -/
inductive Event (ε : Type) where
  | read (r : Except ε Msg)
  | write (msg : Msg) (sent : Option ε)

/-- The meters after one call. -/
def step {ε : Type} (c : MsgCodes) : MsgReadWriter → (Meter → Int) → Event ε → Meter → Int
  | .plain, ms, _ => ms
  | .metered, ms, .read r => (readMsg c ms r).1
  | .metered, ms, .write msg sent => (writeMsg c ms msg sent).1

/-- The meters after a run of calls on one stream. -/
def run {ε : Type} (c : MsgCodes) (rw : MsgReadWriter) (ms : Meter → Int) (es : List (Event ε)) :
    Meter → Int :=
  es.foldl (step c rw) ms

/-! ## (4) What the meters are for -/

/-- The class of each code, in the order of the switches. -/
def classes (c : MsgCodes) : List (UInt64 × MsgClass) :=
  [(c.blockHeadersMsg, .reqFHeader), (c.blockBodiesMsg, .reqFBody), (c.nodeDataMsg, .reqState),
   (c.receiptsMsg, .reqReceipt), (c.newBlockHashesMsg, .propFHash), (c.newBlockMsg, .propFBlock),
   (c.transactionMsg, .propTxn), (c.tbftNodeInfoMsg, .propNodeInfo),
   (c.tbftNodeInfoHashMsg, .propNodeInfoHash), (c.getTbftNodeInfoMsg, .getNodeInfo),
   (c.getBlockHeadersMsg, .getHead), (c.getBlockBodiesMsg, .getHead)]

/-- **The class of a message**: that of the first row with its code, else `misc`. -/
def classOf (c : MsgCodes) (code : UInt64) : MsgClass :=
  match (classes c).find? (·.1 = code) with
  | some row => row.2
  | none => .misc

/-- **The meters a message should mark**: those of its class, in its direction. -/
def MeterPair.intended (c : MsgCodes) (dir : Direction) (code : UInt64) : MeterPair :=
  .of (classOf c code) dir

/-- The message a call carries past the wrapper, with its direction: a failed read carries
none. -/
def Event.metered {ε : Type} : Event ε → Option (Msg × Direction)
  | .read (.ok msg) => some (msg, .inbound)
  | .read (.error _) => none
  | .write msg _ => some (msg, .outbound)

/-- What a call should add to meter `m`. -/
def intendedDelta {ε : Type} (c : MsgCodes) (m : Meter) (e : Event ε) : Int :=
  match e.metered with
  | some (msg, dir) => (MeterPair.intended c dir msg.code).delta msg.size.toNat m
  | none => 0

/-- A code that reaches the last arm of `WriteMsg`: `GetBlockBodiesMsg`, equal to none of the
codes before it. -/
def ReachesBodiesArm (c : MsgCodes) (code : UInt64) : Prop :=
  (classes c).dropLast.find? (·.1 = code) = none ∧ code = c.getBlockBodiesMsg

instance (c : MsgCodes) (code : UInt64) : Decidable (ReachesBodiesArm c code) :=
  inferInstanceAs (Decidable (_ ∧ _))

/-- A write whose code reaches the last arm of `WriteMsg`. -/
def Event.writesBodies {ε : Type} (c : MsgCodes) : Event ε → Bool
  | .write msg _ => decide (ReachesBodiesArm c msg.code)
  | .read _ => false

/-- The number of such writes in a run. -/
def bodiesWrites {ε : Type} (c : MsgCodes) (es : List (Event ε)) : Nat :=
  es.countP (Event.writesBodies c)

/-- What the last arm of `WriteMsg` adds to meter `m` beyond what it should: one packet more on
the inbound `get/head` meter and one less on the outbound one. -/
def Meter.moved (m : Meter) : Int :=
  (if m = ⟨.getHead, .inbound, .packets⟩ then 1 else 0) -
    if m = ⟨.getHead, .outbound, .packets⟩ then 1 else 0

/-! ## (5) One call -/

theorem markMsg_apply (arms : List (UInt64 × MeterPair)) (dflt : MeterPair) (ms : Meter → Int)
    (msg : Msg) (m : Meter) :
    markMsg arms dflt ms msg m = ms m + (select arms dflt msg.code).delta msg.size.toNat m := by
  rw [markMsg, mark_apply, mark_apply, MeterPair.delta, add_assoc]

theorem select_map (l : List (UInt64 × MsgClass)) (f : MsgClass → MeterPair) (d : MsgClass)
    (code : UInt64) :
    select (l.map fun r => (r.1, f r.2)) (f d) code =
      f (match l.find? (·.1 = code) with
        | some r => r.2
        | none => d) := by
  simp only [select, List.find?_map, Function.comp_def]
  cases l.find? (·.1 = code) <;> rfl

/-- **`ReadMsg` marks the intended meters.** -/
theorem select_readArms (c : MsgCodes) (code : UInt64) :
    select (readArms c) (.of .misc .inbound) code = .intended c .inbound code :=
  select_map (classes c) (MeterPair.of · .inbound) .misc code

/-- **`WriteMsg` marks the intended meters**, but on the last arm. -/
theorem select_writeArms (c : MsgCodes) (code : UInt64) :
    select (writeArms c) (.of .misc .outbound) code =
      if ReachesBodiesArm c code then getBlockBodiesOutPair else .intended c .outbound code := by
  have hw : writeArms c = ((classes c).dropLast.map fun r => (r.1, MeterPair.of r.2 .outbound)) ++
      [(c.getBlockBodiesMsg, getBlockBodiesOutPair)] := rfl
  have hc : classes c = (classes c).dropLast ++ [(c.getBlockBodiesMsg, .getHead)] := rfl
  rw [MeterPair.intended, classOf, hc, select, hw, List.find?_append, List.find?_append,
    List.find?_map]
  cases hf : (classes c).dropLast.find? (·.1 = code) with
  | some r => simp [ReachesBodiesArm, hf, Function.comp_def]
  | none =>
    by_cases h : code = c.getBlockBodiesMsg
    · subst h
      simp [ReachesBodiesArm, hf, Function.comp_def]
    · simp [ReachesBodiesArm, hf, h, Ne.symm h, Function.comp_def]

/-- What the last arm of `WriteMsg` adds, against what it should add: one packet moves from the
outbound to the inbound `get/head` meter. -/
theorem getBlockBodiesOutPair_delta (c : MsgCodes) (code : UInt64) (h : ReachesBodiesArm c code)
    (size : Nat) (m : Meter) :
    getBlockBodiesOutPair.delta size m = (MeterPair.intended c .outbound code).delta size m +
      m.moved := by
  have hcls : classOf c code = .getHead := by
    rw [classOf, show classes c = (classes c).dropLast ++ [(c.getBlockBodiesMsg, .getHead)] from rfl,
      List.find?_append, h.1]
    simp [h.2]
  simp only [MeterPair.delta, MeterPair.intended, hcls, MeterPair.of, getBlockBodiesOutPair,
    Meter.moved]
  split_ifs <;> simp_all

/-- What a call adds to a meter beyond what it should. -/
def misrouted {ε : Type} (c : MsgCodes) (m : Meter) (e : Event ε) : Int :=
  if e.writesBodies c then m.moved else 0

/-- **One call on the metering wrapper**: it adds to each meter what it should, and what
`misrouted` says. -/
theorem step_apply {ε : Type} (c : MsgCodes) (ms : Meter → Int) (e : Event ε) (m : Meter) :
    step c .metered ms e m = ms m + intendedDelta c m e + misrouted c m e := by
  cases e with
  | read r =>
    cases r with
    | error err => simp [step, readMsg, intendedDelta, Event.metered, misrouted, Event.writesBodies]
    | ok msg =>
      simp [step, readMsg, markMsg_apply, select_readArms, intendedDelta, Event.metered, misrouted,
        Event.writesBodies]
  | write msg sent =>
    simp only [step, writeMsg, markMsg_apply, select_writeArms, intendedDelta, Event.metered,
      misrouted, Event.writesBodies, decide_eq_true_eq]
    by_cases h : ReachesBodiesArm c msg.code
    · rw [if_pos h, if_pos h, getBlockBodiesOutPair_delta c msg.code h, add_assoc]
    · rw [if_neg h, if_neg h, add_zero]

/-! ## (6) Runs -/

/-- **A run, meter by meter**: each meter grows by what every call should add, and by what
`misrouted` says. -/
theorem run_apply {ε : Type} (c : MsgCodes) (es : List (Event ε)) :
    ∀ (ms : Meter → Int) (m : Meter), run c .metered ms es m =
      ms m + (es.map (intendedDelta c m)).sum + (es.map (misrouted c m)).sum := by
  induction es with
  | nil => intro ms m; simp [run]
  | cons e es ih =>
    intro ms m
    rw [run, List.foldl_cons, ← run, ih, step_apply]
    simp only [List.map_cons, List.sum_cons]
    omega

theorem bodiesWrites_cons {ε : Type} (c : MsgCodes) (e : Event ε) (es : List (Event ε)) :
    bodiesWrites c (e :: es) = bodiesWrites c es + if e.writesBodies c then 1 else 0 :=
  List.countP_cons _ _ _

theorem sum_misrouted {ε : Type} (c : MsgCodes) (m : Meter) (es : List (Event ε)) :
    (es.map (misrouted c m)).sum = bodiesWrites c es * m.moved := by
  induction es with
  | nil => simp [bodiesWrites]
  | cons e es ih =>
    rw [List.map_cons, List.sum_cons, ih, bodiesWrites_cons, misrouted]
    cases e.writesBodies c <;> simp [Int.add_mul, Int.add_comm]

/-- **Every meter in every run**: what it should hold, but for the packets of the
`GetBlockBodiesMsg` writes, which count on the inbound `get/head` packets meter instead of the
outbound one. -/
theorem run_meter {ε : Type} (c : MsgCodes) (ms : Meter → Int) (es : List (Event ε)) (m : Meter) :
    run c .metered ms es m =
      ms m + (es.map (intendedDelta c m)).sum + bodiesWrites c es * m.moved := by
  rw [run_apply, sum_misrouted]

/-- A `GetBlockBodiesMsg` written from zeroed meters counts one inbound `get/head` packet. -/
example : run ⟨4, 6, 13, 16, 1, 7, 2, 20, 21, 22, 3, 5⟩ .metered (fun _ => 0)
    [Event.write (ε := Unit) ⟨5, 100⟩ none] ⟨.getHead, .inbound, .packets⟩ = 1 := by
  decide

/-! ## (7) Totals by direction -/

/-- What a message counts for on a meter of quantity `q`: one packet, or its size. -/
def Quantity.amount (q : Quantity) (msg : Msg) : Int :=
  match q with
  | .packets => 1
  | .traffic => msg.size.toNat

/-- The sum of the meters of one direction and quantity over every class. -/
def total (ms : Meter → Int) (dir : Direction) (q : Quantity) : Int :=
  ∑ cls, ms ⟨cls, dir, q⟩

/-- The message a call carries past the wrapper in direction `dir`. -/
def Event.passes {ε : Type} (dir : Direction) (e : Event ε) : Option Msg :=
  match e.metered with
  | some (msg, d) => if d = dir then some msg else none
  | none => none

/-- The messages of a run that pass the wrapper in direction `dir`. -/
def messages {ε : Type} (dir : Direction) (es : List (Event ε)) : List Msg :=
  es.filterMap (Event.passes dir)

theorem total_add (f g : Meter → Int) (dir : Direction) (q : Quantity) :
    total (fun m => f m + g m) dir q = total f dir q + total g dir q :=
  Finset.sum_add_distrib

theorem total_delta (k : MsgClass) (d dir : Direction) (q : Quantity) (msg : Msg) :
    total ((MeterPair.of k d).delta msg.size.toNat) dir q = if d = dir then q.amount msg else 0 := by
  by_cases h : d = dir
  · subst h
    cases q <;> simp [total, MeterPair.delta, MeterPair.of, Finset.sum_add_distrib, Quantity.amount]
  · simp [total, MeterPair.delta, MeterPair.of, Ne.symm h, h]

theorem total_intendedDelta {ε : Type} (c : MsgCodes) (e : Event ε) (dir : Direction)
    (q : Quantity) :
    total (intendedDelta c · e) dir q = ((e.passes dir).map q.amount).getD 0 := by
  unfold intendedDelta Event.passes
  rcases e.metered with _ | ⟨msg, d⟩
  · simp [total]
  · simp only [MeterPair.intended, total_delta]
    split_ifs <;> rfl

/-- Over all classes, a misrouted packet moves one from the outbound to the inbound total. -/
theorem total_moved (dir : Direction) (q : Quantity) :
    total Meter.moved dir q =
      match q, dir with
      | .packets, .inbound => 1
      | .packets, .outbound => -1
      | .traffic, _ => 0 := by
  cases q <;> cases dir <;> simp [total, Meter.moved, Finset.sum_sub_distrib]

theorem sum_messages_cons {ε : Type} (dir : Direction) (q : Quantity) (e : Event ε)
    (es : List (Event ε)) :
    ((messages dir (e :: es)).map q.amount).sum =
      ((e.passes dir).map q.amount).getD 0 + ((messages dir es).map q.amount).sum := by
  simp only [messages, List.filterMap_cons]
  cases e.passes dir <;> simp

theorem total_run {ε : Type} (c : MsgCodes) (es : List (Event ε)) (dir : Direction)
    (q : Quantity) : ∀ ms : Meter → Int,
    total (run c .metered ms es) dir q = total ms dir q + ((messages dir es).map q.amount).sum +
      bodiesWrites c es * total Meter.moved dir q := by
  induction es with
  | nil => intro ms; simp [run, messages, bodiesWrites]
  | cons e es ih =>
    intro ms
    have hstep : total (step c .metered ms e) dir q = total ms dir q +
        ((e.passes dir).map q.amount).getD 0 +
        (if e.writesBodies c then total Meter.moved dir q else 0) := by
      simp only [funext (step_apply c ms e), total_add, total_intendedDelta, misrouted]
      split_ifs <;> simp [total]
    rw [run, List.foldl_cons, ← run, ih, hstep, sum_messages_cons, bodiesWrites_cons]
    cases e.writesBodies c <;> simp [Int.add_mul] <;> omega

theorem sum_amount_packets (l : List Msg) : (l.map Quantity.packets.amount).sum = l.length := by
  induction l with
  | nil => rfl
  | cons a l ih =>
    rw [List.map_cons, List.sum_cons, ih, List.length_cons]
    show 1 + _ = _
    omega

theorem amount_traffic : Quantity.traffic.amount = fun msg => (msg.size.toNat : Int) := rfl

/-- **The four totals in every run**: each successful read counts one inbound packet and each
write, failed or not, one outbound packet, but a `GetBlockBodiesMsg` written counts inbound; the
traffic totals are the sizes read and written. No message is lost or counted twice. -/
theorem run_totals {ε : Type} (c : MsgCodes) (ms : Meter → Int) (es : List (Event ε)) :
    total (run c .metered ms es) .inbound .packets =
        total ms .inbound .packets + (messages .inbound es).length + bodiesWrites c es ∧
      total (run c .metered ms es) .outbound .packets =
        total ms .outbound .packets + (messages .outbound es).length - bodiesWrites c es ∧
      total (run c .metered ms es) .inbound .traffic = total ms .inbound .traffic +
        ((messages .inbound es).map fun msg => (msg.size.toNat : Int)).sum ∧
      total (run c .metered ms es) .outbound .traffic = total ms .outbound .traffic +
        ((messages .outbound es).map fun msg => (msg.size.toNat : Int)).sum := by
  simp only [total_run, total_moved, sum_amount_packets, amount_traffic]
  omega

end Metrics

end Pist
