import PjProject.Transition

/-!
# The conference bridge without the audio

The application threads of `conference.c` check a request and put it into a queue, under the mutex of
the bridge; the clock thread takes the operations out again and performs them one by one. A new port is
removed at once, with the operations on it that wait in the queue. What a thread does between two points
at which it holds no mutex is one step, and the steps of the threads come in any order. Every port has a
number of its own, and an operation keeps the numbers of the ports it was asked for; the code has neither.
-/
namespace PjProject.Conference

/-- `struct conf_port`; `listeners` are the slots with the adjustment of their level. -/
structure Port where
  id : ℕ
  listeners : List (ℕ × ℤ)
  transmitterCnt : ℕ
  isNew : Bool
  removing : Bool
  deriving DecidableEq

/-- A listener behind the others, or one taken out by its slot; a transmitter more or less. -/
def Port.listen (sink : ℕ) (level : ℤ) (p : Port) : Port := { p with listeners := p.listeners ++ [(sink, level)] }

def Port.unlisten (sink : ℕ) (p : Port) : Port := { p with listeners := p.listeners.eraseP fun l => l.1 = sink }

def Port.feed (p : Port) : Port := { p with transmitterCnt := p.transmitterCnt + 1 }

def Port.unfeed (p : Port) : Port := { p with transmitterCnt := p.transmitterCnt - 1 }

def Port.setLevel (i sink : ℕ) (level : ℤ) (p : Port) : Port :=
  { p with listeners := p.listeners.set i (sink, level) }

/-- An operation of the queue with its parameters; no slot is `INVALID_SLOT`. -/
inductive Op
  | addPort (port : ℕ)
  | removePort (port : ℕ)
  | connectPorts (src sink : ℕ) (adjLevel : ℤ)
  | disconnectPorts (src sink : Option ℕ)
  | adjustConnLevel (src sink : ℕ) (adjLevel : ℤ)
  deriving DecidableEq

def Op.slots : Op → List ℕ
  | .addPort port | .removePort port => [port]
  | .connectPorts src sink _ | .adjustConnLevel src sink _ => [src, sink]
  | .disconnectPorts src sink => src.toList ++ sink.toList

/-- `op_entry`, with the ports that were in the slots of the operation when it was asked for. -/
structure Entry where
  op : Op
  ids : List ℕ
  deriving DecidableEq

/-- Where the clock thread is: it has taken an operation out of the queue, or has removed a port and
still has to free its slot. -/
inductive Clock
  | idle | took (e : Entry) | removed (e : Entry)
  deriving DecidableEq

/-- `pjmedia_conf`, with the slots of the new ports that application threads are removing. -/
structure Conf where
  maxPorts : ℕ
  ports : ℕ → Option Port
  portCnt : ℕ
  connectCnt : ℕ
  queue : List Entry
  clock : Clock
  removals : List ℕ
  created : ℕ

/-- `NORMAL_LEVEL` -/
def normalLevel : ℤ := 128

namespace Conf

def put (slot : ℕ) (p : Option Port) (c : Conf) : Conf := { c with ports := Function.update c.ports slot p }

def modify (slot : ℕ) (f : Port → Port) (c : Conf) : Conf := c.put slot ((c.ports slot).map f)

def sinks (c : Conf) (slot : ℕ) : List ℕ := (c.ports slot).elim [] fun p => p.listeners.map Prod.fst

def usable (c : Conf) (slot : ℕ) : Bool := slot < c.maxPorts ∧ (c.ports slot).any fun p => p.removing = false

def found (c : Conf) (op : Op) : List (Option ℕ) := op.slots.map fun slot => (c.ports slot).map Port.id

def push (op : Op) (c : Conf) : Conf :=
  { c with queue := c.queue ++ [⟨op, (c.found op).reduceOption⟩] }

end Conf

/-- `op_add_port` -/
def opAddPort (port : ℕ) (c : Conf) : Conf :=
  if (c.ports port).any (·.isNew) then
    { c.modify port fun p => { p with isNew := false } with portCnt := c.portCnt + 1 }
  else c

/-- `op_connect_ports` -/
def opConnectPorts (src sink : ℕ) (adjLevel : ℤ) (c : Conf) : Conf :=
  if (c.ports src).isNone ∨ (c.ports sink).isNone ∨ sink ∈ c.sinks src then c
  else
    { (c.modify src (Port.listen sink (adjLevel + normalLevel))).modify sink Port.feed with
      connectCnt := c.connectCnt + 1 }

/-- `op_disconnect_ports` for one connection. -/
def disconnect (src sink : ℕ) (c : Conf) : Conf :=
  if (c.ports src).isNone ∨ (c.ports sink).isNone ∨ sink ∉ c.sinks src then c
  else
    { (c.modify src (Port.unlisten sink)).modify sink Port.unfeed with connectCnt := c.connectCnt - 1 }

def disconnectSinks (src : ℕ) : ℕ → Conf → Conf
  | 0, c => c
  | i + 1, c =>
    match (c.sinks src)[i]? with
    | some sink => disconnectSinks src i (disconnect src sink c)
    | none => disconnectSinks src i c

/-- `op_disconnect_ports` -/
def opDisconnectPorts (src sink : Option ℕ) (c : Conf) : Conf :=
  match src, sink with
  | some src, some sink => disconnect src sink c
  | none, some sink =>
    if (c.ports sink).isNone then c
    else (List.range c.maxPorts).foldl (fun c src => disconnect src sink c) c
  | some src, none => disconnectSinks src (c.sinks src).length c
  | none, none => c

/-- `op_adjust_conn_level` -/
def opAdjustConnLevel (src sink : ℕ) (adjLevel : ℤ) (c : Conf) : Conf :=
  if (c.ports src).isNone ∨ (c.ports sink).isNone ∨ sink ∉ c.sinks src then c
  else c.modify src (Port.setLevel ((c.sinks src).idxOf sink) sink (adjLevel + normalLevel))

/-- `op_remove_port` -/
def opRemovePort (port : ℕ) (c : Conf) : Conf :=
  if (c.ports port).isNone then c
  else opDisconnectPorts (some port) none (opDisconnectPorts none (some port) c)

/-- `op_remove_port2` -/
def opRemovePort2 (port : ℕ) (c : Conf) : Conf :=
  match c.ports port with
  | none => c
  | some p =>
    { c.put port none with portCnt := if p.isNew then c.portCnt else c.portCnt - 1 }

def performOp : Op → Conf → Conf
  | .addPort port => opAddPort port
  | .removePort port => opRemovePort port
  | .connectPorts src sink adjLevel => opConnectPorts src sink adjLevel
  | .disconnectPorts src sink => opDisconnectPorts src sink
  | .adjustConnLevel src sink adjLevel => opAdjustConnLevel src sink adjLevel

def performed (e : Entry) : Clock :=
  match e.op with
  | .removePort _ => .removed e
  | _ => .idle

def afterOp : Op → Conf → Conf
  | .removePort port => opRemovePort2 port
  | _ => id

/-- A step of `handle_op_queue`: an operation is taken out of the queue, it is performed, and the slot of
a removed port is freed. -/
def handleOpQueue (c : Conf) : Conf :=
  match c.clock with
  | .idle =>
    match c.queue with
    | [] => c
    | e :: queue => { c with queue := queue, clock := .took e }
  | .took e => { performOp e.op c with clock := performed e }
  | .removed e => { afterOp e.op c with clock := .idle }

/-- The requests that only queue an operation: all its slots must be usable, and there must be memory for
the entry. -/
def ask (mem : Bool) (op : Op) (c : Conf) : Conf :=
  if op.slots.all c.usable ∧ mem then c.push op else c

/-- `pjmedia_conf_connect_port` -/
def pjmediaConfConnectPort (mem : Bool) (src sink : ℕ) (adjLevel : ℤ) (c : Conf) : Conf :=
  if adjLevel ≥ -128 then ask mem (.connectPorts src sink adjLevel) c else c

/-- `pjmedia_conf_disconnect_port` -/
def pjmediaConfDisconnectPort (mem : Bool) (src sink : ℕ) : Conf → Conf :=
  ask mem (.disconnectPorts (some src) (some sink))

/-- `pjmedia_conf_disconnect_port_from_sources` -/
def pjmediaConfDisconnectPortFromSources (mem : Bool) (sink : ℕ) : Conf → Conf :=
  ask mem (.disconnectPorts none (some sink))

/-- `pjmedia_conf_disconnect_port_from_sinks` -/
def pjmediaConfDisconnectPortFromSinks (mem : Bool) (src : ℕ) : Conf → Conf :=
  ask mem (.disconnectPorts (some src) none)

/-- `pjmedia_conf_adjust_conn_level` -/
def pjmediaConfAdjustConnLevel (mem : Bool) (src sink : ℕ) (adjLevel : ℤ) (c : Conf) : Conf :=
  if adjLevel ≥ -128 then ask mem (.adjustConnLevel src sink adjLevel) c else c

/-- `pjmedia_conf_add_port`; `made` says that the port was created. -/
def pjmediaConfAddPort (made mem : Bool) (c : Conf) : Conf :=
  match (List.range c.maxPorts).find? fun slot => (c.ports slot).isNone with
  | none => c
  | some slot =>
    if made ∧ mem then
      Conf.push (.addPort slot)
        { c.put slot (some ⟨c.created, [], 0, true, false⟩) with created := c.created + 1 }
    else c

def Op.involves (port : ℕ) : Op → Bool
  | .connectPorts src sink _ | .adjustConnLevel src sink _ => src = port ∨ sink = port
  | .disconnectPorts src sink => src = some port ∨ sink = some port
  | _ => false

/-- The loop that cancels the addition of a port and what is queued for it behind that: what is left of
the queue, and whether the addition was found. -/
def cancelOps (port : ℕ) : Bool → List Entry → List Entry × Bool
  | found, [] => ([], found)
  | found, e :: es =>
    if e.op = .addPort port then cancelOps port true es
    else if found ∧ e.op.involves port then cancelOps port found es
    else (e :: (cancelOps port found es).1, (cancelOps port found es).2)

/-- `pjmedia_conf_remove_port`, as far as the end of the function or the place where the mutex is released
for a new port. -/
def pjmediaConfRemovePort (mem : Bool) (port : ℕ) (c : Conf) : Conf :=
  let marked := c.modify port fun p => { p with removing := true }
  if c.usable port then
    if (c.ports port).any (·.isNew) ∧ (cancelOps port false c.queue).2 then
      { marked with queue := (cancelOps port false c.queue).1, removals := port :: c.removals }
    else if mem then { marked with queue := (c.push (.removePort port)).queue }
    else c
  else c

/-- The end of `pjmedia_conf_remove_port` for a new port. -/
def freeNewPort (port : ℕ) (c : Conf) : Conf :=
  if port ∈ c.removals then opRemovePort2 port { c with removals := c.removals.erase port } else c

/-- A call of an application thread, or a step of the clock thread. -/
inductive Input
  | addPort (made mem : Bool)
  | connectPort (mem : Bool) (src sink : ℕ) (adjLevel : ℤ)
  | disconnectPort (mem : Bool) (src sink : ℕ)
  | disconnectPortFromSources (mem : Bool) (sink : ℕ)
  | disconnectPortFromSinks (mem : Bool) (src : ℕ)
  | adjustConnLevel (mem : Bool) (src sink : ℕ) (adjLevel : ℤ)
  | removePort (mem : Bool) (port : ℕ)
  | freeNewPort (port : ℕ)
  | clock

def step (c : Conf) : Input → Conf
  | .addPort made mem => pjmediaConfAddPort made mem c
  | .connectPort mem src sink adjLevel => pjmediaConfConnectPort mem src sink adjLevel c
  | .disconnectPort mem src sink => pjmediaConfDisconnectPort mem src sink c
  | .disconnectPortFromSources mem sink => pjmediaConfDisconnectPortFromSources mem sink c
  | .disconnectPortFromSinks mem src => pjmediaConfDisconnectPortFromSinks mem src c
  | .adjustConnLevel mem src sink adjLevel => pjmediaConfAdjustConnLevel mem src sink adjLevel c
  | .removePort mem port => pjmediaConfRemovePort mem port c
  | .freeNewPort port => freeNewPort port c
  | .clock => handleOpQueue c

/-- `pjmedia_conf_create`: the port of the sound device is in the first slot. -/
def pjmediaConfCreate (maxPorts : ℕ) : Conf :=
  ⟨maxPorts, Function.update (fun _ => none) 0 (some ⟨0, [], 0, false, false⟩), 1, 0, [], .idle, [], 1⟩

end PjProject.Conference
