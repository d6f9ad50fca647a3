import TgClient.Dispatch.Process

/-!
# The Request Multiplexer

The goroutines of a connected client and the channels between them, as a step relation:
callers of `Send`/`SendSync` put fresh packets on `extSendQueue` (capacity 64);
`queueTransferRoutine` moves them to `sendQueue` (capacity 1024) while
`len(sendQueue) < cap(extSendQueue)`; `sendRoutine` takes packets off `sendQueue` and
`send`s them, recording each in `msgsByID`; `readRoutine` runs `process` on every decoded
object, one action at a time; `pingRoutine` enqueues pings; and any number of executions
of `reconnectToDc` (from `reconnectLogged`, which a failing `sendRoutine` or `readRoutine`
starts under `reconnSemaphore`, or from `Reconnect` and `Auth`'s migration, which do not)
stop the workers, snapshot the pending ids, `Connect` again and push the pending packets
back.

A step is one critical section or one channel operation of one goroutine. A send on a
full channel is a step that is not enabled, so the goroutine waits; `resendPendingPackets`
and the end of `reconnectToDc` push one packet per step while they hold `m.mutex`
(`Mux.mutex` names the holder; the one-step critical sections need it free).

`send`, `read` and `GenerateMessageId` are not among the sources. `send` is modelled from
the specification: it gives a packet a message id, keeping the one it already has (so a
resent packet keeps its `msg_id`), records it in `msgsByID` under the mutex, and then
writes. A new id is any value above every earlier one. The socket, the key exchange and the
DC table are not modelled: each write, read, close and connect either succeeds or fails.

The client starts connected, as `InitSessAndConnect` leaves it: the four workers running,
queues and table empty.
-/

namespace TgClient

open Function (update)

/-- `cap(m.extSendQueue)`. -/
def extCap : ℕ := 64

/-- `cap(m.sendQueue)`. -/
def sendCap : ℕ := 1024

/-- `ROUTINES_COUNT`: the workers, and the capacity of `routinesStop`. -/
def routinesCount : ℕ := 4

/-- `TL_invokeWithLayer{TL_Layer, TL_initConnection{..., TL_help_getConfig{}}}`, the request
`Connect` sends with `sendSyncInternal`; its fields are the application's configuration. -/
def invokeWithLayer : TL := .obj 0xda9b0d0d []

/-- Whether a response is a `TL_config`, as `Connect` asserts. -/
def isConfig : Option TL → Bool
  | some (.config ..) => true
  | _ => false

/-- Who runs an execution of `reconnectToDc`. -/
inductive Caller where
  /-- `reconnectLogged`: holds `reconnSemaphore`, retries until it succeeds. -/
  | logged
  /-- `Reconnect`, or `Auth` on `PHONE_MIGRATE_n` / `NETWORK_MIGRATE_n`: returns the error. -/
  | direct
  deriving DecidableEq

/-- Where an execution of `reconnectToDc` is. -/
inductive Phase where
  /-- pushing stop tokens, `left` of them still to push -/
  | stopping (left : ℕ)
  /-- `m.routinesWG.Wait()` -/
  | waiting
  /-- the pending ids are saved; `Connect` is next -/
  | connecting (pendingIDs : List ℤ)
  /-- inside `Connect`'s `sendSyncInternal`, waiting on `resp` -/
  | configuring (pendingIDs : List ℤ) (resp : ℕ)
  /-- `Connect` returned; the pending packets are to be pushed back -/
  | repushing (pendingIDs : List ℤ)
  /-- holding `m.mutex`, pushing the pending packets still in `msgsByID` -/
  | pushing (packets : List ℕ)

/-- A goroutine of the client. -/
inductive Goroutine where
  /-- `queueTransferRoutine`, with the packet taken off `extSendQueue` and not yet pushed -/
  | transfer (held : Option ℕ)
  /-- `sendRoutine`, with the packet taken off `sendQueue` and not yet sent -/
  | sender (held : Option ℕ)
  /-- `readRoutine`: the packets `resendPendingPackets` still has to push (holding the mutex)
  and the actions of `process` still to run -/
  | reader (pushes : List ℕ) (acts : List Action)
  /-- `pingRoutine` -/
  | pinger
  /-- an execution of `reconnectToDc` -/
  | reconnect (caller : Caller) (phase : Phase)

namespace Goroutine

/-- The four workers `Connect` starts and `reconnectToDc` waits for. -/
def isWorker : Goroutine → Bool
  | .reconnect .. => false
  | _ => true

/-- A worker at the top of its loop, where it takes a stop token. -/
def Idle : Goroutine → Prop
  | .transfer none | .sender none | .reader [] [] | .pinger => True
  | _ => False

/-- The packets a goroutine has taken off a queue or the table and will put back. -/
def holds : Goroutine → List ℕ
  | .transfer held | .sender held => held.toList
  | .reader pushes _ => pushes
  | .reconnect _ (.pushing packets) => packets
  | .pinger | .reconnect .. => []

end Goroutine

/-- What `conn.Write` did for `send`. -/
inductive Written where
  | ok
  /-- a closed connection: the routine goes on and will take its stop token -/
  | closed
  /-- any other error: the routine starts `reconnectLogged` and exits -/
  | failed

/-- Whether an action of `process` takes `m.mutex`. -/
def Action.locks : Action → Bool
  | .clear .. | .ack _ | .resend => true
  | _ => false

/-- Whether an action of `process` sends on `sendQueue`. -/
def Action.enqueues : Action → Bool
  | .push _ => true
  | _ => false

namespace MTProto

/-- `resp := make(chan TL, 1)`, at index `m.nextChan`. -/
def makeChan (m : MTProto) : MTProto :=
  { m with chans := update m.chans m.nextChan .empty, nextChan := m.nextChan + 1 }

/-- `m.extSendQueue <- newPacket(msg, resp)` with a fresh `resp`: `Send` and `SendSync`. -/
def sendExt (msg : TL) (m : MTProto) : MTProto :=
  { m.makeChan.alloc (newPacket msg (some m.nextChan)) with
    extSendQueue := m.extSendQueue ++ [m.nextPacket] }

/-- `m.sendQueue <- newPacket(msg, resp)` with a fresh `resp`: `sendSyncInternal`. -/
def sendInternal (msg : TL) (m : MTProto) : MTProto :=
  { m.makeChan.alloc (newPacket msg (some m.nextChan)) with
    sendQueue := m.sendQueue ++ [m.nextPacket] }

/-- `m.sendQueue <- p` for a packet that exists. -/
def enqueue (p : ℕ) (m : MTProto) : MTProto := { m with sendQueue := m.sendQueue ++ [p] }

/-- `<-resp`: take the buffered value. -/
def receive (c : ℕ) (rest : List (Option TL)) (m : MTProto) : MTProto :=
  { m with chans := update m.chans c { m.chans c with buf := rest } }

section Fields

variable (m : MTProto)

@[simp] theorem makeChan_chans : m.makeChan.chans = update m.chans m.nextChan .empty := rfl
@[simp] theorem makeChan_nextChan : m.makeChan.nextChan = m.nextChan + 1 := rfl
@[simp] theorem makeChan_packets : m.makeChan.packets = m.packets := rfl
@[simp] theorem makeChan_nextPacket : m.makeChan.nextPacket = m.nextPacket := rfl

@[simp] theorem sendExt_extSendQueue (x) :
    (m.sendExt x).extSendQueue = m.extSendQueue ++ [m.nextPacket] := rfl
@[simp] theorem sendExt_sendQueue (x) : (m.sendExt x).sendQueue = m.sendQueue := rfl
@[simp] theorem sendExt_msgsByID (x) : (m.sendExt x).msgsByID = m.msgsByID := rfl
@[simp] theorem sendExt_nextPacket (x) : (m.sendExt x).nextPacket = m.nextPacket + 1 := rfl
@[simp] theorem sendExt_nextChan (x) : (m.sendExt x).nextChan = m.nextChan + 1 := rfl
@[simp] theorem sendExt_packets (x) :
    (m.sendExt x).packets = update m.packets m.nextPacket (newPacket x (some m.nextChan)) := rfl
@[simp] theorem sendExt_chans (x) : (m.sendExt x).chans = update m.chans m.nextChan .empty := rfl

@[simp] theorem sendInternal_extSendQueue (x) :
    (m.sendInternal x).extSendQueue = m.extSendQueue := rfl
@[simp] theorem sendInternal_sendQueue (x) :
    (m.sendInternal x).sendQueue = m.sendQueue ++ [m.nextPacket] := rfl
@[simp] theorem sendInternal_msgsByID (x) : (m.sendInternal x).msgsByID = m.msgsByID := rfl
@[simp] theorem sendInternal_nextPacket (x) : (m.sendInternal x).nextPacket = m.nextPacket + 1 :=
  rfl
@[simp] theorem sendInternal_nextChan (x) : (m.sendInternal x).nextChan = m.nextChan + 1 := rfl
@[simp] theorem sendInternal_packets (x) :
    (m.sendInternal x).packets = update m.packets m.nextPacket (newPacket x (some m.nextChan)) :=
  rfl
@[simp] theorem sendInternal_chans (x) :
    (m.sendInternal x).chans = update m.chans m.nextChan .empty := rfl

@[simp] theorem pushNew_extSendQueue (x) : (m.pushNew x).extSendQueue = m.extSendQueue := rfl
@[simp] theorem pushNew_nextChan (x) : (m.pushNew x).nextChan = m.nextChan := rfl

end Fields

end MTProto

/-- The client with its goroutines: besides `MTProto`'s queues, table and heaps, the stop
tokens in `routinesStop`, the goroutine holding `m.mutex` across a multi-step section, the
token in `reconnSemaphore`, the last message id, and the goroutines by id. -/
structure Mux where
  mt : MTProto
  routinesStop : ℕ
  mutex : Option ℕ
  reconnSemaphore : Bool
  lastMsgID : ℤ
  gs : ℕ → Option Goroutine
  nextG : ℕ

namespace Mux

/-- Replace goroutine `g` (`none`: it has returned). -/
def setG (s : Mux) (g : ℕ) (r : Option Goroutine) : Mux := { s with gs := update s.gs g r }

/-- `go r`. -/
def spawn (s : Mux) (r : Goroutine) : Mux :=
  { s with gs := update s.gs s.nextG (some r), nextG := s.nextG + 1 }

section Fields

variable (s : Mux) (g : ℕ) (r : Option Goroutine) (x : Goroutine)

@[simp] theorem setG_mt : (s.setG g r).mt = s.mt := rfl
@[simp] theorem setG_gs : (s.setG g r).gs = update s.gs g r := rfl
@[simp] theorem setG_nextG : (s.setG g r).nextG = s.nextG := rfl
@[simp] theorem setG_mutex : (s.setG g r).mutex = s.mutex := rfl
@[simp] theorem setG_lastMsgID : (s.setG g r).lastMsgID = s.lastMsgID := rfl
@[simp] theorem setG_reconnSemaphore : (s.setG g r).reconnSemaphore = s.reconnSemaphore := rfl
@[simp] theorem setG_routinesStop : (s.setG g r).routinesStop = s.routinesStop := rfl

@[simp] theorem spawn_mt : (s.spawn x).mt = s.mt := rfl
@[simp] theorem spawn_gs : (s.spawn x).gs = update s.gs s.nextG (some x) := rfl
@[simp] theorem spawn_nextG : (s.spawn x).nextG = s.nextG + 1 := rfl
@[simp] theorem spawn_mutex : (s.spawn x).mutex = s.mutex := rfl
@[simp] theorem spawn_lastMsgID : (s.spawn x).lastMsgID = s.lastMsgID := rfl
@[simp] theorem spawn_reconnSemaphore : (s.spawn x).reconnSemaphore = s.reconnSemaphore := rfl

end Fields

/-- `go m.reconnectLogged()`: a new execution if the semaphore is free, else nothing
("reconnection already in progress, aborting"). -/
def reconnectLogged (s : Mux) : Mux :=
  if s.reconnSemaphore then s
  else { s.spawn (.reconnect .logged (.stopping routinesCount)) with reconnSemaphore := true }

/-- `reconnectToDc` returned an error: `reconnectLogged` sleeps and starts over, the other
callers return it. -/
def failReconnect (s : Mux) (g : ℕ) : Caller → Mux
  | .logged => s.setG g (some (.reconnect .logged (.stopping routinesCount)))
  | .direct => s.setG g none

/-- `reconnectToDc` returned `nil`: `reconnectLogged` releases the semaphore. -/
def finishReconnect (s : Mux) (g : ℕ) : Caller → Mux
  | .logged => { s.setG g none with reconnSemaphore := false }
  | .direct => s.setG g none

/-- Modelled from the spec: the part of `send(x)` that takes `m.mutex` — the packet keeps
its message id, or gets the new id `id`, and is recorded in `msgsByID` under it. -/
def record (s : Mux) (p : ℕ) (id : ℤ) : Mux :=
  if (s.mt.packets p).msgID = 0 then
    { s with
      mt := { s.mt with packets := update s.mt.packets p { s.mt.packets p with msgID := id },
                        msgsByID := s.mt.msgsByID.insert id p },
      lastMsgID := id }
  else { s with mt := { s.mt with msgsByID := s.mt.msgsByID.insert (s.mt.packets p).msgID p } }

/-- `sendRoutine` after the write. -/
def afterWrite (s : Mux) (g : ℕ) : Written → Mux
  | .ok | .closed => s.setG g (some (.sender none))
  | .failed => (s.setG g none).reconnectLogged

/-- `resendPendingPackets` in `readRoutine`: pop every pending packet under the mutex, and
hold the mutex while they are pushed. -/
def resend (s : Mux) (g : ℕ) (acts : List Action) : Mux :=
  let popped := s.mt.popPendingPacketsUnlocked
  if popped.1 = [] then { s.setG g (some (.reader [] acts)) with mt := popped.2 }
  else { s.setG g (some (.reader popped.1 acts)) with mt := popped.2, mutex := some g }

/-- The end of `reconnectToDc`: under the mutex, collect the pending packets still in
`msgsByID` and push them back. -/
def repush (s : Mux) (g : ℕ) (c : Caller) (pendingIDs : List ℤ) : Mux :=
  let packets := pendingIDs.filterMap s.mt.msgsByID.lookup
  if packets = [] then s.finishReconnect g c
  else { s.setG g (some (.reconnect c (.pushing packets))) with mutex := some g }

end Mux

/-- One step of one goroutine. -/
inductive Step : Mux → Mux → Prop where
  /-- `Send(msg)` or `SendSync(msg)` puts a fresh packet on `extSendQueue`. -/
  | send (s : Mux) (msg : TL) (h : s.mt.extSendQueue.length < extCap) :
      Step s { s with mt := s.mt.sendExt msg }
  /-- The caller waiting on a response channel receives. -/
  | receive (s : Mux) (c : ℕ) (v : Option TL) (rest : List (Option TL))
      (h : (s.mt.chans c).buf = v :: rest) :
      Step s { s with mt := s.mt.receive c rest }
  /-- `Reconnect()`, or `Auth` on a migration error, calls `reconnectToDc`. -/
  | reconnect (s : Mux) : Step s (s.spawn (.reconnect .direct (.stopping routinesCount)))
  /-- A worker at the top of its loop takes a stop token and returns. -/
  | stop (s : Mux) (g : ℕ) (r : Goroutine) (hg : s.gs g = some r) (hr : r.Idle)
      (ht : 0 < s.routinesStop) :
      Step s { s.setG g none with routinesStop := s.routinesStop - 1 }
  /-- `queueTransferRoutine`: `msg := <-m.extSendQueue`, when `len(sendQueue) < 64`. -/
  | transferTake (s : Mux) (g p : ℕ) (rest : List ℕ) (hg : s.gs g = some (.transfer none))
      (hq : s.mt.sendQueue.length < extCap) (he : s.mt.extSendQueue = p :: rest) :
      Step s { s.setG g (some (.transfer (some p))) with mt := { s.mt with extSendQueue := rest } }
  /-- `queueTransferRoutine`: `m.sendQueue <- msg`. -/
  | transferPush (s : Mux) (g p : ℕ) (hg : s.gs g = some (.transfer (some p)))
      (hq : s.mt.sendQueue.length < sendCap) :
      Step s { s.setG g (some (.transfer none)) with mt := s.mt.enqueue p }
  /-- `sendRoutine`: `x := <-m.sendQueue`. -/
  | senderTake (s : Mux) (g p : ℕ) (rest : List ℕ) (hg : s.gs g = some (.sender none))
      (hq : s.mt.sendQueue = p :: rest) :
      Step s { s.setG g (some (.sender (some p))) with mt := { s.mt with sendQueue := rest } }
  /-- `sendRoutine`: `send(x)` records the packet under a message id, then writes it. -/
  | senderSend (s : Mux) (g p : ℕ) (id : ℤ) (w : Written) (hg : s.gs g = some (.sender (some p)))
      (hm : s.mutex = none) (hid : s.lastMsgID < id) :
      Step s ((s.record p id).afterWrite g w)
  /-- `readRoutine`: a frame is read and decoded; `process` starts on it. -/
  | readerRead (s : Mux) (g : ℕ) (msgId seqNo : ℤ) (data : Option TL)
      (hg : s.gs g = some (.reader [] [])) :
      Step s (s.setG g (some (.reader [] (actions msgId seqNo data true))))
  /-- `readRoutine`: a read fails (not on a closed connection). -/
  | readerFail (s : Mux) (g : ℕ) (hg : s.gs g = some (.reader [] [])) :
      Step s (s.setG g none).reconnectLogged
  /-- `process` runs an action other than `resendPendingPackets`: its critical section needs
  the mutex, and its send needs room in `sendQueue`. -/
  | readerExec (s : Mux) (g : ℕ) (a : Action) (acts : List Action) (mt : MTProto)
      (hg : s.gs g = some (.reader [] (a :: acts))) (ha : a ≠ .resend)
      (hm : a.locks → s.mutex = none) (hq : a.enqueues → s.mt.sendQueue.length < sendCap)
      (e : a.exec s.mt = .ok mt) :
      Step s { s.setG g (some (.reader [] acts)) with mt := mt }
  /-- `process` starts `resendPendingPackets`. -/
  | readerResend (s : Mux) (g : ℕ) (acts : List Action)
      (hg : s.gs g = some (.reader [] (.resend :: acts))) (hm : s.mutex = none) :
      Step s (s.resend g acts)
  /-- `pushPendingPacketsUnlocked` in `resendPendingPackets`: `m.sendQueue <- packet`; the
  last push releases the mutex. -/
  | readerPush (s : Mux) (g p : ℕ) (ps : List ℕ) (acts : List Action)
      (hg : s.gs g = some (.reader (p :: ps) acts)) (hq : s.mt.sendQueue.length < sendCap) :
      Step s { s.setG g (some (.reader ps acts)) with
        mt := s.mt.enqueue p, mutex := if ps = [] then none else s.mutex }
  /-- `pingRoutine`: `m.sendQueue <- newPacket(TL_ping{0xCADACADA}, nil)`. -/
  | ping (s : Mux) (g : ℕ) (hg : s.gs g = some .pinger) (hq : s.mt.sendQueue.length < sendCap) :
      Step s { s with mt := s.mt.pushNew (.ping 0xCADACADA) }
  /-- `reconnectToDc`: `m.routinesStop <- struct{}{}`. -/
  | reconnStop (s : Mux) (g : ℕ) (c : Caller) (k : ℕ)
      (hg : s.gs g = some (.reconnect c (.stopping (k + 1)))) (ht : s.routinesStop < routinesCount) :
      Step s { s.setG g (some (.reconnect c (.stopping k))) with routinesStop := s.routinesStop + 1 }
  /-- `reconnectToDc`: `m.conn.Close()` succeeds (or finds the connection closed). -/
  | reconnClose (s : Mux) (g : ℕ) (c : Caller) (hg : s.gs g = some (.reconnect c (.stopping 0))) :
      Step s (s.setG g (some (.reconnect c .waiting)))
  /-- `reconnectToDc`: `m.conn.Close()` fails otherwise. -/
  | reconnCloseFail (s : Mux) (g : ℕ) (c : Caller)
      (hg : s.gs g = some (.reconnect c (.stopping 0))) :
      Step s (s.failReconnect g c)
  /-- `reconnectToDc`: once no worker runs, drain the stop tokens and save the pending ids. -/
  | reconnWait (s : Mux) (g : ℕ) (c : Caller) (hg : s.gs g = some (.reconnect c .waiting))
      (hw : ∀ g' r, s.gs g' = some r → r.isWorker = false) :
      Step s { s.setG g (some (.reconnect c (.connecting s.mt.msgsByID.keys))) with routinesStop := 0 }
  /-- `Connect`: the connection is up; `sendRoutine` and `readRoutine` start, and
  `sendSyncInternal` sends the configuration request. -/
  | reconnConnect (s : Mux) (g : ℕ) (c : Caller) (ids : List ℤ)
      (hg : s.gs g = some (.reconnect c (.connecting ids))) (hq : s.mt.sendQueue.length < sendCap) :
      Step s { ((s.setG g (some (.reconnect c (.configuring ids s.mt.nextChan)))).spawn
        (.sender none)).spawn (.reader [] []) with mt := s.mt.sendInternal invokeWithLayer }
  /-- `reconnectToDc`: the DC lookup, the dial or the key exchange fails. -/
  | reconnConnectFail (s : Mux) (g : ℕ) (c : Caller) (ids : List ℤ)
      (hg : s.gs g = some (.reconnect c (.connecting ids))) :
      Step s (s.failReconnect g c)
  /-- `Connect` receives the configuration: on a `TL_config` it starts `queueTransferRoutine`
  and `pingRoutine`, on anything else it returns `WrongRespError`. -/
  | reconnConfig (s : Mux) (g : ℕ) (c : Caller) (ids : List ℤ) (ch : ℕ) (v : Option TL)
      (rest : List (Option TL)) (hg : s.gs g = some (.reconnect c (.configuring ids ch)))
      (hb : (s.mt.chans ch).buf = v :: rest) :
      Step s (if isConfig v then
          ((({ s with mt := s.mt.receive ch rest }.setG g (some (.reconnect c (.repushing ids)))).spawn
            (.transfer none)).spawn .pinger)
        else { s with mt := s.mt.receive ch rest }.failReconnect g c)
  /-- `reconnectToDc`: take the mutex and collect the pending packets still pending (no
  lock when no id was saved). -/
  | reconnRepush (s : Mux) (g : ℕ) (c : Caller) (ids : List ℤ)
      (hg : s.gs g = some (.reconnect c (.repushing ids))) (hm : ids = [] ∨ s.mutex = none) :
      Step s (s.repush g c ids)
  /-- `pushPendingPacketsUnlocked` in `reconnectToDc`: `m.sendQueue <- packet`; after the
  last one the mutex is released and `reconnectToDc` returns `nil`. -/
  | reconnPush (s : Mux) (g : ℕ) (c : Caller) (p : ℕ) (ps : List ℕ)
      (hg : s.gs g = some (.reconnect c (.pushing (p :: ps)))) (hq : s.mt.sendQueue.length < sendCap) :
      Step s (if ps = [] then { s with mt := s.mt.enqueue p, mutex := none }.finishReconnect g c
        else { s.setG g (some (.reconnect c (.pushing ps))) with mt := s.mt.enqueue p })

namespace Mux

variable (s : Mux) (g : ℕ) (c : Caller)

@[simp] theorem reconnectLogged_mt : s.reconnectLogged.mt = s.mt := by
  unfold reconnectLogged
  split <;> rfl

@[simp] theorem failReconnect_mt : (s.failReconnect g c).mt = s.mt := by cases c <;> rfl

@[simp] theorem finishReconnect_mt : (s.finishReconnect g c).mt = s.mt := by cases c <;> rfl

@[simp] theorem afterWrite_mt (w : Written) : (s.afterWrite g w).mt = s.mt := by
  cases w <;> simp [afterWrite]

@[simp] theorem resend_mt (acts : List Action) :
    (s.resend g acts).mt = { s.mt with msgsByID := ∅ } := by
  unfold resend
  dsimp only
  split <;> rfl

@[simp] theorem repush_mt (ids : List ℤ) : (s.repush g c ids).mt = s.mt := by
  unfold repush
  dsimp only
  split <;> simp

end Mux

/-- The goroutines `InitSessAndConnect` leaves running. -/
def initRoutines : ℕ → Option Goroutine
  | 0 => some (.sender none)
  | 1 => some (.reader [] [])
  | 2 => some (.transfer none)
  | 3 => some .pinger
  | _ => none

/-- A connected client: the four workers running, nothing queued or pending. -/
def Mux.init (session : SessionInfo) (hasHandler : Bool) : Mux :=
  ⟨{ newMTProto session with hasHandler := hasHandler }, 0, none, false, 0, initRoutines, 4⟩

/-- The states a connected client can reach. -/
inductive Reachable : Mux → Prop where
  | init (session : SessionInfo) (hasHandler : Bool) : Reachable (.init session hasHandler)
  | step {s s' : Mux} : Reachable s → Step s s' → Reachable s'

end TgClient
