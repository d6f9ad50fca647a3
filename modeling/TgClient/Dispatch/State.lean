import Mathlib.Data.List.AList
import Mathlib.Logic.Function.Basic
import TgClient.TL

/-!
# The Client State

The fields of `MTProto` that the dispatcher (`MTProto.process`) and the request multiplexer
read and write, and the helpers of `mtproto.go` that change them: `clearPacketData`, the
`TL_msgs_ack` loop of `process`, `popPendingPacketsUnlocked`, `pushPendingPacketsUnlocked`,
`resendPendingPackets` and `SaveSessionLogged`.

Go's `*packetToSend` and `chan TL` are references: one packet can sit in `msgsByID` and in
`sendQueue` at once, and the `packet.resp = nil` of `clearPacketData` is seen by every
holder. Here both are indices into a heap (`packets`, `chans`) with the next free index.
A response channel is a `chan TL` of capacity 1, as `Send`, `SendSync` and
`sendSyncInternal` make it, with a ghost count of the values ever sent on it.

Go's `map` iteration order is unspecified; `msgsByID` is an `AList` (its keys are distinct
by construction) and is iterated in the order of its entries.

`m.mutex` is not a field here: the helpers below are the critical sections, and the
multiplexer (`TgClient.Mux`) runs each of them while it holds the mutex.
-/

namespace TgClient

/-- `SessionInfo`. -/
structure SessionInfo where
  dcID : ℤ
  authKey : Bytes
  authKeyHash : Bytes
  serverSalt : ℤ
  addr : Bytes
  sessionId : ℤ
  deriving DecidableEq, Repr

/-- `packetToSend`. `resp` is `nil` for a packet that waits for no response, and is set to
`nil` once a response has been delivered. -/
structure PacketToSend where
  msgID : ℤ
  seqNo : ℤ
  msg : TL
  resp : Option ℕ
  needAck : Bool

/-- `newPacket(msg, resp)`. -/
def newPacket (msg : TL) (resp : Option ℕ) : PacketToSend := ⟨0, 0, msg, resp, false⟩

/-- A `chan TL` made by `make(chan TL, 1)`: its buffered values, whether it is closed, and
the number of values ever sent on it (a ghost count: Go keeps none). -/
structure RespChan where
  buf : List (Option TL)
  closed : Bool
  sends : ℕ

namespace RespChan

/-- `make(chan TL, 1)`. -/
def empty : RespChan := ⟨[], false, 0⟩

/-- `ch <- v`: a send on a closed channel panics, and one on a full buffer waits for the
receiver. -/
def send (v : Option TL) (ch : RespChan) : Except Fault RespChan :=
  if ch.closed then .error (.panic "send on closed channel")
  else if 1 ≤ ch.buf.length then .error (.blocked "packet.resp <- response")
  else .ok ⟨ch.buf ++ [v], false, ch.sends + 1⟩

/-- `close(ch)`. -/
def close (ch : RespChan) : Except Fault RespChan :=
  if ch.closed then .error (.panic "close of closed channel") else .ok { ch with closed := true }

/-- One delivery of `clearPacketData`: `packet.resp <- response; close(packet.resp)`. -/
def deliver (v : Option TL) (ch : RespChan) : Except Fault RespChan := ch.send v >>= close

/-- A channel nothing has been sent on yet: open, with an empty buffer. -/
def Fresh (ch : RespChan) : Prop := ch.buf = [] ∧ ch.closed = false ∧ ch.sends = 0

/-- What a delivery to a fresh channel leaves: the value, closed, one send. -/
theorem deliver_of_fresh {ch : RespChan} (h : ch.Fresh) (v : Option TL) :
    ch.deliver v = .ok ⟨[v], true, 1⟩ := by
  obtain ⟨hb, hc, hs⟩ := h
  simp [deliver, send, close, hb, hc, hs, bind, Except.bind]

/-- A delivery adds exactly one value and one send, and leaves the channel closed. -/
theorem deliver_eq_ok {ch ch' : RespChan} {v : Option TL} (e : ch.deliver v = .ok ch') :
    ch' = ⟨ch.buf ++ [v], true, ch.sends + 1⟩ := by
  unfold deliver send close at e
  by_cases hc : ch.closed <;> by_cases hb : 1 ≤ ch.buf.length <;>
    simp_all [bind, Except.bind]

end RespChan

/-- The fields of `MTProto` the dispatcher and the multiplexer use, with the heaps of
packets and response channels. -/
structure MTProto where
  session : SessionInfo
  /-- The sessions `SaveSessionLogged` handed to `sessionStore.Save`, oldest first. -/
  saved : List SessionInfo
  extSendQueue : List ℕ
  sendQueue : List ℕ
  msgsByID : AList (fun _ : ℤ => ℕ)
  /-- `m.handleEvent != nil`. -/
  hasHandler : Bool
  /-- The values handed to `go m.handleEvent(...)`, oldest first. -/
  events : List (Option TL)
  /-- The ids of the "second response to message" warnings, oldest first. -/
  warnings : List ℤ
  packets : ℕ → PacketToSend
  nextPacket : ℕ
  chans : ℕ → RespChan
  nextChan : ℕ

/-- `NewMTProtoExt(appCfg, sessStore, logHandler, session)`: empty queues and table, no
handler, nothing allocated (heap cells past the bounds are never read). -/
def newMTProto (session : SessionInfo) : MTProto :=
  ⟨session, [], [], [], ∅, false, [], [], fun _ => newPacket (.msgsAck []) none, 0,
    fun _ => .empty, 0⟩

namespace MTProto

open Function (update)

/-- Put `p` on the heap, at index `m.nextPacket`. -/
def alloc (p : PacketToSend) (m : MTProto) : MTProto :=
  { m with packets := update m.packets m.nextPacket p, nextPacket := m.nextPacket + 1 }

/-- `m.sendQueue <- newPacket(msg, nil)`. -/
def pushNew (msg : TL) (m : MTProto) : MTProto :=
  { m.alloc (newPacket msg none) with sendQueue := m.sendQueue ++ [m.nextPacket] }

/-- `m.session.ServerSalt = salt`. -/
def setServerSalt (salt : ℤ) (m : MTProto) : MTProto :=
  { m with session := { m.session with serverSalt := salt } }

/-- `SaveSessionLogged`: hand the session to the store (a failed save is only logged). -/
def saveSessionLogged (m : MTProto) : MTProto := { m with saved := m.saved ++ [m.session] }

/-- `clearPacketData(msgID, response)`: if `msgID` is pending, deliver `response` once to
its packet's channel and set `resp = nil` (or warn, if it was delivered already), and
delete the entry. -/
def clearPacketData (msgID : ℤ) (response : Option TL) (m : MTProto) : Except Fault MTProto :=
  match m.msgsByID.lookup msgID with
  | none => .ok m
  | some p =>
    match (m.packets p).resp with
    | none => .ok { m with warnings := m.warnings ++ [msgID], msgsByID := m.msgsByID.erase msgID }
    | some c => (m.chans c).deliver response >>= fun ch =>
      .ok { m with chans := update m.chans c ch,
                   packets := update m.packets p { m.packets p with resp := none },
                   msgsByID := m.msgsByID.erase msgID }

/-- One id of the `TL_msgs_ack` loop of `process`: clear `needAck`, and delete the entry if
the packet waits for no response. -/
def ackMsgID (m : MTProto) (id : ℤ) : MTProto :=
  match m.msgsByID.lookup id with
  | none => m
  | some p =>
    { m with packets := update m.packets p { m.packets p with needAck := false },
             msgsByID := if (m.packets p).resp = none then m.msgsByID.erase id else m.msgsByID }

/-- The `TL_msgs_ack` branch of `process`. -/
def ackMsgIDs (msgIds : List ℤ) (m : MTProto) : MTProto := msgIds.foldl ackMsgID m

/-- `popPendingPacketsUnlocked`: every pending packet, in iteration order, and an empty
table. -/
def popPendingPacketsUnlocked (m : MTProto) : List ℕ × MTProto :=
  (m.msgsByID.entries.map Sigma.snd, { m with msgsByID := ∅ })

/-- `pushPendingPacketsUnlocked(packets)`. -/
def pushPendingPacketsUnlocked (packets : List ℕ) (m : MTProto) : MTProto :=
  { m with sendQueue := m.sendQueue ++ packets }

/-- `resendPendingPackets`. -/
def resendPendingPackets (m : MTProto) : MTProto :=
  m.popPendingPacketsUnlocked.2.pushPendingPacketsUnlocked m.popPendingPacketsUnlocked.1

/-! ### Field lemmas -/

section Fields

variable (m : MTProto)

@[simp] theorem alloc_msgsByID (p) : (m.alloc p).msgsByID = m.msgsByID := rfl
@[simp] theorem alloc_chans (p) : (m.alloc p).chans = m.chans := rfl
@[simp] theorem alloc_sendQueue (p) : (m.alloc p).sendQueue = m.sendQueue := rfl
@[simp] theorem alloc_nextPacket (p) : (m.alloc p).nextPacket = m.nextPacket + 1 := rfl
@[simp] theorem alloc_nextChan (p) : (m.alloc p).nextChan = m.nextChan := rfl
@[simp] theorem alloc_extSendQueue (p) : (m.alloc p).extSendQueue = m.extSendQueue := rfl
@[simp] theorem alloc_packets (p) :
    (m.alloc p).packets = update m.packets m.nextPacket p := rfl

@[simp] theorem pushNew_msgsByID (x) : (m.pushNew x).msgsByID = m.msgsByID := rfl
@[simp] theorem pushNew_chans (x) : (m.pushNew x).chans = m.chans := rfl
@[simp] theorem pushNew_nextPacket (x) : (m.pushNew x).nextPacket = m.nextPacket + 1 := rfl
@[simp] theorem pushNew_sendQueue (x) :
    (m.pushNew x).sendQueue = m.sendQueue ++ [m.nextPacket] := rfl
@[simp] theorem pushNew_packets (x) :
    (m.pushNew x).packets = update m.packets m.nextPacket (newPacket x none) := rfl

@[simp] theorem resendPendingPackets_msgsByID : m.resendPendingPackets.msgsByID = ∅ := rfl
@[simp] theorem resendPendingPackets_sendQueue :
    m.resendPendingPackets.sendQueue = m.sendQueue ++ m.msgsByID.entries.map Sigma.snd := rfl

@[simp] theorem ackMsgIDs_nil : m.ackMsgIDs [] = m := rfl
@[simp] theorem ackMsgIDs_cons (id ids) : m.ackMsgIDs (id :: ids) = (m.ackMsgID id).ackMsgIDs ids :=
  rfl

end Fields

end MTProto

end TgClient
