import TgClient.Dispatch.State

/-!
# The Dispatcher

`MTProto.process(msgId, seqNo, dataTL, mayPassToHandler)`, the recursion the read routine
runs on every decoded object: containers recurse on their items, `rpc_result` recurses on
its payload (with `seqNo = 0` and no pass-through) before completing the request, and every
odd `seqNo` is acknowledged after its value has been handled.

Go's type switch dispatches on the dynamic type of `dataTL`; a `nil` value falls to the
`default` branch. The recursion is structural, over the value.

`actions` lists what `process` does to the client, one `Action` per critical section or
send, in the order `process` does it: the nodes of the value in processing order.

## Main results

* `process_eq_runActions`: `process` is the left-to-right run of its actions.
-/

namespace TgClient

namespace MTProto

/-- The `default` branch of `process`: `go m.handleEvent(dataTL)` when the value may be
passed on and a handler is set. -/
def passToHandler (mayPassToHandler : Bool) (dataTL : Option TL) (m : MTProto) : MTProto :=
  if mayPassToHandler && m.hasHandler then { m with events := m.events ++ [dataTL] } else m

/-- The acknowledgement at the end of `process`: `if (seqNo & 1) == 1`, enqueue
`TL_msgs_ack{[]int64{msgId}}`. For an `int32`, `seqNo & 1` is `seqNo` mod 2. -/
def ackOdd (msgId seqNo : ℤ) (m : MTProto) : MTProto :=
  if seqNo % 2 = 1 then m.pushNew (.msgsAck [msgId]) else m

mutual

/-- The `switch data := dataTL.(type)` of `process`, on a non-`nil` value. -/
def dispatch (msgId : ℤ) (mayPassToHandler : Bool) : TL → MTProto → Except Fault MTProto
  | .msgContainer items => processItems items
  | .badServerSalt _ _ _ newServerSalt => fun m =>
    .ok (m.setServerSalt newServerSalt).saveSessionLogged.resendPendingPackets
  | data@(.badMsgNotification badMsgID _ _) => clearPacketData badMsgID (some data)
  | data@(.msgsStateInfo reqMsgID _) => clearPacketData reqMsgID (some data)
  | .newSessionCreated _ _ serverSalt => fun m => .ok (m.setServerSalt serverSalt).saveSessionLogged
  | .ping pingID => fun m => .ok (m.pushNew (.pong msgId pingID))
  | .pong _ _ => .ok
  | .msgsAck msgIds => fun m => .ok (m.ackMsgIDs msgIds)
  | .rpcResult reqMsgID obj => fun m => process msgId 0 obj false m >>= clearPacketData reqMsgID obj
  | data => fun m => .ok (m.passToHandler mayPassToHandler (some data))

/-- `MTProto.process(msgId, seqNo, dataTL, mayPassToHandler)`. -/
def process (msgId seqNo : ℤ) : Option TL → Bool → MTProto → Except Fault MTProto
  | some data, mayPassToHandler => fun m =>
    dispatch msgId mayPassToHandler data m >>= fun m => .ok (m.ackOdd msgId seqNo)
  | none, mayPassToHandler => fun m => .ok ((m.passToHandler mayPassToHandler none).ackOdd msgId seqNo)

/-- `for _, v := range data.Items { m.process(v.MsgID, v.SeqNo, v.Data, true) }`. -/
def processItems : List MTMessage → MTProto → Except Fault MTProto
  | [] => .ok
  | v :: items => fun m => processItem v m >>= processItems items

/-- One item of a container. -/
def processItem : MTMessage → MTProto → Except Fault MTProto
  | .mk msgID seqNo _ data => process msgID seqNo data true

end

end MTProto

/-- One step of `process`: a critical section under `m.mutex`, a send on `sendQueue`, or a
handler call. -/
inductive Action where
  /-- `clearPacketData(msgID, response)` -/
  | clear (msgID : ℤ) (response : Option TL)
  /-- `m.session.ServerSalt = salt; m.SaveSessionLogged()` -/
  | setSalt (salt : ℤ)
  /-- `resendPendingPackets()` -/
  | resend
  /-- the `TL_msgs_ack` loop -/
  | ack (msgIds : List ℤ)
  /-- `m.sendQueue <- newPacket(msg, nil)` -/
  | push (msg : TL)
  /-- the `default` branch -/
  | handle (mayPassToHandler : Bool) (dataTL : Option TL)

namespace Action

/-- What an action does to the client. -/
def exec : Action → MTProto → Except Fault MTProto
  | .clear msgID response => MTProto.clearPacketData msgID response
  | .setSalt salt => fun m => .ok (m.setServerSalt salt).saveSessionLogged
  | .resend => fun m => .ok m.resendPendingPackets
  | .ack msgIds => fun m => .ok (m.ackMsgIDs msgIds)
  | .push msg => fun m => .ok (m.pushNew msg)
  | .handle mayPass dataTL => fun m => .ok (m.passToHandler mayPass dataTL)

end Action

/-- Run actions left to right, stopping at the first fault. -/
def runActions : List Action → MTProto → Except Fault MTProto
  | [] => .ok
  | a :: as => fun m => a.exec m >>= runActions as

@[simp] theorem runActions_nil : runActions [] = .ok := rfl

@[simp] theorem runActions_cons (a : Action) (as : List Action) (m : MTProto) :
    runActions (a :: as) m = a.exec m >>= runActions as := rfl

@[simp] theorem runActions_singleton (a : Action) : runActions [a] = a.exec :=
  funext fun m => bind_ok (a.exec m)

theorem runActions_append (as bs : List Action) (m : MTProto) :
    runActions (as ++ bs) m = runActions as m >>= runActions bs := by
  induction as generalizing m with
  | nil => rfl
  | cons a as ih =>
    simp only [List.cons_append, runActions_cons]
    cases a.exec m <;> simp [ih]

/-- The acknowledgement `process` owes a message: `msgs_ack([msgId])` if `seqNo` is odd. -/
def ackActions (msgId seqNo : ℤ) : List Action :=
  if seqNo % 2 = 1 then [.push (.msgsAck [msgId])] else []

mutual

/-- The actions of the type switch of `process` on a non-`nil` value. -/
def actionsOf (msgId : ℤ) (mayPassToHandler : Bool) : TL → List Action
  | .msgContainer items => actionsItems items
  | .badServerSalt _ _ _ newServerSalt => [.setSalt newServerSalt, .resend]
  | data@(.badMsgNotification badMsgID _ _) => [.clear badMsgID (some data)]
  | data@(.msgsStateInfo reqMsgID _) => [.clear reqMsgID (some data)]
  | .newSessionCreated _ _ serverSalt => [.setSalt serverSalt]
  | .ping pingID => [.push (.pong msgId pingID)]
  | .pong _ _ => []
  | .msgsAck msgIds => [.ack msgIds]
  | .rpcResult reqMsgID obj => actions msgId 0 obj false ++ [.clear reqMsgID obj]
  | data => [.handle mayPassToHandler (some data)]

/-- The actions of `process(msgId, seqNo, dataTL, mayPassToHandler)`, in order. -/
def actions (msgId seqNo : ℤ) : Option TL → Bool → List Action
  | some data, mayPassToHandler => actionsOf msgId mayPassToHandler data ++ ackActions msgId seqNo
  | none, mayPassToHandler => .handle mayPassToHandler none :: ackActions msgId seqNo

/-- The actions of a container's items. -/
def actionsItems : List MTMessage → List Action
  | [] => []
  | v :: items => actionsItem v ++ actionsItems items

/-- The actions of one item. -/
def actionsItem : MTMessage → List Action
  | .mk msgID seqNo _ data => actions msgID seqNo data true

end

theorem runActions_ackActions (msgId seqNo : ℤ) (m : MTProto) :
    runActions (ackActions msgId seqNo) m = .ok (m.ackOdd msgId seqNo) := by
  unfold ackActions MTProto.ackOdd
  split <;> rfl

mutual

theorem dispatch_eq_runActions (msgId : ℤ) (mp : Bool) :
    ∀ (data : TL) (m : MTProto),
      MTProto.dispatch msgId mp data m = runActions (actionsOf msgId mp data) m
  | .msgContainer items, m => by
    simp only [MTProto.dispatch, actionsOf, processItems_eq_runActions items m]
  | .rpcResult r obj, m => by
    simp [MTProto.dispatch, actionsOf, runActions_append, process_eq_runActions msgId 0 obj false m,
      Action.exec]
  | .badServerSalt .., _ | .badMsgNotification .., _ | .msgsStateInfo .., _
  | .newSessionCreated .., _ | .ping _, _ | .pong .., _ | .msgsAck _, _ | .rpcError .., _
  | .config .., _ | .dcOption .., _ | .obj .., _ => by
    simp [MTProto.dispatch, actionsOf, Action.exec]

theorem process_eq_runActions (msgId seqNo : ℤ) :
    ∀ (x : Option TL) (mp : Bool) (m : MTProto),
      MTProto.process msgId seqNo x mp m = runActions (actions msgId seqNo x mp) m
  | some data, mp, m => by
    simp only [MTProto.process, actions, runActions_append, dispatch_eq_runActions msgId mp data m]
    cases runActions (actionsOf msgId mp data) m <;> simp [runActions_ackActions]
  | none, mp, m => by
    simp [MTProto.process, actions, Action.exec, runActions_ackActions]

theorem processItems_eq_runActions :
    ∀ (items : List MTMessage) (m : MTProto),
      MTProto.processItems items m = runActions (actionsItems items) m
  | [], m => rfl
  | v :: items, m => by
    simp only [MTProto.processItems, actionsItems, runActions_append,
      processItem_eq_runActions v m]
    cases runActions (actionsItem v) m <;> simp [processItems_eq_runActions items]

theorem processItem_eq_runActions :
    ∀ (v : MTMessage) (m : MTProto), MTProto.processItem v m = runActions (actionsItem v) m
  | .mk msgID seqNo _ data, m => process_eq_runActions msgID seqNo data true m

end

end TgClient
