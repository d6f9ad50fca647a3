import TgClient.Dispatch.Replies

/-!
# What the Dispatcher Saves and Passes On

Besides the table and the queue, `process` touches the session and the event handler.
`bad_server_salt` and `new_session_created` store the server salt they carry and hand the
session to `SaveSessionLogged`; a value that falls to the `default` branch of the type switch
goes to `go m.handleEvent(dataTL)` when it may be passed on and a handler is set. Both follow
the tree in processing order.

An `rpc_result` payload is processed with `mayPassToHandler` false, so the payload itself
never reaches the handler. The items of a container are processed with `true`, also inside
an `rpc_result` payload, so the items of a container that is a payload do reach it.

## Main results

* `Action.exec_log`: what each action does to the session, the saves and the events.
* `runActions_log`: the same for a run of actions.
* `process_saves`: `process` saves the session once per salt it receives, in processing
  order, each time with that salt, and leaves the last one.
* `process_events`: the handler gets exactly the `default`-branch values at the positions
  that may pass them on, in processing order.
-/

namespace TgClient

/-! ### The salts and events of a tree -/

mutual

/-- The server salts a value's nodes carry, in processing order. -/
def saltsOf : TL → List ℤ
  | .msgContainer items => saltsItems items
  | .rpcResult _ obj => saltsIn obj
  | .badServerSalt _ _ _ newServerSalt => [newServerSalt]
  | .newSessionCreated _ _ serverSalt => [serverSalt]
  | .badMsgNotification .. | .msgsStateInfo .. | .ping _ | .pong .. | .msgsAck _ | .rpcError ..
  | .config .. | .dcOption .. | .obj .. => []

/-- The server salts of a possibly `nil` value. -/
def saltsIn : Option TL → List ℤ
  | some data => saltsOf data
  | none => []

/-- The server salts of a container's items. -/
def saltsItems : List MTMessage → List ℤ
  | [] => []
  | v :: items => saltsItem v ++ saltsItems items

/-- The server salts of one item. -/
def saltsItem : MTMessage → List ℤ
  | .mk _ _ _ data => saltsIn data

end

mutual

/-- The values a handler gets from a value's nodes, `mayPassToHandler` being the flag the
value is processed with: the value itself if it falls to the `default` branch, those of a
container's items, which may pass, and those of an `rpc_result`'s payload, which may not. -/
def eventsOf (mayPassToHandler : Bool) : TL → List (Option TL)
  | .msgContainer items => eventsItems items
  | .rpcResult _ obj => eventsIn false obj
  | .badServerSalt .. | .badMsgNotification .. | .msgsStateInfo .. | .newSessionCreated ..
  | .ping _ | .pong .. | .msgsAck _ => []
  | data => if mayPassToHandler then [some data] else []

/-- The values a handler gets from a possibly `nil` value; a `nil` value falls to the
`default` branch. -/
def eventsIn (mayPassToHandler : Bool) : Option TL → List (Option TL)
  | some data => eventsOf mayPassToHandler data
  | none => if mayPassToHandler then [none] else []

/-- The values a handler gets from a container's items. -/
def eventsItems : List MTMessage → List (Option TL)
  | [] => []
  | v :: items => eventsItem v ++ eventsItems items

/-- The values a handler gets from one item. -/
def eventsItem : MTMessage → List (Option TL)
  | .mk _ _ _ data => eventsIn true data

end

/-! ### The salts and events of the actions -/

namespace Action

/-- The server salt an action stores. -/
def salt : Action → Option ℤ
  | .setSalt salt => some salt
  | _ => none

/-- The values an action hands to a set handler. -/
def event : Action → List (Option TL)
  | .handle mayPassToHandler dataTL => if mayPassToHandler then [dataTL] else []
  | _ => []

/-- **What one action does to the session, the saves and the events**: `setSalt` stores its
salt and saves the session, `handle` hands its value to a set handler if it may, and every
other action leaves them, and the handler, as they were. -/
theorem exec_log {a : Action} {m m' : MTProto} (e : a.exec m = .ok m') :
    m'.hasHandler = m.hasHandler ∧
      m'.session = { m.session with serverSalt := a.salt.getD m.session.serverSalt } ∧
      m'.saved = m.saved ++ (a.salt.map fun s => { m.session with serverSalt := s }).toList ∧
      m'.events = m.events ++ if m.hasHandler then a.event else [] := by
  cases a with
  | clear r v =>
    rcases MTProto.clearPacketData_eq_ok e with ⟨-, rfl⟩ | ⟨p, -, -, rfl⟩ | ⟨p, c, ch, -, -, -, rfl⟩ <;>
      simp [salt, event]
  | ack ids =>
    cases e
    obtain ⟨ps, t, h⟩ := MTProto.ackMsgIDs_shape ids m
    simp [exec, h, salt, event]
  | handle mp d =>
    cases e
    unfold MTProto.passToHandler
    cases mp <;> cases hh : m.hasHandler <;> simp [salt, event, hh]
  | setSalt s | resend | push msg =>
    cases e
    simp [exec, MTProto.setServerSalt, MTProto.saveSessionLogged, MTProto.resendPendingPackets,
      MTProto.popPendingPacketsUnlocked, MTProto.pushPendingPacketsUnlocked, MTProto.pushNew,
      MTProto.alloc, salt, event]

end Action

/-- **A run of actions** saves the session once per salt its actions store, in order, ends
with the last of them, and hands a set handler what its actions hand it. -/
theorem runActions_log : ∀ (as : List Action) {m m' : MTProto}, runActions as m = .ok m' →
    m'.hasHandler = m.hasHandler ∧
      m'.session =
        { m.session with serverSalt := (as.filterMap Action.salt).getLastD m.session.serverSalt } ∧
      m'.saved = m.saved ++ (as.filterMap Action.salt).map (fun s => { m.session with serverSalt := s }) ∧
      m'.events = m.events ++ if m.hasHandler then as.flatMap Action.event else []
  | [], m, m', e => by
    cases e
    simp
  | a :: as, m, m', e => by
    obtain ⟨m₁, e₁, e₂⟩ := bind_eq_ok.mp e
    obtain ⟨h₁, s₁, v₁, ev₁⟩ := a.exec_log e₁
    obtain ⟨h₂, s₂, v₂, ev₂⟩ := runActions_log as e₂
    refine ⟨h₂.trans h₁, ?_, ?_, ?_⟩
    · rw [s₂, s₁, List.filterMap_cons]
      rcases a.salt with _ | s <;> simp only [Option.getD_none, Option.getD_some, List.getLastD_cons]
    · rw [v₂, v₁, s₁, List.filterMap_cons]
      rcases a.salt with _ | s <;> simp
    · rw [ev₂, ev₁, h₁]
      split <;> simp

theorem salts_ackActions (msgId seqNo : ℤ) : (ackActions msgId seqNo).filterMap Action.salt = [] := by
  unfold ackActions
  split <;> rfl

theorem events_ackActions (msgId seqNo : ℤ) : (ackActions msgId seqNo).flatMap Action.event = [] := by
  unfold ackActions
  split <;> rfl

mutual

theorem salts_actionsOf (msgId : ℤ) (mp : Bool) :
    ∀ data : TL, (actionsOf msgId mp data).filterMap Action.salt = saltsOf data
  | .msgContainer items => by rw [actionsOf, saltsOf, salts_actionsItems items]
  | .rpcResult r obj => by
    cases obj with
    | none => rfl
    | some d => simp [actionsOf, actions, saltsOf, saltsIn, salts_actionsOf msgId false d,
        salts_ackActions, Action.salt]
  | .badServerSalt .. | .badMsgNotification .. | .msgsStateInfo .. | .newSessionCreated ..
  | .ping _ | .pong .. | .msgsAck _ | .rpcError .. | .config .. | .dcOption .. | .obj .. => rfl

theorem salts_actionsItems :
    ∀ items : List MTMessage, (actionsItems items).filterMap Action.salt = saltsItems items
  | [] => rfl
  | .mk msgId seqNo _ data :: items => by
    rw [actionsItems, saltsItems, List.filterMap_append, salts_actionsItems items, actionsItem,
      saltsItem]
    cases data with
    | none => simp [actions, saltsIn, Action.salt, salts_ackActions]
    | some d => simp [actions, saltsIn, salts_actionsOf msgId true d, salts_ackActions]

end

mutual

theorem events_actionsOf (msgId : ℤ) (mp : Bool) :
    ∀ data : TL, (actionsOf msgId mp data).flatMap Action.event = eventsOf mp data
  | .msgContainer items => by rw [actionsOf, eventsOf, events_actionsItems items]
  | .rpcResult r obj => by
    cases obj with
    | none => rfl
    | some d => simp [actionsOf, actions, eventsOf, eventsIn, events_actionsOf msgId false d,
        events_ackActions, Action.event]
  | .badServerSalt .. | .badMsgNotification .. | .msgsStateInfo .. | .newSessionCreated ..
  | .ping _ | .pong .. | .msgsAck _ => rfl
  | .rpcError .. | .config .. | .dcOption .. | .obj .. => by
    cases mp <;> rfl

theorem events_actionsItems :
    ∀ items : List MTMessage, (actionsItems items).flatMap Action.event = eventsItems items
  | [] => rfl
  | .mk msgId seqNo _ data :: items => by
    rw [actionsItems, eventsItems, List.flatMap_append, events_actionsItems items, actionsItem,
      eventsItem]
    cases data with
    | none => simp [actions, eventsIn, Action.event, events_ackActions]
    | some d => simp [actions, eventsIn, events_actionsOf msgId true d, events_ackActions]

end

theorem salts_actions (msgId seqNo : ℤ) (x : Option TL) (mp : Bool) :
    (actions msgId seqNo x mp).filterMap Action.salt = saltsIn x := by
  cases x with
  | none => simp [actions, saltsIn, Action.salt, salts_ackActions]
  | some d => simp [actions, saltsIn, salts_actionsOf, salts_ackActions]

theorem events_actions (msgId seqNo : ℤ) (x : Option TL) (mp : Bool) :
    (actions msgId seqNo x mp).flatMap Action.event = eventsIn mp x := by
  cases x with
  | none => cases mp <;> simp [actions, eventsIn, Action.event, events_ackActions]
  | some d => simp [actions, eventsIn, events_actionsOf, events_ackActions]

/-! ### What `process` saves and passes on -/

/-- **`process` saves every salt it receives.** For every client and every tree processed
without a fault, `process` hands the session to `SaveSessionLogged` once per
`bad_server_salt` and `new_session_created` node, in processing order, each time with that
node's salt and nothing else changed, and leaves the session with the last of these salts
(or as it was, if there is none). -/
theorem process_saves (m : MTProto) (msgId seqNo : ℤ) (x : Option TL) (mp : Bool) {m' : MTProto}
    (e : m.process msgId seqNo x mp = .ok m') :
    m'.saved = m.saved ++ (saltsIn x).map (fun s => { m.session with serverSalt := s }) ∧
      m'.session = { m.session with serverSalt := (saltsIn x).getLastD m.session.serverSalt } := by
  rw [process_eq_runActions] at e
  obtain ⟨-, hs, hv, -⟩ := runActions_log _ e
  rw [salts_actions] at hs hv
  exact ⟨hv, hs⟩

/-- A container of a `bad_server_salt` with salt 5 and a `new_session_created` with salt 6:
the session is saved with 5, then with 6, and keeps 6. -/
theorem process_saves_twoSalts :
    ∃ m', (newMTProto ⟨2, [], [], 0, [], 0⟩).process 20 0
        (some (.msgContainer [.mk 10 0 0 (some (.badServerSalt 1 0 48 5)),
          .mk 12 0 0 (some (.newSessionCreated 3 4 6))])) true = .ok m' ∧
      m'.saved = [] ++ [5, 6].map (fun s => { (⟨2, [], [], 0, [], 0⟩ : SessionInfo) with
        serverSalt := s }) ∧
      m'.session = { (⟨2, [], [], 0, [], 0⟩ : SessionInfo) with serverSalt := [5, 6].getLastD 0 } := by
  obtain ⟨m', e⟩ : ∃ m', (newMTProto ⟨2, [], [], 0, [], 0⟩).process 20 0
      (some (.msgContainer [.mk 10 0 0 (some (.badServerSalt 1 0 48 5)),
        .mk 12 0 0 (some (.newSessionCreated 3 4 6))])) true = .ok m' := ⟨_, rfl⟩
  exact ⟨m', e, process_saves _ _ _ _ _ e⟩

/-- **`process` passes on exactly the `default`-branch values at positions.** For every
client and every tree processed without a fault, the values handed to
`go m.handleEvent(...)` are, in processing order, those at the positions that may pass them
on — the top level if `mayPassToHandler` is set, and every container item at any depth,
inside `rpc_result` payloads too — that fall to the `default` branch of the type switch, `nil`
included; never an `rpc_result` payload itself, and nothing without a handler. -/
theorem process_events (m : MTProto) (msgId seqNo : ℤ) (x : Option TL) (mp : Bool) {m' : MTProto}
    (e : m.process msgId seqNo x mp = .ok m') :
    m'.events = m.events ++ if m.hasHandler then eventsIn mp x else [] := by
  rw [process_eq_runActions] at e
  rw [(runActions_log _ e).2.2.2, events_actions]

/-- An `rpc_result` whose payload is a container of one generated object, on a client with a
handler: the payload is not passed on, the container's item is. -/
theorem process_events_payloadItem :
    ∃ m', { newMTProto ⟨2, [], [], 0, [], 0⟩ with hasHandler := true }.process 20 0
        (some (.rpcResult 7 (some (.msgContainer [.mk 10 0 0 (some (.obj 5 []))])))) true =
        .ok m' ∧
      m'.events = [] ++ if true then [some (.obj 5 [])] else [] := by
  obtain ⟨m', e⟩ : ∃ m', { newMTProto ⟨2, [], [], 0, [], 0⟩ with hasHandler := true }.process 20 0
      (some (.rpcResult 7 (some (.msgContainer [.mk 10 0 0 (some (.obj 5 []))])))) true =
      .ok m' := ⟨_, rfl⟩
  exact ⟨m', e, process_events _ _ _ _ _ e⟩

end TgClient
