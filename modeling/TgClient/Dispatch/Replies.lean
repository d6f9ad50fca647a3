import TgClient.Dispatch.Process

/-!
# The Replies of the Dispatcher

What `process` sends of its own: a `pong` for every `ping`, addressed with the id of the
nearest enclosing message, and a `msgs_ack` for every message whose `seqNo` is odd, after
everything sent for the nodes below it. `replies` states this over the tree: a message
position is the top-level value with its `(msgId, seqNo)`, or any container item at any
depth; an `rpc_result` payload is no position of its own.

Besides these fresh packets, `process` returns pending packets to `sendQueue` on
`bad_server_salt`; those come from `msgsByID`.

## Main results

* `MTProto.clearPacketData_eq_ok`, `MTProto.ackMsgIDs_msgsByID`: what the critical sections
  of `process` do to the table, the heap and the queue.
* `pushes_actions`: the packets the actions of `process` push are `replies`.
* `process_replies`: the packets `process` appends to `sendQueue` are the replies of the
  tree, in order, and otherwise packets of `msgsByID`.
-/

namespace TgClient

open Function (update)

/-! ### The replies owed to a tree -/

/-- `msgs_ack([msgId])` for a position with an odd `seqNo`. -/
def ackFor (msgId seqNo : ℤ) : List TL := if seqNo % 2 = 1 then [.msgsAck [msgId]] else []

mutual

/-- The replies owed to the nodes of a value at position `msgId`, the position's own ack
apart: those of each container item, a pong for a ping, and those of an `rpc_result`'s
payload, which is no position. -/
def repliesOf (msgId : ℤ) : TL → List TL
  | .msgContainer items => repliesItems items
  | .rpcResult _ obj => repliesIn msgId obj
  | .ping pingId => [.pong msgId pingId]
  | .badServerSalt .. | .badMsgNotification .. | .msgsStateInfo .. | .newSessionCreated ..
  | .pong .. | .msgsAck _ | .rpcError .. | .config .. | .dcOption .. | .obj .. => []

/-- The replies owed to a possibly `nil` value at position `msgId`, its ack apart. -/
def repliesIn (msgId : ℤ) : Option TL → List TL
  | some data => repliesOf msgId data
  | none => []

/-- The replies owed to the items of a container, item after item. -/
def repliesItems : List MTMessage → List TL
  | [] => []
  | v :: items => repliesItem v ++ repliesItems items

/-- The replies owed to one item: the position `(v.MsgID, v.SeqNo)`. -/
def repliesItem : MTMessage → List TL
  | .mk msgId seqNo _ data => repliesIn msgId data ++ ackFor msgId seqNo

end

/-- The replies owed to a value at position `(msgId, seqNo)`: those of the nodes below it,
then its own ack. -/
def replies (msgId seqNo : ℤ) (x : Option TL) : List TL := repliesIn msgId x ++ ackFor msgId seqNo

/-! ### The pushes of the actions -/

/-- The message of a fresh packet an action pushes. -/
def Action.pushed : Action → Option TL
  | .push msg => some msg
  | _ => none

/-- The messages of the fresh packets the actions push, in order. -/
def pushes : List Action → List TL
  | [] => []
  | a :: as => a.pushed.toList ++ pushes as

@[simp] theorem pushes_nil : pushes [] = [] := rfl

@[simp] theorem pushes_cons (a : Action) (as : List Action) :
    pushes (a :: as) = a.pushed.toList ++ pushes as := rfl

@[simp] theorem pushes_append (as bs : List Action) : pushes (as ++ bs) = pushes as ++ pushes bs := by
  induction as with
  | nil => rfl
  | cons a as ih => simp [ih]

theorem pushes_ackActions (msgId seqNo : ℤ) : pushes (ackActions msgId seqNo) = ackFor msgId seqNo := by
  unfold ackActions ackFor
  split <;> rfl

mutual

theorem pushes_actionsOf (msgId : ℤ) (mp : Bool) :
    ∀ data : TL, pushes (actionsOf msgId mp data) = repliesOf msgId data
  | .msgContainer items => by rw [actionsOf, repliesOf, pushes_actionsItems items]
  | .rpcResult r obj => by
    cases obj with
    | none => rfl
    | some data => simp [actionsOf, actions, repliesOf, repliesIn, pushes_actionsOf msgId false data,
        pushes_ackActions, ackFor, Action.pushed]
  | .badServerSalt .. | .badMsgNotification .. | .msgsStateInfo .. | .newSessionCreated ..
  | .ping _ | .pong .. | .msgsAck _ | .rpcError .. | .config .. | .dcOption .. | .obj .. => rfl

theorem pushes_actionsItems : ∀ items : List MTMessage, pushes (actionsItems items) = repliesItems items
  | [] => rfl
  | .mk msgId seqNo _ data :: items => by
    rw [actionsItems, repliesItems, pushes_append, pushes_actionsItems items, actionsItem, repliesItem]
    cases data with
    | none => simp [actions, repliesIn, Action.pushed, pushes_ackActions]
    | some d => simp [actions, repliesIn, pushes_actionsOf msgId true d, pushes_ackActions]

end

/-- The packets the actions of `process` push are the replies the tree is owed. -/
theorem pushes_actions (msgId seqNo : ℤ) (x : Option TL) (mp : Bool) :
    pushes (actions msgId seqNo x mp) = replies msgId seqNo x := by
  cases x with
  | none => simp [actions, replies, repliesIn, Action.pushed, pushes_ackActions]
  | some d => simp [actions, replies, repliesIn, pushes_actionsOf, pushes_ackActions]

/-! ### What the critical sections do -/

theorem lookup_of_lookup_erase {s : AList (fun _ : ℤ => ℕ)} {r i : ℤ} {q : ℕ}
    (h : (s.erase r).lookup i = some q) : s.lookup i = some q := by
  by_cases hi : i = r
  · subst hi
    simp [AList.lookup_erase] at h
  · rwa [AList.lookup_erase_ne hi] at h

namespace MTProto

/-- `clearPacketData` on each of its three paths. -/
theorem clearPacketData_eq_ok {r : ℤ} {v : Option TL} {m m' : MTProto}
    (e : m.clearPacketData r v = .ok m') :
    (m.msgsByID.lookup r = none ∧ m' = m) ∨
    (∃ p, m.msgsByID.lookup r = some p ∧ (m.packets p).resp = none ∧
      m' = { m with warnings := m.warnings ++ [r], msgsByID := m.msgsByID.erase r }) ∨
    (∃ p c ch, m.msgsByID.lookup r = some p ∧ (m.packets p).resp = some c ∧
      (m.chans c).deliver v = .ok ch ∧
      m' = { m with chans := update m.chans c ch,
                    packets := update m.packets p { m.packets p with resp := none },
                    msgsByID := m.msgsByID.erase r }) := by
  unfold clearPacketData at e
  rcases hp : m.msgsByID.lookup r with _ | p
  · simp only [hp, Except.ok.injEq] at e
    exact .inl ⟨rfl, e.symm⟩
  · rcases hc : (m.packets p).resp with _ | c <;> simp only [hp, hc, Except.ok.injEq] at e
    · exact .inr (.inl ⟨p, rfl, hc, e.symm⟩)
    · obtain ⟨ch, hch, e⟩ := bind_eq_ok.mp e
      exact .inr (.inr ⟨p, c, ch, rfl, hc, hch, (Except.ok.inj e).symm⟩)

/-- One id of the ack loop removes at most that entry and changes only the packet under
it. -/
theorem ackMsgID_spec (m : MTProto) (id : ℤ) :
    (m.ackMsgID id).sendQueue = m.sendQueue ∧ (m.ackMsgID id).nextPacket = m.nextPacket ∧
    (m.ackMsgID id).chans = m.chans ∧
    (∀ i q, (m.ackMsgID id).msgsByID.lookup i = some q → m.msgsByID.lookup i = some q) ∧
    ∀ q, (∀ i, m.msgsByID.lookup i ≠ some q) → (m.ackMsgID id).packets q = m.packets q := by
  unfold ackMsgID
  split
  · simp
  · rename_i p hp
    refine ⟨rfl, rfl, rfl, fun i q hq => ?_, fun q hq => ?_⟩
    · dsimp only at hq
      split at hq
      · exact lookup_of_lookup_erase hq
      · exact hq
    · have : q ≠ p := fun h => hq id (h ▸ hp)
      simp [update, this]

/-- The ack loop removes entries only, changes only packets under entries, and leaves the
queue, the heap bound and the channels as they were. -/
theorem ackMsgIDs_msgsByID (ids : List ℤ) (m : MTProto) :
    (m.ackMsgIDs ids).sendQueue = m.sendQueue ∧ (m.ackMsgIDs ids).nextPacket = m.nextPacket ∧
    (m.ackMsgIDs ids).chans = m.chans ∧
    (∀ i q, (m.ackMsgIDs ids).msgsByID.lookup i = some q → m.msgsByID.lookup i = some q) ∧
    ∀ q, (∀ i, m.msgsByID.lookup i ≠ some q) → (m.ackMsgIDs ids).packets q = m.packets q := by
  induction ids generalizing m with
  | nil => simp
  | cons id ids ih =>
    obtain ⟨h₁, h₂, h₃, h₄, h₅⟩ := ackMsgID_spec m id
    obtain ⟨i₁, i₂, i₃, i₄, i₅⟩ := ih (m.ackMsgID id)
    refine ⟨i₁.trans h₁, i₂.trans h₂, i₃.trans h₃, fun i q hq => h₄ i q (i₄ i q hq),
      fun q hq => (i₅ q fun i hi => hq i (h₄ i q hi)).trans (h₅ q hq)⟩

/-- The ack loop changes only the table and the packets. -/
theorem ackMsgIDs_shape (ids : List ℤ) (m : MTProto) :
    ∃ ps t, m.ackMsgIDs ids = { m with packets := ps, msgsByID := t } := by
  induction ids generalizing m with
  | nil => exact ⟨m.packets, m.msgsByID, rfl⟩
  | cons id ids ih =>
    obtain ⟨ps, t, e⟩ := ih (m.ackMsgID id)
    have h₁ : ∃ ps t, m.ackMsgID id = { m with packets := ps, msgsByID := t } := by
      unfold ackMsgID
      split
      · exact ⟨m.packets, m.msgsByID, rfl⟩
      · exact ⟨_, _, rfl⟩
    obtain ⟨ps₁, t₁, e₁⟩ := h₁
    exact ⟨ps, t, by rw [ackMsgIDs_cons, e, e₁]⟩

end MTProto

/-! ### Runs append replies -/

/-- What a run of actions from `m` to `m'` did to `sendQueue`, relative to a heap bound `N`
below which every pending packet lies: the table only lost entries, packets at or above `N`
that existed already are untouched, and the queue grew by packets of the table (below `N`)
and by fresh packets (at or above `N`) that wait for no response and carry `msgs`. -/
structure Appends (N : ℕ) (m m' : MTProto) (msgs : List TL) : Prop where
  table_sub : ∀ i q, m'.msgsByID.lookup i = some q → m.msgsByID.lookup i = some q
  next_le : m.nextPacket ≤ m'.nextPacket
  frame : ∀ q, N ≤ q → q < m.nextPacket → m'.packets q = m.packets q
  queue : ∃ added, m'.sendQueue = m.sendQueue ++ added ∧
    (∀ q ∈ added, (q < N → ∃ i, m.msgsByID.lookup i = some q) ∧
      (N ≤ q → m.nextPacket ≤ q ∧ q < m'.nextPacket ∧ (m'.packets q).resp = none)) ∧
    (added.filter (N ≤ ·)).map (fun q => (m'.packets q).msg) = msgs

namespace Appends

variable {N : ℕ} {m m₁ m₂ : MTProto}

/-- A step that adds nothing to the queue and changes packets only under table entries. -/
theorem of_frame {m' : MTProto} (hb : ∀ i q, m.msgsByID.lookup i = some q → q < N)
    (ht : ∀ i q, m'.msgsByID.lookup i = some q → m.msgsByID.lookup i = some q)
    (hn : m'.nextPacket = m.nextPacket) (hq : m'.sendQueue = m.sendQueue)
    (hp : ∀ q, (∀ i, m.msgsByID.lookup i ≠ some q) → m'.packets q = m.packets q) :
    Appends N m m' [] :=
  ⟨ht, hn.ge, fun q hq _ => hp q fun i hi => absurd (hb i q hi) (by omega),
    ⟨[], by simp [hq], by simp, rfl⟩⟩

theorem refl : Appends N m m [] := ⟨fun _ _ h => h, le_rfl, fun _ _ _ => rfl, ⟨[], by simp, by simp, rfl⟩⟩

theorem trans {msgs₁ msgs₂ : List TL} (h₁ : Appends N m m₁ msgs₁) (h₂ : Appends N m₁ m₂ msgs₂) :
    Appends N m m₂ (msgs₁ ++ msgs₂) := by
  obtain ⟨a₁, e₁, p₁, f₁⟩ := h₁.queue
  obtain ⟨a₂, e₂, p₂, f₂⟩ := h₂.queue
  refine ⟨fun i q h => h₁.table_sub i q (h₂.table_sub i q h), h₁.next_le.trans h₂.next_le,
    fun q hN hq => (h₂.frame q hN (by have := h₁.next_le; omega)).trans (h₁.frame q hN hq),
    a₁ ++ a₂, by rw [e₂, e₁, List.append_assoc], fun q hq => ?_, ?_⟩
  · rcases List.mem_append.mp hq with hq | hq
    · obtain ⟨t, u⟩ := p₁ q hq
      refine ⟨t, fun hN => ?_⟩
      obtain ⟨u₁, u₂, u₃⟩ := u hN
      exact ⟨u₁, by have := h₂.next_le; omega, by rwa [h₂.frame q hN u₂]⟩
    · obtain ⟨t, u⟩ := p₂ q hq
      refine ⟨fun hN => ?_, fun hN => ?_⟩
      · obtain ⟨i, hi⟩ := t hN
        exact ⟨i, h₁.table_sub i q hi⟩
      · obtain ⟨u₁, u₂, u₃⟩ := u hN
        exact ⟨by have := h₁.next_le; omega, u₂, u₃⟩
  · rw [List.filter_append, List.map_append, f₂, ← f₁]
    congr 1
    refine List.map_congr_left fun q hq => ?_
    obtain ⟨hq, hN⟩ := List.mem_filter.mp hq
    have hN : N ≤ q := of_decide_eq_true hN
    rw [h₂.frame q hN ((p₁ q hq).2 hN).2.1]

end Appends

/-- Every pending packet lies below `N`. -/
def TableBelow (N : ℕ) (m : MTProto) : Prop := ∀ i q, m.msgsByID.lookup i = some q → q < N

theorem Appends.tableBelow {N : ℕ} {m m' : MTProto} {msgs : List TL} (h : Appends N m m' msgs)
    (hb : TableBelow N m) : TableBelow N m' :=
  fun i q hq => hb i q (h.table_sub i q hq)

/-- One action appends what it pushes. -/
theorem Action.exec_appends {N : ℕ} {m m' : MTProto} (a : Action) (hb : TableBelow N m)
    (hN : N ≤ m.nextPacket) (e : a.exec m = .ok m') : Appends N m m' (pushes [a]) := by
  cases a with
  | clear r v =>
    rcases MTProto.clearPacketData_eq_ok e with ⟨-, rfl⟩ | ⟨p, hp, -, rfl⟩ | ⟨p, c, ch, hp, -, -, rfl⟩
    · exact .refl
    · exact .of_frame hb (fun _ _ => lookup_of_lookup_erase) rfl rfl fun _ _ => rfl
    · refine .of_frame hb (fun _ _ => lookup_of_lookup_erase) rfl rfl fun q hq => ?_
      have : q ≠ p := fun h => hq r (h ▸ hp)
      simp [update, this]
  | setSalt s =>
    cases e
    exact .of_frame hb (fun _ _ h => h) rfl rfl fun _ _ => rfl
  | resend =>
    cases e
    refine ⟨by simp [AList.lookup_empty], le_rfl, fun _ _ _ => rfl,
      m.msgsByID.entries.map Sigma.snd, by simp, fun q hq => ?_, ?_⟩
    · obtain ⟨⟨i, q'⟩, hi, rfl⟩ := List.mem_map.mp hq
      have hl : m.msgsByID.lookup i = some q' := AList.mem_lookup_iff.mpr hi
      exact ⟨fun _ => ⟨i, hl⟩, fun h => absurd (hb i q' hl) (by simp only at h; omega)⟩
    · rw [List.filter_eq_nil_iff.mpr fun q hq => ?_]
      · rfl
      obtain ⟨⟨i, q'⟩, hi, rfl⟩ := List.mem_map.mp hq
      simpa using hb i q' (AList.mem_lookup_iff.mpr hi)
  | ack ids =>
    cases e
    obtain ⟨h₁, h₂, -, h₄, h₅⟩ := MTProto.ackMsgIDs_msgsByID ids m
    exact .of_frame hb h₄ h₂ h₁ h₅
  | push msg =>
    cases e
    refine ⟨fun _ _ h => h, by simp, fun q _ hq => ?_, [m.nextPacket], rfl, ?_, ?_⟩
    · simp [update, hq.ne]
    · simp [newPacket, not_lt.mpr hN]
    · simp [hN, Action.pushed, newPacket]
  | handle mp x =>
    cases e
    unfold MTProto.passToHandler
    split <;> exact .of_frame hb (fun _ _ h => h) rfl rfl fun _ _ => rfl

/-- A run of actions appends what the actions push. -/
theorem runActions_appends {N : ℕ} :
    ∀ (as : List Action) {m m' : MTProto}, TableBelow N m → N ≤ m.nextPacket →
      runActions as m = .ok m' → Appends N m m' (pushes as)
  | [], m, m', _, _, e => by
    cases e
    exact .refl
  | a :: as, m, m', hb, hN, e => by
    obtain ⟨m₁, e₁, e₂⟩ := bind_eq_ok.mp e
    have h₁ := a.exec_appends hb hN e₁
    have h₂ := runActions_appends as (h₁.tableBelow hb) (hN.trans h₁.next_le) e₂
    simpa using h₁.trans h₂

/-- **The replies of `process`.** For every client whose pending packets all lie on its
heap, and every tree `x` processed as `process(msgId, seqNo, x, mayPassToHandler)` without a
fault: `process` appends to `sendQueue` packets of `msgsByID`, returned there by
`bad_server_salt`, and fresh packets that wait for no response; the fresh ones carry exactly
`replies msgId seqNo x`, in order — a pong for every ping, addressed with the nearest
enclosing position's id, and a `msgs_ack` for every position with an odd `seqNo` (never for
an `rpc_result` payload), each after everything sent for the nodes below it. -/
theorem process_replies (m : MTProto) (msgId seqNo : ℤ) (x : Option TL) (mp : Bool) (m' : MTProto)
    (hm : ∀ i q, m.msgsByID.lookup i = some q → q < m.nextPacket)
    (e : m.process msgId seqNo x mp = .ok m') :
    ∃ added, m'.sendQueue = m.sendQueue ++ added ∧
      (added.filter (m.nextPacket ≤ ·)).map (fun q => (m'.packets q).msg) = replies msgId seqNo x ∧
      ∀ q ∈ added, (q < m.nextPacket → ∃ i, m.msgsByID.lookup i = some q) ∧
        (m.nextPacket ≤ q → (m'.packets q).resp = none) := by
  rw [process_eq_runActions] at e
  obtain ⟨added, e₁, h₁, h₂⟩ := (runActions_appends _ hm le_rfl e).queue
  exact ⟨added, e₁, h₂.trans (pushes_actions msgId seqNo x mp),
    fun q hq => ⟨(h₁ q hq).1, fun h => ((h₁ q hq).2 h).2.2⟩⟩

/-- Scenario 2 of the specification, received at `(20, 2)`: a container of `ping{1}` at
`(10, 1)` and `rpc_result{7, boolTrue}` at `(12, 3)`. -/
def pingAndResult : TL :=
  .msgContainer [.mk 10 1 0 (some (.ping 1)), .mk 12 3 0 (some (.rpcResult 7 (some (.obj crcBoolTrue []))))]

/-- Its replies: a pong to 10, then the acks of 10 and 12. -/
example : replies 20 2 (some pingAndResult) = [.pong 10 1, .msgsAck [10], .msgsAck [12]] := rfl

/-- On a fresh client the container is processed without a fault, and the packets appended
are its replies: a pong to 10, then the acks of 10 and 12. -/
theorem process_pingAndResult :
    ∃ m', (newMTProto ⟨2, [], [], 0, [], 0⟩).process 20 2 (some pingAndResult) true = .ok m' ∧
      ∃ added, m'.sendQueue = [] ++ added ∧
        (added.filter (0 ≤ ·)).map (fun q => (m'.packets q).msg) = replies 20 2 (some pingAndResult) ∧
        ∀ q ∈ added, (q < 0 → ∃ i, (∅ : AList (fun _ : ℤ => ℕ)).lookup i = some q) ∧
          (0 ≤ q → (m'.packets q).resp = none) := by
  obtain ⟨m', e⟩ : ∃ m', (newMTProto ⟨2, [], [], 0, [], 0⟩).process 20 2 (some pingAndResult) true =
      .ok m' := ⟨_, rfl⟩
  exact ⟨m', e, process_replies _ 20 2 _ true m'
    (fun _ _ h => by simp [newMTProto, AList.lookup_empty] at h) e⟩

end TgClient
