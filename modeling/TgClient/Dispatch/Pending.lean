import TgClient.Dispatch.Replies

/-!
# The Pending Table under the Dispatcher

What `process` does to `msgsByID`, the packets' `resp` and `needAck`, the response
channels, `sendQueue` and the server salt, stated as a left-to-right fold over the nodes of
the tree in processing order (a container's items in order, an `rpc_result`'s payload
before its own completion), with one step per node:

1. `rpc_result(r, v)`, `bad_msg_notification` and `msgs_state_info` about `r` remove `r`
   if present, delivering `v` (or the notification) once to `r`'s channel if it is live;
2. `msgs_ack(ids)` clears `needAck` of each present id and removes it iff its packet has no
   response channel;
3. `bad_server_salt` sets the salt, then moves every entry of the table onto the end of
   `sendQueue` in the table's order, those without a response channel included, and leaves
   the table empty; `new_session_created` sets the salt;
4. a `ping`, and a message with an odd `seqNo`, append a fresh packet without a channel to
   `sendQueue`;
5. every other node leaves all of these as they are.

`Pending` is the part of the client these steps speak of; `MTProto.pending` reads it off a
client, showing only allocated packets.

## Main results

* `Action.exec_pending`: each action of `process` does to `pending` what its node's step
  does.
* `runActions_keeps`: a run of actions never drops a live entry without a delivery to its
  channel or a return to `sendQueue`, and fills a channel only with values addressed to an
  id of the channel's packet.
* `process_pending`: `process` is the fold on the pending table, and loses no waiter.
-/

namespace TgClient

open Function (update)

/-- The pending table, each packet's response channel and `needAck` flag, the channels,
the send queue with the index of the next packet, and the server salt. -/
structure Pending where
  table : AList (fun _ : ℤ => ℕ)
  resp : ℕ → Option ℕ
  needAck : ℕ → Bool
  chans : ℕ → RespChan
  queue : List ℕ
  next : ℕ
  salt : ℤ

namespace Pending

/-- Complete the request `r` with `v`: remove `r` if present, delivering `v` once to its
packet's channel if that is still live. -/
def complete (r : ℤ) (v : Option TL) (P : Pending) : Except Fault Pending :=
  match P.table.lookup r with
  | none => .ok P
  | some p =>
    match P.resp p with
    | none => .ok { P with table := P.table.erase r }
    | some c => (P.chans c).deliver v >>= fun ch =>
      .ok { P with table := P.table.erase r, resp := update P.resp p none,
                   chans := update P.chans c ch }

/-- Acknowledge `id`: if present, clear its `needAck`, and remove it iff its packet has no
response channel. -/
def acknowledge (P : Pending) (id : ℤ) : Pending :=
  match P.table.lookup id with
  | none => P
  | some p =>
    { P with needAck := update P.needAck p false,
             table := if P.resp p = none then P.table.erase id else P.table }

/-- The step of one node of the fold. A resend moves every entry of the table, whether its
packet has a channel or not, onto the end of the queue. -/
def step : Action → Pending → Except Fault Pending
  | .clear r v => complete r v
  | .ack ids => fun P => .ok (ids.foldl acknowledge P)
  | .setSalt salt => fun P => .ok { P with salt := salt }
  | .resend => fun P => .ok { P with table := ∅, queue := P.queue ++ P.table.entries.map Sigma.snd }
  | .push _ => fun P => .ok { P with queue := P.queue ++ [P.next], next := P.next + 1 }
  | .handle .. => .ok

/-- The fold, left to right, stopping at the first fault. -/
def run : List Action → Pending → Except Fault Pending
  | [] => .ok
  | a :: as => fun P => step a P >>= run as

end Pending

/-- The pending part of a client; packets past the heap bound show no channel. -/
def MTProto.pending (m : MTProto) : Pending :=
  ⟨m.msgsByID, fun p => if p < m.nextPacket then (m.packets p).resp else none,
    fun p => decide (p < m.nextPacket) && (m.packets p).needAck, m.chans, m.sendQueue,
    m.nextPacket, m.session.serverSalt⟩

/-! ### Each action is its node's step -/

section Steps

variable {m : MTProto}

/-- A push appends a fresh packet without a channel; the table and the channels stay. -/
theorem pending_pushNew (msg : TL) :
    (m.pushNew msg).pending =
      { m.pending with queue := m.pending.queue ++ [m.pending.next], next := m.pending.next + 1 } := by
  simp only [MTProto.pending, MTProto.pushNew_msgsByID, MTProto.pushNew_chans,
    MTProto.pushNew_nextPacket, MTProto.pushNew_packets, MTProto.pushNew_sendQueue,
    Pending.mk.injEq, true_and, and_true]
  have key : ∀ q, q ≠ m.nextPacket → (q < m.nextPacket + 1 ↔ q < m.nextPacket) := by omega
  refine ⟨?_, ?_, rfl⟩ <;> funext q <;> by_cases hq : q = m.nextPacket <;>
    simp [update, hq, newPacket, key]

theorem clearPacketData_pending (hm : TableBelow m.nextPacket m) (r : ℤ) (v : Option TL) :
    (m.clearPacketData r v).map MTProto.pending = m.pending.complete r v := by
  have hl : m.pending.table.lookup r = m.msgsByID.lookup r := rfl
  unfold MTProto.clearPacketData Pending.complete
  rw [hl]
  rcases hp : m.msgsByID.lookup r with _ | p
  · rfl
  · have hp' : p < m.nextPacket := hm r p hp
    have hr : m.pending.resp p = (m.packets p).resp := if_pos hp'
    simp only [hr]
    rcases hc : (m.packets p).resp with _ | c
    · rfl
    · show ((m.chans c).deliver v >>= _).map _ = (m.chans c).deliver v >>= _
      cases (m.chans c).deliver v with
      | error _ => rfl
      | ok ch =>
        simp only [ok_bind, Except.map, MTProto.pending, Except.ok.injEq, Pending.mk.injEq, true_and,
          and_true]
        constructor <;> funext q <;> by_cases hq : q = p <;> simp [update, hq, hp']

theorem acknowledge_pending (hm : TableBelow m.nextPacket m) (id : ℤ) :
    (m.ackMsgID id).pending = m.pending.acknowledge id := by
  have hl : m.pending.table.lookup id = m.msgsByID.lookup id := rfl
  unfold MTProto.ackMsgID Pending.acknowledge
  rw [hl]
  rcases hp : m.msgsByID.lookup id with _ | p
  · rfl
  · have hp' : p < m.nextPacket := hm id p hp
    simp only [MTProto.pending, Pending.mk.injEq, hp', if_true, true_and, and_true]
    constructor <;> funext q <;> by_cases hq : q = p <;> simp [update, hq, hp']

theorem ackMsgIDs_pending (ids : List ℤ) (hm : TableBelow m.nextPacket m) :
    (m.ackMsgIDs ids).pending = ids.foldl Pending.acknowledge m.pending := by
  induction ids generalizing m with
  | nil => rfl
  | cons id ids ih =>
    obtain ⟨-, h₂, -, h₄, -⟩ := MTProto.ackMsgID_spec m id
    have hm' : TableBelow (m.ackMsgID id).nextPacket (m.ackMsgID id) :=
      fun i q hq => h₂ ▸ hm i q (h₄ i q hq)
    rw [MTProto.ackMsgIDs_cons, ih hm', acknowledge_pending hm, List.foldl_cons]

/-- Each action of `process` does to the pending part what its node's step does. -/
theorem Action.exec_pending (a : Action) (hm : TableBelow m.nextPacket m) :
    (a.exec m).map MTProto.pending = Pending.step a m.pending := by
  cases a with
  | clear r v => exact clearPacketData_pending hm r v
  | ack ids => exact congrArg Except.ok (ackMsgIDs_pending ids hm)
  | push msg => exact congrArg Except.ok (pending_pushNew msg)
  | setSalt _ | resend => rfl
  | handle mp x =>
    show Except.map _ (.ok (m.passToHandler mp x)) = .ok m.pending
    unfold MTProto.passToHandler
    split <;> rfl

end Steps

theorem runActions_pending :
    ∀ (as : List Action) (m : MTProto), TableBelow m.nextPacket m →
      (runActions as m).map MTProto.pending = Pending.run as m.pending
  | [], _, _ => rfl
  | a :: as, m, hm => by
    have h := a.exec_pending hm
    simp only [runActions_cons, Pending.run]
    rcases he : a.exec m with f | m₁
    · rw [he] at h
      rw [← h]
      rfl
    · rw [he] at h
      have hm₁ := (a.exec_appends hm le_rfl he).tableBelow hm
      rw [← h]
      exact runActions_pending as m₁ (fun i q hq => lt_of_lt_of_le (hm₁ i q hq)
        (a.exec_appends hm le_rfl he).next_le)

/-! ### No waiter is lost or misaddressed -/

/-- What a run of actions from `m` to `m'` keeps: the queue and the send counts only grow,
the table only loses entries, a packet's channel changes only by a delivery on it, a live
entry leaves the table only with a delivery to its channel or a return to the queue, and a
channel receives only values some `clear` of the run addressed to an id of its packet. -/
structure Keeps (m m' : MTProto) (as : List Action) : Prop where
  grows : ∃ added, m'.sendQueue = m.sendQueue ++ added
  next_le : m.nextPacket ≤ m'.nextPacket
  table_sub : ∀ i q, m'.msgsByID.lookup i = some q → m.msgsByID.lookup i = some q
  sends_le : ∀ c, (m.chans c).sends ≤ (m'.chans c).sends
  resp_keep : ∀ q c, q < m.nextPacket → (m'.packets q).resp = some c → (m.packets q).resp = some c
  delivered : ∀ q c, q < m.nextPacket → (m.packets q).resp = some c →
    (m'.packets q).resp ≠ some c → (m.chans c).sends < (m'.chans c).sends
  live : ∀ i q c, m.msgsByID.lookup i = some q → (m.packets q).resp = some c →
    m'.msgsByID.lookup i = some q ∨ (m.chans c).sends < (m'.chans c).sends ∨
      q ∈ m'.sendQueue.drop m.sendQueue.length
  buf : ∀ c, ∃ vs, (m'.chans c).buf = (m.chans c).buf ++ vs ∧
    ∀ v ∈ vs, ∃ r q, Action.clear r v ∈ as ∧ m.msgsByID.lookup r = some q ∧
      (m.packets q).resp = some c

namespace Keeps

variable {m m₁ m₂ : MTProto} {as bs : List Action}

/-- A step that leaves the channels and every allocated packet's channel alone, only adds
to the queue, and keeps every live entry. -/
theorem of_frame (hc : m₁.chans = m.chans) (hq : ∃ added, m₁.sendQueue = m.sendQueue ++ added)
    (hn : m.nextPacket ≤ m₁.nextPacket)
    (hr : ∀ q, q < m.nextPacket → (m₁.packets q).resp = (m.packets q).resp)
    (ht : ∀ i q, m₁.msgsByID.lookup i = some q → m.msgsByID.lookup i = some q)
    (hl : ∀ i q c, m.msgsByID.lookup i = some q → (m.packets q).resp = some c →
      m₁.msgsByID.lookup i = some q) : Keeps m m₁ as :=
  ⟨hq, hn, ht, fun c => by rw [hc], fun q c hq h => (hr q hq) ▸ h,
    fun q c hq h h' => absurd (h ▸ hr q hq) h', fun i q c hi hc => .inl (hl i q c hi hc),
    fun c => ⟨[], by simp [hc], by simp⟩⟩

/-- A step that leaves the queue, the table, the channels and the heap of packets as they
are. -/
theorem of_same (hc : m₁.chans = m.chans) (hq : m₁.sendQueue = m.sendQueue)
    (hn : m₁.nextPacket = m.nextPacket) (hp : m₁.packets = m.packets)
    (ht : m₁.msgsByID = m.msgsByID) : Keeps m m₁ as :=
  .of_frame hc ⟨[], by rw [hq, List.append_nil]⟩ hn.ge (fun _ _ => by rw [hp])
    (fun _ _ h => ht ▸ h) fun _ _ _ h _ => ht ▸ h

theorem refl : Keeps m m [] := .of_same rfl rfl rfl rfl rfl

theorem trans (hm : TableBelow m.nextPacket m) (h₁ : Keeps m m₁ as) (h₂ : Keeps m₁ m₂ bs) :
    Keeps m m₂ (as ++ bs) := by
  obtain ⟨a₁, e₁⟩ := h₁.grows
  obtain ⟨a₂, e₂⟩ := h₂.grows
  have hdrop : m₂.sendQueue.drop m.sendQueue.length = a₁ ++ a₂ := by simp [e₂, e₁]
  refine ⟨⟨a₁ ++ a₂, by simp [e₂, e₁]⟩, h₁.next_le.trans h₂.next_le,
    fun i q h => h₁.table_sub i q (h₂.table_sub i q h), fun c => (h₁.sends_le c).trans (h₂.sends_le c),
    fun q c hq h => h₁.resp_keep q c hq (h₂.resp_keep q c (lt_of_lt_of_le hq h₁.next_le) h),
    fun q c hq h h' => ?_, fun i q c hi hc => ?_, fun c => ?_⟩
  · by_cases h₁q : (m₁.packets q).resp = some c
    · exact lt_of_le_of_lt (h₁.sends_le c) (h₂.delivered q c (lt_of_lt_of_le hq h₁.next_le) h₁q h')
    · exact lt_of_lt_of_le (h₁.delivered q c hq h h₁q) (h₂.sends_le c)
  · rw [hdrop]
    rcases h₁.live i q c hi hc with hi₁ | hs | hd
    · by_cases h₁q : (m₁.packets q).resp = some c
      · rcases h₂.live i q c hi₁ h₁q with hi₂ | hs | hd
        · exact .inl hi₂
        · exact .inr (.inl (lt_of_le_of_lt (h₁.sends_le c) hs))
        · rw [e₂, List.drop_left] at hd
          exact .inr (.inr (List.mem_append_right _ hd))
      · exact .inr (.inl (lt_of_lt_of_le (h₁.delivered q c (hm i q hi) hc h₁q) (h₂.sends_le c)))
    · exact .inr (.inl (lt_of_lt_of_le hs (h₂.sends_le c)))
    · rw [e₁, List.drop_left] at hd
      exact .inr (.inr (List.mem_append_left _ hd))
  · obtain ⟨vs₁, b₁, p₁⟩ := h₁.buf c
    obtain ⟨vs₂, b₂, p₂⟩ := h₂.buf c
    refine ⟨vs₁ ++ vs₂, by rw [b₂, b₁, List.append_assoc], fun v hv => ?_⟩
    rcases List.mem_append.mp hv with hv | hv
    · obtain ⟨r, q, hr, hq, hc⟩ := p₁ v hv
      exact ⟨r, q, List.mem_append_left _ hr, hq, hc⟩
    · obtain ⟨r, q, hr, hq, hc⟩ := p₂ v hv
      have hq' := h₁.table_sub r q hq
      exact ⟨r, q, List.mem_append_right _ hr, hq', h₁.resp_keep q c (hm r q hq') hc⟩

end Keeps

/-- The ack loop changes no packet's channel and keeps every entry whose packet has one. -/
theorem ackMsgIDs_keeps (ids : List ℤ) (m : MTProto) :
    (∀ q, ((m.ackMsgIDs ids).packets q).resp = (m.packets q).resp) ∧
    ∀ i q c, m.msgsByID.lookup i = some q → (m.packets q).resp = some c →
      (m.ackMsgIDs ids).msgsByID.lookup i = some q := by
  induction ids generalizing m with
  | nil => exact ⟨fun _ => rfl, fun _ _ _ h _ => h⟩
  | cons id ids ih =>
    have step : (∀ q, ((m.ackMsgID id).packets q).resp = (m.packets q).resp) ∧
        ∀ i q c, m.msgsByID.lookup i = some q → (m.packets q).resp = some c →
          (m.ackMsgID id).msgsByID.lookup i = some q := by
      unfold MTProto.ackMsgID
      split
      · exact ⟨fun _ => rfl, fun _ _ _ h _ => h⟩
      · rename_i p hp
        refine ⟨fun q => by by_cases hq : q = p <;> simp [update, hq], fun i q c hi hc => ?_⟩
        dsimp only
        split
        · rename_i hn
          have hi' : i ≠ id := by
            rintro rfl
            obtain rfl : q = p := Option.some.inj (hi.symm.trans hp)
            simp [hn] at hc
          rwa [AList.lookup_erase_ne hi']
        · exact hi
    obtain ⟨s₁, s₂⟩ := step
    obtain ⟨i₁, i₂⟩ := ih (m.ackMsgID id)
    exact ⟨fun q => (i₁ q).trans (s₁ q),
      fun i q c hi hc => i₂ i q c (s₂ i q c hi hc) ((s₁ q).trans hc)⟩

/-- One action keeps what `Keeps` says. -/
theorem Action.exec_keeps {m m' : MTProto} (a : Action) (e : a.exec m = .ok m') :
    Keeps m m' [a] := by
  cases a with
  | clear r v =>
    rcases MTProto.clearPacketData_eq_ok e with ⟨-, rfl⟩ | ⟨p, hp, hn, rfl⟩ | ⟨p, c, ch, hp, hc, hd, rfl⟩
    · exact .of_same rfl rfl rfl rfl rfl
    · refine .of_frame rfl ⟨[], (List.append_nil _).symm⟩ le_rfl (fun _ _ => rfl) (fun _ _ => lookup_of_lookup_erase)
        fun i q c' hi hc' => ?_
      have hi' : i ≠ r := by
        rintro rfl
        obtain rfl : q = p := Option.some.inj (hi.symm.trans hp)
        simp [hn] at hc'
      rwa [AList.lookup_erase_ne hi']
    · have hch := RespChan.deliver_eq_ok hd
      refine ⟨⟨[], (List.append_nil _).symm⟩, le_rfl, fun _ _ => lookup_of_lookup_erase, fun c' => ?_,
        fun q c' _ h => ?_, fun q c' _ h h' => ?_, fun i q c' hi hc' => ?_, fun c' => ?_⟩
      · by_cases hc' : c' = c <;> simp [update, hc', hch]
      · by_cases hq : q = p
        · simp [update, hq] at h
        · simpa [update, hq] using h
      · by_cases hq : q = p
        · subst hq
          obtain rfl : c' = c := Option.some.inj (h.symm.trans hc)
          simp [update, hch]
        · simp [update, hq, h] at h'
      · by_cases hi : i = r
        · subst hi
          obtain rfl : q = p := Option.some.inj (hi.symm.trans hp)
          obtain rfl : c' = c := Option.some.inj (hc'.symm.trans hc)
          exact .inr (.inl (by simp [update, hch]))
        · exact .inl (by rwa [AList.lookup_erase_ne hi])
      · by_cases hc' : c' = c
        · subst hc'
          exact ⟨[v], by simp [update, hch], fun w hw => ⟨r, p, by simp_all, hp, hc⟩⟩
        · exact ⟨[], by simp [update, hc'], by simp⟩
  | ack ids =>
    cases e
    obtain ⟨h₁, h₂, h₃, h₄, -⟩ := MTProto.ackMsgIDs_msgsByID ids m
    obtain ⟨k₁, k₂⟩ := ackMsgIDs_keeps ids m
    exact .of_frame h₃ ⟨[], by simp [h₁]⟩ h₂.ge (fun q _ => k₁ q) h₄ k₂
  | resend =>
    cases e
    refine ⟨⟨_, rfl⟩, le_rfl, by simp [AList.lookup_empty], fun _ => le_rfl, fun _ _ _ h => h,
      fun _ _ _ h h' => absurd h h', fun i q c hi _ => .inr (.inr ?_),
      fun c => ⟨[], (List.append_nil _).symm, by simp⟩⟩
    have : q ∈ m.msgsByID.entries.map Sigma.snd :=
      List.mem_map.mpr ⟨Sigma.mk i q, AList.mem_lookup_iff.mp hi, rfl⟩
    simpa using this
  | push msg =>
    cases e
    exact .of_frame rfl ⟨_, rfl⟩ (by simp) (fun q hq => by simp [update, hq.ne]) (fun _ _ h => h)
      fun _ _ _ h _ => h
  | setSalt _ =>
    cases e
    exact .of_same rfl rfl rfl rfl rfl
  | handle mp x =>
    cases e
    unfold MTProto.passToHandler
    split <;> exact .of_same rfl rfl rfl rfl rfl

/-- A run of actions keeps what `Keeps` says. -/
theorem runActions_keeps :
    ∀ (as : List Action) {m m' : MTProto}, TableBelow m.nextPacket m →
      runActions as m = .ok m' → Keeps m m' as
  | [], m, m', _, e => by
    cases e
    exact .refl
  | a :: as, m, m', hm, e => by
    obtain ⟨m₁, e₁, e₂⟩ := bind_eq_ok.mp e
    have hA := a.exec_appends hm le_rfl e₁
    have hm₁ : TableBelow m₁.nextPacket m₁ := fun i q hq =>
      lt_of_lt_of_le (hA.tableBelow hm i q hq) hA.next_le
    exact (a.exec_keeps e₁).trans hm (runActions_keeps as hm₁ e₂)

/-- **The pending table under `process`.** For every client whose pending packets all lie on
its heap, and every tree `x`: `process(msgId, seqNo, x, mayPassToHandler)` changes the table,
the packets' channels and `needAck` flags, the channels, `sendQueue` and the server salt
exactly as the left-to-right fold of `Pending.step` over the nodes of `x` in processing order
(`actions`), faults included; so a `bad_server_salt` sets the salt and moves every entry, with
a channel or without, onto the end of `sendQueue`, leaving the table empty. And when it
returns: every entry whose packet has a live channel is still in the table, or
its channel was sent a value, or its packet was appended to `sendQueue`; and each channel
received only values that a completion of the tree addressed to an id under which the
channel's packet was pending. -/
theorem process_pending (m : MTProto) (msgId seqNo : ℤ) (x : Option TL) (mp : Bool)
    (hm : TableBelow m.nextPacket m) :
    (m.process msgId seqNo x mp).map MTProto.pending =
      Pending.run (actions msgId seqNo x mp) m.pending ∧
    ∀ m', m.process msgId seqNo x mp = .ok m' →
      (∀ i q c, m.msgsByID.lookup i = some q → (m.packets q).resp = some c →
        m'.msgsByID.lookup i = some q ∨ (m.chans c).sends < (m'.chans c).sends ∨
          q ∈ m'.sendQueue.drop m.sendQueue.length) ∧
      ∀ c, ∃ vs, (m'.chans c).buf = (m.chans c).buf ++ vs ∧
        ∀ v ∈ vs, ∃ r q, Action.clear r v ∈ actions msgId seqNo x mp ∧
          m.msgsByID.lookup r = some q ∧ (m.packets q).resp = some c := by
  rw [process_eq_runActions]
  refine ⟨runActions_pending _ m hm, fun m' e => ?_⟩
  have h := runActions_keeps _ hm e
  exact ⟨h.live, h.buf⟩

/-- A client with request 7 pending on a fresh channel. -/
def oneRequest : MTProto :=
  { newMTProto ⟨2, [], [], 0, [], 0⟩ with
    msgsByID := (∅ : AList (fun _ : ℤ => ℕ)).insert 7 0
    packets := fun _ => ⟨7, 1, .obj crcBoolTrue [], some 0, true⟩
    nextPacket := 1
    nextChan := 1 }

/-- Scenario 2 of the specification on that client: `process` is the fold on its table. -/
theorem process_pending_oneRequest :
    TableBelow oneRequest.nextPacket oneRequest ∧
      (oneRequest.process 20 2 (some pingAndResult) true).map MTProto.pending =
        Pending.run (actions 20 2 (some pingAndResult) true) oneRequest.pending := by
  have hm : TableBelow oneRequest.nextPacket oneRequest := fun i q hq => by
    change ((∅ : AList (fun _ : ℤ => ℕ)).insert 7 0).lookup i = some q at hq
    by_cases hi : i = 7
    · rw [hi, AList.lookup_insert] at hq
      cases hq
      exact Nat.one_pos
    · rw [AList.lookup_insert_ne hi, AList.lookup_empty] at hq
      cases hq
  exact ⟨hm, (process_pending oneRequest 20 2 _ true hm).1⟩

end TgClient
