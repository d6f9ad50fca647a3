import TgClient.Mux.Machine
import TgClient.Dispatch.Pending

/-!
# Response Channels Are Written Once

Every response channel (made with capacity 1 by `Send`, `SendSync` or `sendSyncInternal`)
is sent at most one value and is closed exactly when it has been: `clearPacketData` sends
and closes only while the packet still has its channel, and then sets `packet.resp = nil`
for every holder of the packet. Nothing else sends on or closes a response channel.

A later response for the same message id is dropped, but in the usual case without the
"second response" warning: `clearPacketData` deletes the entry when it delivers, so the
next response for that id finds no entry and changes nothing. The warning is logged only
for an id that is in `msgsByID` with `resp == nil`: a packet without a channel, or one that
`send` recorded again after its delivery (a resend or a re-push that was still queued).

`MTProto.ChansOk` states this of a client: a packet that still has a channel has a fresh
one that no other packet has. Every step of the multiplexer keeps it — including a
`bad_server_salt` resend and a reconnect that push back a packet that is still pending, so
that the same packet sits in `msgsByID` and in `sendQueue` at once.

## Main results

* `MTProto.ChansOk.clearPacketData_ok`: under the invariant `clearPacketData` neither
  blocks nor panics.
* `Step.chansOk`: every step keeps the invariant.
* `reachable_chans`: in every reachable state each channel was sent at most one value and
  is closed iff it was, a packet that still has a channel has one nothing was sent on, and
  `clearPacketData` succeeds for every id and response, warning exactly for a pending id
  whose packet has no channel.
* `second_response_silent`: a run in which a request is answered and a second response for
  it arrives: it is dropped without a warning.
-/

namespace TgClient

open Function (update update_noteq)

namespace MTProto

/-- **What a completion leaves**: the id is no longer pending; an id that was not pending
changes nothing; and the "second response" warning is logged exactly when the id was pending
with a packet whose channel is gone. -/
theorem clearPacketData_warnings {m m' : MTProto} {r : ℤ} {v : Option TL}
    (e : m.clearPacketData r v = .ok m') :
    m'.msgsByID.lookup r = none ∧ (m.msgsByID.lookup r = none → m' = m) ∧
      ∀ p, m.msgsByID.lookup r = some p →
        m'.warnings = m.warnings ++ if (m.packets p).resp = none then [r] else [] := by
  rcases clearPacketData_eq_ok e with ⟨hl, rfl⟩ | ⟨p, hp, hr, rfl⟩ | ⟨p, c, ch, hp, hr, -, rfl⟩
  · exact ⟨hl, fun _ => rfl, fun p hp => by simp [hl] at hp⟩
  all_goals
    refine ⟨AList.lookup_erase _ _, fun h => by simp [h] at hp, fun q hq => ?_⟩
    obtain rfl := Option.some.inj (hp.symm.trans hq)
    simp [hr]

/-- The response channels of a client: each was sent at most one value and is closed
exactly when it was; a packet that still has a channel has a fresh one, made earlier, that
no other packet has; and no heap cell past the bound has a channel. -/
structure ChansOk (m : MTProto) : Prop where
  sends : ∀ c, (m.chans c).sends ≤ 1 ∧ ((m.chans c).closed = true ↔ (m.chans c).sends = 1)
  unallocated : ∀ p, m.nextPacket ≤ p → (m.packets p).resp = none
  live : ∀ p c, (m.packets p).resp = some c → c < m.nextChan ∧ (m.chans c).Fresh
  inj : ∀ p q c, (m.packets p).resp = some c → (m.packets q).resp = some c → p = q

namespace ChansOk

variable {m : MTProto}

/-- A change that leaves the channels, the heap bounds and every packet's channel alone. -/
theorem congr {m' : MTProto} (h : m.ChansOk) (hc : m'.chans = m.chans)
    (hn : m'.nextPacket = m.nextPacket) (hk : m'.nextChan = m.nextChan)
    (hr : ∀ p, (m'.packets p).resp = (m.packets p).resp) : m'.ChansOk where
  sends c := hc ▸ h.sends c
  unallocated p hp := (hr p).trans (h.unallocated p (hn ▸ hp))
  live p c hp := by rw [hc, hk]; exact h.live p c ((hr p) ▸ hp)
  inj p q c hp hq := h.inj p q c ((hr p) ▸ hp) ((hr q) ▸ hq)

/-- A fresh packet with a fresh channel. -/
theorem allocLive (h : m.ChansOk) (msg : TL) :
    (m.makeChan.alloc (newPacket msg (some m.nextChan))).ChansOk := by
  have hlt : ∀ p c, (m.packets p).resp = some c → c ≠ m.nextChan := fun p c hp =>
    (h.live p c hp).1.ne
  refine ⟨fun c => ?_, fun p hp => ?_, fun p c hp => ?_, fun p q c hp hq => ?_⟩
  · by_cases hc : c = m.nextChan
    · simp [hc, RespChan.empty]
    · simpa [hc] using h.sends c
  · have : p ≠ m.nextPacket := by simp at hp; omega
    simpa [this] using h.unallocated p (by simp at hp; omega)
  · by_cases hpn : p = m.nextPacket
    · simp [hpn, newPacket] at hp
      subst hp
      simp [RespChan.Fresh, RespChan.empty]
    · simp only [makeChan_packets, makeChan_nextPacket, alloc_packets, update_noteq hpn] at hp
      obtain ⟨hc, hf⟩ := h.live p c hp
      refine ⟨by simp; omega, ?_⟩
      simpa [update_noteq (hlt p c hp)] using hf
  · by_cases hpn : p = m.nextPacket <;> by_cases hqn : q = m.nextPacket
    · rw [hpn, hqn]
    · simp [hpn, newPacket, update_noteq hqn] at hp hq
      exact absurd hp.symm (hlt q c hq)
    · simp [hqn, newPacket, update_noteq hpn] at hp hq
      exact absurd hq.symm (hlt p c hp)
    · simp only [makeChan_packets, makeChan_nextPacket, alloc_packets, update_noteq hpn,
        update_noteq hqn] at hp hq
      exact h.inj p q c hp hq

/-- A fresh packet that waits for no response. -/
theorem pushNew (h : m.ChansOk) (msg : TL) : (m.pushNew msg).ChansOk := by
  refine ⟨h.sends, fun p hp => ?_, fun p c hp => ?_, fun p q c hp hq => ?_⟩
  · by_cases hpn : p = m.nextPacket
    · simp [hpn, newPacket]
    · simpa [hpn] using h.unallocated p (by simp at hp; omega)
  · by_cases hpn : p = m.nextPacket
    · simp [hpn, newPacket] at hp
    · simp only [pushNew_packets, update_noteq hpn] at hp
      exact h.live p c hp
  · by_cases hpn : p = m.nextPacket
    · simp [hpn, newPacket] at hp
    · by_cases hqn : q = m.nextPacket
      · simp [hqn, newPacket] at hq
      · simp only [pushNew_packets, update_noteq hpn, update_noteq hqn] at hp hq
        exact h.inj p q c hp hq

/-- A receive takes a value from a channel that is no packet's any more. -/
theorem receive (h : m.ChansOk) {c : ℕ} {v : Option TL} {rest : List (Option TL)}
    (hb : (m.chans c).buf = v :: rest) : (m.receive c rest).ChansOk := by
  have hne : ∀ p c', (m.packets p).resp = some c' → c' ≠ c := fun p c' hp hc => by
    have := (h.live p c' hp).2.1
    rw [hc, hb] at this
    cases this
  refine ⟨fun c' => ?_, h.unallocated, fun p c' hp => ?_, h.inj⟩
  · by_cases hc : c' = c
    · subst hc
      simpa [MTProto.receive] using h.sends c'
    · simpa [MTProto.receive, hc] using h.sends c'
  · simpa [MTProto.receive, hne p c' hp] using h.live p c' hp

/-- Under the invariant `clearPacketData` delivers into a fresh channel or warns: it never
blocks and never panics. -/
theorem clearPacketData_ok (h : m.ChansOk) (r : ℤ) (v : Option TL) :
    ∃ m', m.clearPacketData r v = .ok m' := by
  unfold MTProto.clearPacketData
  split
  · exact ⟨_, rfl⟩
  · split
    · exact ⟨_, rfl⟩
    · rename_i c hc
      rw [RespChan.deliver_of_fresh (h.live _ c hc).2 v]
      exact ⟨_, rfl⟩

/-- `clearPacketData` keeps the invariant. -/
theorem clearPacketData (h : m.ChansOk) {r : ℤ} {v : Option TL} {m' : MTProto}
    (e : m.clearPacketData r v = .ok m') : m'.ChansOk := by
  rcases MTProto.clearPacketData_eq_ok e with ⟨-, rfl⟩ | ⟨p, -, -, rfl⟩ | ⟨p, c, ch, -, hc, hd, rfl⟩
  · exact h
  · exact h.congr rfl rfl rfl fun _ => rfl
  · have hch : ch = ⟨[v], true, 1⟩ := by
      rw [RespChan.deliver_of_fresh (h.live p c hc).2 v] at hd
      exact (Except.ok.inj hd).symm
    subst hch
    have hne : ∀ q c', q ≠ p → (m.packets q).resp = some c' → c' ≠ c := fun q c' hq hq' hc' =>
      hq (h.inj q p c (hc' ▸ hq') hc)
    refine ⟨fun c' => ?_, fun q hq => ?_, fun q c' hq => ?_, fun q q' c' hq hq' => ?_⟩
    · by_cases hc' : c' = c
      · subst hc'
        simp
      · simpa [hc'] using h.sends c'
    · by_cases hqp : q = p
      · subst hqp
        simp
      · simpa [hqp] using h.unallocated q hq
    · by_cases hqp : q = p
      · subst hqp
        simp at hq
      · simp only [update_noteq hqp] at hq
        simpa [update_noteq (hne q c' hqp hq)] using h.live q c' hq
    · by_cases hqp : q = p
      · subst hqp
        simp at hq
      · by_cases hq'p : q' = p
        · subst hq'p
          simp at hq'
        · simp only [update_noteq hqp, update_noteq hq'p] at hq hq'
          exact h.inj q q' c' hq hq'

/-- Every action of `process` keeps the invariant. -/
theorem exec (h : m.ChansOk) {a : Action} {m' : MTProto} (e : a.exec m = .ok m') : m'.ChansOk := by
  cases a with
  | clear r v => exact h.clearPacketData e
  | ack ids =>
    cases e
    obtain ⟨ps, t, e⟩ := MTProto.ackMsgIDs_shape ids m
    have hr := (ackMsgIDs_keeps ids m).1
    rw [e] at hr ⊢
    exact h.congr rfl rfl rfl hr
  | push msg =>
    cases e
    exact h.pushNew msg
  | setSalt _ | resend =>
    cases e
    exact h.congr rfl rfl rfl fun _ => rfl
  | handle mp x =>
    cases e
    unfold MTProto.passToHandler
    split <;> exact h.congr rfl rfl rfl fun _ => rfl

end ChansOk

end MTProto

/-- `send` gives a packet a message id; its channel stays. -/
theorem Mux.record_resp (s : Mux) (p : ℕ) (id : ℤ) (q : ℕ) :
    ((s.record p id).mt.packets q).resp = (s.mt.packets q).resp := by
  unfold Mux.record
  split
  · by_cases hq : q = p
    · subst hq
      simp
    · simp [hq]
  · rfl

/-- Every step keeps the channel invariant. -/
theorem Step.chansOk {s s' : Mux} (hs : Step s s') (h : s.mt.ChansOk) : s'.mt.ChansOk := by
  cases hs with
  | send msg => exact (h.allocLive msg).congr rfl rfl rfl fun _ => rfl
  | receive c v rest hb => exact h.receive hb
  | senderSend g p id w =>
    rw [Mux.afterWrite_mt]
    exact h.congr (by unfold Mux.record; split <;> rfl) (by unfold Mux.record; split <;> rfl)
      (by unfold Mux.record; split <;> rfl) (Mux.record_resp s p id)
  | readerExec g a acts mt _ _ _ _ e => exact h.exec e
  | ping => exact h.pushNew _
  | reconnConnect => exact (h.allocLive _).congr rfl rfl rfl fun _ => rfl
  | reconnConfig g c ids ch v rest _ hb =>
    split
    · exact h.receive hb
    · rw [Mux.failReconnect_mt]
      exact h.receive hb
  | reconnRepush => rw [Mux.repush_mt]; exact h
  | reconnPush g c p ps =>
    split
    · rw [Mux.finishReconnect_mt]
      exact h.congr rfl rfl rfl fun _ => rfl
    · exact h.congr rfl rfl rfl fun _ => rfl
  | readerResend => rw [Mux.resend_mt]; exact h.congr rfl rfl rfl fun _ => rfl
  | readerFail => rw [Mux.reconnectLogged_mt]; exact h
  | reconnCloseFail | reconnConnectFail => rw [Mux.failReconnect_mt]; exact h
  | reconnect | readerRead | reconnClose => exact h
  | stop | transferTake | transferPush | senderTake | readerPush | reconnStop | reconnWait =>
    exact h.congr rfl rfl rfl fun _ => rfl

theorem Mux.init_chansOk (session : SessionInfo) (hasHandler : Bool) :
    (Mux.init session hasHandler).mt.ChansOk where
  sends _ := by simp [Mux.init, newMTProto, RespChan.empty]
  unallocated _ _ := rfl
  live _ _ h := by simp [Mux.init, newMTProto, newPacket] at h
  inj _ _ _ h := by simp [Mux.init, newMTProto, newPacket] at h

theorem Reachable.chansOk {s : Mux} (h : Reachable s) : s.mt.ChansOk := by
  induction h with
  | init session hasHandler => exact Mux.init_chansOk session hasHandler
  | step _ hs ih => exact hs.chansOk ih

/-- **Response channels are written once.** In every state a connected client reaches —
through any interleaving of callers, the four workers, `process` (with its
`bad_server_salt` resends) and executions of `reconnectToDc` that push pending packets
back — every response channel was sent at most one value and is closed exactly when it
was, and a packet that still has a channel has one nothing was sent on. `clearPacketData`
succeeds for every id and response (its send never blocks while the mutex is held, its
`close` never panics) and leaves the id no longer pending. A response for an id that is not
pending, as after its delivery, changes nothing and logs nothing; the "second response"
warning is logged exactly for a pending id whose packet has no channel. -/
theorem reachable_chans {s : Mux} (h : Reachable s) :
    (∀ c, (s.mt.chans c).sends ≤ 1 ∧ ((s.mt.chans c).closed = true ↔ (s.mt.chans c).sends = 1)) ∧
    (∀ p c, (s.mt.packets p).resp = some c → (s.mt.chans c).sends = 0) ∧
    ∀ r v, ∃ m', s.mt.clearPacketData r v = .ok m' ∧ m'.msgsByID.lookup r = none ∧
      (s.mt.msgsByID.lookup r = none → m' = s.mt) ∧
      ∀ p, s.mt.msgsByID.lookup r = some p →
        m'.warnings = s.mt.warnings ++ if (s.mt.packets p).resp = none then [r] else [] :=
  have hc := h.chansOk
  ⟨hc.sends, fun p c hp => (hc.live p c hp).2.2.2, fun r v =>
    have ⟨m', e⟩ := hc.clearPacketData_ok r v
    ⟨m', e, MTProto.clearPacketData_warnings e⟩⟩

/-- A client after one `Send`. -/
theorem reachable_chans_send :
    Reachable { Mux.init ⟨2, [], [], 0, [], 0⟩ false with
      mt := (Mux.init ⟨2, [], [], 0, [], 0⟩ false).mt.sendExt (.obj 0 []) } ∧
    (∀ c, (((Mux.init ⟨2, [], [], 0, [], 0⟩ false).mt.sendExt (.obj 0 [])).chans c).sends ≤ 1) :=
  have h := Reachable.step (.init _ _) (.send _ (.obj 0 []) (by decide))
  ⟨h, fun c => ((reachable_chans h).1 c).1⟩

/-- **A second response is dropped without a warning.** `SendSync` makes request 0, which
`sendRoutine` sends as message 7; `readRoutine` processes `rpc_result(7)`, delivering the
response and deleting the entry; then a second `rpc_result(7)` arrives. When `readRoutine`
is about to complete 7 again, the channel holds its one value, and the completion changes
nothing and logs no warning. -/
theorem second_response_silent :
    ∃ s, Reachable s ∧ s.gs 1 = some (.reader [] [.clear 7 none]) ∧
      (s.mt.packets 0).msgID = 7 ∧ (s.mt.chans 0).sends = 1 ∧
      s.mt.clearPacketData 7 none = .ok s.mt ∧ s.mt.warnings = [] := by
  -- `SendSync` puts request 0 on the queues; `sendRoutine` sends it as message 7
  have r₁ := (Reachable.init ⟨2, [], [], 0, [], 0⟩ false).step (.send _ (.obj 0 []) (by decide))
  have r₂ := r₁.step (.transferTake _ 2 0 [] rfl (by decide) rfl)
  have r₃ := r₂.step (.transferPush _ 2 0 rfl (by decide))
  have r₄ := r₃.step (.senderTake _ 0 0 [] rfl rfl)
  have r₅ := r₄.step (.senderSend _ 0 0 7 .ok rfl rfl (by decide))
  -- `readRoutine` processes `rpc_result(7)`: the response is delivered and the entry deleted
  have r₆ := r₅.step (.readerRead _ 1 20 0 (some (.rpcResult 7 none)) rfl)
  have r₇ := r₆.step (.readerExec _ 1 _ _ _ rfl nofun (fun _ => rfl) (fun _ => by decide) rfl)
  have r₈ := r₇.step (.readerExec _ 1 _ _ _ rfl nofun (fun _ => rfl) (fun _ => by decide) rfl)
  -- a second `rpc_result(7)`
  have r₉ := r₈.step (.readerRead _ 1 22 0 (some (.rpcResult 7 none)) rfl)
  have r₁₀ := r₉.step (.readerExec _ 1 _ _ _ rfl nofun (fun _ => rfl) (fun _ => by decide) rfl)
  exact ⟨_, r₁₀, rfl, rfl, rfl, rfl, rfl⟩

end TgClient
