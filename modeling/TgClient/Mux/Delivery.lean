import TgClient.Mux.Channels

/-!
# No Waiter Is Lost

A packet whose response channel has not received a value is always somewhere from where it
will be sent again or answered: on `extSendQueue`, on `sendQueue`, in `msgsByID`, or held
by a goroutine that will put it on one of these (`queueTransferRoutine` between its receive
and its send, `sendRoutine` between its receive and the record in `send`,
`resendPendingPackets` and `reconnectToDc` while they push the pending packets back).

The invariant `Mux.Inv` carries this together with what it rests on: every packet a queue,
the table or a goroutine mentions is allocated, goroutine ids are fresh, and message ids are
distinct, so that recording a packet in `msgsByID` never overwrites another.

A stop token is only taken by a worker at the top of its loop, holding nothing; a send that
finds the connection closed has recorded its packet first; a `bad_server_salt` resend and a
reconnect hold what they took from the table until it is back on `sendQueue`.

## Main results

* `Step.inv`: every step keeps the invariant.
* `reachable_located`: in every reachable state every packet that still has a response
  channel has one nothing was sent on, and is located.
-/

namespace TgClient

open Function (update update_noteq)

/-! ### Tables -/

theorem lookup_insert_eq_some {t : AList (fun _ : ℤ => ℕ)} {k i : ℤ} {v q : ℕ} :
    (t.insert k v).lookup i = some q ↔ i = k ∧ v = q ∨ i ≠ k ∧ t.lookup i = some q := by
  by_cases hi : i = k
  · subst hi
    simp [AList.lookup_insert]
  · simp [AList.lookup_insert_ne (Ne.symm hi), hi]

theorem mem_entries_snd {t : AList (fun _ : ℤ => ℕ)} {q : ℕ} :
    q ∈ t.entries.map Sigma.snd ↔ ∃ i, t.lookup i = some q := by
  simp only [List.mem_map]
  constructor
  · rintro ⟨⟨i, q⟩, hm, rfl⟩
    exact ⟨i, AList.mem_lookup_iff.2 hm⟩
  · rintro ⟨i, hi⟩
    exact ⟨⟨i, q⟩, AList.mem_lookup_iff.1 hi, rfl⟩

/-! ### Holders -/

/-- The packets a possibly returned goroutine holds. -/
def heldOf : Option Goroutine → List ℕ
  | some r => r.holds
  | none => []

@[simp] theorem heldOf_some (r : Goroutine) : heldOf (some r) = r.holds := rfl
@[simp] theorem heldOf_none : heldOf none = [] := rfl

theorem Goroutine.holds_of_idle {r : Goroutine} (h : r.Idle) : r.holds = [] := by
  unfold Goroutine.Idle at h
  split at h <;> first | rfl | exact h.elim

/-- Some goroutine of `gs` holds `p`. -/
def HeldIn (gs : ℕ → Option Goroutine) (p : ℕ) : Prop := ∃ g r, gs g = some r ∧ p ∈ r.holds

/-- Some goroutine of `gs` other than `g` holds `p`. -/
def HeldElse (gs : ℕ → Option Goroutine) (g p : ℕ) : Prop :=
  ∃ g' r, g' ≠ g ∧ gs g' = some r ∧ p ∈ r.holds

/-- Held by `g`, or by another goroutine. -/
theorem heldIn_iff (gs : ℕ → Option Goroutine) (g p : ℕ) :
    HeldIn gs p ↔ HeldElse gs g p ∨ p ∈ heldOf (gs g) := by
  constructor
  · rintro ⟨g', r, hg', hp⟩
    by_cases h : g' = g
    · subst h
      exact .inr (by rw [hg']; exact hp)
    · exact .inl ⟨g', r, h, hg', hp⟩
  · rintro (⟨g', r, -, hg', hp⟩ | hp)
    · exact ⟨g', r, hg', hp⟩
    · cases hg : gs g with
      | none => simp [hg] at hp
      | some r => exact ⟨g, r, hg, by simpa [hg] using hp⟩

theorem heldElse_update (gs : ℕ → Option Goroutine) (g : ℕ) (r : Option Goroutine) (p : ℕ) :
    HeldElse (update gs g r) g p ↔ HeldElse gs g p :=
  exists_congr fun _ => exists_congr fun _ => and_congr_right fun hne => by rw [update_noteq hne]

@[simp] theorem heldIn_update (gs : ℕ → Option Goroutine) (g : ℕ) (r : Option Goroutine) (p : ℕ) :
    HeldIn (update gs g r) p ↔ HeldElse gs g p ∨ p ∈ heldOf r := by
  rw [heldIn_iff _ g, heldElse_update, Function.update_same]

/-- Replacing a goroutine by one holding the same packets. -/
theorem heldIn_update_same {gs : ℕ → Option Goroutine} {g : ℕ} {r : Option Goroutine}
    (h : heldOf r = heldOf (gs g)) (p : ℕ) : HeldIn (update gs g r) p ↔ HeldIn gs p := by
  rw [heldIn_update, heldIn_iff gs g, h]

namespace Mux

/-- No goroutine id from `nextG` on is taken. -/
def Fresh (s : Mux) : Prop := ∀ g, s.nextG ≤ g → s.gs g = none

/-- `p` is on a queue, in the table, or held by a goroutine. -/
def Located (s : Mux) (p : ℕ) : Prop :=
  p ∈ s.mt.extSendQueue ∨ p ∈ s.mt.sendQueue ∨ (∃ i, s.mt.msgsByID.lookup i = some p) ∨
    HeldIn s.gs p

variable {s : Mux}

theorem Fresh.lt (hf : s.Fresh) {g : ℕ} {r : Goroutine} (hg : s.gs g = some r) : g < s.nextG :=
  Nat.lt_of_not_le fun h => by simp [hf g h] at hg

theorem Fresh.setG (hf : s.Fresh) {g : ℕ} {r : Goroutine} (hg : s.gs g = some r)
    (r' : Option Goroutine) : (s.setG g r').Fresh := fun g' hg' => by
  have := hf.lt hg
  simp only [setG_nextG, setG_gs] at hg' ⊢
  rw [update_noteq (by omega), hf g' hg']

theorem Fresh.spawn (hf : s.Fresh) (x : Goroutine) : (s.spawn x).Fresh := fun g' hg' => by
  simp only [spawn_nextG, spawn_gs] at hg' ⊢
  rw [update_noteq (by omega), hf g' (by omega)]

theorem Fresh.reconnectLogged (hf : s.Fresh) : s.reconnectLogged.Fresh := by
  unfold Mux.reconnectLogged
  split
  · exact hf
  · exact hf.spawn _

/-- A new goroutine that holds nothing changes no holder. -/
theorem heldIn_spawn (hf : s.Fresh) {x : Goroutine} (hx : x.holds = []) (p : ℕ) :
    HeldIn (s.spawn x).gs p ↔ HeldIn s.gs p :=
  heldIn_update_same (by rw [hf _ le_rfl, heldOf_some, hx, heldOf_none]) p

theorem Located.mono {s' : Mux} {q : ℕ} (h : s.Located q)
    (he : q ∈ s.mt.extSendQueue → q ∈ s'.mt.extSendQueue)
    (hq : q ∈ s.mt.sendQueue → q ∈ s'.mt.sendQueue)
    (ht : ∀ i, s.mt.msgsByID.lookup i = some q → s'.mt.msgsByID.lookup i = some q)
    (hg : HeldIn s.gs q → HeldIn s'.gs q) : s'.Located q := by
  rcases h with h | h | ⟨i, hi⟩ | h
  exacts [.inl (he h), .inr (.inl (hq h)), .inr (.inr (.inl ⟨i, ht i hi⟩)),
    .inr (.inr (.inr (hg h)))]

/-- `Located` reads the two queues, the table and the goroutines. -/
theorem located_congr {s' : Mux} (he : s'.mt.extSendQueue = s.mt.extSendQueue)
    (hq : s'.mt.sendQueue = s.mt.sendQueue) (ht : s'.mt.msgsByID = s.mt.msgsByID)
    (hh : ∀ p, HeldIn s'.gs p ↔ HeldIn s.gs p) (p : ℕ) : s'.Located p ↔ s.Located p := by
  unfold Located
  rw [he, hq, ht, hh]

/-- A packet is located iff it is on a queue, in the table or in the hands of `g`, or held
by another goroutine. -/
theorem located_iff_split (s : Mux) (g q : ℕ) :
    s.Located q ↔ q ∈ s.mt.extSendQueue ++ s.mt.sendQueue ++ s.mt.msgsByID.entries.map Sigma.snd ++
      heldOf (s.gs g) ∨ HeldElse s.gs g q := by
  rw [Located, heldIn_iff s.gs g, or_comm (a := HeldElse s.gs g q)]
  simp only [List.mem_append, mem_entries_snd, or_assoc]

/-- **A step that moves packets** between the queues, the table and the hands of one
goroutine `g`, losing none and making none, locates the same packets. -/
theorem located_of_moves {s' : Mux} {g : ℕ} {r' : Option Goroutine}
    (hgs : s'.gs = update s.gs g r')
    (hm : (s'.mt.extSendQueue ++ s'.mt.sendQueue ++ s'.mt.msgsByID.entries.map Sigma.snd ++
      heldOf r').Perm (s.mt.extSendQueue ++ s.mt.sendQueue ++
        s.mt.msgsByID.entries.map Sigma.snd ++ heldOf (s.gs g))) (q : ℕ) :
    s'.Located q ↔ s.Located q := by
  rw [located_iff_split s' g, located_iff_split s g, hgs, Function.update_same, heldElse_update,
    hm.mem_iff]

/-- **A step that allocates a packet** onto a queue, and changes no goroutine, locates the
packets it did and the new one. -/
theorem located_of_alloc {s' : Mux} (hgs : s'.gs = s.gs)
    (hm : (s'.mt.extSendQueue ++ s'.mt.sendQueue ++ s'.mt.msgsByID.entries.map Sigma.snd).Perm
      (s.mt.nextPacket :: (s.mt.extSendQueue ++ s.mt.sendQueue ++
        s.mt.msgsByID.entries.map Sigma.snd))) (q : ℕ) :
    s'.Located q ↔ q = s.mt.nextPacket ∨ s.Located q := by
  rw [located_iff_split s' 0, located_iff_split s 0, hgs, (hm.append_right _).mem_iff,
    List.cons_append, List.mem_cons, or_assoc]

end Mux

/-- Recording a held packet under a key no other packet has: what the table gains, the
goroutine still holds. -/
theorem Mux.located_insert_iff {s : Mux} {k : ℤ} {p : ℕ} (hp : HeldIn s.gs p)
    (hk : ∀ q, s.mt.msgsByID.lookup k = some q → q = p) (q : ℕ) :
    (q ∈ s.mt.extSendQueue ∨ q ∈ s.mt.sendQueue ∨
      (∃ i, (s.mt.msgsByID.insert k p).lookup i = some q) ∨ HeldIn s.gs q) ↔ s.Located q := by
  refine or_congr_right (or_congr_right ⟨?_, ?_⟩)
  · rintro (⟨i, hi⟩ | h)
    · rcases lookup_insert_eq_some.1 hi with ⟨-, rfl⟩ | ⟨-, hi⟩
      exacts [.inr hp, .inl ⟨i, hi⟩]
    · exact .inr h
  · rintro (⟨i, hi⟩ | h)
    · by_cases hik : i = k
      · subst hik
        obtain rfl := hk q hi
        exact .inl ⟨i, lookup_insert_eq_some.2 (.inl ⟨rfl, rfl⟩)⟩
      · exact .inl ⟨i, lookup_insert_eq_some.2 (.inr ⟨hik, hi⟩)⟩
    · exact .inr h

/-! ### `send`'s record -/

section Record

variable (s : Mux) (p : ℕ) (id : ℤ)

@[simp] theorem Mux.record_gs : (s.record p id).gs = s.gs := by
  unfold Mux.record
  split <;> rfl

@[simp] theorem Mux.record_nextG : (s.record p id).nextG = s.nextG := by
  unfold Mux.record
  split <;> rfl

@[simp] theorem Mux.record_mutex : (s.record p id).mutex = s.mutex := by
  unfold Mux.record
  split <;> rfl

@[simp] theorem Mux.record_reconnSemaphore :
    (s.record p id).reconnSemaphore = s.reconnSemaphore := by
  unfold Mux.record
  split <;> rfl

/-- A packet without a message id gets `id`, and is recorded under it. -/
theorem Mux.record_of_zero (hz : (s.mt.packets p).msgID = 0) :
    s.record p id = { s with
      mt := { s.mt with packets := update s.mt.packets p { s.mt.packets p with msgID := id },
                        msgsByID := s.mt.msgsByID.insert id p },
      lastMsgID := id } :=
  if_pos hz

end Record

/-- `send` leaves its packet in the table. -/
theorem Mux.record_recorded (s : Mux) (p : ℕ) (id : ℤ) :
    ∃ i, (s.record p id).mt.msgsByID.lookup i = some p := by
  unfold Mux.record
  split
  · exact ⟨id, AList.lookup_insert _⟩
  · exact ⟨_, AList.lookup_insert _⟩

theorem MTProto.ackMsgIDs_msgID (ids : List ℤ) (m : MTProto) (q : ℕ) :
    ((m.ackMsgIDs ids).packets q).msgID = (m.packets q).msgID := by
  induction ids generalizing m with
  | nil => rfl
  | cons id ids ih =>
    rw [MTProto.ackMsgIDs_cons, ih]
    unfold MTProto.ackMsgID
    split
    · rfl
    · rename_i p _
      by_cases hq : q = p <;> simp [update, hq]

/-- An action other than a push or a resend moves no packet and assigns no message id; the
table only loses entries, and only those whose packet it answered. -/
theorem Action.exec_shrink {m m' : MTProto} {a : Action} (e : a.exec m = .ok m')
    (hp : ∀ x, a ≠ .push x) (hr : a ≠ .resend) :
    m'.extSendQueue = m.extSendQueue ∧ m'.sendQueue = m.sendQueue ∧
    m'.nextPacket = m.nextPacket ∧ (∀ q, (m'.packets q).msgID = (m.packets q).msgID) ∧
    (∀ i q, m'.msgsByID.lookup i = some q → m.msgsByID.lookup i = some q) ∧
    ∀ q c, (m'.packets q).resp = some c → (m.packets q).resp = some c ∧
      ∀ i, m.msgsByID.lookup i = some q → m'.msgsByID.lookup i = some q := by
  have same : ∀ n : MTProto, n.extSendQueue = n.extSendQueue ∧ n.sendQueue = n.sendQueue ∧
      n.nextPacket = n.nextPacket ∧ (∀ q, (n.packets q).msgID = (n.packets q).msgID) ∧
      (∀ i q, n.msgsByID.lookup i = some q → n.msgsByID.lookup i = some q) ∧
      ∀ q c, (n.packets q).resp = some c → (n.packets q).resp = some c ∧
        ∀ i, n.msgsByID.lookup i = some q → n.msgsByID.lookup i = some q :=
    fun _ => ⟨rfl, rfl, rfl, fun _ => rfl, fun _ _ h => h, fun _ _ hc => ⟨hc, fun _ h => h⟩⟩
  cases a with
  | clear r v =>
    rcases MTProto.clearPacketData_eq_ok e with ⟨-, rfl⟩ | ⟨p, hp, hn, rfl⟩ | ⟨p, c, ch, hp, -, -, rfl⟩
    · exact same _
    · refine ⟨rfl, rfl, rfl, fun _ => rfl, fun _ _ => lookup_of_lookup_erase,
        fun q c hc => ⟨hc, fun i hi => ?_⟩⟩
      have hi' : i ≠ r := by
        rintro rfl
        obtain rfl : q = p := Option.some.inj (hi.symm.trans hp)
        simp [hn] at hc
      rwa [AList.lookup_erase_ne hi']
    · refine ⟨rfl, rfl, rfl, fun q => ?_, fun _ _ => lookup_of_lookup_erase, fun q c' hc' => ?_⟩
      · by_cases hq : q = p <;> simp [update, hq]
      · have hq : q ≠ p := by
          rintro rfl
          simp at hc'
        simp only [update_noteq hq] at hc'
        refine ⟨hc', fun i hi => ?_⟩
        have hi' : i ≠ r := by
          rintro rfl
          exact hq (Option.some.inj (hi.symm.trans hp))
        rwa [AList.lookup_erase_ne hi']
  | ack ids =>
    cases e
    obtain ⟨h₁, h₂, -, h₄, -⟩ := MTProto.ackMsgIDs_msgsByID ids m
    obtain ⟨ps, t, he⟩ := MTProto.ackMsgIDs_shape ids m
    obtain ⟨k₁, k₂⟩ := ackMsgIDs_keeps ids m
    refine ⟨by rw [he], h₁, h₂, MTProto.ackMsgIDs_msgID ids m, h₄, fun q c hc => ?_⟩
    rw [k₁] at hc
    exact ⟨hc, fun i hi => k₂ i q c hi hc⟩
  | push x => exact absurd rfl (hp x)
  | resend => exact absurd rfl hr
  | setSalt _ =>
    cases e
    exact same m
  | handle mp x =>
    cases e
    unfold MTProto.passToHandler
    split
    · exact same m
    · exact same m

/-! ### The invariant -/

/-- The invariant of the multiplexer: located packets are allocated; goroutine ids past
`nextG` are free; the table is keyed by positive message ids that its packets carry; message
ids are not negative, at most the last one, and distinct when assigned; and every packet
that still has a response channel is located. -/
structure Mux.Inv (s : Mux) : Prop where
  located_lt : ∀ p, s.Located p → p < s.mt.nextPacket
  fresh : s.Fresh
  key : ∀ i p, s.mt.msgsByID.lookup i = some p → (s.mt.packets p).msgID = i ∧ 0 < i
  id_le : ∀ p, 0 ≤ (s.mt.packets p).msgID ∧ (s.mt.packets p).msgID ≤ s.lastMsgID
  id_inj : ∀ p q, p < s.mt.nextPacket → q < s.mt.nextPacket →
    (s.mt.packets p).msgID = (s.mt.packets q).msgID → (s.mt.packets p).msgID ≠ 0 → p = q
  live : ∀ p c, (s.mt.packets p).resp = some c → s.Located p

namespace Mux.Inv

variable {s s' : Mux}

theorem lastMsgID_nonneg (h : s.Inv) : 0 ≤ s.lastMsgID := (h.id_le 0).1.trans (h.id_le 0).2

/-- A step that allocates nothing and assigns no message id, whose table only loses entries,
that locates nothing new, and that loses only packets whose channel it took. -/
theorem of_shrink (h : s.Inv) (hf : s'.Fresh)
    (hn : s'.mt.nextPacket = s.mt.nextPacket) (hl : s'.lastMsgID = s.lastMsgID)
    (hid : ∀ p, (s'.mt.packets p).msgID = (s.mt.packets p).msgID)
    (ht : ∀ i p, s'.mt.msgsByID.lookup i = some p → s.mt.msgsByID.lookup i = some p)
    (hloc : ∀ p, s'.Located p → s.Located p)
    (hlive : ∀ p c, (s'.mt.packets p).resp = some c →
      (∃ c', (s.mt.packets p).resp = some c') ∧ (s.Located p → s'.Located p)) : s'.Inv where
  located_lt p hp := hn ▸ h.located_lt p (hloc p hp)
  fresh := hf
  key i p hi := hid p ▸ h.key i p (ht i p hi)
  id_le p := by rw [hid, hl]; exact h.id_le p
  id_inj p q hp hq := by rw [hid, hid]; exact h.id_inj p q (hn ▸ hp) (hn ▸ hq)
  live p c hc :=
    have ⟨⟨_, h'⟩, hk⟩ := hlive p c hc
    hk (h.live p _ h')

/-- A step that keeps the heap and the bound, only drops table entries, and moves packets
between the places `Located` names. -/
theorem of_iff (h : s.Inv) (hf : s'.Fresh)
    (hn : s'.mt.nextPacket = s.mt.nextPacket) (hl : s'.lastMsgID = s.lastMsgID)
    (hp : s'.mt.packets = s.mt.packets)
    (ht : ∀ i p, s'.mt.msgsByID.lookup i = some p → s.mt.msgsByID.lookup i = some p)
    (hloc : ∀ p, s'.Located p ↔ s.Located p) : s'.Inv :=
  h.of_shrink hf hn hl (by simp [hp]) ht (fun p => (hloc p).1)
    fun p c hc => ⟨⟨c, hp ▸ hc⟩, (hloc p).2⟩

/-- A step that allocates one packet without a message id, at `nextPacket`, and locates it. -/
theorem of_alloc (h : s.Inv) (hf : s'.Fresh) (x : PacketToSend) (hx : x.msgID = 0)
    (hn : s'.mt.nextPacket = s.mt.nextPacket + 1) (hl : s'.lastMsgID = s.lastMsgID)
    (hp : s'.mt.packets = update s.mt.packets s.mt.nextPacket x)
    (ht : s'.mt.msgsByID = s.mt.msgsByID)
    (hloc : ∀ p, s'.Located p ↔ p = s.mt.nextPacket ∨ s.Located p) : s'.Inv where
  located_lt p hp := by
    rcases (hloc p).1 hp with rfl | hp
    · omega
    · have := h.located_lt p hp
      omega
  fresh := hf
  key i p hi := by
    rw [ht] at hi
    have hp' : p ≠ s.mt.nextPacket :=
      (h.located_lt p (.inr (.inr (.inl ⟨i, hi⟩)))).ne
    rw [hp, update_noteq hp']
    exact h.key i p hi
  id_le p := by
    rw [hp, hl]
    by_cases hq : p = s.mt.nextPacket
    · subst hq
      simp [hx, h.lastMsgID_nonneg]
    · rw [update_noteq hq]
      exact h.id_le p
  id_inj p q hp' hq' e hne := by
    rw [hp] at e hne
    rw [hn] at hp' hq'
    by_cases hpN : p = s.mt.nextPacket
    · subst hpN
      simp [hx] at hne
    by_cases hqN : q = s.mt.nextPacket
    · subst hqN
      simp [e, hx] at hne
    rw [update_noteq hpN, update_noteq hqN] at e
    rw [update_noteq hpN] at hne
    exact h.id_inj p q (by omega) (by omega) e hne
  live p c hc := by
    by_cases hpN : p = s.mt.nextPacket
    · exact (hloc p).2 (.inl hpN)
    · rw [hp, update_noteq hpN] at hc
      exact (hloc p).2 (.inr (h.live p c hc))

/-! ### Goroutines that hold nothing new -/

/-- Replacing a goroutine by one holding the same packets. -/
theorem setG (h : s.Inv) {g : ℕ} {r : Goroutine} (hg : s.gs g = some r) {r' : Option Goroutine}
    (hr : heldOf r' = r.holds) : (s.setG g r').Inv :=
  h.of_iff (h.fresh.setG hg r') rfl rfl rfl (fun _ _ h => h)
    (located_congr rfl rfl rfl (heldIn_update_same (by rw [hg, hr, heldOf_some])))

theorem spawn (h : s.Inv) {x : Goroutine} (hx : x.holds = []) : (s.spawn x).Inv :=
  h.of_iff (h.fresh.spawn x) rfl rfl rfl (fun _ _ h => h)
    (located_congr rfl rfl rfl (heldIn_spawn h.fresh hx))

theorem reconnectLogged (h : s.Inv) : s.reconnectLogged.Inv := by
  unfold Mux.reconnectLogged
  split
  · exact h
  · exact (h.spawn (x := .reconnect .logged (.stopping routinesCount)) rfl).of_iff
      (h.fresh.spawn _) rfl rfl rfl (fun _ _ h => h) fun _ => Iff.rfl

theorem failReconnect (h : s.Inv) {g : ℕ} {r : Goroutine} (hg : s.gs g = some r)
    (hr : r.holds = []) (c : Caller) : (s.failReconnect g c).Inv := by
  cases c
  · exact h.setG hg (by rw [hr]; rfl)
  · exact h.setG hg (by rw [hr]; rfl)

theorem finishReconnect (h : s.Inv) {g : ℕ} {r : Goroutine} (hg : s.gs g = some r)
    (hr : r.holds = []) (c : Caller) : (s.finishReconnect g c).Inv := by
  have h₁ : (s.setG g none).Inv := h.setG hg (by rw [hr]; rfl)
  cases c
  · exact h₁.of_iff h₁.fresh rfl rfl rfl (fun _ _ h => h) fun _ => Iff.rfl
  · exact h₁

/-! ### Allocation -/

theorem sendExt (h : s.Inv) (msg : TL) : { s with mt := s.mt.sendExt msg }.Inv :=
  h.of_alloc h.fresh _ rfl rfl rfl rfl rfl <| located_of_alloc rfl <|
    List.perm_iff_count.2 fun a => by simp [List.count_cons]; omega

theorem sendInternal (h : s.Inv) (msg : TL) : { s with mt := s.mt.sendInternal msg }.Inv :=
  h.of_alloc h.fresh _ rfl rfl rfl rfl rfl <| located_of_alloc rfl <|
    List.perm_iff_count.2 fun a => by simp [List.count_cons]; omega

theorem pushNew (h : s.Inv) (msg : TL) : { s with mt := s.mt.pushNew msg }.Inv :=
  h.of_alloc h.fresh _ rfl rfl rfl rfl rfl <| located_of_alloc rfl <|
    List.perm_iff_count.2 fun a => by simp [List.count_cons]; omega

/-! ### The reader's actions -/

/-- An action of `process` other than the resend. -/
theorem exec (h : s.Inv) {a : Action} (ha : a ≠ .resend) {m' : MTProto}
    (e : a.exec s.mt = .ok m') : { s with mt := m' }.Inv := by
  by_cases hp : ∃ x, a = .push x
  · obtain ⟨x, rfl⟩ := hp
    cases e
    exact h.pushNew x
  · push_neg at hp
    obtain ⟨he, hq, hn, hid, ht, hl⟩ := Action.exec_shrink e hp ha
    refine h.of_shrink h.fresh hn rfl hid ht
      (fun q hq' => hq'.mono (fun h => he ▸ h) (fun h => hq ▸ h) (ht · q) id) fun q c hc => ?_
    obtain ⟨hc', hk⟩ := hl q c hc
    exact ⟨⟨c, hc'⟩, fun hs => hs.mono (fun h => he ▸ h) (fun h => hq ▸ h) hk id⟩

/-- `resendPendingPackets` empties the table into the reader's hands. -/
theorem resend (h : s.Inv) {g : ℕ} {acts : List Action}
    (hg : s.gs g = some (.reader [] (.resend :: acts))) : (s.resend g acts).Inv := by
  have hf := h.fresh.setG hg
  have ht : ∀ i q, (∅ : AList (fun _ : ℤ => ℕ)).lookup i = some q →
      s.mt.msgsByID.lookup i = some q := by simp
  unfold Mux.resend
  dsimp only
  split
  · rename_i h₀
    simp only [MTProto.popPendingPacketsUnlocked] at h₀
    exact h.of_iff (hf _) rfl rfl rfl ht <| located_of_moves rfl <| by
      simp [hg, h₀, Goroutine.holds, MTProto.popPendingPacketsUnlocked]
  · exact h.of_iff (hf _) rfl rfl rfl ht <| located_of_moves rfl <|
      List.perm_iff_count.2 fun a => by simp [hg, Goroutine.holds, MTProto.popPendingPacketsUnlocked]

/-! ### Sending -/

/-- `send`'s record of a packet the sender holds: a packet without an id gets the new one,
which no packet has; a packet with an id is recorded under it, which no other packet has. -/
theorem record (h : s.Inv) {p : ℕ} (hp : HeldIn s.gs p) {id : ℤ} (hid : s.lastMsgID < id) :
    (s.record p id).Inv := by
  have hpN : p < s.mt.nextPacket := h.located_lt p (.inr (.inr (.inr hp)))
  have h0 := h.lastMsgID_nonneg
  unfold Mux.record
  split
  · rename_i hz
    have hk : ∀ q, s.mt.msgsByID.lookup id = some q → q = p := fun q hi => by
      have := h.key id q hi
      have := (h.id_le q).2
      omega
    have hloc := located_insert_iff hp hk
    exact {
      located_lt := fun q hq => h.located_lt q ((hloc q).1 hq)
      fresh := h.fresh
      key := fun i q hi => by
        rcases lookup_insert_eq_some.1 hi with ⟨rfl, rfl⟩ | ⟨-, hiq⟩
        · exact ⟨by simp, by omega⟩
        · have hqp : q ≠ p := by
            rintro rfl
            have := h.key i q hiq
            omega
          simp only [update_noteq hqp]
          exact h.key i q hiq
      id_le := fun q => by
        by_cases hqp : q = p
        · subst hqp
          simp only [Function.update_same]
          omega
        · simp only [update_noteq hqp]
          have := h.id_le q
          omega
      id_inj := fun a b ha hb e hne => by
        by_cases hap : a = p <;> by_cases hbp : b = p
        · rw [hap, hbp]
        · subst hap
          simp only [Function.update_same, update_noteq hbp] at e
          have := (h.id_le b).2
          omega
        · subst hbp
          simp only [Function.update_same, update_noteq hap] at e
          have := (h.id_le a).2
          omega
        · simp only [update_noteq hap, update_noteq hbp] at e hne
          exact h.id_inj a b ha hb e hne
      live := fun q c hc => by
        refine (hloc q).2 (h.live q c ?_)
        by_cases hqp : q = p
        · subst hqp
          simpa using hc
        · simpa [update_noteq hqp] using hc }
  · rename_i hz
    have hk : ∀ q, s.mt.msgsByID.lookup (s.mt.packets p).msgID = some q → q = p := fun q hi =>
      h.id_inj q p (h.located_lt q (.inr (.inr (.inl ⟨_, hi⟩)))) hpN (h.key _ q hi).1
        ((h.key _ q hi).1 ▸ hz)
    have hloc := located_insert_iff hp hk
    exact {
      located_lt := fun q hq => h.located_lt q ((hloc q).1 hq)
      fresh := h.fresh
      key := fun i q hi => by
        rcases lookup_insert_eq_some.1 hi with ⟨rfl, rfl⟩ | ⟨-, hiq⟩
        · have := (h.id_le p).1
          exact ⟨rfl, by omega⟩
        · exact h.key i q hiq
      id_le := h.id_le
      id_inj := h.id_inj
      live := fun q c hc => (hloc q).2 (h.live q c hc) }

/-- After the write the sender holds nothing; the packet it held is in the table. -/
theorem afterWrite (h : s.Inv) {g p : ℕ} (hg : s.gs g = some (.sender (some p)))
    (hp : ∃ i, s.mt.msgsByID.lookup i = some p) (w : Written) : (s.afterWrite g w).Inv := by
  have drop : ∀ r', heldOf r' = [] → (s.setG g r').Inv := fun r' hr' =>
    h.of_iff (h.fresh.setG hg r') rfl rfl rfl (fun _ _ h => h) fun q => by
      simp only [Located, setG_mt, setG_gs, heldIn_update, heldIn_iff s.gs g, hg, hr',
        heldOf_some, Goroutine.holds, Option.toList_some, List.mem_singleton, List.not_mem_nil,
        or_false]
      constructor
      · exact Or.imp_right (Or.imp_right (Or.imp_right Or.inl))
      · rintro (h | h | h | h | rfl)
        exacts [.inl h, .inr (.inl h), .inr (.inr (.inl h)), .inr (.inr (.inr h)),
          .inr (.inr (.inl hp))]
  cases w
  · exact drop _ rfl
  · exact drop _ rfl
  · exact (drop none rfl).reconnectLogged

/-! ### Reconnecting -/

/-- The end of `reconnectToDc` takes the pending packets still in the table into its hands. -/
theorem repush (h : s.Inv) {g : ℕ} {c : Caller} {ids : List ℤ}
    (hg : s.gs g = some (.reconnect c (.repushing ids))) : (s.repush g c ids).Inv := by
  unfold Mux.repush
  dsimp only
  split
  · exact h.finishReconnect hg rfl c
  · refine h.of_iff (h.fresh.setG hg _) rfl rfl rfl (fun _ _ h => h) fun q => ?_
    simp only [Located, setG_gs, heldIn_update, heldIn_iff s.gs g, hg, heldOf_some,
      Goroutine.holds, List.mem_filterMap, List.not_mem_nil, or_false]
    constructor
    · rintro (h | h | h | h | ⟨i, -, hi⟩)
      exacts [.inl h, .inr (.inl h), .inr (.inr (.inl h)), .inr (.inr (.inr h)),
        .inr (.inr (.inl ⟨i, hi⟩))]
    · exact Or.imp_right (Or.imp_right (Or.imp_right Or.inl))

end Mux.Inv

/-! ### Every step, every run -/

theorem initRoutines_holds {g : ℕ} {r : Goroutine} (h : initRoutines g = some r) : r.holds = [] :=
  match g, h with
  | 0, rfl | 1, rfl | 2, rfl | 3, rfl => rfl
  | _ + 4, h => nomatch h

theorem Mux.init_inv (session : SessionInfo) (hasHandler : Bool) :
    (Mux.init session hasHandler).Inv := by
  have hl : ∀ q, ¬(Mux.init session hasHandler).Located q := by
    rintro q (h | h | ⟨i, h⟩ | ⟨g, r, hg, hq⟩)
    · exact List.not_mem_nil q h
    · exact List.not_mem_nil q h
    · simp [Mux.init, newMTProto] at h
    · rw [initRoutines_holds hg] at hq
      exact List.not_mem_nil q hq
  exact {
    located_lt := fun q hq => (hl q hq).elim
    fresh := fun g hg => by
      obtain ⟨n, rfl⟩ : ∃ n, g = n + 4 := ⟨g - 4, by simp [Mux.init] at hg; omega⟩
      rfl
    key := fun i q hi => by simp [Mux.init, newMTProto] at hi
    id_le := fun _ => ⟨le_rfl, le_rfl⟩
    id_inj := fun _ _ _ _ _ hne => (hne rfl).elim
    live := fun _ _ hc => by simp [Mux.init, newMTProto, newPacket] at hc }

open Mux in
/-- Every step keeps the invariant. -/
theorem Step.inv {s s' : Mux} (hs : Step s s') (h : s.Inv) : s'.Inv := by
  have hf := h.fresh
  cases hs with
  | send msg => exact h.sendExt msg
  | receive => exact h.of_iff hf rfl rfl rfl (fun _ _ h => h) fun _ => Iff.rfl
  | reconnect => exact h.spawn rfl
  | stop g r hg hr =>
    exact (h.setG hg (by rw [Goroutine.holds_of_idle hr]; rfl)).of_iff (hf.setG hg none)
      rfl rfl rfl (fun _ _ h => h) fun _ => Iff.rfl
  | transferTake g p rest hg _ he =>
    exact h.of_iff (hf.setG hg _) rfl rfl rfl (fun _ _ h => h) <| located_of_moves rfl <|
      List.perm_iff_count.2 fun a => by simp [hg, he, Goroutine.holds, List.count_cons]; omega
  | transferPush g p hg =>
    exact h.of_iff (hf.setG hg _) rfl rfl rfl (fun _ _ h => h) <| located_of_moves rfl <|
      List.perm_iff_count.2 fun a => by simp [hg, Goroutine.holds, MTProto.enqueue, List.count_cons]
  | senderTake g p rest hg hq =>
    exact h.of_iff (hf.setG hg _) rfl rfl rfl (fun _ _ h => h) <| located_of_moves rfl <|
      List.perm_iff_count.2 fun a => by simp [hg, hq, Goroutine.holds, List.count_cons]; omega
  | senderSend g p id w hg _ hid =>
    exact (h.record ⟨g, _, hg, List.mem_singleton_self p⟩ hid).afterWrite
      (by rw [Mux.record_gs]; exact hg) (Mux.record_recorded s p id) w
  | readerRead g _ _ _ hg => exact h.setG hg (by rfl)
  | readerFail g hg => exact (h.setG hg (by rfl)).reconnectLogged
  | readerExec g a acts mt hg ha _ _ e => exact (h.setG hg (by rfl)).exec ha e
  | readerResend g acts hg => exact h.resend hg
  | readerPush g p ps acts hg =>
    exact h.of_iff (hf.setG hg _) rfl rfl rfl (fun _ _ h => h) <| located_of_moves rfl <|
      List.perm_iff_count.2 fun a => by simp [hg, Goroutine.holds, MTProto.enqueue, List.count_cons]; omega
  | ping => exact h.pushNew _
  | reconnStop g c k hg =>
    exact (h.setG hg (by rfl)).of_iff (hf.setG hg _) rfl rfl rfl (fun _ _ h => h) fun _ => Iff.rfl
  | reconnClose g c hg => exact h.setG hg (by rfl)
  | reconnCloseFail g c hg => exact h.failReconnect hg rfl c
  | reconnWait g c hg =>
    exact (h.setG hg (by rfl)).of_iff (hf.setG hg _) rfl rfl rfl (fun _ _ h => h) fun _ => Iff.rfl
  | reconnConnect g c ids hg =>
    exact (((h.setG hg (by rfl)).spawn (by rfl)).spawn (by rfl)).sendInternal invokeWithLayer
  | reconnConnectFail g c ids hg => exact h.failReconnect hg rfl c
  | reconnConfig g c ids ch v rest hg =>
    have h₁ : { s with mt := s.mt.receive ch rest }.Inv :=
      h.of_iff hf rfl rfl rfl (fun _ _ h => h) fun _ => Iff.rfl
    split
    · exact ((h₁.setG hg (by rfl)).spawn (by rfl)).spawn (by rfl)
    · exact h₁.failReconnect hg rfl c
  | reconnRepush g c ids hg => exact h.repush hg
  | reconnPush g c p ps hg =>
    split
    · rename_i hps
      subst hps
      cases c <;>
      · exact h.of_iff (hf.setG hg none) rfl rfl rfl (fun _ _ h => h) <| located_of_moves rfl <|
          List.perm_iff_count.2 fun a => by simp [hg, Goroutine.holds, MTProto.enqueue, List.count_cons]
    · exact h.of_iff (hf.setG hg _) rfl rfl rfl (fun _ _ h => h) <| located_of_moves rfl <|
        List.perm_iff_count.2 fun a => by
          simp [hg, Goroutine.holds, MTProto.enqueue, List.count_cons]; omega

theorem Reachable.inv {s : Mux} (h : Reachable s) : s.Inv := by
  induction h with
  | init session hasHandler => exact Mux.init_inv session hasHandler
  | step _ hs ih => exact hs.inv ih

/-- **No waiter is lost.** In every state a connected client reaches — through any
interleaving of callers, the four workers, `process` with its `bad_server_salt` resends,
sends that find the connection closed, and executions of `reconnectToDc` — every packet that
still has a response channel has one nothing was sent on, and is on `extSendQueue`, on
`sendQueue`, in `msgsByID`, or held by a goroutine that will put it on one of these. -/
theorem reachable_located {s : Mux} (h : Reachable s) (p c : ℕ)
    (hc : (s.mt.packets p).resp = some c) :
    (s.mt.chans c).sends = 0 ∧
      (p ∈ s.mt.extSendQueue ∨ p ∈ s.mt.sendQueue ∨ (∃ i, s.mt.msgsByID.lookup i = some p) ∨
        ∃ g r, s.gs g = some r ∧ p ∈ r.holds) :=
  ⟨(h.chansOk.live p c hc).2.2.2, h.inv.live p c hc⟩

/-- A client after one `Send` whose packet `queueTransferRoutine` has taken off
`extSendQueue`: the packet is on no queue and in no table. -/
def Mux.inTransfer : Mux :=
  let s := { Mux.init ⟨2, [], [], 0, [], 0⟩ false with
    mt := (Mux.init ⟨2, [], [], 0, [], 0⟩ false).mt.sendExt (.obj 0 []) }
  { s.setG 2 (some (.transfer (some 0))) with mt := { s.mt with extSendQueue := [] } }

theorem reachable_located_inTransfer :
    Reachable Mux.inTransfer ∧ (Mux.inTransfer.mt.chans 0).sends = 0 ∧
      (0 ∈ Mux.inTransfer.mt.extSendQueue ∨ 0 ∈ Mux.inTransfer.mt.sendQueue ∨
        (∃ i, Mux.inTransfer.mt.msgsByID.lookup i = some 0) ∨
        ∃ g r, Mux.inTransfer.gs g = some r ∧ 0 ∈ r.holds) :=
  have hr : Reachable Mux.inTransfer :=
    .step (.step (.init _ _) (.send _ (.obj 0 []) (by decide)))
      (.transferTake _ 2 0 [] rfl (by decide) rfl)
  ⟨hr, reachable_located hr 0 0 rfl⟩

end TgClient
