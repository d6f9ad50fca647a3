import TgClient.Mux.Delivery

/-!
# Returning the Pending Packets Can Block

The design comment of `MTProto` calls `sendQueue` unlimited, so that failed packets can be
returned to it "safely (without locks)". It is `make(chan *packetToSend, 1024)`.
`queueTransferRoutine`'s bound `len(sendQueue) < cap(extSendQueue)` limits only what comes
from `extSendQueue`; `msgsByID` keeps every request that was sent and not answered, with no
bound. On `bad_server_salt`, `resendPendingPackets` pops them all and pushes them back onto
`sendQueue` holding `m.mutex`, and `sendRoutine` needs the mutex to record each packet it
sends (in `send`).

With 1026 requests pending the reader fills `sendQueue`, `sendRoutine` takes one packet and
waits for the mutex, and the reader waits for room for the last one. `Mux.Stuck` describes
that state: no step of any goroutine leaves it, so the reader holds the mutex for ever.

## Main results

* `Mux.Stuck.step`, `Mux.Stuck.run`: every step, and so every run, from a stuck state stays
  stuck.
* `resend_overflows`: a reachable state where `resendPendingPackets` holds the mutex with
  more packets to push than `sendQueue` has room for, from which the client gets stuck.
-/

namespace TgClient

open Function (update update_noteq)

/-! ### A reader that can never finish -/

/-- The reader `gr` holds the mutex with packets still to push, `sendQueue` is full, every
`sendRoutine` holds a packet it has not sent, and no `reconnectToDc` is about to
`Connect` (which would start a new `sendRoutine`). -/
structure Mux.Stuck (s : Mux) (gr : ℕ) : Prop where
  mutex : s.mutex = some gr
  reader : ∃ p ps acts, s.gs gr = some (.reader (p :: ps) acts)
  full : sendCap ≤ s.mt.sendQueue.length
  busy : ∀ g, s.gs g ≠ some (.sender none)
  noConnect : ∀ g c ids, s.gs g ≠ some (.reconnect c (.connecting ids))

namespace Mux.Stuck

variable {s s' : Mux} {gr : ℕ}

/-- A goroutine other than the stuck reader. -/
theorem ne (h : s.Stuck gr) {g : ℕ} {r : Goroutine} (hg : s.gs g = some r)
    (hr : ∀ p ps acts, r ≠ .reader (p :: ps) acts) : g ≠ gr := by
  rintro rfl
  obtain ⟨p, ps, acts, e⟩ := h.reader
  exact hr p ps acts (Option.some.inj (hg.symm.trans e))

/-- A step that keeps the mutex, the goroutines, and does not shorten `sendQueue`. -/
theorem congr (h : s.Stuck gr) (hm : s'.mutex = s.mutex) (hg : s'.gs = s.gs)
    (hq : s.mt.sendQueue.length ≤ s'.mt.sendQueue.length) : s'.Stuck gr where
  mutex := hm.trans h.mutex
  reader := hg ▸ h.reader
  full := h.full.trans hq
  busy := hg ▸ h.busy
  noConnect := hg ▸ h.noConnect

/-- Replacing a goroutine other than the reader by one that neither waits on `sendQueue`
nor is about to `Connect`. -/
theorem setG (h : s.Stuck gr) {g : ℕ} (hne : g ≠ gr) {r' : Option Goroutine}
    (hs : r' ≠ some (.sender none)) (hc : ∀ c ids, r' ≠ some (.reconnect c (.connecting ids))) :
    (s.setG g r').Stuck gr where
  mutex := h.mutex
  reader := by simpa [update_noteq (Ne.symm hne)] using h.reader
  full := h.full
  busy g' := by
    by_cases e : g' = g
    · subst e
      simpa using hs
    · simpa [update_noteq e] using h.busy g'
  noConnect g' c ids := by
    by_cases e : g' = g
    · subst e
      simpa using hc c ids
    · simpa [update_noteq e] using h.noConnect g' c ids

theorem spawn (h : s.Stuck gr) (hf : s.Fresh) {x : Goroutine} (hs : x ≠ .sender none)
    (hc : ∀ c ids, x ≠ .reconnect c (.connecting ids)) : (s.spawn x).Stuck gr := by
  obtain ⟨p, ps, acts, e⟩ := h.reader
  have : gr ≠ s.nextG := (hf.lt e).ne
  exact h.setG this.symm (by simpa using hs) (by simpa using hc) |>.congr rfl rfl le_rfl

theorem reconnectLogged (h : s.Stuck gr) (hf : s.Fresh) : s.reconnectLogged.Stuck gr := by
  unfold Mux.reconnectLogged
  split
  · exact h
  · exact (h.spawn hf (by simp) (by simp)).congr rfl rfl le_rfl

theorem failReconnect (h : s.Stuck gr) {g : ℕ} (hne : g ≠ gr) (c : Caller) :
    (s.failReconnect g c).Stuck gr := by
  cases c
  · exact h.setG hne (by simp) (by simp)
  · exact h.setG hne (by simp) (by simp)

theorem finishReconnect (h : s.Stuck gr) {g : ℕ} (hne : g ≠ gr) (c : Caller) :
    (s.finishReconnect g c).Stuck gr := by
  cases c
  · exact (h.setG hne (by simp) (by simp)).congr rfl rfl le_rfl
  · exact h.setG hne (by simp) (by simp)

/-- No step leaves a stuck state: the reader, the senders and `pushPendingPacketsUnlocked`
of a reconnect wait for room in `sendQueue` or for the mutex, no reconnect can get past
`routinesWG.Wait()` while the reader runs, and no other step frees either. -/
theorem step (h : s.Stuck gr) (hf : s.Fresh) (hs : Step s s') : s'.Stuck gr := by
  have hfull := h.full
  cases hs with
  | send | receive | ping => first
    | exact h.congr rfl rfl le_rfl
    | exact absurd hfull (by omega)
  | reconnect => exact h.spawn hf (by simp) (by simp)
  | stop g r hg hr =>
    have hne := h.ne hg fun p ps acts e => by subst e; exact hr
    exact (h.setG hne (by simp) (by simp)).congr rfl rfl le_rfl
  | transferTake g p rest hg =>
    exact (h.setG (h.ne hg (by simp)) (by simp) (by simp)).congr rfl rfl le_rfl
  | transferPush _ _ _ hq | readerPush _ _ _ _ _ hq | reconnPush _ _ _ _ hq =>
    exact absurd hfull (by omega)
  | senderTake g p rest hg => exact absurd hg (h.busy g)
  | senderSend _ _ _ _ _ hm | readerResend _ _ _ hm =>
    rw [h.mutex] at hm
    cases hm
  | readerRead g _ _ _ hg => exact h.setG (h.ne hg (by simp)) (by simp) (by simp)
  | readerFail g hg =>
    have h₁ : (s.setG g none).Stuck gr := h.setG (h.ne hg (by simp)) (by simp) (by simp)
    exact h₁.reconnectLogged (hf.setG hg none)
  | readerExec g a acts mt hg ha hm hq e =>
    have hl : a.locks = false := by
      cases hl : a.locks
      · rfl
      · rw [h.mutex] at hm
        exact absurd (hm hl) (by simp)
    have hp : ∀ x, a ≠ .push x := by
      rintro x rfl
      exact absurd (hq rfl) (by omega)
    obtain ⟨-, hq', -⟩ := Action.exec_shrink e hp ha
    exact (h.setG (h.ne hg (by simp)) (by simp) (by simp)).congr rfl rfl (congrArg List.length hq').ge
  | reconnStop g _ _ hg | reconnClose g _ hg =>
    exact (h.setG (h.ne hg (by simp)) (by simp) (by simp)).congr rfl rfl le_rfl
  | reconnCloseFail g c hg => exact h.failReconnect (h.ne hg (by simp)) c
  | reconnWait g c hg hw =>
    obtain ⟨p, ps, acts, e⟩ := h.reader
    exact absurd (hw gr _ e) (by simp [Goroutine.isWorker])
  | reconnConnect g c ids hg | reconnConnectFail g c ids hg => exact absurd hg (h.noConnect g c ids)
  | reconnConfig g c ids ch v rest hg =>
    have h₁ : { s with mt := s.mt.receive ch rest }.Stuck gr := h.congr rfl rfl le_rfl
    have hne := h.ne hg (by simp)
    split
    · have hf₁ := hf.setG hg (some (.reconnect c (.repushing ids)))
      exact ((h₁.setG hne (by simp) (by simp)).spawn hf₁ (by simp) (by simp)).spawn
        (hf₁.spawn _) (by simp) (by simp)
    · exact h₁.failReconnect hne c
  | reconnRepush g c ids hg hm =>
    have hne := h.ne hg (by simp)
    rcases hm with rfl | hm
    · exact h.finishReconnect hne c
    · rw [h.mutex] at hm
      cases hm

/-- **Stuck for ever.** Along every run from a stuck state the reader keeps the mutex and
its packets, `sendQueue` stays full, and every sender keeps the packet it cannot send. -/
theorem run (h : s.Stuck gr) (hi : s.Inv) (hr : Relation.ReflTransGen Step s s') :
    s'.Stuck gr := by
  suffices s'.Stuck gr ∧ s'.Inv from this.1
  induction hr with
  | refl => exact ⟨h, hi⟩
  | tail _ hs ih => exact ⟨ih.1.step ih.2.fresh hs, hs.inv ih.2⟩

end Mux.Stuck

/-! ### Many requests outstanding -/

/-- One request from `Send` to the wire: `Send` puts it on `extSendQueue`,
`queueTransferRoutine` (goroutine 2) moves it to `sendQueue`, and `sendRoutine`
(goroutine 0) takes it and sends it under the next message id, recording it in
`msgsByID`. -/
def Mux.sendOne (s : Mux) : Mux :=
  let p := s.mt.nextPacket
  let s₁ := { s with mt := s.mt.sendExt (.obj 0 []) }
  let s₂ := { s₁.setG 2 (some (.transfer (some p))) with mt := { s₁.mt with extSendQueue := [] } }
  let s₃ := { s₂.setG 2 (some (.transfer none)) with mt := s₂.mt.enqueue p }
  let s₄ := { s₃.setG 0 (some (.sender (some p))) with mt := { s₃.mt with sendQueue := [] } }
  (s₄.record p (s.lastMsgID + 1)).afterWrite 0 .ok

theorem Reachable.sendOne {s : Mux} (h : Reachable s) (he : s.mt.extSendQueue = [])
    (hq : s.mt.sendQueue = []) (h0 : s.gs 0 = some (.sender none))
    (h2 : s.gs 2 = some (.transfer none)) (hm : s.mutex = none) : Reachable s.sendOne :=
  (((((h.step (.send _ (.obj 0 []) (by rw [he]; decide))).step
    (.transferTake _ 2 s.mt.nextPacket [] h2 (by simp [hq, extCap]) (by simp [he]))).step
    (.transferPush _ 2 _ (by simp) (by simp [hq, sendCap]))).step
    (.senderTake _ 0 s.mt.nextPacket [] (by simp [h0]) (by simp [MTProto.enqueue, hq]))).step
    (.senderSend _ 0 _ (s.lastMsgID + 1) .ok (by simp) hm (Int.lt_succ _)))

/-- What one request leaves behind: both queues empty, the goroutines as they were, and the
request recorded under the next message id. -/
theorem Mux.sendOne_spec {s : Mux} (h0 : s.gs 0 = some (.sender none))
    (h2 : s.gs 2 = some (.transfer none)) :
    s.sendOne.mt.extSendQueue = [] ∧ s.sendOne.mt.sendQueue = [] ∧ s.sendOne.gs = s.gs ∧
      s.sendOne.mutex = s.mutex ∧ s.sendOne.lastMsgID = s.lastMsgID + 1 ∧
      s.sendOne.mt.msgsByID = s.mt.msgsByID.insert (s.lastMsgID + 1) s.mt.nextPacket := by
  simp only [Mux.sendOne, Mux.afterWrite]
  rw [Mux.record_of_zero _ _ _ (by simp [newPacket, MTProto.enqueue])]
  dsimp only [Mux.setG]
  refine ⟨rfl, rfl, funext fun g => ?_, rfl, rfl, rfl⟩
  by_cases e0 : g = 0
  · subst e0
    simp [h0]
  · by_cases e2 : g = 2
    · subst e2
      simp [h2]
    · simp [update_noteq e0, update_noteq e2]

/-- `n` requests sent and not answered, from a connected client. -/
def Mux.loaded : ℕ → Mux
  | 0 => Mux.init ⟨2, [], [], 0, [], 0⟩ false
  | n + 1 => (Mux.loaded n).sendOne

theorem Mux.loaded_spec (n : ℕ) :
    Reachable (Mux.loaded n) ∧ (Mux.loaded n).gs = initRoutines ∧
      (Mux.loaded n).mutex = none ∧ (Mux.loaded n).mt.extSendQueue = [] ∧
      (Mux.loaded n).mt.sendQueue = [] ∧ (Mux.loaded n).mt.msgsByID.entries.length = n := by
  induction n with
  | zero => exact ⟨.init _ _, rfl, rfl, rfl, rfl, rfl⟩
  | succ n ih =>
    obtain ⟨hr, hg, hm, he, hq, hl⟩ := ih
    have h0 : (Mux.loaded n).gs 0 = some (.sender none) := by rw [hg]; rfl
    have h2 : (Mux.loaded n).gs 2 = some (.transfer none) := by rw [hg]; rfl
    obtain ⟨e₁, e₂, e₃, e₄, -, e₆⟩ := Mux.sendOne_spec h0 h2
    -- the next id is above every id in the table
    have hfresh : (Mux.loaded n).lastMsgID + 1 ∉ (Mux.loaded n).mt.msgsByID := by
      rw [← AList.lookup_eq_none]
      cases hi : (Mux.loaded n).mt.msgsByID.lookup ((Mux.loaded n).lastMsgID + 1) with
      | none => rfl
      | some q =>
        have := (hr.inv.key _ q hi).1
        have := (hr.inv.id_le q).2
        omega
    refine ⟨hr.sendOne he hq h0 h2 hm, e₃.trans hg, e₄.trans hm, e₁, e₂, ?_⟩
    show (Mux.loaded n).sendOne.mt.msgsByID.entries.length = n + 1
    rw [e₆, AList.insert_entries_of_neg hfresh, List.length_cons, hl]

theorem Reachable.run {s t : Mux} (h : Reachable s) (hr : Relation.ReflTransGen Step s t) :
    Reachable t := by
  induction hr with
  | refl => exact h
  | tail _ hs ih => exact ih.step hs

/-! ### A `bad_server_salt` with 1026 requests pending -/

/-- `resendPendingPackets` on a non-empty table takes the mutex. -/
theorem Mux.resend_of_ne (s : Mux) (g : ℕ) (acts : List Action)
    (h : s.mt.popPendingPacketsUnlocked.1 ≠ []) :
    s.resend g acts = { s.setG g (some (.reader s.mt.popPendingPacketsUnlocked.1 acts)) with
      mt := s.mt.popPendingPacketsUnlocked.2, mutex := some g } :=
  if_neg h

/-- `readRoutine` (goroutine 1) reads a `bad_server_salt` with sequence number 0: `process`
sets the new salt and starts `resendPendingPackets`, which takes the mutex and pops the
whole table into the reader's hands. -/
theorem Reachable.badSalt {s : Mux} (h : Reachable s) (hg : s.gs 1 = some (.reader [] []))
    (hm : s.mutex = none) (ht : s.mt.msgsByID.entries ≠ []) :
    ∃ t, Reachable t ∧ t.mutex = some 1 ∧
      t.gs = update s.gs 1 (some (.reader (s.mt.msgsByID.entries.map Sigma.snd) [])) ∧
      t.mt.sendQueue = s.mt.sendQueue := by
  have r := ((h.step (.readerRead _ 1 0 0 (some (.badServerSalt 0 0 0 7)) hg)).step
    (.readerExec _ 1 (.setSalt 7) [.resend] _ rfl nofun nofun nofun rfl)).step
    (.readerResend _ 1 [] rfl hm)
  rw [Mux.resend_of_ne] at r
  · exact ⟨_, r, rfl, by simp [MTProto.popPendingPacketsUnlocked, MTProto.setServerSalt,
      MTProto.saveSessionLogged], rfl⟩
  · simpa [MTProto.popPendingPacketsUnlocked, MTProto.setServerSalt,
      MTProto.saveSessionLogged] using ht

/-- `pushPendingPacketsUnlocked` pushing the packets `ps` of the reader `g`, with `qs` left. -/
theorem Step.readerPushes {g : ℕ} {acts : List Action} {qs : List ℕ} (hqs : qs ≠ []) :
    ∀ (ps : List ℕ) {s : Mux}, s.gs g = some (.reader (ps ++ qs) acts) →
      s.mt.sendQueue.length + ps.length ≤ sendCap →
      ∃ t, Relation.ReflTransGen Step s t ∧ t.gs = update s.gs g (some (.reader qs acts)) ∧
        t.mutex = s.mutex ∧ t.mt.sendQueue = s.mt.sendQueue ++ ps
  | [], s, hg, _ => by
    rw [List.nil_append] at hg
    exact ⟨s, .refl, by rw [← hg, Function.update_eq_self], rfl, by simp⟩
  | p :: ps, s, hg, hq => by
    obtain ⟨t, ht, hgt, hmt, hqt⟩ := @readerPushes g acts qs hqs ps
      { s.setG g (some (.reader (ps ++ qs) acts)) with
        mt := s.mt.enqueue p, mutex := if ps ++ qs = [] then none else s.mutex }
      (by simp) (by simp [MTProto.enqueue] at hq ⊢; omega)
    exact ⟨t, .head (.readerPush s g p (ps ++ qs) acts hg (by simp at hq; omega)) ht,
      by simp [hgt], by simp [hmt, hqs], by simp [hqt, MTProto.enqueue]⟩

theorem initRoutines_ne_sender {g : ℕ} (h : g ≠ 0) : initRoutines g ≠ some (.sender none) :=
  match g with
  | 0 => absurd rfl h
  | 1 | 2 | 3 | _ + 4 => nofun

theorem initRoutines_ne_connecting (g : ℕ) (c : Caller) (ids : List ℤ) :
    initRoutines g ≠ some (.reconnect c (.connecting ids)) :=
  match g with
  | 0 | 1 | 2 | 3 | _ + 4 => nofun

/-- **Returning the pending packets overflows `sendQueue`.** After 1026 requests are sent
and not answered, a `bad_server_salt` makes `resendPendingPackets` hold the mutex with 1026
packets to push onto `sendQueue`, whose capacity is 1024. The run goes on to a state from
which, along every run, the reader keeps the mutex and never finishes pushing, with
`sendQueue` full. -/
theorem resend_overflows :
    ∃ s, Reachable s ∧ s.mutex = some 1 ∧
      (∃ ps, s.gs 1 = some (.reader ps []) ∧ sendCap < s.mt.sendQueue.length + ps.length) ∧
      ∃ t, Relation.ReflTransGen Step s t ∧ ∀ t', Relation.ReflTransGen Step t t' →
        t'.mutex = some 1 ∧ sendCap ≤ t'.mt.sendQueue.length ∧
        ∃ p ps acts, t'.gs 1 = some (.reader (p :: ps) acts) := by
  obtain ⟨r₀, hg₀, hm₀, -, hq₀, hl₀⟩ := Mux.loaded_spec 1026
  obtain ⟨s, hs, hms, hgs, hqs⟩ :=
    r₀.badSalt (by rw [hg₀]; rfl) hm₀ (by rw [← List.length_pos, hl₀]; decide)
  set popped := (Mux.loaded 1026).mt.msgsByID.entries.map Sigma.snd
  have hlen : popped.length = 1026 := by simp [popped, hl₀]
  refine ⟨s, hs, hms, ⟨popped, by simp [hgs], by simp [hqs, hq₀, hlen, sendCap]⟩, ?_⟩
  -- the reader pushes 1024 packets and keeps two
  obtain ⟨a, b, hab⟩ := List.length_eq_two.1 (show (popped.drop 1024).length = 2 by simp [hlen])
  obtain ⟨t₁, ht₁, hgt₁, hmt₁, hqt₁⟩ := @Step.readerPushes 1 [] _
    (List.cons_ne_nil a [b]) (popped.take 1024) s
    (by rw [← hab, List.take_append_drop, hgs]; simp) (by simp [hqs, hq₀, hlen, sendCap])
  obtain ⟨q, rest, hqr⟩ := List.exists_cons_of_ne_nil (show t₁.mt.sendQueue ≠ [] by
    rw [hqt₁, hqs, hq₀, List.nil_append]
    exact List.ne_nil_of_length_pos (by simp [hlen]))
  have hrest : rest.length = 1023 := by
    have h := congrArg List.length hqr
    rw [hqt₁, hqs, hq₀, List.nil_append, List.length_take, hlen, List.length_cons] at h
    omega
  -- `sendRoutine` takes one packet and waits for the mutex; the reader pushes one more
  have step₂ := Step.senderTake t₁ 0 q rest (by simp [hgt₁, hgs, hg₀, initRoutines]) hqr
  have step₃ := Step.readerPush
    { t₁.setG 0 (some (.sender (some q))) with mt := { t₁.mt with sendQueue := rest } } 1 a [b] []
    (by simp [hgt₁]) (by simp [hrest, sendCap])
  have hrun := (ht₁.tail step₂).tail step₃
  refine ⟨_, hrun, fun t' ht' => ?_⟩
  have h' := @Mux.Stuck.run _ _ 1 ?_ (hs.run hrun).inv ht'
  · exact ⟨h'.mutex, h'.full, h'.reader⟩
  exact {
    mutex := by simp [hmt₁, hms]
    reader := ⟨b, [], [], by simp⟩
    full := by simp [MTProto.enqueue, hrest, sendCap]
    busy := fun g => by
      by_cases h1 : g = 1
      · simp [h1]
      by_cases h0 : g = 0
      · simp [h0]
      simpa [h0, h1, hgt₁, hgs, hg₀] using initRoutines_ne_sender h0
    noConnect := fun g c ids => by
      by_cases h1 : g = 1
      · simp [h1]
      by_cases h0 : g = 0
      · simp [h0]
      simpa [h0, h1, hgt₁, hgs, hg₀] using initRoutines_ne_connecting g c ids }

end TgClient
