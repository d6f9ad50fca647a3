import TgClient.Mux.Delivery

/-!
# Two Reconnects at Once

`reconnectLogged` takes `reconnSemaphore` (a channel of capacity 1) before it calls
`reconnectToDc`, and gives it back when `reconnectToDc` returns `nil`; a second
`reconnectLogged` finds it taken and returns ("reconnection already in progress,
aborting"). So at most one execution of `reconnectToDc` that `reconnectLogged` started runs
at a time, and the semaphore is taken exactly while one runs (`reachable_guarded`).

`Reconnect` and the migration branch of `Auth` call `reconnectToDc` directly and never look
at the semaphore. Nothing else keeps two executions apart: both push stop tokens, both wait
until no worker runs, and both `Connect`, each starting its own `sendRoutine` and
`readRoutine` (`reconnects_overlap`).

## Main results

* `reachable_guarded`: the semaphore guards the executions `reconnectLogged` starts.
* `reconnects_overlap`: a run in which an execution started by `reconnectLogged` and one
  started by `Reconnect` both connect, so that two sets of workers run at once.
-/

namespace TgClient

open Function (update update_noteq)

/-- Whether an execution of `reconnectToDc` holds `reconnSemaphore`. -/
def Caller.isLogged : Caller → Bool
  | .logged => true
  | .direct => false

/-- Whether a goroutine is an execution of `reconnectToDc` that `reconnectLogged` started. -/
def loggedOf : Option Goroutine → Bool
  | some (.reconnect c _) => c.isLogged
  | _ => false

theorem loggedOf_of_idle {r : Goroutine} (h : r.Idle) : loggedOf (some r) = false := by
  cases r <;> first | rfl | exact h.elim

/-! ### The semaphore guards `reconnectLogged` -/

/-- The semaphore is taken exactly while an execution that `reconnectLogged` started runs,
and at most one such execution runs. -/
structure Mux.Guarded (s : Mux) : Prop where
  sem : s.reconnSemaphore = true ↔ ∃ g, loggedOf (s.gs g) = true
  unique : ∀ g₁ g₂, loggedOf (s.gs g₁) = true → loggedOf (s.gs g₂) = true → g₁ = g₂

namespace Mux.Guarded

variable {s s' : Mux}

/-- A step that keeps the semaphore and which goroutines are `reconnectLogged`'s. -/
theorem congr (h : s.Guarded) (hs : s'.reconnSemaphore = s.reconnSemaphore)
    (hl : ∀ g, loggedOf (s'.gs g) = loggedOf (s.gs g)) : s'.Guarded where
  sem := by simp only [hs, h.sem, hl]
  unique g₁ g₂ := by rw [hl, hl]; exact h.unique g₁ g₂

/-- A step after which no execution of `reconnectLogged` runs and the semaphore is free. -/
theorem of_none (hs : s'.reconnSemaphore = false) (hl : ∀ g, loggedOf (s'.gs g) = false) :
    s'.Guarded where
  sem := by simp [hs, hl]
  unique g₁ _ h₁ := by simp [hl g₁] at h₁

theorem setG (h : s.Guarded) {g : ℕ} {r' : Option Goroutine}
    (hr : loggedOf r' = loggedOf (s.gs g)) : (s.setG g r').Guarded :=
  h.congr rfl fun g' => by
    by_cases hg : g' = g
    · subst hg
      simpa using hr
    · simp [update_noteq hg]

theorem spawn (h : s.Guarded) (hf : s.Fresh) {x : Goroutine} (hx : loggedOf (some x) = false) :
    (s.spawn x).Guarded :=
  h.congr rfl fun g' => by
    by_cases hg : g' = s.nextG
    · subst hg
      rw [spawn_gs, Function.update_same, hx, hf _ le_rfl]
      rfl
    · simp [update_noteq hg]

/-- `reconnectLogged` starts an execution only when the semaphore is free, and takes it. -/
theorem reconnectLogged (h : s.Guarded) : s.reconnectLogged.Guarded := by
  unfold Mux.reconnectLogged
  split
  · exact h
  · rename_i hs
    -- no execution ran, so the new one is the only one
    have hk : ∀ g, loggedOf (update s.gs s.nextG (some (.reconnect .logged (.stopping routinesCount))) g)
        = true → g = s.nextG := fun g hg => by
      by_contra hne
      rw [update_noteq hne] at hg
      exact hs (h.sem.2 ⟨g, hg⟩)
    exact ⟨by simpa using ⟨s.nextG, by simp [loggedOf, Caller.isLogged]⟩,
      fun g₁ g₂ h₁ h₂ => (hk g₁ h₁).trans (hk g₂ h₂).symm⟩

theorem failReconnect (h : s.Guarded) {g : ℕ} {c : Caller} {ph : Phase}
    (hg : s.gs g = some (.reconnect c ph)) : (s.failReconnect g c).Guarded := by
  cases c <;> exact h.setG (by rw [hg]; rfl)

/-- `reconnectToDc` returns `nil`: `reconnectLogged`'s execution gives the semaphore back. -/
theorem finishReconnect (h : s.Guarded) {g : ℕ} {c : Caller} {ph : Phase}
    (hg : s.gs g = some (.reconnect c ph)) : (s.finishReconnect g c).Guarded := by
  cases c
  · refine of_none rfl fun g' => ?_
    by_cases e : g' = g
    · subst e
      simp [Mux.finishReconnect, loggedOf]
    · have hl : loggedOf (s.gs g') ≠ true := fun h' => e (h.unique g' g h' (by rw [hg]; rfl))
      simpa [Mux.finishReconnect, update_noteq e] using hl
  · exact h.setG (by rw [hg]; rfl)

end Mux.Guarded

open Mux in
/-- Every step keeps the guard. -/
theorem Step.guarded {s s' : Mux} (hs : Step s s') (hf : s.Fresh) (h : s.Guarded) :
    s'.Guarded := by
  cases hs with
  | send | receive => exact h.congr rfl fun _ => rfl
  | reconnect => exact h.spawn hf rfl
  | stop g r hg hr =>
    exact (h.setG (by rw [hg, loggedOf_of_idle hr]; rfl)).congr rfl fun _ => rfl
  | transferTake g _ _ hg | transferPush g _ hg | senderTake g _ _ hg | readerExec g _ _ _ hg
  | readerPush g _ _ _ hg | reconnStop g _ _ hg | reconnWait g _ hg =>
    exact (h.setG (by rw [hg]; rfl)).congr rfl fun _ => rfl
  | readerRead g _ _ _ hg | reconnClose g _ hg => exact h.setG (by rw [hg]; rfl)
  | senderSend g p id w hg =>
    have h₁ : (s.record p id).Guarded := h.congr (by simp) fun _ => by simp
    have hg₁ : (s.record p id).gs g = some (.sender (some p)) := by rw [record_gs, hg]
    cases w
    · exact h₁.setG (by rw [hg₁]; rfl)
    · exact h₁.setG (by rw [hg₁]; rfl)
    · exact (h₁.setG (by rw [hg₁]; rfl)).reconnectLogged
  | readerFail g hg => exact (h.setG (by rw [hg]; rfl)).reconnectLogged
  | readerResend g acts hg =>
    unfold Mux.resend
    dsimp only
    split <;> exact (h.setG (by rw [hg]; rfl)).congr rfl fun _ => rfl
  | ping => exact h.congr rfl fun _ => rfl
  | reconnCloseFail g c hg | reconnConnectFail g c _ hg => exact h.failReconnect hg
  | reconnConnect g c ids hg =>
    have hf₁ := hf.setG hg (some (.reconnect c (.configuring ids s.mt.nextChan)))
    exact ((((h.setG (by rw [hg]; rfl)).spawn hf₁ (by rfl)).spawn (hf₁.spawn _) (by rfl)).congr rfl
      fun _ => rfl)
  | reconnConfig g c ids ch v rest hg =>
    have h₁ : { s with mt := s.mt.receive ch rest }.Guarded := h.congr rfl fun _ => rfl
    have hf₁ := hf.setG hg (some (.reconnect c (.repushing ids)))
    split
    · exact ((h₁.setG (by rw [hg]; rfl)).spawn hf₁ (by rfl)).spawn (hf₁.spawn _) (by rfl)
    · exact h₁.failReconnect hg
  | reconnRepush g c ids hg =>
    unfold Mux.repush
    dsimp only
    split
    · exact h.finishReconnect hg
    · exact (h.setG (by rw [hg]; rfl)).congr rfl fun _ => rfl
  | reconnPush g c p ps hg =>
    split
    · exact (h.congr rfl fun _ => rfl : { s with mt := s.mt.enqueue p, mutex := none }.Guarded)
        |>.finishReconnect hg
    · exact (h.setG (by rw [hg]; rfl)).congr rfl fun _ => rfl

theorem Mux.init_guarded (session : SessionInfo) (hasHandler : Bool) :
    (Mux.init session hasHandler).Guarded :=
  .of_none rfl fun g =>
    match g with
    | 0 | 1 | 2 | 3 | _ + 4 => rfl

/-- **The semaphore guards `reconnectLogged`.** In every reachable state the semaphore is
taken exactly while an execution of `reconnectToDc` that `reconnectLogged` started runs, and
at most one such execution runs. -/
theorem reachable_guarded {s : Mux} (h : Reachable s) :
    (s.reconnSemaphore = true ↔ ∃ g, loggedOf (s.gs g) = true) ∧
      ∀ g₁ g₂, loggedOf (s.gs g₁) = true → loggedOf (s.gs g₂) = true → g₁ = g₂ := by
  have : s.Guarded := by
    induction h with
    | init session hasHandler => exact Mux.init_guarded session hasHandler
    | step hr hs ih => exact hs.guarded hr.inv.fresh ih
  exact ⟨this.sem, this.unique⟩

/-- A read fails: `readRoutine` starts `reconnectLogged`, which takes the semaphore as
goroutine 4. -/
theorem reachable_guarded_readerFail :
    Reachable ((Mux.init ⟨2, [], [], 0, [], 0⟩ false).setG 1 none).reconnectLogged ∧
      (((Mux.init ⟨2, [], [], 0, [], 0⟩ false).setG 1 none).reconnectLogged.reconnSemaphore = true ↔
        ∃ g, loggedOf (((Mux.init ⟨2, [], [], 0, [], 0⟩ false).setG 1 none).reconnectLogged.gs g) =
          true) ∧
      ∀ g₁ g₂, loggedOf (((Mux.init ⟨2, [], [], 0, [], 0⟩ false).setG 1 none).reconnectLogged.gs g₁) =
          true →
        loggedOf (((Mux.init ⟨2, [], [], 0, [], 0⟩ false).setG 1 none).reconnectLogged.gs g₂) =
          true → g₁ = g₂ :=
  have h := (Reachable.init ⟨2, [], [], 0, [], 0⟩ false).step (.readerFail _ 1 rfl)
  ⟨h, reachable_guarded h⟩

/-! ### `Reconnect` does not take the semaphore -/

/-- `reconnectToDc` goes on once no goroutine below `nextG` is a worker; the ones from
`nextG` on do not exist. -/
theorem Reachable.wait {s : Mux} (h : Reachable s) {g : ℕ} {c : Caller}
    (hg : s.gs g = some (.reconnect c .waiting))
    (hw : ∀ g' < s.nextG, ((s.gs g').all fun r => !r.isWorker) = true) :
    Reachable { s.setG g (some (.reconnect c (.connecting s.mt.msgsByID.keys))) with
      routinesStop := 0 } :=
  .step h (.reconnWait s g c hg fun g' r hr => by
    by_cases hlt : g' < s.nextG
    · simpa [hr] using hw g' hlt
    · rw [h.inv.fresh g' (not_lt.mp hlt)] at hr
      cases hr)

/-- **`Reconnect` runs beside `reconnectLogged`.** A read fails, so `readRoutine` starts
`reconnectLogged` (goroutine 4, taking the semaphore), and the application calls `Reconnect`
(goroutine 5). Both push their stop tokens while the workers take them, both wait until no
worker runs, and both `Connect`: two `sendRoutine`s (6 and 8) and two `readRoutine`s (7
and 9) run at once, beside two executions of `reconnectToDc` waiting on their configuration
requests. -/
theorem reconnects_overlap :
    ∃ s, Reachable s ∧ s.reconnSemaphore = true ∧
      s.gs 4 = some (.reconnect .logged (.configuring [] 0)) ∧
      s.gs 5 = some (.reconnect .direct (.configuring [] 1)) ∧
      s.gs 6 = some (.sender none) ∧ s.gs 7 = some (.reader [] []) ∧
      s.gs 8 = some (.sender none) ∧ s.gs 9 = some (.reader [] []) := by
  -- `readRoutine` fails, `Reconnect` is called, and each reconnect pushes one token
  have r₁ := (Reachable.init ⟨2, [], [], 0, [], 0⟩ false).step (.readerFail _ 1 rfl)
  have r₂ := r₁.step (.reconnect _)
  have r₃ := r₂.step (.reconnStop _ 4 .logged 3 rfl (by decide))
  have r₄ := r₃.step (.reconnStop _ 5 .direct 3 rfl (by decide))
  -- the three remaining workers take tokens; `reconnectLogged`'s execution pushes the rest
  have r₅ := r₄.step (.stop _ 0 (.sender none) rfl trivial (by decide))
  have r₆ := r₅.step (.stop _ 2 (.transfer none) rfl trivial (by decide))
  have r₇ := r₆.step (.reconnStop _ 4 .logged 2 rfl (by decide))
  have r₈ := r₇.step (.stop _ 3 .pinger rfl trivial (by decide))
  have r₉ := r₈.step (.reconnStop _ 4 .logged 1 rfl (by decide))
  have r₁₀ := r₉.step (.reconnStop _ 4 .logged 0 rfl (by decide))
  -- it closes the connection and, with no worker left, drains the tokens
  have r₁₁ := r₁₀.step (.reconnClose _ 4 .logged rfl)
  have r₁₂ := r₁₁.wait (g := 4) rfl (by decide)
  -- `Reconnect`'s execution pushes its tokens into the drained channel and does the same
  have r₁₃ := r₁₂.step (.reconnStop _ 5 .direct 2 rfl (by decide))
  have r₁₄ := r₁₃.step (.reconnStop _ 5 .direct 1 rfl (by decide))
  have r₁₅ := r₁₄.step (.reconnStop _ 5 .direct 0 rfl (by decide))
  have r₁₆ := r₁₅.step (.reconnClose _ 5 .direct rfl)
  have r₁₇ := r₁₆.wait (g := 5) rfl (by decide)
  -- both connect
  have r₁₈ := r₁₇.step (.reconnConnect _ 4 .logged [] rfl (by decide))
  have r₁₉ := r₁₈.step (.reconnConnect _ 5 .direct [] rfl (by decide))
  exact ⟨_, r₁₉, rfl, rfl, rfl, rfl, rfl, rfl, rfl⟩

end TgClient
