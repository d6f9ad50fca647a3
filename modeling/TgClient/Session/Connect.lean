import TgClient.Session.Store

/-!
# Connecting, the DC Table and Migration

The fields of `MTProto` that `InitSession`, `Connect`, `DCAddr` and `reconnectToDc` read and
write: the session, `encryptionReady`, the DC table `dcOptions`, and the session file of
`SessFileStore`. The goroutines that `Connect` starts and `reconnectToDc` stops are the
multiplexer's (`TgClient.Mux`); the steps `Step.reconnConnect` to `Step.reconnConfig` there
are the `Connect` below, seen from the goroutines. Of these fields the goroutines write the
server salt: from the moment `Connect` starts it until `reconnectToDc` stops it, the
`readRoutine` may process a `bad_server_salt` or a `new_session_created`, which stores the
salt and hands the session to `SaveSessionLogged`, whose error is only logged (`storeSalt`).
A store touches only the salt and the file, and `Connect` after it starts the goroutines
only the DC and the table, so a store that falls inside `Connect` leaves what it would
leave after it: runs of the client interleave stores with the calls
(`TgClient.Session.Persist`).

What the outside world does during one call is an argument, `Net`: whether the connection
is closed and dialed, what the key exchange yields, how far the session file gets written,
and what the server answers to the configuration request. `makeAuthKey` is not among the
sources; it is modelled from the spec as storing a new key, its hash and the server salt.

A Go method that stores into `m` and then returns an error is an
`EStateM ConnError Conn Unit`: an error keeps the state it was raised in.

## Main results

* `initSession_saved`: a client restarted on a file that a complete `Save` wrote gets back the
  key, hash, salt and address, with `encryptionReady` set; the DC is not in the file, and is
  `0` until the next configuration names one.
* `initSession_keyField`: a client restarted on the file of an interrupted `Save` believes its
  key is exchanged, with an empty hash, a zero salt and an empty address.
* `reconnectToDc_wrongDC`: a `reconnectToDc` to a DC the table does not have fails with the
  unknown-DC error, having cleared `encryptionReady` if the DC was not the current one.
* `failed_migration_rekeys`: after such a failure, the next `Reconnect` to the unchanged
  current DC runs a new key exchange and replaces the key, where it would have kept it.
* `Connects.dcOptions_eq`: along every run of successful connects, the DC table is the first
  table followed by the options of every configuration received, oldest first.
* `dcAddr_first_config`: so `DCAddr` answers from the oldest configuration that has a
  matching option, not from the latest.
-/

namespace TgClient

/-- `TL_dcOption`, with the fields `DCAddr` reads. -/
structure DcOption where
  ipv6 : Bool
  id : ℤ
  ipAddress : Bytes
  port : ℤ
  deriving DecidableEq, Repr

/-- The bytes of an ASCII string. -/
def ascii (s : String) : Bytes := s.toList.map fun ch => ch.toNat.toUInt8

/-- `fmt.Sprintf("%s:%d", o.IpAddress, o.Port)`. -/
def DcOption.hostPort (o : DcOption) : Bytes := o.ipAddress ++ ascii ":" ++ ascii (toString o.port)

/-- `m.DCAddr(dcID, ipv6)` on the table `m.dcOptions`: the address of its first option for
that DC and address family. -/
def dcAddr (dcOptions : List DcOption) (dcID : ℤ) (ipv6 : Bool) : Option Bytes :=
  (dcOptions.find? fun o => o.id == dcID && o.ipv6 == ipv6).map DcOption.hostPort

/-- `v.(TL_dcOption)`: the option, or `none` where the type assertion panics. -/
def asDcOption : Option TL → Option DcOption
  | some (.dcOption ipv6 id ipAddress port) => some ⟨ipv6, id, ipAddress, port⟩
  | _ => none

/-- The fields of `MTProto` that `InitSession`, `Connect` and `reconnectToDc` use. -/
structure Conn where
  session : SessionInfo
  encryptionReady : Bool
  dcOptions : List DcOption
  /-- The content of `SessFileStore`'s file (`none`: no file). -/
  file : Option Bytes
  deriving DecidableEq, Repr

/-- What the network, the server and the file system do during one call of `Connect` or
`reconnectToDc`. -/
structure Net where
  /-- `m.conn.Close()` succeeds, or finds the connection closed already. -/
  closeOk : Bool
  /-- `net.ResolveTCPAddr`, `net.DialTCP` and the write of `0xef` succeed. -/
  dialOk : Bool
  /-- `makeAuthKey`: the key, its hash and the server salt it stores (`none`: it fails). -/
  authKey : Option (Bytes × Bytes × ℤ)
  /-- What the file operations of `sessionStore.Save` do. -/
  save : SaveOutcome
  /-- The value `sendSyncInternal` returns for the configuration request. -/
  config : Option TL

/-- The errors `Connect` and `reconnectToDc` return. -/
inductive ConnError where
  /-- `merry.Wrap(err)` of a failed resolve, dial, write or close. -/
  | net
  /-- `makeAuthKey` fails. -/
  | authKey
  /-- `sessionStore.Save` fails. -/
  | store (e : StoreError)
  /-- `WrongRespError(x)`: the configuration request got something other than `TL_config`. -/
  | wrongResp (x : Option TL)
  /-- `merry.Errorf("wrong DC number: %d", newDcID)`. -/
  | wrongDCNumber (dcID : ℤ)
  /-- The Go panic of `v.(TL_dcOption)` on a value that is not one; it ends the program. -/
  | notDcOption (v : Option TL)

/-- The options of a configuration response, as `Connect` appends them. -/
def configOptions : Option TL → List DcOption
  | some (.config _ dcOptions) => dcOptions.filterMap asDcOption
  | _ => []

/-- The state a call leaves, whether it returned `nil` or an error. -/
def after {ε σ α : Type} : EStateM.Result ε σ α → σ
  | .ok _ s => s
  | .error _ s => s

namespace Conn

/-- The loop of `Connect` over `cfg.DcOptions`: `v := v.(TL_dcOption)`, then
`m.dcOptions = append(m.dcOptions, &v)`. -/
def appendDcOptions : List (Option TL) → EStateM ConnError Conn Unit
  | [] => pure ()
  | v :: vs =>
    match asDcOption v with
    | some o => do
      modify fun m => { m with dcOptions := m.dcOptions ++ [o] }
      appendDcOptions vs
    | none => throw (.notDcOption v)

/-- `m.sessionStore.Save(m.session)`, with the store a `SessFileStore`. -/
def saveSession (o : SaveOutcome) : EStateM ConnError Conn Unit := do
  let m ← get
  let (file, err) := SessFileStore.save o m.file m.session
  set { m with file := file }
  match err with
  | some e => throw (.store e)
  | none => pure ()

/-- The key exchange of `Connect` ("getting new authKey if need"): unless
`m.encryptionReady`, `makeAuthKey()`, `m.sessionStore.Save(m.session)` and
`m.encryptionReady = true`. -/
def getAuthKey (net : Net) : EStateM ConnError Conn Unit := do
  let m ← get
  unless m.encryptionReady do
    match net.authKey with
    | none => throw .authKey
    | some (authKey, authKeyHash, serverSalt) =>
      set { m with session := { m.session with
        authKey := authKey, authKeyHash := authKeyHash, serverSalt := serverSalt } }
      saveSession net.save
      modify fun m => { m with encryptionReady := true }

/-- The end of `Connect` ("getting connection configs"), on the response `x`: for a
`TL_config`, `m.session.DcID = cfg.ThisDc` and its options appended to `m.dcOptions`; for
anything else, `WrongRespError(x)`. -/
def getConfig : Option TL → EStateM ConnError Conn Unit
  | some (.config thisDc dcOptions) => do
    modify fun m => { m with session := { m.session with dcID := thisDc } }
    appendDcOptions dcOptions
  | x => throw (.wrongResp x)

/-- `(m *MTProto) Connect() error`, without the goroutines it starts; the salts their
`readRoutine` stores are `storeSalt`. -/
def connect (net : Net) : EStateM ConnError Conn Unit := do
  unless net.dialOk do throw .net
  getAuthKey net
  getConfig net.config

/-- The `TL_bad_server_salt` and `TL_new_session_created` branches of `process`, as the
`readRoutine` of a connection runs them: `m.session.ServerSalt = salt`, then
`SaveSessionLogged`, which hands the session to `sessionStore.Save` and only logs its error;
`o` is what the file operations of that `Save` do. -/
def storeSalt (salt : ℤ) (o : SaveOutcome) (m : Conn) : Conn :=
  let m := { m with session := { m.session with serverSalt := salt } }
  { m with file := (SessFileStore.save o m.file m.session).1 }

/-- `(m *MTProto) reconnectToDc(newDcID) error`, without stopping and restarting the routines
and repushing the pending packets: closing the connection, clearing `encryptionReady` for
another DC, the `DCAddr` lookup, storing the new DC and address, and `Connect`. -/
def reconnectToDc (net : Net) (newDcID : ℤ) : EStateM ConnError Conn Unit := do
  unless net.closeOk do throw .net
  let m ← get
  if newDcID ≠ m.session.dcID then set { m with encryptionReady := false }
  let m ← get
  match dcAddr m.dcOptions newDcID false with
  | none => throw (.wrongDCNumber newDcID)
  | some newDcAddr =>
    set { m with session := { m.session with dcID := newDcID, addr := newDcAddr } }
    connect net

/-- `(m *MTProto) Reconnect() error`: `reconnectToDc(m.session.DcID)`. -/
def reconnect (net : Net) : EStateM ConnError Conn Unit := do
  let m ← get
  reconnectToDc net m.session.dcID

/-- `m.InitSession(sessEncrIsReady)` on the client `NewMTProtoExt` makes with the session
`session` and a `SessFileStore` whose file holds `file`; `rand.Int63()` is `sessionId`. With
no session (as `NewMTProto` makes it), the session is loaded from the file: without a file it
gets the default address and no key; a load error other than `ErrNoSessionData` is returned.
-/
def initSession (session : Option SessionInfo) (sessEncrIsReady : Bool) (file : Option Bytes)
    (sessionId : ℤ) : Except StoreError Conn :=
  match session with
  | some sess => .ok ⟨{ sess with sessionId := sessionId }, sessEncrIsReady, [], file⟩
  | none =>
    match SessFileStore.load file ⟨0, [], [], 0, [], 0⟩ with
    | (some .noSessionData, sess) =>
      .ok ⟨{ sess with addr := ascii "149.154.167.50:443", sessionId := sessionId }, false, [],
        file⟩
    | (none, sess) => .ok ⟨{ sess with sessionId := sessionId }, true, [], file⟩
    | (some e, _) => .error e

/-! ### The monad, applied to a state -/

section Monad

variable {α β : Type} (m : Conn)

@[simp] theorem get_apply : (get : EStateM ConnError Conn Conn) m = .ok m m := rfl

@[simp] theorem set_apply (m' : Conn) : (set m' : EStateM ConnError Conn PUnit) m = .ok ⟨⟩ m' :=
  rfl

@[simp] theorem modify_apply (f : Conn → Conn) :
    (modify f : EStateM ConnError Conn PUnit) m = .ok ⟨⟩ (f m) := rfl

@[simp] theorem throw_apply (e : ConnError) : (throw e : EStateM ConnError Conn α) m = .error e m :=
  rfl

@[simp] theorem pure_apply (a : α) : (pure a : EStateM ConnError Conn α) m = .ok a m := rfl

@[simp] theorem bind_apply (x : EStateM ConnError Conn α) (f : α → EStateM ConnError Conn β) :
    (x >>= f) m = match x m with
      | .ok a m' => f a m'
      | .error e m' => .error e m' := by
  rcases h : x m <;> simp only [bind, EStateM.bind, h]

@[simp] theorem after_ok (a : α) : after (.ok a m : EStateM.Result ConnError Conn α) = m := rfl

@[simp] theorem after_error (e : ConnError) :
    after (.error e m : EStateM.Result ConnError Conn α) = m := rfl

end Monad

/-! ### `InitSession` -/

section InitSession

open SessFileStore

/-- A client started on a file that a complete `Save` wrote starts with the saved key, hash,
salt and address, and with `encryptionReady` set; the DC is not saved, and is `0` until the
first `Connect` stores the one the server names. -/
theorem initSession_saved (s : SessionInfo) (r : Bytes) (b : Bool) (sessionId : ℤ)
    (hfit : (sessionBytes s).length ≤ 4096)
    (hs : -2 ^ 63 ≤ s.serverSalt ∧ s.serverSalt < 2 ^ 63) :
    initSession none b (some (sessionBytes s ++ r)) sessionId =
      .ok ⟨{ s with dcID := 0, sessionId := sessionId }, true, [], some (sessionBytes s ++ r)⟩ := by
  simp only [initSession, load_sessionBytes s _ r hfit hs]

/-- A session on DC 2 saved whole and loaded again: the key, hash, salt and address come
back, the DC is `0`. -/
theorem initSession_saved_dc2 :
    (sessionBytes ⟨2, [9], [8], 7, ascii "149.154.167.51:443", 5⟩).length ≤ 4096 ∧
      (-2 ^ 63 ≤ (7 : ℤ) ∧ (7 : ℤ) < 2 ^ 63) ∧
      initSession none false (some (sessionBytes ⟨2, [9], [8], 7, ascii "149.154.167.51:443", 5⟩ ++ []))
          1 =
        .ok ⟨{ (⟨2, [9], [8], 7, ascii "149.154.167.51:443", 5⟩ : SessionInfo) with
            dcID := 0, sessionId := 1 }, true, [],
          some (sessionBytes ⟨2, [9], [8], 7, ascii "149.154.167.51:443", 5⟩ ++ [])⟩ :=
  have hfit : (sessionBytes ⟨2, [9], [8], 7, ascii "149.154.167.51:443", 5⟩).length ≤ 4096 := by
    decide
  have hs : -2 ^ 63 ≤ (7 : ℤ) ∧ (7 : ℤ) < 2 ^ 63 := by norm_num
  ⟨hfit, hs, initSession_saved _ [] false 1 hfit hs⟩

/-- A client started on the file of a `Save` interrupted after the key's field starts with
`encryptionReady` set, the key, and an empty hash, a zero salt and an empty address. -/
theorem initSession_keyField (key : Bytes) (b : Bool) (sessionId : ℤ)
    (h : (encStringBytes key).length + 16 ≤ 4096) :
    initSession none b (some (encStringBytes key)) sessionId =
      .ok ⟨⟨0, key, [], 0, [], sessionId⟩, true, [], some (encStringBytes key)⟩ := by
  simp only [initSession, load_keyField key _ h]

/-- The file of a `Save` of the key `[1, 2, 3]` interrupted after its field. -/
theorem initSession_keyField_threeByteKey :
    (encStringBytes [1, 2, 3]).length + 16 ≤ 4096 ∧
      initSession none false (some (encStringBytes [1, 2, 3])) 0 =
        .ok ⟨⟨0, [1, 2, 3], [], 0, [], 0⟩, true, [], some (encStringBytes [1, 2, 3])⟩ :=
  have h : (encStringBytes [1, 2, 3]).length + 16 ≤ 4096 := by decide
  ⟨h, initSession_keyField _ false 0 h⟩

end InitSession

/-! ### `Connect` -/

section Connect

variable {net : Net} {m m' : Conn} {u : Unit}

/-- Appending a configuration's options touches nothing but the table, and appends some of
them. -/
theorem after_appendDcOptions : ∀ (vs : List (Option TL)) (m : Conn),
    ∃ os, os ⊆ vs.filterMap asDcOption ∧
      after (appendDcOptions vs m) = { m with dcOptions := m.dcOptions ++ os }
  | [], m => ⟨[], List.nil_subset _, by simp [appendDcOptions]⟩
  | v :: vs, m => by
    unfold appendDcOptions
    rcases hv : asDcOption v with _ | o
    · exact ⟨[], List.nil_subset _, by simp⟩
    · obtain ⟨os, hs, h⟩ := after_appendDcOptions vs { m with dcOptions := m.dcOptions ++ [o] }
      rw [List.filterMap_cons, hv]
      exact ⟨o :: os, List.cons_subset_cons o hs, by simpa using h⟩

theorem appendDcOptions_ok : ∀ {vs : List (Option TL)} {m : Conn},
    appendDcOptions vs m = .ok u m' →
      m' = { m with dcOptions := m.dcOptions ++ vs.filterMap asDcOption }
  | [], m, h => by simp only [appendDcOptions, pure_apply, EStateM.Result.ok.injEq] at h; simp [h]
  | v :: vs, m, h => by
    unfold appendDcOptions at h
    rcases hv : asDcOption v with _ | o <;> simp only [hv, throw_apply, reduceCtorEq] at h
    simp only [bind_apply, modify_apply] at h
    rw [appendDcOptions_ok h]
    simp [List.filterMap_cons, hv]

theorem after_saveSession (o : SaveOutcome) (m : Conn) :
    after (saveSession o m) = { m with file := (SessFileStore.save o m.file m.session).1 } := by
  rcases hs : SessFileStore.save o m.file m.session with ⟨file, _ | e⟩ <;> simp [saveSession, hs]

theorem getAuthKey_of_ready (hr : m.encryptionReady = true) : getAuthKey net m = .ok () m := by
  simp [getAuthKey, hr]

theorem getAuthKey_of_fail (hr : m.encryptionReady = false) (hk : net.authKey = none) :
    getAuthKey net m = .error .authKey m := by
  simp [getAuthKey, hr, hk]

/-- **A key exchange replaces the key and saves it.** Whether or not the save succeeds, the
session holds the new key, hash and salt, and the file what `Save` wrote of it. -/
theorem after_getAuthKey_of_key {k kh : Bytes} {ks : ℤ} (hr : m.encryptionReady = false)
    (hk : net.authKey = some (k, kh, ks)) :
    (after (getAuthKey net m)).session =
        { m.session with authKey := k, authKeyHash := kh, serverSalt := ks } ∧
      (after (getAuthKey net m)).dcOptions = m.dcOptions ∧
      (after (getAuthKey net m)).file = (SessFileStore.save net.save m.file
        { m.session with authKey := k, authKeyHash := kh, serverSalt := ks }).1 := by
  simp only [getAuthKey, hr, hk, get_apply, bind_apply, set_apply, Bool.false_eq_true,
    ite_false]
  rcases h : saveSession net.save _ with ⟨_, m₂⟩ | ⟨e, m₂⟩ <;>
  · have hs := congrArg after h
    simp only [after_saveSession, after_ok, after_error] at hs
    subst hs
    simp

theorem after_getAuthKey_dcOptions (net : Net) (m : Conn) :
    (after (getAuthKey net m)).dcOptions = m.dcOptions := by
  cases hr : m.encryptionReady
  · rcases hk : net.authKey with _ | ⟨k, kh, ks⟩
    · rw [getAuthKey_of_fail hr hk, after_error]
    · exact (after_getAuthKey_of_key hr hk).2.1
  · rw [getAuthKey_of_ready hr, after_ok]

theorem getConfig_ok {x : Option TL} (h : getConfig x m = .ok u m') :
    m'.dcOptions = m.dcOptions ++ configOptions x := by
  unfold getConfig at h
  split at h
  · simp only [bind_apply, modify_apply] at h
    rw [appendDcOptions_ok h]
    rfl
  · simp at h

/-- The configuration touches neither the key nor the file. -/
theorem after_getConfig (x : Option TL) (m : Conn) :
    (after (getConfig x m)).session.authKey = m.session.authKey ∧
      (after (getConfig x m)).file = m.file := by
  unfold getConfig
  split
  · rw [bind_apply, modify_apply]
    obtain ⟨os, -, h⟩ := after_appendDcOptions _ _
    rw [h]
    exact ⟨rfl, rfl⟩
  · exact ⟨rfl, rfl⟩

/-- **What a successful `Connect` does to the table**: it appends the options of the
configuration it received. -/
theorem connect_ok (h : connect net m = .ok u m') :
    m'.dcOptions = m.dcOptions ++ configOptions net.config := by
  cases hd : net.dialOk <;> simp only [connect, hd, bind_apply, Bool.false_eq_true,
    ↓reduceIte, pure_apply, throw_apply, reduceCtorEq] at h
  rcases h₁ : getAuthKey net m with ⟨_, m₁⟩ | ⟨e, m₁⟩ <;> simp only [h₁, reduceCtorEq] at h
  have := after_getAuthKey_dcOptions net m
  rw [h₁, after_ok] at this
  rw [getConfig_ok h, this]

/-- With the key exchanged already, `Connect` keeps the key, whatever happens. -/
theorem after_connect_of_ready (net : Net) (hr : m.encryptionReady = true) :
    (after (connect net m)).session.authKey = m.session.authKey := by
  cases hd : net.dialOk <;> simp only [connect, hd, bind_apply, Bool.false_eq_true, ↓reduceIte,
    pure_apply, throw_apply, after_error, getAuthKey_of_ready hr]
  exact (after_getConfig _ _).1

/-- **A `Connect` without the key runs the key exchange.** Once the connection is up and the
exchange yields a key, the session holds that key afterwards and the file what `Save` wrote
of it, whether `Connect` then succeeds or not. -/
theorem after_connect_of_key {k kh : Bytes} {ks : ℤ} (hd : net.dialOk = true)
    (hr : m.encryptionReady = false) (hk : net.authKey = some (k, kh, ks)) :
    (after (connect net m)).session.authKey = k ∧
      (after (connect net m)).file = (SessFileStore.save net.save m.file
        { m.session with authKey := k, authKeyHash := kh, serverSalt := ks }).1 := by
  obtain ⟨hs, -, hf⟩ := after_getAuthKey_of_key hr hk
  simp only [connect, hd, bind_apply, Bool.not_true, Bool.false_eq_true, ↓reduceIte, pure_apply]
  rcases h₁ : getAuthKey net m with ⟨_, m₁⟩ | ⟨e, m₁⟩ <;> rw [h₁] at hs hf <;>
    simp only [after_ok, after_error] at hs hf ⊢
  · rw [(after_getConfig _ _).1, (after_getConfig _ _).2, hs, hf]
    exact ⟨rfl, rfl⟩
  · rw [hs, hf]
    exact ⟨rfl, rfl⟩

end Connect

/-! ### `reconnectToDc` -/

section Reconnect

variable {net : Net} {m m' : Conn} {n : ℤ} {u : Unit}

/-- **`reconnectToDc` to a DC the table does not have** fails with the unknown-DC error. It
has cleared `encryptionReady` first, unless the DC is the current one. -/
theorem reconnectToDc_wrongDC (hc : net.closeOk = true) (hu : dcAddr m.dcOptions n false = none) :
    reconnectToDc net n m = .error (.wrongDCNumber n)
      (if n = m.session.dcID then m else { m with encryptionReady := false }) := by
  by_cases hn : n = m.session.dcID
  · subst hn
    simp [reconnectToDc, hc, hu]
  · simp [reconnectToDc, hc, hn, hu]

/-- `reconnectToDc` to a DC the table has: `Connect` to its address, without the key unless
the DC is the current one. -/
theorem reconnectToDc_found {a : Bytes} (hc : net.closeOk = true)
    (ha : dcAddr m.dcOptions n false = some a) :
    reconnectToDc net n m = connect net
      { m with session := { m.session with dcID := n, addr := a },
               encryptionReady := if n = m.session.dcID then m.encryptionReady else false } := by
  by_cases hn : n = m.session.dcID
  · subst hn
    simp [reconnectToDc, hc, ha]
  · simp [reconnectToDc, hc, hn, ha]

/-- **What a successful `reconnectToDc` does to the table**: its `Connect` appends the options
of the configuration it received. -/
theorem reconnectToDc_ok (h : reconnectToDc net n m = .ok u m') :
    m'.dcOptions = m.dcOptions ++ configOptions net.config := by
  cases hc : net.closeOk
  · simp [reconnectToDc, hc] at h
  rcases ha : dcAddr m.dcOptions n false with _ | a
  · rw [reconnectToDc_wrongDC hc ha] at h
    cases h
  · rw [reconnectToDc_found hc ha] at h
    exact (connect_ok h :)

theorem reconnect_apply (net : Net) (m : Conn) :
    reconnect net m = reconnectToDc net m.session.dcID m := rfl

/-- **A failed migration costs the key.** Take a client whose key is exchanged, and a
`reconnectToDc` to a DC that is not the current one and that the table does not have: the
call fails with the unknown-DC error, and leaves the DC, the address and the key as they were
but `encryptionReady` cleared. The next `Reconnect`, to the unchanged current DC, then runs a
key exchange: once its connection is up and the exchange yields a key, the session holds that
key afterwards and the file what `Save` wrote of it, whether the reconnect succeeds or not.
From the state before the failed call, the same `Reconnect` keeps the key. -/
theorem failed_migration_rekeys (m : Conn) (net net' : Net) {a key hash : Bytes} {salt : ℤ}
    (hr : m.encryptionReady = true) (hn : n ≠ m.session.dcID)
    (hc : net.closeOk = true) (hu : dcAddr m.dcOptions n false = none)
    (hc' : net'.closeOk = true) (ha : dcAddr m.dcOptions m.session.dcID false = some a)
    (hd' : net'.dialOk = true) (hk' : net'.authKey = some (key, hash, salt)) :
    reconnectToDc net n m = .error (.wrongDCNumber n) { m with encryptionReady := false } ∧
      (after (reconnect net' { m with encryptionReady := false })).session.authKey = key ∧
      (after (reconnect net' { m with encryptionReady := false })).file =
        (SessFileStore.save net'.save m.file
          { m.session with addr := a, authKey := key, authKeyHash := hash, serverSalt := salt }).1 ∧
      (after (reconnect net' m)).session.authKey = m.session.authKey := by
  have hf := reconnectToDc_found (m := { m with encryptionReady := false }) hc' ha
  refine ⟨by rw [reconnectToDc_wrongDC hc hu, if_neg hn], ?_⟩
  rw [reconnect_apply, reconnect_apply, reconnectToDc_found hc' ha]
  dsimp only at hf ⊢
  rw [hf]
  simp only [ite_self, if_pos]
  refine ⟨(after_connect_of_key hd' ?_ hk').1, (after_connect_of_key hd' ?_ hk').2,
    after_connect_of_ready net' hr⟩ <;> rfl

/-- A client on DC 2 with its key, asked to migrate to DC 4, which its table does not have. -/
theorem failed_migration_rekeys_dc4 :
    let m : Conn :=
      ⟨⟨2, [1], [2], 3, [4], 5⟩, true, [⟨false, 2, ascii "149.154.167.51", 443⟩], none⟩
    let net : Net := ⟨true, true, none, .createFails, none⟩
    let net' : Net := ⟨true, true, some ([9], [8], 7), .writes 64, none⟩
    m.encryptionReady = true ∧ (4 : ℤ) ≠ m.session.dcID ∧ net.closeOk = true ∧
      dcAddr m.dcOptions 4 false = none ∧ net'.closeOk = true ∧
      dcAddr m.dcOptions m.session.dcID false = some (ascii "149.154.167.51:443") ∧
      net'.dialOk = true ∧ net'.authKey = some ([9], [8], 7) ∧
      reconnectToDc net 4 m = .error (.wrongDCNumber 4) { m with encryptionReady := false } ∧
      (after (reconnect net' { m with encryptionReady := false })).session.authKey = [9] ∧
      (after (reconnect net' { m with encryptionReady := false })).file =
        (SessFileStore.save net'.save m.file { m.session with
          addr := ascii "149.154.167.51:443", authKey := [9], authKeyHash := [8],
          serverSalt := 7 }).1 ∧
      (after (reconnect net' m)).session.authKey = m.session.authKey :=
  have h₁ : dcAddr [⟨false, 2, ascii "149.154.167.51", 443⟩] 4 false = none := by decide
  have h₂ : dcAddr [⟨false, 2, ascii "149.154.167.51", 443⟩] 2 false =
      some (ascii "149.154.167.51:443") := by decide
  ⟨rfl, by decide, rfl, h₁, rfl, h₂, rfl, rfl,
    failed_migration_rekeys _ _ _ rfl (by decide) rfl h₁ rfl h₂ rfl rfl⟩

end Reconnect

/-! ### Runs of connects -/

/-- A call that ends in `Connect`: `Connect` itself (from `InitSessAndConnect`), `Reconnect`,
or `reconnectToDc(n)` (from `reconnectLogged`, or from `Auth` on a migration error), with what
the world does during it. -/
inductive Call where
  | connect (net : Net)
  | reconnect (net : Net)
  | reconnectToDc (net : Net) (newDcID : ℤ)

namespace Call

/-- What the world does during the call. -/
def net : Call → Net
  | .connect net | .reconnect net | .reconnectToDc net _ => net

/-- The call, as a function of the client's state. -/
def run : Call → EStateM ConnError Conn Unit
  | .connect net => Conn.connect net
  | .reconnect net => Conn.reconnect net
  | .reconnectToDc net n => Conn.reconnectToDc net n

/-- A call that returns `nil` appends the options of the configuration it received. -/
theorem run_ok {c : Call} {m m' : Conn} {u : Unit} (h : c.run m = .ok u m') :
    m'.dcOptions = m.dcOptions ++ configOptions c.net.config := by
  cases c with
  | connect net => exact Conn.connect_ok h
  | reconnect net => exact Conn.reconnectToDc_ok h
  | reconnectToDc net n => exact Conn.reconnectToDc_ok h

end Call

/-- `Connects m cs m'`: the calls `cs`, run from `m`, each return `nil`, and leave `m'`. -/
inductive Connects : Conn → List Call → Conn → Prop where
  | nil (m : Conn) : Connects m [] m
  | cons {m m₁ m' : Conn} {c : Call} {cs : List Call} :
      c.run m = .ok () m₁ → Connects m₁ cs m' → Connects m (c :: cs) m'

/-- **The DC table after a run of connects** is the table before it, followed by the options
of every configuration received, oldest first: `dcOptions` is only ever appended to. -/
theorem Connects.dcOptions_eq {m m' : Conn} {cs : List Call} (h : Connects m cs m') :
    m'.dcOptions = m.dcOptions ++ (cs.map fun c => configOptions c.net.config).flatten := by
  induction h with
  | nil m => simp
  | cons hc _ ih => rw [ih, Call.run_ok hc, List.map_cons, List.flatten_cons, List.append_assoc]

theorem dcAddr_append (xs ys : List DcOption) (dcID : ℤ) (ipv6 : Bool) :
    dcAddr (xs ++ ys) dcID ipv6 = (dcAddr xs dcID ipv6).or (dcAddr ys dcID ipv6) := by
  simp only [dcAddr, List.find?_append]
  cases xs.find? _ <;> rfl

/-- **An earlier configuration shadows the latest.** Along every run of connects whose first
configuration has an option for a DC and address family that the table did not have,
`DCAddr` answers with that option's address at the end of the run, whatever the later
configurations say; and the table holds the options of every configuration received. -/
theorem dcAddr_first_config {m m' : Conn} {c : Call} {cs : List Call}
    (h : Connects m (c :: cs) m') {dcID : ℤ} {ipv6 : Bool} {a : Bytes}
    (hm : dcAddr m.dcOptions dcID ipv6 = none)
    (hc : dcAddr (configOptions c.net.config) dcID ipv6 = some a) :
    dcAddr m'.dcOptions dcID ipv6 = some a ∧
      m'.dcOptions.length =
        m.dcOptions.length + ((c :: cs).map fun c => (configOptions c.net.config).length).sum := by
  rw [h.dcOptions_eq, List.map_cons, List.flatten_cons]
  refine ⟨by rw [dcAddr_append, dcAddr_append, hm, hc]; rfl, ?_⟩
  simp only [List.length_append, List.length_flatten, List.map_map, List.map_cons,
    List.sum_cons, Function.comp_def]

/-- Two configurations that place DC 2 at different addresses: after a connect that receives
the first and a reconnect that receives the second, `DCAddr(2, false)` still answers with the
first. -/
theorem dcAddr_first_config_dc2 :
    let m : Conn := ⟨⟨2, [1], [2], 3, [4], 5⟩, true, [], none⟩
    let net₁ : Net := ⟨true, true, none, .createFails,
      some (.config 2 [some (.dcOption false 2 (ascii "149.154.167.51") 443)])⟩
    let net₂ : Net := ⟨true, true, none, .createFails,
      some (.config 2 [some (.dcOption false 2 (ascii "149.154.167.40") 443)])⟩
    let m' : Conn := ⟨⟨2, [1], [2], 3, ascii "149.154.167.51:443", 5⟩, true,
      [⟨false, 2, ascii "149.154.167.51", 443⟩, ⟨false, 2, ascii "149.154.167.40", 443⟩], none⟩
    Connects m [.connect net₁, .reconnect net₂] m' ∧ dcAddr m.dcOptions 2 false = none ∧
      dcAddr (configOptions net₁.config) 2 false = some (ascii "149.154.167.51:443") ∧
      dcAddr (configOptions net₂.config) 2 false = some (ascii "149.154.167.40:443") ∧
      dcAddr m'.dcOptions 2 false = some (ascii "149.154.167.51:443") ∧
      m'.dcOptions.length = m.dcOptions.length +
        ([Call.connect net₁, .reconnect net₂].map fun c =>
          (configOptions c.net.config).length).sum :=
  have hrun : Connects ⟨⟨2, [1], [2], 3, [4], 5⟩, true, [], none⟩
      [.connect ⟨true, true, none, .createFails,
          some (.config 2 [some (.dcOption false 2 (ascii "149.154.167.51") 443)])⟩,
        .reconnect ⟨true, true, none, .createFails,
          some (.config 2 [some (.dcOption false 2 (ascii "149.154.167.40") 443)])⟩]
      ⟨⟨2, [1], [2], 3, ascii "149.154.167.51:443", 5⟩, true,
        [⟨false, 2, ascii "149.154.167.51", 443⟩, ⟨false, 2, ascii "149.154.167.40", 443⟩], none⟩ :=
    .cons rfl (.cons rfl (.nil _))
  have h₁ : dcAddr (configOptions
      (some (.config 2 [some (.dcOption false 2 (ascii "149.154.167.51") 443)]))) 2 false =
      some (ascii "149.154.167.51:443") := by decide
  ⟨hrun, rfl, h₁, by decide, dcAddr_first_config hrun rfl h₁⟩

end Conn

end TgClient
