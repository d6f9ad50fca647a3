import Mathlib.Data.Int.Bitwise

/-!
# TL Values

The data model shared by the decoder (`DecodeBuf`) and the dispatcher (`MTProto.process`).
Go's `TL` is an interface: `nil`, or one of the generated struct types of `tl_schema.go`.
Here it is `Option TL`, and `TL` is the closed sum of the constructors the core tells
apart by type switch — the three meta-constructors `DecodeBuf.Object` decodes itself
(`msg_container`, `rpc_result`, and `gzip_packed`, which leaves no value of its own), the
service messages `process` dispatches on, and the few the connection logic asserts — with
every other generated constructor as `TL.obj crc fields`.

A decoded field of a generated constructor is a `Value`: one case per result type of the
`DecodeBuf` reads. Go's `[]byte` and `string` are both `Bytes`; a `nil` slice is `[]`.
Go's `int32` and `int64` are `ℤ`, with the range the decoder guarantees (`signed`), and
`uint32` is `UInt32`.

The constructor ids of the schema live in the generated `tl_schema.go`, which is not part
of the sources; the ones the core switches on are fixed below.
-/

namespace TgClient

/-- A Go byte slice or string. `nil` and the empty slice are both `[]`. -/
abbrev Bytes := List UInt8

mutual

/-- A non-`nil` Go `TL` value. -/
inductive TL where
  /-- `TL_msg_container{Items}` -/
  | msgContainer (items : List MTMessage)
  /-- `TL_rpc_result{req_msg_id, obj}`; `obj` may be `nil`. -/
  | rpcResult (reqMsgId : ℤ) (obj : Option TL)
  /-- `TL_bad_server_salt` -/
  | badServerSalt (badMsgId badMsgSeqno errorCode newServerSalt : ℤ)
  /-- `TL_bad_msg_notification` -/
  | badMsgNotification (badMsgId badMsgSeqno errorCode : ℤ)
  /-- `TL_msgs_state_info` -/
  | msgsStateInfo (reqMsgId : ℤ) (info : Bytes)
  /-- `TL_new_session_created` -/
  | newSessionCreated (firstMsgId uniqueId serverSalt : ℤ)
  /-- `TL_ping` -/
  | ping (pingId : ℤ)
  /-- `TL_pong` -/
  | pong (msgId pingId : ℤ)
  /-- `TL_msgs_ack` -/
  | msgsAck (msgIds : List ℤ)
  /-- `TL_rpc_error` -/
  | rpcError (errorCode : ℤ) (errorMessage : Bytes)
  /-- `TL_config`, with the fields `Connect` reads. -/
  | config (thisDc : ℤ) (dcOptions : List (Option TL))
  /-- `TL_dcOption`, with the fields `DCAddr` reads. -/
  | dcOption (ipv6 : Bool) (id : ℤ) (ipAddress : Bytes) (port : ℤ)
  /-- Every other generated constructor, with its decoded fields in order. -/
  | obj (crc : UInt32) (fields : List Value)

/-- `TL_MT_message{MsgID, SeqNo, Bytes, Data}`, an item of a container. -/
inductive MTMessage where
  | mk (msgId seqNo bytes : ℤ) (data : Option TL)

/-- The result of one `DecodeBuf` read, as a generated decoder stores it in a field. -/
inductive Value where
  | long (v : ℤ)
  /-- A `float64`, kept as its IEEE bit pattern: the core never computes with it. -/
  | double (bits : ℕ)
  | int (v : ℤ)
  | uint (v : UInt32)
  | bytes (b : Bytes)
  | string (s : Bytes)
  /-- A `*big.Int`, `nil` on error. -/
  | bigInt (v : Option ℕ)
  | vectorInt (xs : List ℤ)
  | vectorLong (xs : List ℤ)
  | vectorString (xs : List Bytes)
  | bool (b : Bool)
  | vector (xs : List (Option TL))
  | object (o : Option TL)

end

deriving instance Repr for TL

/-- `CRC_vector`, the constructor of every vector (§4.A: `u32(0x1CB5C415)`). -/
def crcVector : UInt32 := 0x1cb5c415

/-- `CRC_msg_container`. -/
def crcMsgContainer : UInt32 := 0x73f1f8dc

/-- `CRC_rpc_result`. -/
def crcRpcResult : UInt32 := 0xf35c6d01

/-- `CRC_gzip_packed`. -/
def crcGzipPacked : UInt32 := 0x3072cfa1

/-- `CRC_boolFalse`. -/
def crcBoolFalse : UInt32 := 0xbc799737

/-- `CRC_boolTrue`. -/
def crcBoolTrue : UInt32 := 0x997275b5

/-- How a modelled Go computation can end without returning. -/
inductive Fault where
  /-- A Go runtime panic, with its message. -/
  | panic (msg : String)
  /-- A channel operation that would wait for another goroutine. -/
  | blocked (what : String)
  /-- The model's recursion budget ran out (Go would recurse deeper). -/
  | outOfFuel
  deriving DecidableEq, Repr

/-! ### Binds of `Except` -/

@[simp] theorem ok_bind {ε α β : Type} (a : α) (f : α → Except ε β) :
    (Except.ok a >>= f) = f a := rfl

@[simp] theorem error_bind {ε α β : Type} (e : ε) (f : α → Except ε β) :
    (Except.error e >>= f) = .error e := rfl

@[simp] theorem bind_ok {ε α : Type} (x : Except ε α) : x >>= Except.ok = x := by
  cases x <;> rfl

theorem bind_eq_ok {ε α β : Type} {x : Except ε α} {f : α → Except ε β} {b : β} :
    x >>= f = .ok b ↔ ∃ a, x = .ok a ∧ f a = .ok b := by
  cases x <;> simp [bind, Except.bind]

end TgClient
