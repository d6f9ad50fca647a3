import TgClient.Decode.Buf

/-!
# Vectors, `Bool` and `Object`

The composite reads of `DecodeBuf`. The four vector reads share one shape,
`DecodeBuf.vectorOf`: the constructor `CRC_vector`, an `int32` count, a negative count
rejected, then the elements, where the first failing element makes the whole vector
`nil`. They differ in the element read and in the name their errors carry.

`Object` reads a constructor id and dispatches: `msg_container` and `rpc_result` decode
nested objects from the same buffer, `gzip_packed` decompresses its payload and decodes an
object from a fresh buffer, and every other id goes to the generated `ObjectGenerated`.
Two Go runtime panics are part of the code as written: `make([]TL_MT_message, size)` with
a negative count, and a read on the `nil` reader that `gzip.NewReader` returns on error
(`object_negative_container`, `object_truncated_gzip`); and the `gzip_packed` branch drops
the error of the object it decodes (`object_gzip_empty_member`).

The nested `Object` calls are recursion through the whole read family, and the
`gzip_packed` branch recurses into data the buffer does not contain (a decompressed
payload can be larger than the frame, and contain `gzip_packed` again). So `objectBody`
takes the reader for nested objects as an argument, and `object` ties the knot with a
fuel budget; when the budget is spent, the nested reader reports `Fault.outOfFuel` where
Go would decode further. Every lemma about `object` holds at every budget.

The gzip library is a parameter, `gunzip`: what `gzip.NewReader` followed by the read
loop makes of a payload — `none` when `NewReader` fails, else the bytes read before the
first empty read (read errors are ignored by the loop). The generated decoder is a second
parameter, the `Schema` it was generated from.
-/

namespace TgClient

/-- The reads of `DecodeBuf`, by the method names. -/
inductive Read where
  | long
  | double
  | int
  | uint
  | bytes (size : ℕ)
  | stringBytes
  | string
  | bigInt
  | vectorInt
  | vectorLong
  | vectorString
  | bool
  | vector
  | object
  deriving DecidableEq, Repr

/-- The zero value each read returns on error (`0`, `nil`, `""`, `false`). -/
def Read.zero : Read → Value
  | .long => .long 0
  | .double => .double 0
  | .int => .int 0
  | .uint => .uint 0
  | .bytes _ => .bytes []
  | .stringBytes => .bytes []
  | .string => .string []
  | .bigInt => .bigInt none
  | .vectorInt => .vectorInt []
  | .vectorLong => .vectorLong []
  | .vectorString => .vectorString []
  | .bool => .bool false
  | .vector => .vector []
  | .object => .object none

/-- How a generated `case` reads one field of its constructor: a plain read, the `flags`
word (an `int32` that the flagged fields after it test), or a `Flagged` read. -/
inductive FieldType where
  | read (r : Read)
  | flags
  | flagged (num : ℤ) (r : Read)

/-- One constructor of the TL schema, as its generated `case` decodes it: the fields in
order, and the struct literal built from them. -/
structure Ctor where
  fields : List FieldType
  build : List Value → TL

/-- The TL schema `tl_schema.go` was generated from: constructor id to constructor. -/
abbrev Schema := UInt32 → Option Ctor

namespace DecodeBuf

/-- `f <$> rd` for readers. -/
def mapReader {α β : Type} (f : α → β) (rd : Reader α) : Reader β := fun m =>
  (rd m).map fun r => (f r.1, r.2)

/-! ### Vectors -/

/-- The element loop of a vector read: `n` elements, or `nil` from the first element that
sets `err` (`if m.err != nil { return nil }`). -/
def vectorItems {α : Type} (elem : Reader α) : ℕ → DecodeBuf →
    Except Fault (Option (List α) × DecodeBuf)
  | 0, m => .ok (some [], m)
  | n + 1, m => elem m >>= fun (y, m) =>
    if m.err.isSome then .ok (none, m)
    else vectorItems elem n m >>= fun (ys, m) => .ok (ys.map (y :: ·), m)

/-- The shape of `VectorInt`, `VectorLong`, `VectorString` and `Vector`; `fn` is the name
their error messages carry. -/
def vectorOf {α : Type} (fn : String) (elem : Reader α) : Reader (List α) := fun m =>
  let (constructor, m) := m.uint
  if m.err.isSome then .ok ([], m)
  else if constructor ≠ crcVector then .ok ([], m.fail (.wrongConstructor fn constructor))
  else
    let (size, m) := m.int
    if m.err.isSome then .ok ([], m)
    else if size < 0 then .ok ([], m.fail (.wrongVectorSize fn))
    else vectorItems elem size.toNat m >>= fun (x, m) => .ok (x.getD [], m)

/-- `(m *DecodeBuf) VectorInt() []int32`. -/
def vectorInt : Reader (List ℤ) := vectorOf "VectorInt" (total int)

/-- `(m *DecodeBuf) VectorLong() []int64`. -/
def vectorLong : Reader (List ℤ) := vectorOf "VectorLong" (total long)

/-- `(m *DecodeBuf) VectorString() []string`. -/
def vectorString : Reader (List Bytes) := vectorOf "VectorString" (total string)

/-- `(m *DecodeBuf) Vector() []TL`, with `object` the `Object` it calls per element. -/
def vector (object : Reader (Option TL)) : Reader (List (Option TL)) :=
  vectorOf "Vector" object

/-- `(m *DecodeBuf) Bool() bool`. -/
def bool (m : DecodeBuf) : Bool × DecodeBuf :=
  let (constructor, m) := m.uint
  if m.err.isSome then (false, m)
  else if constructor = crcBoolFalse then (false, m)
  else if constructor = crcBoolTrue then (true, m)
  else (false, m)

/-! ### Every read, by name -/

/-- The read `r`, its result as a `Value`; `object` is the `Object` that `Vector` and
`Object` call. -/
def run (object : Reader (Option TL)) : Read → Reader Value
  | .long => mapReader .long (total long)
  | .double => mapReader .double (total double)
  | .int => mapReader .int (total int)
  | .uint => mapReader .uint (total uint)
  | .bytes n => mapReader .bytes (bytes n)
  | .stringBytes => mapReader .bytes (total stringBytes)
  | .string => mapReader .string (total string)
  | .bigInt => mapReader .bigInt (total bigInt)
  | .vectorInt => mapReader .vectorInt vectorInt
  | .vectorLong => mapReader .vectorLong vectorLong
  | .vectorString => mapReader .vectorString vectorString
  | .bool => mapReader .bool (total bool)
  | .vector => mapReader .vector (vector object)
  | .object => mapReader .object object

/-! ### The generated decoder -/

/-- The fields of a generated `case`, read in order; `flags` is the last `flags` word. -/
def fields (object : Reader (Option TL)) : List FieldType → ℤ → Reader (List Value)
  | [], _, m => .ok ([], m)
  | .read r :: fs, flags, m =>
    run object r m >>= fun (v, m) =>
    fields object fs flags m >>= fun (vs, m) => .ok (v :: vs, m)
  | .flags :: fs, _, m =>
    let (flags, m) := m.int
    fields object fs flags m >>= fun (vs, m) => .ok (.int flags :: vs, m)
  | .flagged num r :: fs, flags, m =>
    flagged flags num r.zero (run object r) m >>= fun (v, m) =>
    fields object fs flags m >>= fun (vs, m) => .ok (v :: vs, m)

/-- Modelled from the spec: `ObjectGenerated` of the generated `tl_schema.go`, which is not
in the sources (§1: the codec is an oracle from a constructor tag and a byte buffer to a
tagged value). A known constructor decodes its fields in order and builds its struct; an
unknown one is an error. -/
def objectGenerated (schema : Schema) (object : Reader (Option TL)) (constructor : UInt32) :
    Reader (Option TL) := fun m =>
  match schema constructor with
  | none => .ok (none, m.fail (.unknownConstructor constructor))
  | some c => fields object c.fields 0 m >>= fun (vs, m) => .ok (some (c.build vs), m)

/-! ### `Object` -/

/-- The items of a `msg_container`: `TL_MT_message{m.Long(), m.Int(), m.Int(), m.Object()}`
`size` times, or `nil` from the first item that sets `err` (`return nil` leaves `Object`). -/
def containerItems (object : Reader (Option TL)) : ℕ → DecodeBuf →
    Except Fault (Option (List MTMessage) × DecodeBuf)
  | 0, m => .ok (some [], m)
  | n + 1, m =>
    let (msgId, m) := m.long
    let (seqNo, m) := m.int
    let (bytes, m) := m.int
    object m >>= fun (data, m) =>
    if m.err.isSome then .ok (none, m)
    else containerItems object n m >>= fun (rest, m) =>
      .ok (rest.map (.mk msgId seqNo bytes data :: ·), m)

/-- The `CRC_msg_container` branch. `make([]TL_MT_message, size)` panics on a negative
`size`; there is no `size < 0` check, unlike the vector reads. -/
def msgContainer (object : Reader (Option TL)) : Reader (Option TL) := fun m =>
  let (size, m) := m.int
  if size < 0 then .error (.panic "makeslice: len out of range")
  else containerItems object size.toNat m >>= fun (arr, m) => .ok (arr.map .msgContainer, m)

/-- The `CRC_rpc_result` branch: `TL_rpc_result{m.Long(), m.Object()}`. -/
def rpcResult (object : Reader (Option TL)) : Reader (Option TL) := fun m =>
  let (reqMsgId, m) := m.long
  object m >>= fun (obj, m) => .ok (some (.rpcResult reqMsgId obj), m)

/-- The `CRC_gzip_packed` branch. The error of `gzip.NewReader` is dropped, so a payload
it rejects leaves `gz` nil and `gz.Read` panics. The inner object is read from a fresh
`DecodeBuf`, whose `err` is not looked at. -/
def gzipPacked (gunzip : Bytes → Option Bytes) (object : Reader (Option TL)) :
    Reader (Option TL) := fun m =>
  let (payload, m) := m.stringBytes
  match gunzip payload with
  | none => .error (.panic "invalid memory address or nil pointer dereference")
  | some obj => object (newDecodeBuf obj) >>= fun (r, _) => .ok (r, m)

/-- The body of `(m *DecodeBuf) Object() (r TL)`, with `object` the `Object` of the nested
calls. -/
def objectBody (gunzip : Bytes → Option Bytes) (schema : Schema) (object : Reader (Option TL)) :
    Reader (Option TL) := fun m =>
  let (constructor, m) := m.uint
  if m.err.isSome then .ok (none, m)
  else
    (if constructor = crcMsgContainer then msgContainer object m
    else if constructor = crcRpcResult then rpcResult object m
    else if constructor = crcGzipPacked then gzipPacked gunzip object m
    else objectGenerated schema object constructor m) >>= fun (r, m) =>
    if m.err.isSome then .ok (none, m) else .ok (r, m)

/-- The nested `Object` once the budget is spent: on a buffer whose `err` is set it returns
`nil` as `Object` does, and where `Object` would decode it reports `Fault.outOfFuel`. -/
def outOfFuel : Reader (Option TL) := fun m =>
  if m.err.isSome then .ok (none, m) else .error .outOfFuel

/-- `(m *DecodeBuf) Object()`, with a budget of `fuel` nested calls. -/
def object (gunzip : Bytes → Option Bytes) (schema : Schema) : ℕ → Reader (Option TL)
  | 0 => objectBody gunzip schema outOfFuel
  | fuel + 1 => objectBody gunzip schema (object gunzip schema fuel)

/-! ### Where `Object` fails without `err`

A `msg_container` whose item count decodes to `-1` reaches `make([]TL_MT_message, -1)`: the
vector reads reject a negative count with `Wrong size`, this branch does not, and the
decoder panics. A `gzip_packed` whose payload `gzip.NewReader` rejects panics on the `nil`
reader. A `gzip_packed` whose payload inflates to bytes that do not decode reads its inner
object from a fresh `DecodeBuf` whose `err` is never looked at, so `Object` returns `nil` with
`err` still `nil`. Each is shown at a concrete frame, for every gzip library, schema and
budget where it matters. -/

/-- `CRC_msg_container` followed by the count `-1`. -/
def negativeContainerFrame : Bytes := [0xdc, 0xf8, 0xf1, 0x73, 0xff, 0xff, 0xff, 0xff]

/-- A `msg_container` with item count `-1` makes `Object` panic, at every budget, for every
gzip library and schema. -/
theorem object_negative_container (gunzip : Bytes → Option Bytes) (schema : Schema)
    (fuel : ℕ) : object gunzip schema fuel (newDecodeBuf negativeContainerFrame) =
      .error (.panic "makeslice: len out of range") := by
  cases fuel <;> rfl

/-- A `gzip_packed` frame cut after its constructor: `StringBytes` fails, the payload is
empty, and a gzip library that rejects the empty stream (as `gzip.NewReader` does, with
`io.EOF`) leaves `gz` nil. -/
theorem object_truncated_gzip (gunzip : Bytes → Option Bytes) (schema : Schema) (fuel : ℕ)
    (h : gunzip [] = none) : object gunzip schema fuel (newDecodeBuf [0xa1, 0xcf, 0x72, 0x30]) =
      .error (.panic "invalid memory address or nil pointer dereference") := by
  have hu : (newDecodeBuf [0xa1, 0xcf, 0x72, 0x30]).uint =
      (crcGzipPacked, (newDecodeBuf [0xa1, 0xcf, 0x72, 0x30]).skip 4) := rfl
  have hs : ((newDecodeBuf [0xa1, 0xcf, 0x72, 0x30]).skip 4).stringBytes =
      ([], ((newDecodeBuf [0xa1, 0xcf, 0x72, 0x30]).skip 4).fail .decodeStringBytes) := rfl
  cases fuel <;> simp [object, objectBody, hu, gzipPacked, hs, h, crcGzipPacked, crcMsgContainer,
    crcRpcResult]

/-- The 20-byte gzip member of the empty string. -/
def emptyMember : Bytes := [0x1f, 0x8b, 8, 0, 0, 0, 0, 0, 0, 3, 3, 0, 0, 0, 0, 0, 0, 0, 0, 0]

/-- `CRC_gzip_packed` with `emptyMember` as its payload (length byte, bytes, padding). -/
def gzipEmptyFrame : Bytes := [0xa1, 0xcf, 0x72, 0x30, 20] ++ emptyMember ++ [0, 0, 0]

/-- A `gzip_packed` whose payload inflates to nothing: the inner `Object` fails on its own
buffer, and the outer one returns `nil` with `err` unset, having consumed the whole frame. -/
theorem object_gzip_empty_member (gunzip : Bytes → Option Bytes) (schema : Schema)
    (fuel : ℕ) (h : gunzip emptyMember = some []) :
    object gunzip schema (fuel + 1) (newDecodeBuf gzipEmptyFrame) =
      .ok (none, (newDecodeBuf gzipEmptyFrame).skip 28) := by
  have hu : (newDecodeBuf gzipEmptyFrame).uint =
      (crcGzipPacked, (newDecodeBuf gzipEmptyFrame).skip 4) := rfl
  have hs : ((newDecodeBuf gzipEmptyFrame).skip 4).stringBytes =
      (emptyMember, (newDecodeBuf gzipEmptyFrame).skip 28) := rfl
  have hi : ∀ f, object gunzip schema f (newDecodeBuf []) =
      .ok (none, (newDecodeBuf []).fail .decodeUInt) := by
    intro f; cases f <;> rfl
  simp only [object, objectBody, hu]
  simp [gzipPacked, hs, h, hi, crcGzipPacked, crcMsgContainer, crcRpcResult]

/-- `compress/gzip` on the one payload the frame carries: it inflates `emptyMember` to no
bytes (every other payload is rejected here; the frame never sends one). -/
def gunzipEmptyMember (p : Bytes) : Option Bytes := if p = emptyMember then some [] else none

/-- The frame at that library: `Object` returns `nil` and `err` is `nil`. -/
theorem object_gzip_empty_member_nil :
    gunzipEmptyMember emptyMember = some [] ∧
      object gunzipEmptyMember (fun _ => none) 1 (newDecodeBuf gzipEmptyFrame) =
        .ok (none, (newDecodeBuf gzipEmptyFrame).skip 28) :=
  ⟨rfl, object_gzip_empty_member gunzipEmptyMember (fun _ => none) 0 rfl⟩

/-- `(m *DecodeBuf) FlaggedObject(flags, num)`. -/
def flaggedObject (gunzip : Bytes → Option Bytes) (schema : Schema) (fuel : ℕ)
    (flags num : ℤ) : Reader (Option TL) :=
  flagged flags num none (object gunzip schema fuel)

/-- `FlaggedVectorInt(flags, num)`. -/
def flaggedVectorInt (flags num : ℤ) : Reader (List ℤ) := flagged flags num [] vectorInt

/-- `FlaggedVectorLong(flags, num)`. -/
def flaggedVectorLong (flags num : ℤ) : Reader (List ℤ) := flagged flags num [] vectorLong

/-- `FlaggedVectorString(flags, num)`. -/
def flaggedVectorString (flags num : ℤ) : Reader (List Bytes) :=
  flagged flags num [] vectorString

/-- `FlaggedVector(flags, num)`. -/
def flaggedVector (object : Reader (Option TL)) (flags num : ℤ) : Reader (List (Option TL)) :=
  flagged flags num [] (vector object)

end DecodeBuf

end TgClient
