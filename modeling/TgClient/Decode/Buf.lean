import TgClient.TL

/-!
# The Decode Buffer and its Primitive Reads

`DecodeBuf` is a cursor `off` into `buf[0:size]` with a sticky error `err`. Every read
first looks at `err`: once set, it returns its zero value and touches nothing. Otherwise
it bounds-checks `off + width` against `size`, and on failure stores an error and
returns the zero value; on success it returns the decoded value and advances `off`.

The fixed-width reads `Long`, `Double`, `Int`, `UInt` differ only in width, error and
conversion, so they are one definition, `DecodeBuf.fixed`, and one set of lemmas.
`StringBytes` decodes the §4.A length-prefixed string: one length byte, or the marker
`254` and three length bytes, then the payload and zero padding to a 4-byte boundary.
The `Flagged` variants read only when their bit of `flags` is set; they are one
combinator, `flagged`.

A read is a `Reader`: it may also panic (`Bytes` with an offset past the range of a Go
`int`, and the composite reads of `TgClient.Decode.Object`). `Reader.Lawful` is the
sticky-error discipline of the readers: every read is a no-op once `err` is set, and
keeps `off ≤ size = len(buf)`.

## Main results

* `fixed_lawful`, `stringBytes_lawful`, `string_lawful`, `bigInt_lawful`,
  `bytes_lawful`, `flagged_lawful`: every primitive read is lawful.
* `fixed_ok`, `stringBytes_short_ok`, `stringBytes_long_ok`: what a read returns when
  the bytes are there — the lemmas the round trips are built from.
-/

namespace TgClient

/-- The errors a `DecodeBuf` stores in `err`, one per `errors.New` / `fmt.Errorf` of the
decoder (the formatted ones keep their arguments). -/
inductive DecodeError where
  /-- `"DecodeLong"` -/
  | decodeLong
  /-- `"DecodeDouble"` -/
  | decodeDouble
  /-- `"DecodeInt"` -/
  | decodeInt
  /-- `"DecodeUInt"` -/
  | decodeUInt
  /-- `"DecodeBytes"` -/
  | decodeBytes
  /-- `"DecodeStringBytes"` -/
  | decodeStringBytes
  /-- `"DecodeStringBytes: Wrong size: expected %d+%d=%d, buffer is %d"` -/
  | wrongSize (off size total bufSize : ℕ)
  /-- `"DecodeStringBytes: Wrong padding"` -/
  | wrongPadding
  /-- `"Decode<fn>: Wrong constructor (0x%08x)"` of the vector reads -/
  | wrongConstructor (fn : String) (constructor : UInt32)
  /-- `"Decode<fn>: Wrong size"` of the vector reads -/
  | wrongVectorSize (fn : String)
  /-- The generated decoder's error on a constructor the schema does not have. -/
  | unknownConstructor (constructor : UInt32)
  deriving DecidableEq, Repr

/-- `DecodeBuf{buf, off, size, err}`. -/
structure DecodeBuf where
  buf : Bytes
  off : ℕ
  size : ℕ
  err : Option DecodeError

/-- `NewDecodeBuf(b)`. -/
def newDecodeBuf (b : Bytes) : DecodeBuf := ⟨b, 0, b.length, none⟩

/-- A read: the decoded value and the buffer after it, or a Go panic. -/
abbrev Reader (α : Type) := DecodeBuf → Except Fault (α × DecodeBuf)

/-- Little-endian value of a byte string (`binary.LittleEndian.Uint*`). -/
def leNat : Bytes → ℕ
  | [] => 0
  | b :: bs => b.toNat + 256 * leNat bs

/-- Two's complement reading of a `w`-bit pattern (`int32(x)`, `int64(x)`). -/
def signed (w x : ℕ) : ℤ := if x < 2 ^ (w - 1) then x else x - 2 ^ w

/-- Big-endian value of a byte string (`big.Int.SetBytes`). -/
def setBytes (bs : Bytes) : ℕ := bs.foldl (fun acc b => 256 * acc + b.toNat) 0

namespace DecodeBuf

/-- The buffer invariant: `0 ≤ off ≤ size = len(buf)`. -/
def Wf (m : DecodeBuf) : Prop := m.size = m.buf.length ∧ m.off ≤ m.size

/-- `m.err = e`. -/
def fail (m : DecodeBuf) (e : DecodeError) : DecodeBuf := { m with err := some e }

/-- `m.off += n`. -/
def skip (m : DecodeBuf) (n : ℕ) : DecodeBuf := { m with off := m.off + n }

/-- `m.buf[m.off : m.off+n]`. -/
def window (m : DecodeBuf) (n : ℕ) : Bytes := (m.buf.drop m.off).take n

@[simp] theorem fail_buf (m : DecodeBuf) (e : DecodeError) : (m.fail e).buf = m.buf := rfl
@[simp] theorem fail_off (m : DecodeBuf) (e : DecodeError) : (m.fail e).off = m.off := rfl
@[simp] theorem fail_size (m : DecodeBuf) (e : DecodeError) : (m.fail e).size = m.size := rfl
@[simp] theorem fail_err (m : DecodeBuf) (e : DecodeError) : (m.fail e).err = some e := rfl
@[simp] theorem skip_buf (m : DecodeBuf) (n : ℕ) : (m.skip n).buf = m.buf := rfl
@[simp] theorem skip_off (m : DecodeBuf) (n : ℕ) : (m.skip n).off = m.off + n := rfl
@[simp] theorem skip_size (m : DecodeBuf) (n : ℕ) : (m.skip n).size = m.size := rfl
@[simp] theorem skip_err (m : DecodeBuf) (n : ℕ) : (m.skip n).err = m.err := rfl

theorem skip_skip (m : DecodeBuf) (a b : ℕ) : (m.skip a).skip b = m.skip (a + b) := by
  simp only [skip, Nat.add_assoc]

theorem wf_fail {m : DecodeBuf} (h : m.Wf) (e : DecodeError) : (m.fail e).Wf := h

theorem wf_skip {m : DecodeBuf} (h : m.Wf) (n : ℕ) (hn : m.off + n ≤ m.size) :
    (m.skip n).Wf := ⟨h.1, hn⟩

theorem wf_newDecodeBuf (b : Bytes) : (newDecodeBuf b).Wf := ⟨rfl, Nat.zero_le _⟩

@[simp] theorem newDecodeBuf_err (b : Bytes) : (newDecodeBuf b).err = none := rfl

end DecodeBuf

/-! ### Lawful reads -/

/-- `0 ≤ off ≤ size = len(buf)` after every call of `rd` that returns. -/
def Reader.KeepsWf {α : Type} (rd : Reader α) : Prop :=
  ∀ m a m', DecodeBuf.Wf m → rd m = .ok (a, m') → DecodeBuf.Wf m'

/-- The discipline of every read: a no-op returning `zero` once `err` is set, and
`0 ≤ off ≤ size = len(buf)` after every read that returns. -/
structure Reader.Lawful {α : Type} (rd : Reader α) (zero : α) : Prop where
  sticky : ∀ m : DecodeBuf, m.err.isSome → rd m = .ok (zero, m)
  wf : rd.KeepsWf

namespace DecodeBuf

/-- A read that cannot panic, as a `Reader`. -/
def total {α : Type} (f : DecodeBuf → α × DecodeBuf) : Reader α := fun m => .ok (f m)

theorem total_lawful {α : Type} {f : DecodeBuf → α × DecodeBuf} {zero : α}
    (hs : ∀ m : DecodeBuf, m.err.isSome → f m = (zero, m))
    (hw : ∀ m : DecodeBuf, m.Wf → (f m).2.Wf) : Reader.Lawful (total f) zero where
  sticky m h := by simp only [total, hs m h]
  wf m a m' h e := by
    simp only [total, Except.ok.injEq] at e
    simpa only [e] using hw m h

/-! ### Fixed-width reads -/

/-- The shape of `Long`, `Double`, `Int` and `UInt`: read `w` little-endian bytes and
convert them, or fail with `e`. -/
def fixed {α : Type} (w : ℕ) (e : DecodeError) (conv : ℕ → α) (zero : α) (m : DecodeBuf) :
    α × DecodeBuf :=
  if m.err.isSome then (zero, m)
  else if m.off + w > m.size then (zero, m.fail e)
  else (conv (leNat (m.window w)), m.skip w)

/-- `(m *DecodeBuf) Long() int64`. -/
def long : DecodeBuf → ℤ × DecodeBuf := fixed 8 .decodeLong (signed 64) 0

/-- `(m *DecodeBuf) Double() float64`, as its bit pattern. -/
def double : DecodeBuf → ℕ × DecodeBuf := fixed 8 .decodeDouble id 0

/-- `(m *DecodeBuf) Int() int32`. -/
def int : DecodeBuf → ℤ × DecodeBuf := fixed 4 .decodeInt (signed 32) 0

/-- `(m *DecodeBuf) UInt() uint32`. -/
def uint : DecodeBuf → UInt32 × DecodeBuf := fixed 4 .decodeUInt UInt32.ofNat 0

theorem fixed_of_err {α : Type} {w : ℕ} {e : DecodeError} {conv : ℕ → α} {zero : α}
    {m : DecodeBuf} (h : m.err.isSome) : fixed w e conv zero m = (zero, m) := by
  simp [fixed, h]

theorem fixed_ok {α : Type} {w : ℕ} {e : DecodeError} {conv : ℕ → α} {zero : α}
    {m : DecodeBuf} (h : m.err = none) (hw : m.off + w ≤ m.size) :
    fixed w e conv zero m = (conv (leNat (m.window w)), m.skip w) := by
  simp [fixed, h, Nat.not_lt.mpr hw]

theorem fixed_wf {α : Type} {w : ℕ} {e : DecodeError} {conv : ℕ → α} {zero : α}
    {m : DecodeBuf} (h : m.Wf) : (fixed w e conv zero m).2.Wf := by
  unfold fixed
  split_ifs with h₁ h₂
  · exact h
  · exact wf_fail h e
  · exact wf_skip h _ (by omega)

theorem fixed_lawful {α : Type} (w : ℕ) (e : DecodeError) (conv : ℕ → α) (zero : α) :
    Reader.Lawful (total (fixed w e conv zero)) zero :=
  total_lawful (fun _ h => fixed_of_err h) (fun _ h => fixed_wf h)

/-- A failed fixed-width read sets `err` and leaves `off` where it was. -/
theorem fixed_short {α : Type} {w : ℕ} {e : DecodeError} {conv : ℕ → α} {zero : α}
    {m : DecodeBuf} (h : m.err = none) (hw : m.size < m.off + w) :
    fixed w e conv zero m = (zero, m.fail e) := by
  simp [fixed, h, hw]

/-! ### `Bytes(size)` -/

/-- `(m *DecodeBuf) Bytes(size int) []byte`. `m.off+size` is a Go `int`: from `2^63` on
it wraps negative, the bound check passes, and `make([]byte, size)` panics. -/
def bytes (size : ℕ) (m : DecodeBuf) : Except Fault (Bytes × DecodeBuf) :=
  if m.err.isSome then .ok ([], m)
  else if 2 ^ 63 ≤ m.off + size then .error (.panic "makeslice: len out of range")
  else if m.off + size > m.size then .ok ([], m.fail .decodeBytes)
  else .ok (m.window size, m.skip size)

theorem bytes_lawful (size : ℕ) : Reader.Lawful (bytes size) [] where
  sticky m h := by simp [bytes, h]
  wf m a m' h e := by
    unfold bytes at e
    split_ifs at e with h₁ h₂ h₃ <;> simp only [Except.ok.injEq, Prod.mk.injEq,
      reduceCtorEq] at e <;> obtain ⟨-, rfl⟩ := e
    · exact h
    · exact wf_fail h _
    · exact wf_skip h _ (by omega)

/-! ### `StringBytes` -/

/-- The tail of `StringBytes` shared by both length forms: `size` payload bytes, then
`padding` bytes skipped. -/
def stringBody (size padding : ℕ) (m : DecodeBuf) : Bytes × DecodeBuf :=
  if m.off + size > m.size then ([], m.fail (.wrongSize m.off size (m.off + size) m.size))
  else if (m.skip size).off + padding > m.size then ([], (m.skip size).fail .wrongPadding)
  else (m.window size, (m.skip size).skip padding)

/-- `(m *DecodeBuf) StringBytes() []byte`: a length byte below `254` with padding
`(4 - (size+1)%4) & 3`, or the marker `254`, three length bytes and padding
`(4 - size%4) & 3`. -/
def stringBytes (m : DecodeBuf) : Bytes × DecodeBuf :=
  if m.err.isSome then ([], m)
  else if m.off + 1 > m.size then ([], m.fail .decodeStringBytes)
  else
    let size := (m.buf.getD m.off 0).toNat
    if size = 254 then
      if (m.skip 1).off + 3 > m.size then ([], (m.skip 1).fail .decodeStringBytes)
      else
        let size := leNat ((m.skip 1).window 3)
        stringBody size ((4 - size % 4) &&& 3) ((m.skip 1).skip 3)
    else stringBody size ((4 - (size + 1) % 4) &&& 3) (m.skip 1)

theorem stringBody_wf {size padding : ℕ} {m : DecodeBuf} (h : m.Wf) :
    (stringBody size padding m).2.Wf := by
  unfold stringBody
  split_ifs with h₁ h₂
  · exact wf_fail h _
  · exact wf_fail (wf_skip h _ (by omega)) _
  · exact wf_skip (wf_skip h _ (by omega)) _ (by simp only [skip_off, skip_size] at h₂ ⊢; omega)

theorem stringBytes_of_err {m : DecodeBuf} (h : m.err.isSome) : m.stringBytes = ([], m) := by
  simp [stringBytes, h]

theorem stringBytes_wf {m : DecodeBuf} (h : m.Wf) : m.stringBytes.2.Wf := by
  unfold stringBytes
  dsimp only
  split_ifs with h₁ h₂ h₃ h₄
  · exact h
  · exact wf_fail h _
  · exact wf_fail (wf_skip h 1 (by omega)) _
  · exact stringBody_wf (wf_skip (wf_skip h 1 (by omega)) 3 (by simp at h₄ ⊢; omega))
  · exact stringBody_wf (wf_skip h 1 (by omega))

theorem stringBytes_lawful : Reader.Lawful (total stringBytes) [] :=
  total_lawful (fun _ h => stringBytes_of_err h) (fun _ h => stringBytes_wf h)

/-! ### `String` and `BigInt` -/

/-- `(m *DecodeBuf) String() string`. -/
def string (m : DecodeBuf) : Bytes × DecodeBuf :=
  let (b, m) := m.stringBytes
  if m.err.isSome then ([], m) else (b, m)

/-- `(m *DecodeBuf) BigInt() *big.Int`: the payload, read big-endian after a zero byte. -/
def bigInt (m : DecodeBuf) : Option ℕ × DecodeBuf :=
  let (b, m) := m.stringBytes
  if m.err.isSome then (none, m) else (some (setBytes (0 :: b)), m)

theorem string_lawful : Reader.Lawful (total string) [] :=
  total_lawful (fun m h => by simp [string, stringBytes_of_err h, h]) fun m h => by
    have hw := stringBytes_wf h
    unfold string
    rcases hs : m.stringBytes with ⟨b, m'⟩
    rw [hs] at hw
    dsimp only at hw ⊢
    split_ifs <;> exact hw

theorem bigInt_lawful : Reader.Lawful (total bigInt) none :=
  total_lawful (fun m h => by simp [bigInt, stringBytes_of_err h, h]) fun m h => by
    have hw := stringBytes_wf h
    unfold bigInt
    rcases hs : m.stringBytes with ⟨b, m'⟩
    rw [hs] at hw
    dsimp only at hw ⊢
    split_ifs <;> exact hw

/-! ### The `Flagged` variants -/

/-- `flags&bit != 0` for `bit := int32(1 << uint(num))`: the shift of an `int32` by
`32` or more (a negative `num` converts to a huge `uint`) is `0`. -/
def flagSet (flags num : ℤ) : Bool := decide (0 ≤ num ∧ num < 32) && flags.testBit num.toNat

/-- The shape of every `Flagged<Read>(flags, num)`: the read when the bit is set, else its
zero value, with the buffer untouched. -/
def flagged {α : Type} (flags num : ℤ) (zero : α) (read : Reader α) : Reader α := fun m =>
  if flagSet flags num then read m else .ok (zero, m)

theorem flagged_lawful {α : Type} {read : Reader α} {zero : α} (h : Reader.Lawful read zero)
    (flags num : ℤ) : Reader.Lawful (flagged flags num zero read) zero where
  sticky m hm := by unfold flagged; split_ifs <;> simp [h.sticky m hm]
  wf m a m' hm e := by
    unfold flagged at e
    split_ifs at e
    · exact h.wf m a m' hm e
    · simp only [Except.ok.injEq, Prod.mk.injEq] at e
      exact e.2 ▸ hm

/-- `FlaggedLong(flags, num)`. -/
def flaggedLong (flags num : ℤ) : Reader ℤ := flagged flags num 0 (total long)

/-- `FlaggedDouble(flags, num)`. -/
def flaggedDouble (flags num : ℤ) : Reader ℕ := flagged flags num 0 (total double)

/-- `FlaggedInt(flags, num)`. -/
def flaggedInt (flags num : ℤ) : Reader ℤ := flagged flags num 0 (total int)

/-- `FlaggedUInt(flags, num)`. -/
def flaggedUInt (flags num : ℤ) : Reader UInt32 := flagged flags num 0 (total uint)

/-- `FlaggedStringBytes(flags, num)`. -/
def flaggedStringBytes (flags num : ℤ) : Reader Bytes := flagged flags num [] (total stringBytes)

/-- `FlaggedString(flags, num)`. -/
def flaggedString (flags num : ℤ) : Reader Bytes := flagged flags num [] (total string)

/-- `FlaggedBigInt(flags, num)`. -/
def flaggedBigInt (flags num : ℤ) : Reader (Option ℕ) := flagged flags num none (total bigInt)

end DecodeBuf

end TgClient
