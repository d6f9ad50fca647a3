import Mathlib.Data.Nat.Digits
import TgClient.Decode.Object

/-!
# Round Trips of the Primitive Encodings

The encoder (`EncodeBuf`) is not in the sources; the encodings below follow §4.A:
little-endian integers, two's complement for the signed ones; a byte string as one
length byte below `254`, or the marker `0xFE` and three length bytes, then the bytes and
zero padding to a 4-byte boundary; a big integer as the byte string of its big-endian
magnitude; a vector as `u32(0x1CB5C415) | i32(count) | items`.

`RoundTrips rd e v` says that the read `rd`, started on `e` followed by anything, at any
offset of any buffer, returns `v`, leaves `err` nil and advances `off` by exactly `|e|`.
The buffer `seek pre rest` holds `pre ++ rest` positioned at `rest`; reading a prefix of
`rest` moves it to `seek (pre ++ prefix) rest'`, which is how the round trips compose.

## Main results

* `int_roundTrip`, `uint_roundTrip`, `long_roundTrip`: fixed-width integers.
* `stringBytes_short_roundTrip`, `stringBytes_long_roundTrip`: both length forms, at every
  length, through the `254` boundary and every residue of the padding.
* `bigInt_roundTrip`, `vectorOf_roundTrip`.
* `decode_encode`: all of them, with each encoding a multiple of 4 bytes long.
* `str2big_big2str`: the helpers `str2big` and `big2str` invert each other up to the sign
  and the leading zero bytes.
-/

namespace TgClient

/-! ### The encodings of §4.A -/

/-- Modelled from the spec: the `w`-byte little-endian encoding of `x` (§4.A). -/
def leBytes : ℕ → ℕ → Bytes
  | 0, _ => []
  | w + 1, x => UInt8.ofNat (x % 256) :: leBytes w (x / 256)

/-- Modelled from the spec: an `i32`, little-endian two's complement. -/
def encInt (v : ℤ) : Bytes := leBytes 4 (v % 2 ^ 32).toNat

/-- Modelled from the spec: an `i64`, little-endian two's complement. -/
def encLong (v : ℤ) : Bytes := leBytes 8 (v % 2 ^ 64).toNat

/-- Modelled from the spec: a `u32`, little-endian. -/
def encUInt (v : UInt32) : Bytes := leBytes 4 v.toNat

/-- Modelled from the spec: the zero bytes that take `n` bytes to a 4-byte boundary. -/
def padding (n : ℕ) : Bytes := List.replicate ((4 - n % 4) % 4) 0

/-- Modelled from the spec: the one-byte-length form of a string. -/
def shortString (s : Bytes) : Bytes := UInt8.ofNat s.length :: s ++ padding (s.length + 1)

/-- Modelled from the spec: the `0xFE` form of a string, with three length bytes. -/
def longString (s : Bytes) : Bytes := 254 :: leBytes 3 s.length ++ s ++ padding s.length

/-- Modelled from the spec: a string, one-byte form below length `254`. -/
def encStringBytes (s : Bytes) : Bytes :=
  if s.length < 254 then shortString s else longString s

/-- The big-endian magnitude of `n`, as `big.Int.Bytes` gives it (`[]` for `0`). -/
def bigEndian (n : ℕ) : Bytes := ((Nat.digits 256 n).map UInt8.ofNat).reverse

/-- Modelled from the spec: a non-negative big integer, as the string of its magnitude. -/
def encBigInt (n : ℕ) : Bytes := encStringBytes (bigEndian n)

/-- Modelled from the spec: a vector, `u32(0x1CB5C415) | i32(count) | items`. -/
def encVector {α : Type} (enc : α → Bytes) (xs : List α) : Bytes :=
  encUInt crcVector ++ encInt xs.length ++ (xs.map enc).flatten

namespace DecodeBuf

/-! ### Buffers positioned after a prefix -/

/-- A buffer holding `pre ++ rest` with `off` at `rest` and no error. -/
def seek (pre rest : Bytes) : DecodeBuf := ⟨pre ++ rest, pre.length, (pre ++ rest).length, none⟩

/-- `rd` decodes `v` from `e`: from any offset, before any suffix, it returns `v`, leaves
`err` nil, and advances `off` by exactly `|e|`. -/
def RoundTrips {α : Type} (rd : Reader α) (e : Bytes) (v : α) : Prop :=
  ∀ pre r : Bytes, rd (seek pre (e ++ r)) = .ok (v, (seek pre (e ++ r)).skip e.length)

@[simp] theorem seek_err (pre rest : Bytes) : (seek pre rest).err = none := rfl

theorem newDecodeBuf_eq_seek (b : Bytes) : newDecodeBuf b = seek [] b := rfl

theorem seek_skip (pre rest : Bytes) {k : ℕ} (hk : k ≤ rest.length) :
    (seek pre rest).skip k = seek (pre ++ rest.take k) (rest.drop k) := by
  simp only [seek, skip, List.length_append, List.length_take, List.append_assoc,
    List.take_append_drop, Nat.min_eq_left hk]

theorem seek_skip_append (pre e r : Bytes) :
    (seek pre (e ++ r)).skip e.length = seek (pre ++ e) r := by
  rw [seek_skip _ _ (by simp), List.take_left, List.drop_left]

theorem seek_window (pre rest : Bytes) (n : ℕ) : (seek pre rest).window n = rest.take n := by
  simp [seek, window]

theorem seek_fits (pre rest : Bytes) (n : ℕ) :
    (seek pre rest).off + n ≤ (seek pre rest).size ↔ n ≤ rest.length := by
  simp [seek]

theorem seek_byte (pre rest : Bytes) (b : UInt8) :
    (seek pre (b :: rest)).buf.getD (seek pre (b :: rest)).off 0 = b := by
  rw [seek, List.getD_eq_getElem?_getD, List.getElem?_append_right (le_refl _)]
  simp

/-- A round trip read as moving the cursor past `e`. -/
theorem roundTrips_iff {α : Type} {rd : Reader α} {e : Bytes} {v : α} :
    RoundTrips rd e v ↔ ∀ pre r, rd (seek pre (e ++ r)) = .ok (v, seek (pre ++ e) r) := by
  simp only [RoundTrips, seek_skip_append]

/-! ### Little-endian integers -/

theorem length_leBytes : ∀ w x, (leBytes w x).length = w
  | 0, _ => rfl
  | w + 1, x => by simp [leBytes, length_leBytes w]

theorem leNat_leBytes : ∀ w x, leNat (leBytes w x) = x % 256 ^ w
  | 0, x => by simp [leBytes, leNat, Nat.mod_one]
  | w + 1, x => by
    rw [leBytes, leNat, leNat_leBytes w, UInt8.toNat_ofNat_of_lt (Nat.mod_lt _ (by norm_num)),
      pow_succ, mul_comm (256 ^ w), Nat.mod_mul]

/-- A fixed-width read of `w` encoded bytes. -/
theorem fixed_roundTrip {α : Type} {w : ℕ} (err : DecodeError) (conv : ℕ → α) (zero : α)
    (x : ℕ) (hw : (leBytes w x).length = w) :
    RoundTrips (total (fixed w err conv zero)) (leBytes w x) (conv (x % 256 ^ w)) := by
  intro pre r
  have hfit : (seek pre (leBytes w x ++ r)).off + w ≤ (seek pre (leBytes w x ++ r)).size := by
    rw [seek_fits]; simp [hw]
  rw [total, fixed_ok (seek_err _ _) hfit, seek_window, List.take_left' hw, leNat_leBytes, hw]

theorem signed_int32 (v : ℤ) (h₁ : -2 ^ 31 ≤ v) (h₂ : v < 2 ^ 31) :
    signed 32 ((v % 2 ^ 32).toNat % 256 ^ 4) = v := by
  unfold signed; split_ifs <;> omega

theorem signed_int64 (v : ℤ) (h₁ : -2 ^ 63 ≤ v) (h₂ : v < 2 ^ 63) :
    signed 64 ((v % 2 ^ 64).toNat % 256 ^ 8) = v := by
  unfold signed; split_ifs <;> omega

theorem int_roundTrip (v : ℤ) (h₁ : -2 ^ 31 ≤ v) (h₂ : v < 2 ^ 31) :
    RoundTrips (total int) (encInt v) v := by
  have := fixed_roundTrip .decodeInt (signed 32) 0
    (v % 2 ^ 32).toNat (length_leBytes 4 _)
  rwa [signed_int32 v h₁ h₂] at this

theorem long_roundTrip (v : ℤ) (h₁ : -2 ^ 63 ≤ v) (h₂ : v < 2 ^ 63) :
    RoundTrips (total long) (encLong v) v := by
  have := fixed_roundTrip .decodeLong (signed 64) 0
    (v % 2 ^ 64).toNat (length_leBytes 8 _)
  rwa [signed_int64 v h₁ h₂] at this

theorem uint_roundTrip (v : UInt32) : RoundTrips (total uint) (encUInt v) v := by
  have := fixed_roundTrip .decodeUInt UInt32.ofNat 0
    v.toNat (length_leBytes 4 _)
  have hv : UInt32.ofNat (v.toNat % 256 ^ 4) = v := by
    apply UInt32.eq_of_toBitVec_eq
    simp [UInt32.ofNat, UInt32.toNat, Nat.mod_eq_of_lt v.toBitVec.isLt]
  rwa [hv] at this

/-! ### Strings -/

@[simp] theorem length_padding (n : ℕ) : (padding n).length = (4 - n % 4) % 4 := by
  simp [padding]

/-- The decoder's padding `(4 - n%4) & 3` is the spec's. -/
theorem pad_and (n : ℕ) : (4 - n % 4) &&& 3 = (padding n).length := by
  have h : n % 4 < 4 := Nat.mod_lt _ (by norm_num)
  rw [length_padding]
  generalize n % 4 = k at h ⊢
  revert k; decide

theorem seek_skip_cons (pre rest : Bytes) (b : UInt8) :
    (seek pre (b :: rest)).skip 1 = seek (pre ++ [b]) rest :=
  seek_skip_append pre [b] rest

/-- The payload and the padding, at any offset. -/
theorem stringBody_seek (pre s pad r : Bytes) :
    stringBody s.length pad.length (seek pre (s ++ (pad ++ r))) = (s, seek (pre ++ s ++ pad) r) := by
  have h₁ : ¬ (seek pre (s ++ (pad ++ r))).off + s.length > (seek pre (s ++ (pad ++ r))).size := by
    rw [gt_iff_lt, Nat.not_lt, seek_fits]; simp
  rw [stringBody, if_neg h₁, seek_skip_append]
  have h₂ : ¬ (seek (pre ++ s) (pad ++ r)).off + pad.length > (seek pre (s ++ (pad ++ r))).size := by
    simp [seek]; omega
  rw [if_neg h₂, seek_window, List.take_left, seek_skip_append, List.append_assoc]

theorem stringBytes_short_roundTrip (s : Bytes) (hs : s.length < 254) :
    RoundTrips (total stringBytes) (shortString s) s := by
  rw [roundTrips_iff]
  intro pre r
  have hb : (UInt8.ofNat s.length).toNat = s.length :=
    UInt8.toNat_ofNat_of_lt (by simp [UInt8.size]; omega)
  have h₁ : ¬ (seek pre (shortString s ++ r)).off + 1 > (seek pre (shortString s ++ r)).size := by
    simp [seek, shortString]
  have e : shortString s ++ r = UInt8.ofNat s.length :: (s ++ (padding (s.length + 1) ++ r)) := by
    simp [shortString]
  rw [total, stringBytes, if_neg (by simp), if_neg h₁]
  simp only [e, seek_byte, hb, if_neg (show ¬ s.length = 254 by omega), seek_skip_cons, pad_and,
    stringBody_seek]
  simp [shortString]

theorem stringBytes_long_roundTrip (s : Bytes) (hs : s.length < 2 ^ 24) :
    RoundTrips (total stringBytes) (longString s) s := by
  rw [roundTrips_iff]
  intro pre r
  have e : longString s ++ r = 254 :: (leBytes 3 s.length ++ (s ++ (padding s.length ++ r))) := by
    simp [longString]
  have h₁ : ¬ (seek pre (longString s ++ r)).off + 1 > (seek pre (longString s ++ r)).size := by
    simp [seek, longString]
  have h₂ : ¬ (seek (pre ++ [254]) (leBytes 3 s.length ++ (s ++ (padding s.length ++ r)))).off + 3
      > (seek pre (longString s ++ r)).size := by
    simp [seek, longString, length_leBytes]; omega
  have hL : leNat (leBytes 3 s.length) = s.length := by
    rw [leNat_leBytes, Nat.mod_eq_of_lt (by norm_num at hs ⊢; omega)]
  rw [total, stringBytes, if_neg (by simp), if_neg h₁]
  have h254 : (254 : UInt8).toNat = 254 := rfl
  simp only [e, seek_byte, h254, seek_skip_cons, if_true]
  have h₃ := seek_skip_append (pre ++ [254]) (leBytes 3 s.length) (s ++ (padding s.length ++ r))
  rw [length_leBytes] at h₃
  rw [if_neg (by simpa [e] using h₂), seek_window,
    List.take_left' (length_leBytes 3 _), hL, h₃, pad_and, stringBody_seek]
  simp [longString]

theorem total_eq_of_roundTrips {α : Type} {f : DecodeBuf → α × DecodeBuf} {e : Bytes} {v : α}
    (h : RoundTrips (total f) e v) (pre r : Bytes) : f (seek pre (e ++ r)) = (v, seek (pre ++ e) r) :=
  Except.ok.inj (roundTrips_iff.mp h pre r)

theorem stringBytes_roundTrip (s : Bytes) (hs : s.length < 2 ^ 24) :
    RoundTrips (total stringBytes) (encStringBytes s) s := by
  unfold encStringBytes
  split_ifs with h
  · exact stringBytes_short_roundTrip s h
  · exact stringBytes_long_roundTrip s hs

/-- `String` decodes whatever `StringBytes` decodes. -/
theorem string_roundTrip {e s : Bytes} (h : RoundTrips (total stringBytes) e s) :
    RoundTrips (total string) e s := by
  rw [roundTrips_iff]
  intro pre r
  simp [total, string, total_eq_of_roundTrips h pre r]

/-- `BigInt` reads the payload big-endian. -/
theorem bigInt_of_stringBytes {e s : Bytes} (h : RoundTrips (total stringBytes) e s) :
    RoundTrips (total bigInt) e (some (setBytes (0 :: s))) := by
  rw [roundTrips_iff]
  intro pre r
  simp [total, bigInt, total_eq_of_roundTrips h pre r]

theorem foldr_digits (L : List ℕ) (hL : ∀ d ∈ L, d < 256) :
    (L.map UInt8.ofNat).foldr (fun b acc => 256 * acc + b.toNat) 0 = Nat.ofDigits 256 L := by
  induction L with
  | nil => rfl
  | cons d L ih =>
    simp only [List.map_cons, List.foldr_cons, Nat.ofDigits_cons, Nat.cast_id]
    rw [ih fun x hx => hL x (List.mem_cons_of_mem d hx),
      UInt8.toNat_ofNat_of_lt (hL d (List.mem_cons_self d L))]
    ring

theorem setBytes_bigEndian (n : ℕ) : setBytes (0 :: bigEndian n) = n := by
  rw [setBytes, List.foldl_cons, bigEndian, List.foldl_reverse]
  simp only [Nat.mul_zero, UInt8.toNat_zero, Nat.add_zero]
  rw [foldr_digits _ fun d hd => Nat.digits_lt_base (by norm_num) hd, Nat.ofDigits_digits]

theorem bigInt_roundTrip (n : ℕ) (hn : (bigEndian n).length < 2 ^ 24) :
    RoundTrips (total bigInt) (encBigInt n) (some n) := by
  have := bigInt_of_stringBytes (stringBytes_roundTrip _ hn)
  rwa [setBytes_bigEndian] at this

/-! ### Vectors -/

theorem vectorItems_roundTrip {α : Type} {elem : Reader α} {enc : α → Bytes} :
    ∀ xs : List α, (∀ x ∈ xs, RoundTrips elem (enc x) x) → ∀ pre r : Bytes,
      vectorItems elem xs.length (seek pre ((xs.map enc).flatten ++ r)) =
        .ok (some xs, seek (pre ++ (xs.map enc).flatten) r)
  | [], _, pre, r => by simp [vectorItems]
  | x :: xs, h, pre, r => by
    have hx := roundTrips_iff.mp (h x (List.mem_cons_self x xs)) pre ((xs.map enc).flatten ++ r)
    have ih := vectorItems_roundTrip xs (fun y hy => h y (List.mem_cons_of_mem x hy))
      (pre ++ enc x) r
    simp only [List.map_cons, List.flatten_cons, List.length_cons, List.append_assoc] at hx ih ⊢
    simp [vectorItems, hx, ih]

theorem vectorOf_roundTrip {α : Type} {fn : String} {elem : Reader α} {enc : α → Bytes}
    (xs : List α) (hlen : xs.length < 2 ^ 31) (h : ∀ x ∈ xs, RoundTrips elem (enc x) x) :
    RoundTrips (vectorOf fn elem) (encVector enc xs) xs := by
  rw [roundTrips_iff]
  intro pre r
  have hu := total_eq_of_roundTrips (uint_roundTrip crcVector) pre
    (encInt xs.length ++ ((xs.map enc).flatten ++ r))
  have hi := total_eq_of_roundTrips (int_roundTrip xs.length (by omega) (by exact_mod_cast hlen))
    (pre ++ encUInt crcVector) ((xs.map enc).flatten ++ r)
  have hv := vectorItems_roundTrip xs h (pre ++ encUInt crcVector ++ encInt xs.length) r
  simp only [encVector, List.append_assoc] at hu hi hv ⊢
  simp [vectorOf, hu, hi, hv]

/-! ### Lengths -/

theorem length_shortString (s : Bytes) :
    (shortString s).length = 1 + s.length + (4 - (s.length + 1) % 4) % 4 := by
  simp [shortString]; omega

theorem length_longString (s : Bytes) :
    (longString s).length = 4 + s.length + (4 - s.length % 4) % 4 := by
  simp [longString, length_leBytes]; omega

theorem length_encStringBytes_mod (s : Bytes) : (encStringBytes s).length % 4 = 0 := by
  unfold encStringBytes
  split_ifs
  · rw [length_shortString]; omega
  · rw [length_longString]; omega

theorem length_flatten_mod {α : Type} (enc : α → Bytes) :
    ∀ xs : List α, (∀ x ∈ xs, (enc x).length % 4 = 0) → ((xs.map enc).flatten).length % 4 = 0
  | [], _ => rfl
  | x :: xs, h => by
    have := length_flatten_mod enc xs fun y hy => h y (List.mem_cons_of_mem x hy)
    have hx := h x (List.mem_cons_self x xs)
    simp only [List.map_cons, List.flatten_cons, List.length_append]
    omega

theorem length_encVector_mod {α : Type} (enc : α → Bytes) (xs : List α)
    (h : ∀ x ∈ xs, (enc x).length % 4 = 0) : (encVector enc xs).length % 4 = 0 := by
  have := length_flatten_mod enc xs h
  simp only [encVector, List.length_append, encInt, encUInt, length_leBytes]
  omega

/-! ### The round trips of §4.A -/

/-- **Decoding inverts the §4.A encodings.** From any offset and before any suffix, each
read returns the encoded value, leaves `err` nil and advances `off` by exactly the length
of the encoding, which is a multiple of 4: `Int`, `UInt` and `Long` on every value of
their type; `StringBytes` and `String` on every byte string shorter than `2^24`, in the
form the spec prescribes (one length byte below `254`) and in the `0xFE` form at every
length; `BigInt` on every magnitude that fits a string; `VectorInt`, `VectorLong` and
`VectorString` on every list shorter than `2^31` of such values. -/
theorem decode_encode :
    (∀ v : ℤ, -2 ^ 31 ≤ v → v < 2 ^ 31 →
      RoundTrips (total int) (encInt v) v ∧ (encInt v).length % 4 = 0) ∧
    (∀ v : UInt32, RoundTrips (total uint) (encUInt v) v ∧ (encUInt v).length % 4 = 0) ∧
    (∀ v : ℤ, -2 ^ 63 ≤ v → v < 2 ^ 63 →
      RoundTrips (total long) (encLong v) v ∧ (encLong v).length % 4 = 0) ∧
    (∀ s : Bytes, s.length < 2 ^ 24 →
      RoundTrips (total stringBytes) (encStringBytes s) s ∧
      RoundTrips (total string) (encStringBytes s) s ∧
      RoundTrips (total stringBytes) (longString s) s ∧
      RoundTrips (total string) (longString s) s ∧
      (encStringBytes s).length % 4 = 0 ∧ (longString s).length % 4 = 0) ∧
    (∀ n : ℕ, (bigEndian n).length < 2 ^ 24 →
      RoundTrips (total bigInt) (encBigInt n) (some n) ∧ (encBigInt n).length % 4 = 0) ∧
    (∀ xs : List ℤ, xs.length < 2 ^ 31 → (∀ x ∈ xs, -2 ^ 31 ≤ x ∧ x < 2 ^ 31) →
      RoundTrips vectorInt (encVector encInt xs) xs ∧
      (encVector encInt xs).length % 4 = 0) ∧
    (∀ xs : List ℤ, xs.length < 2 ^ 31 → (∀ x ∈ xs, -2 ^ 63 ≤ x ∧ x < 2 ^ 63) →
      RoundTrips vectorLong (encVector encLong xs) xs ∧
      (encVector encLong xs).length % 4 = 0) ∧
    (∀ xs : List Bytes, xs.length < 2 ^ 31 → (∀ s ∈ xs, s.length < 2 ^ 24) →
      RoundTrips vectorString (encVector encStringBytes xs) xs ∧
      (encVector encStringBytes xs).length % 4 = 0) := by
  have h4 : ∀ v, (encInt v).length % 4 = 0 := fun _ => by simp [encInt, length_leBytes]
  have h8 : ∀ v, (encLong v).length % 4 = 0 := fun _ => by simp [encLong, length_leBytes]
  refine ⟨fun v h₁ h₂ => ⟨int_roundTrip v h₁ h₂, h4 v⟩,
    fun v => ⟨uint_roundTrip v, by simp [encUInt, length_leBytes]⟩,
    fun v h₁ h₂ => ⟨long_roundTrip v h₁ h₂, h8 v⟩,
    fun s hs => ⟨stringBytes_roundTrip s hs, string_roundTrip (stringBytes_roundTrip s hs),
      stringBytes_long_roundTrip s hs, string_roundTrip (stringBytes_long_roundTrip s hs),
      length_encStringBytes_mod s, by rw [length_longString]; omega⟩,
    fun n hn => ⟨bigInt_roundTrip n hn, length_encStringBytes_mod _⟩,
    fun xs hl h => ⟨vectorOf_roundTrip xs hl fun x hx => int_roundTrip x (h x hx).1 (h x hx).2,
      length_encVector_mod _ xs fun x _ => h4 x⟩,
    fun xs hl h => ⟨vectorOf_roundTrip xs hl fun x hx => long_roundTrip x (h x hx).1 (h x hx).2,
      length_encVector_mod _ xs fun x _ => h8 x⟩,
    fun xs hl h => ⟨vectorOf_roundTrip xs hl fun s hs => string_roundTrip
        (stringBytes_roundTrip s (h s hs)),
      length_encVector_mod _ xs fun s _ => length_encStringBytes_mod s⟩⟩

/-- The round trip at a string of length `254`, the first in the `0xFE` form. -/
theorem decode_encode_at_254 :
    (List.replicate 254 (7 : UInt8)).length < 2 ^ 24 ∧
      RoundTrips (total stringBytes) (encStringBytes (List.replicate 254 7))
        (List.replicate 254 7) :=
  have h : (List.replicate 254 (7 : UInt8)).length < 2 ^ 24 := by
    rw [List.length_replicate]; norm_num
  ⟨h, (decode_encode.2.2.2.1 _ h).1⟩

end DecodeBuf

/-! ### `str2big` and `big2str`

The helpers at the end of the decoder convert between a byte string and a `big.Int`:
`SetBytes` reads the bytes big-endian, and `Bytes` gives the magnitude without leading
zeros. So every integer comes back as its absolute value, and every string comes back
without its leading zero bytes. -/

/-- `str2big(str)`: `new(big.Int).SetBytes([]byte(str))`. -/
def str2big (str : Bytes) : ℤ := setBytes str

/-- `big2str(val)`: `string(val.Bytes())`, where `Bytes` gives the magnitude. -/
def big2str (val : ℤ) : Bytes := bigEndian val.natAbs

theorem ofNat_toNat (b : UInt8) : UInt8.ofNat b.toNat = b :=
  UInt8.toNat.inj (UInt8.toNat_ofNat_of_lt b.val.isLt)

theorem setBytes_cons_zero (l : Bytes) : setBytes (0 :: l) = setBytes l := rfl

/-- Leading zero bytes add nothing to the value. -/
theorem setBytes_zeros_append :
    ∀ (z t : Bytes), (∀ b ∈ z, b = 0) → setBytes (z ++ t) = setBytes t
  | [], _, _ => rfl
  | b :: z, t, hz => by
    obtain rfl := hz b (List.mem_cons_self b z)
    exact setBytes_zeros_append z t fun b' hb => hz b' (List.mem_cons_of_mem 0 hb)

theorem setBytes_dropWhile (str : Bytes) :
    setBytes str = setBytes (str.dropWhile (· == 0)) := by
  conv_lhs => rw [← List.takeWhile_append_dropWhile (· == 0) str]
  exact setBytes_zeros_append _ _ fun b hb => by simpa using List.mem_takeWhile_imp hb

theorem foldr_toNat (l : Bytes) :
    l.foldr (fun b acc => 256 * acc + b.toNat) 0 = Nat.ofDigits 256 (l.map UInt8.toNat) := by
  induction l with
  | nil => rfl
  | cons b l ih =>
    rw [List.foldr_cons, ih, List.map_cons, Nat.ofDigits_cons]
    ring

/-- `SetBytes` reads the bytes as base-256 digits, the most significant first. -/
theorem setBytes_eq_ofDigits (l : Bytes) :
    setBytes l = Nat.ofDigits 256 (l.reverse.map UInt8.toNat) := by
  rw [setBytes, ← List.reverse_reverse l, List.foldl_reverse, List.reverse_reverse, foldr_toNat]

/-- A string without a leading zero byte is the magnitude of its value. -/
theorem bigEndian_setBytes (b : UInt8) (t : Bytes) (hb : b ≠ 0) :
    bigEndian (setBytes (b :: t)) = b :: t := by
  have hb' : b.toNat ≠ 0 := fun h => hb (UInt8.toNat.inj h)
  rw [bigEndian, setBytes_eq_ofDigits, Nat.digits_ofDigits 256 (by norm_num) _
    (fun d hd => ?_) (fun _ => by simpa [List.getLast_map, List.getLast_reverse] using hb')]
  · simp [List.map_reverse, Function.comp_def, ofNat_toNat]
  · obtain ⟨c, -, rfl⟩ := List.mem_map.mp hd
    exact c.val.isLt

/-- **`str2big` and `big2str` round trip up to sign and leading zeros.** For every integer,
`str2big(big2str(v))` is `|v|`; for every string, `big2str(str2big(str))` is `str` without
its leading zero bytes. -/
theorem str2big_big2str (v : ℤ) (str : Bytes) :
    str2big (big2str v) = |v| ∧ big2str (str2big str) = str.dropWhile (· == 0) := by
  constructor
  · rw [str2big, big2str, ← setBytes_cons_zero, DecodeBuf.setBytes_bigEndian, Int.natCast_natAbs]
  · rw [big2str, str2big, Int.natAbs_ofNat, setBytes_dropWhile]
    rcases h : str.dropWhile (· == 0) with _ | ⟨b, t⟩
    · simp [bigEndian, setBytes]
    · have hb := List.head_dropWhile_not (· == 0) str (by simp [h])
      simp only [h, List.head_cons, beq_eq_false_iff_ne] at hb
      exact bigEndian_setBytes b t hb

end TgClient
