import TgClient.Decode.Encode
import TgClient.Dispatch.State

/-!
# The Session File

`SessFileStore` keeps the session in one file. `Save` writes the four fields of §6 with the
encoder, `auth_key` and `auth_key_hash` as strings (§4.A), `server_salt` as an `i64` and
`address` as a string. `Load` reads the file into a zeroed buffer of 4096 bytes and decodes
the four fields from the whole buffer, not from the bytes the read returned: past the end of
the file it decodes the zeros of `make`. The empty string is four zero bytes and the `i64`
zero is eight, so the zeros read as fields, and `Load` cannot tell a file from the same file
followed by zeros.

The encoder is not among the sources: `sessionBytes` puts the spec-modelled encodings of
`TgClient.Decode.Encode` in the order of `Save`'s calls.

`os.File.Read` on a regular file fills `min(len(c), 4096)` bytes in one call and returns
`io.EOF` on an empty one. A missing file is `ErrNoSessionData`; the other failures of
`os.Open` and `f.Read` are left out.

## Main results

* `load_sessionBytes`: `Load` inverts `Save` on a complete file, whatever follows it.
* `load_append_zeros`: `Load` cannot tell a file from the same file followed by zeros.
* `load_interrupted_save`: a `Save` interrupted after the `auth_key` field leaves a file that
  `Load` accepts, with an empty hash, a zero salt and an empty address read from past its end.
-/

namespace TgClient

/-- What `Save`'s `os.Create` and `f.Write` do. -/
inductive SaveOutcome where
  /-- `os.Create` fails: the file is left as it was. -/
  | createFails
  /-- The file is created empty and the first `n` bytes of the write land; a write that
  lands fewer than all of them returns an error. -/
  | writes (n : ℕ)
  deriving DecidableEq, Repr

/-- The errors `SessFileStore` returns. -/
inductive StoreError where
  /-- `ErrNoSessionData`: `Load` finds no file. -/
  | noSessionData
  /-- `io.EOF`: `f.Read` on an empty file. -/
  | eof
  /-- `merry.Wrap(d.err)`: the decoder's error. -/
  | decode (e : DecodeError)
  /-- `os.Create` fails. -/
  | create
  /-- `f.Write` writes fewer bytes than asked. -/
  | write
  deriving DecidableEq, Repr

namespace SessFileStore

open DecodeBuf

/-- The bytes `Save` writes: `b.StringBytes(sess.AuthKey)`, `b.StringBytes(sess.AuthKeyHash)`,
`b.Long(sess.ServerSalt)`, `b.String(sess.Addr)` (the encodings modelled from the spec). -/
def sessionBytes (sess : SessionInfo) : Bytes :=
  encStringBytes sess.authKey ++ encStringBytes sess.authKeyHash ++ encLong sess.serverSalt ++
    encStringBytes sess.addr

/-- `(s *SessFileStore) Save(sess)`: the file after it, and the error it returns. -/
def save (o : SaveOutcome) (file : Option Bytes) (sess : SessionInfo) :
    Option Bytes × Option StoreError :=
  match o with
  | .createFails => (file, some .create)
  | .writes n =>
    (some ((sessionBytes sess).take n),
      if n < (sessionBytes sess).length then some .write else none)

/-- `b := make([]byte, 1024*4); f.Read(b)` on a non-empty file `c`: the first 4096 bytes of
`c`, then the zeros of `make`. -/
def readBuf (c : Bytes) : Bytes := c.take 4096 ++ List.replicate (4096 - c.length) 0

/-- The four reads of `Load` on `d := NewDecodeBuf(b)`, each stored into `sess` as it
returns: the session after them, and the decoder. -/
def decodeInto (sess : SessionInfo) (b : Bytes) : SessionInfo × DecodeBuf :=
  let d := newDecodeBuf b
  let (authKey, d) := d.stringBytes
  let (authKeyHash, d) := d.stringBytes
  let (serverSalt, d) := d.long
  let (addr, d) := d.string
  ({ sess with
      authKey := authKey, authKeyHash := authKeyHash, serverSalt := serverSalt, addr := addr }, d)

/-- `(s *SessFileStore) Load(sess)` on the content of the file (`none`: no file): the error it
returns (`none` for `nil`) and `*sess` after it. The fields are stored before `d.err` is
looked at, so a decoding error leaves them written too. -/
def load (file : Option Bytes) (sess : SessionInfo) : Option StoreError × SessionInfo :=
  match file with
  | none => (some .noSessionData, sess)
  | some c =>
    if c = [] then (some .eof, sess)
    else
      let (sess, d) := decodeInto sess (readBuf c)
      (d.err.map .decode, sess)

/-- `Load` on a non-empty file: the decoder's error, and the fields it stored. -/
theorem load_some {c : Bytes} (hc : c ≠ []) (sess : SessionInfo) :
    load (some c) sess =
      ((decodeInto sess (readBuf c)).2.err.map .decode, (decodeInto sess (readBuf c)).1) := by
  rw [load, if_neg hc]

/-! ### The encoding -/

theorem lt_length_encStringBytes (s : Bytes) : s.length < (encStringBytes s).length := by
  unfold encStringBytes
  split_ifs
  · rw [length_shortString]; omega
  · rw [length_longString]; omega

theorem length_encStringBytes_le (s : Bytes) : (encStringBytes s).length ≤ s.length + 7 := by
  unfold encStringBytes
  split_ifs
  · rw [length_shortString]; omega
  · rw [length_longString]; omega

theorem encStringBytes_ne_nil (s : Bytes) : encStringBytes s ≠ [] :=
  List.ne_nil_of_length_pos (Nat.lt_of_le_of_lt (Nat.zero_le _) (lt_length_encStringBytes s))

theorem length_sessionBytes (sess : SessionInfo) :
    (sessionBytes sess).length = (encStringBytes sess.authKey).length +
      (encStringBytes sess.authKeyHash).length + 8 + (encStringBytes sess.addr).length := by
  simp only [sessionBytes, encLong, List.length_append, length_leBytes]

@[simp] theorem encStringBytes_nil : encStringBytes [] = List.replicate 4 0 := rfl

@[simp] theorem encLong_zero : encLong 0 = List.replicate 8 0 := rfl

/-- The encoding of a session with only a key: the key's field, then sixteen zeros. -/
theorem sessionBytes_keyOnly (sess : SessionInfo) :
    sessionBytes { sess with authKeyHash := [], serverSalt := 0, addr := [] } =
      encStringBytes sess.authKey ++ List.replicate 16 0 := by
  simp only [sessionBytes, encStringBytes_nil, encLong_zero, List.append_assoc,
    List.append_replicate_replicate]

/-! ### The read buffer -/

theorem readBuf_of_le {c : Bytes} (h : c.length ≤ 4096) :
    readBuf c = c ++ List.replicate (4096 - c.length) 0 := by
  rw [readBuf, List.take_of_length_le h]

theorem readBuf_append_zeros {c : Bytes} {k : ℕ} (h : c.length + k ≤ 4096) :
    readBuf (c ++ List.replicate k 0) = readBuf c := by
  rw [readBuf_of_le (by simpa using h), readBuf_of_le (by omega), List.append_assoc,
    List.append_replicate_replicate, List.length_append, List.length_replicate]
  congr 2
  omega

/-- Whatever follows a prefix that fits the buffer, the buffer starts with that prefix. -/
theorem readBuf_append (e r : Bytes) (he : e.length ≤ 4096) : ∃ t, readBuf (e ++ r) = e ++ t :=
  ⟨_, by rw [readBuf, List.take_append_eq_append_take, List.take_of_length_le he,
    List.append_assoc]⟩

/-! ### Decoding a saved session -/

/-- The four reads of `Load` on an encoded session, followed by anything, store its four
fields and stop right after its encoding. -/
theorem decodeInto_sessionBytes (sess s : SessionInfo) (t : Bytes)
    (hk : s.authKey.length < 2 ^ 24) (hh : s.authKeyHash.length < 2 ^ 24)
    (ha : s.addr.length < 2 ^ 24) (hs : -2 ^ 63 ≤ s.serverSalt ∧ s.serverSalt < 2 ^ 63) :
    decodeInto sess (sessionBytes s ++ t) =
      ({ sess with
          authKey := s.authKey, authKeyHash := s.authKeyHash, serverSalt := s.serverSalt,
          addr := s.addr }, seek (sessionBytes s) t) := by
  have e : sessionBytes s ++ t = encStringBytes s.authKey ++ (encStringBytes s.authKeyHash ++
      (encLong s.serverSalt ++ (encStringBytes s.addr ++ t))) := by
    simp only [sessionBytes, List.append_assoc]
  rw [decodeInto, newDecodeBuf_eq_seek, e]
  simp only [total_eq_of_roundTrips (stringBytes_roundTrip _ hk),
    total_eq_of_roundTrips (stringBytes_roundTrip _ hh),
    total_eq_of_roundTrips (long_roundTrip _ hs.1 hs.2),
    total_eq_of_roundTrips (string_roundTrip (stringBytes_roundTrip _ ha)),
    sessionBytes, List.nil_append, List.append_assoc]

/-- **`Load` inverts `Save`.** On a file holding the encoding of a session that fits the
buffer, followed by any bytes, `Load` returns `nil` and stores exactly the four saved fields;
`DcID` and the session id are left as they were. -/
theorem load_sessionBytes (s sess : SessionInfo) (r : Bytes)
    (hfit : (sessionBytes s).length ≤ 4096)
    (hs : -2 ^ 63 ≤ s.serverSalt ∧ s.serverSalt < 2 ^ 63) :
    load (some (sessionBytes s ++ r)) sess =
      (none, { sess with
        authKey := s.authKey, authKeyHash := s.authKeyHash, serverSalt := s.serverSalt,
        addr := s.addr }) := by
  have hlen := length_sessionBytes s
  have := lt_length_encStringBytes s.authKey
  have := lt_length_encStringBytes s.authKeyHash
  have := lt_length_encStringBytes s.addr
  obtain ⟨t, ht⟩ := readBuf_append (sessionBytes s) r hfit
  rw [load_some (by simp [sessionBytes, encStringBytes_ne_nil]), ht,
    decodeInto_sessionBytes sess s t (by omega) (by omega) (by omega) hs]
  rfl

/-! ### Files that restore a session -/

/-- `Holds file sess`: `Load` of `file` returns `nil` and stores the key, hash and salt of
`sess`, and one address, into whatever session it is given. -/
def Holds (file : Option Bytes) (sess : SessionInfo) : Prop :=
  ∃ a, ∀ s, load file s = (none, { s with
    authKey := sess.authKey, authKeyHash := sess.authKeyHash, serverSalt := sess.serverSalt,
    addr := a })

/-- A `Save` that returns `nil` has written the whole encoding. -/
theorem save_ok {o : SaveOutcome} {file file' : Option Bytes} {s : SessionInfo}
    (h : save o file s = (file', none)) : file' = some (sessionBytes s) := by
  cases o with
  | createFails => simp [save] at h
  | writes n =>
    simp only [save, Prod.mk.injEq, ite_eq_right_iff, reduceCtorEq, imp_false, not_lt] at h
    rw [← h.1, List.take_of_length_le h.2]

/-- A file that a complete `Save` wrote holds the saved session. -/
theorem holds_sessionBytes (s : SessionInfo) (hfit : (sessionBytes s).length ≤ 4096)
    (hs : -2 ^ 63 ≤ s.serverSalt ∧ s.serverSalt < 2 ^ 63) : Holds (some (sessionBytes s)) s :=
  ⟨s.addr, fun sess => by simpa using load_sessionBytes s sess [] hfit hs⟩

/-- **`Load` reads past the end of the file.** It decodes the whole buffer, so a file and the
same file followed by zeros load alike. -/
theorem load_append_zeros (c : Bytes) (sess : SessionInfo) {k : ℕ} (hc : c ≠ [])
    (h : c.length + k ≤ 4096) :
    load (some (c ++ List.replicate k 0)) sess = load (some c) sess := by
  rw [load_some hc, load_some (by simp [hc]), readBuf_append_zeros h]

/-- The file `03 01 02 03` and the same file followed by five zeros load alike. -/
theorem load_append_zeros_fiveZeros :
    ([3, 1, 2, 3] : Bytes) ≠ [] ∧ ([3, 1, 2, 3] : Bytes).length + 5 ≤ 4096 ∧
      load (some ([3, 1, 2, 3] ++ List.replicate 5 0)) ⟨0, [], [], 0, [], 0⟩ =
        load (some [3, 1, 2, 3]) ⟨0, [], [], 0, [], 0⟩ :=
  ⟨by decide, by decide, load_append_zeros _ _ (by decide) (by decide)⟩

/-- The four reads of `Load` on a file holding one key's field: the field and the sixteen
zeros of the buffer after it are the encoding of that key with an empty hash, a zero salt and
an empty address. -/
theorem decodeInto_keyField (key : Bytes) (sess : SessionInfo)
    (h : (encStringBytes key).length + 16 ≤ 4096) :
    decodeInto sess (readBuf (encStringBytes key)) =
      ({ sess with authKey := key, authKeyHash := [], serverSalt := 0, addr := [] },
        seek (encStringBytes key ++ List.replicate 16 0)
          (List.replicate (4096 - (encStringBytes key).length - 16) 0)) := by
  have hk := lt_length_encStringBytes key
  have hs₀ := sessionBytes_keyOnly { sess with authKey := key }
  have e : readBuf (encStringBytes key) = (encStringBytes key ++ List.replicate 16 0) ++
      List.replicate (4096 - (encStringBytes key).length - 16) 0 := by
    rw [readBuf_of_le (by omega), List.append_assoc, List.append_replicate_replicate]
    congr 2
    omega
  rw [e, ← hs₀, decodeInto_sessionBytes _ _ _ (by dsimp only; omega) (by simp) (by simp)
    (by norm_num)]

/-- A file holding one key's field loads as that key, with an empty hash, a zero salt and an
empty address. -/
theorem load_keyField (key : Bytes) (sess : SessionInfo)
    (h : (encStringBytes key).length + 16 ≤ 4096) :
    load (some (encStringBytes key)) sess =
      (none, { sess with authKey := key, authKeyHash := [], serverSalt := 0, addr := [] }) := by
  rw [load_some (encStringBytes_ne_nil key), decodeInto_keyField key sess h]
  rfl

/-- **An interrupted `Save` is loaded.** For every session whose encoding fits the buffer, a
`Save` whose write stops after the `auth_key` field returns an error and leaves the file
holding that field alone; `Load` accepts the file, storing the key with an empty hash, a zero
salt and an empty address, which it decoded from the sixteen zero bytes of its buffer past the
end of the file. -/
theorem load_interrupted_save (s sess : SessionInfo) (file : Option Bytes)
    (hfit : (sessionBytes s).length ≤ 4096) :
    save (.writes (encStringBytes s.authKey).length) file s =
        (some (encStringBytes s.authKey), some .write) ∧
      load (some (encStringBytes s.authKey)) sess =
        (none, { sess with authKey := s.authKey, authKeyHash := [], serverSalt := 0, addr := [] }) ∧
      (decodeInto sess (readBuf (encStringBytes s.authKey))).2.off =
        (encStringBytes s.authKey).length + 16 := by
  have hlen := length_sessionBytes s
  have := length_encStringBytes_mod s.authKeyHash
  have := lt_length_encStringBytes s.authKeyHash
  have := length_encStringBytes_mod s.addr
  have := lt_length_encStringBytes s.addr
  have hfit₀ : (encStringBytes s.authKey).length + 16 ≤ 4096 := by omega
  refine ⟨?_, load_keyField _ sess hfit₀, ?_⟩
  · simp only [save, sessionBytes, List.append_assoc, List.take_left, List.length_append,
      encLong, length_leBytes]
    rw [if_pos (by omega)]
  · rw [decodeInto_keyField _ sess hfit₀]
    simp [seek]

/-- A session of a three-byte key, saved with the write stopped after its first four bytes:
the file `[3, 1, 2, 3]` loads as that key with no hash, salt or address, read from the sixteen
bytes after it. -/
theorem load_interrupted_save_threeByteKey :
    (sessionBytes ⟨2, [1, 2, 3], [4, 5, 6, 7], 5, [49], 7⟩).length ≤ 4096 ∧
      save (.writes 4) none ⟨2, [1, 2, 3], [4, 5, 6, 7], 5, [49], 7⟩ =
          (some [3, 1, 2, 3], some .write) ∧
        load (some [3, 1, 2, 3]) ⟨0, [], [], 0, [], 9⟩ = (none, ⟨0, [1, 2, 3], [], 0, [], 9⟩) ∧
        (decodeInto ⟨0, [], [], 0, [], 9⟩ (readBuf [3, 1, 2, 3])).2.off = 4 + 16 := by
  have h : (sessionBytes ⟨2, [1, 2, 3], [4, 5, 6, 7], 5, [49], 7⟩).length ≤ 4096 := by
    rw [length_sessionBytes]; decide
  have w := load_interrupted_save ⟨2, [1, 2, 3], [4, 5, 6, 7], 5, [49], 7⟩ ⟨0, [], [], 0, [], 9⟩
    none h
  have e : encStringBytes [1, 2, 3] = [3, 1, 2, 3] := rfl
  dsimp only at w
  rw [e] at w
  exact ⟨h, w⟩

end SessFileStore

end TgClient
