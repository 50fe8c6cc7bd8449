import Mathlib.Data.List.Basic
import Mathlib.Logic.Function.Basic
import Sleepwalk.Lib.Bytes

/-!
# Snapshot transfer between hosts

`transfer.rs`: each file is framed as name, length, data and CRC, and a name of length zero ends
the stream. The sender reads its files in chunks of any size the file system returns, the receiver
in chunks of its own.

The hasher is a parameter, of which only its streaming is used: hashing two chunks is hashing their
concatenation. A file of the receiver is known by its name within the destination directory, and
writing to a file it has open succeeds.
-/

namespace Sleepwalk.Hostd.Transfer

open Bytes Exec

/-- Chunk size for streaming file data. -/
def CHUNK : ℕ := 64 * 1024

/-- A failure moving a snapshot. -/
inductive TransferError where
  /-- An I/O error on a file or the stream. -/
  | io (detail : String)
  /-- A received file's CRC did not match. -/
  | checksum (file : String) (expected got : UInt32)
  /-- The stream did not follow the framing. -/
  | protocol (detail : String)
deriving DecidableEq, Repr

/-- The checksum in use: chunks are hashed as the bytes they are cut from. -/
structure Hasher where
  State : Type
  new : State
  update : State → List UInt8 → State
  finalize : State → UInt32
  update_nil : ∀ s, update s [] = s
  update_append : ∀ s a b, update (update s a) b = update s (a ++ b)

/-- The checksum of a file. -/
def Hasher.checksum (hasher : Hasher) (data : List UInt8) : UInt32 :=
  hasher.finalize (hasher.update hasher.new data)

/-- One bit of CRC-32, least significant first. -/
def crcBit (crc : UInt32) : UInt32 :=
  if crc &&& 1 = 1 then (crc >>> 1) ^^^ 0xEDB88320 else crc >>> 1

/-- One byte of CRC-32. -/
def crcByte (crc : UInt32) (b : UInt8) : UInt32 := crcBit^[8] (crc ^^^ b.toUInt32)

/-- The CRC-32 of IEEE 802.3. -/
def crc32 : Hasher where
  State := UInt32
  new := 0xFFFFFFFF
  update crc bytes := bytes.foldl crcByte crc
  finalize crc := crc ^^^ 0xFFFFFFFF
  update_nil _ := rfl
  update_append _ _ _ := List.foldl_append.symm

example : crc32.checksum (ofText "123456789") = 0xCBF43926 := by decide +kernel

/-! ## Sending -/

/-- One file to send. -/
structure OutboundFile where
  /-- The base name the receiver will write. -/
  name : String
  /-- The source path on this host. -/
  path : String

/-- An open source file. -/
structure Source where
  /-- The length its metadata declares. -/
  len : UInt64
  /-- The bytes that reads return. -/
  data : List UInt8
  /-- How much the `k`-th read would return, were it given room for all of it. -/
  reads : ℕ → Except String ℕ

/-- How many bytes a read returns into a buffer of length `want`: none at the end of the file,
otherwise at least one. -/
def shortRead (size want available : ℕ) : ℕ := min (max 1 size) (min want available)

/-- The connection as the sender sees it. -/
structure Outgoing where
  /-- What has been written. -/
  sent : List UInt8
  /-- How many bytes it takes before it breaks, if it does. -/
  limit : Option ℕ

abbrev SendM := ExceptT TransferError (StateM Outgoing)

/-- Write all of some bytes. -/
def writeAll (bytes : List UInt8) : SendM Unit := do
  let w ← get
  match w.limit with
  | none => set { w with sent := w.sent ++ bytes }
  | some limit =>
    if w.sent.length + bytes.length ≤ limit then
      set { w with sent := w.sent ++ bytes }
    else
      set { w with sent := (w.sent ++ bytes).take limit }
      throw (.io "broken pipe")

/-- Stream what remains of a file's declared length, from read number `k` on. -/
def sendData (hasher : Hasher) (name : String) (reads : ℕ → Except String ℕ) (k : ℕ)
    (data : List UInt8) (remaining : ℕ) (h : hasher.State) : SendM hasher.State :=
  if _hzero : remaining = 0 then
    return h
  else
    match reads k with
    | .error e => throw (.io e)
    | .ok size => do
      let want := min remaining CHUNK
      -- A read may return less than was asked for; only zero means the end of the file.
      let n := shortRead size want data.length
      if _hn : n = 0 then
        throw (.protocol (name ++ " is shorter than its declared length"))
      else
        writeAll (data.take n)
        sendData hasher name reads (k + 1) (data.drop n) (remaining - n)
          (hasher.update h (data.take n))
termination_by remaining
decreasing_by
  have hread : 0 < shortRead size (min remaining CHUNK) data.length := Nat.pos_of_ne_zero _hn
  omega

/-- Stream one file. -/
def sendFile (hasher : Hasher) (openFile : String → Except String Source) (f : OutboundFile) :
    SendM Unit := do
  let name := ofText f.name
  if 2 ^ 16 ≤ name.length then
    throw (.protocol ("name too long: " ++ f.name))
  match openFile f.path with
  | .error e => throw (.io e)
  | .ok src =>
    writeAll (toBE 2 name.length)
    writeAll name
    -- The length is that of the metadata, whatever the file holds by now.
    writeAll (toBE 8 src.len.toNat)
    let h ← sendData hasher f.name src.reads 0 src.data src.len.toNat hasher.new
    writeAll (toBE 4 (hasher.finalize h).toNat)

/-- Stream files, framed and checksummed, ending with a marker. -/
def sendFiles (hasher : Hasher) (openFile : String → Except String Source)
    (files : List OutboundFile) : SendM Unit := do
  for f in files do
    sendFile hasher openFile f
  writeAll (toBE 2 0) -- end-of-stream marker

/-! ## Receiving -/

/-- The receiver: what there is to read, and the files of the destination directory. -/
structure Incoming where
  input : List UInt8
  disk : String → Option (List UInt8)

abbrev RecvM := ExceptT TransferError (StateM Incoming)

/-- Read `n` bytes. Where the stream ends early, the error has the text `eof`. -/
def readOr (eof : String) (n : ℕ) : RecvM (List UInt8) := do
  let r ← get
  if n ≤ r.input.length then
    set { r with input := r.input.drop n }
    return r.input.take n
  else
    set { r with input := [] }
    throw (.io eof)

/-- Read exactly `n` bytes. -/
def readExact (n : ℕ) : RecvM (List UInt8) := readOr "early eof" n

/-- Read a big-endian integer of `w` bytes. -/
def readBE (w : ℕ) : RecvM ℕ := do
  let bytes ← readOr "unexpected end of file" w
  return ofBE bytes

/-- Append to a file. -/
def append (name : String) (bytes : List UInt8) : RecvM Unit :=
  modify fun r => { r with disk := Function.update r.disk name ((r.disk name).map (· ++ bytes)) }

/-- Two dots in a row. -/
def hasDotDot : List Char → Bool
  | '.' :: '.' :: _ => true
  | _ :: rest => hasDotDot rest
  | [] => false

/-- Whether a name could escape the destination directory. -/
def isUnsafe (name : String) : Bool :=
  name.toList.isEmpty || name.toList.contains '/' || name.toList.contains '\\' ||
    hasDotDot name.toList

/-- Receive what remains of a file's data. -/
def recvData (hasher : Hasher) (name : String) (remaining : ℕ) (h : hasher.State) :
    RecvM hasher.State :=
  if _hzero : remaining = 0 then
    return h
  else do
    let want := min remaining CHUNK
    -- What has been written of a file stays on disk if the rest does not come.
    let chunk ← readExact want
    append name chunk
    recvData hasher name (remaining - want) (hasher.update h chunk)
termination_by remaining
decreasing_by
  have hchunk : 0 < CHUNK := by decide
  omega

/-- Receive the name of a file, refusing anything that could escape the destination directory. -/
def recvName (nameLen : ℕ) : RecvM String := do
  let nameBuf ← readExact nameLen
  match toText nameBuf with
  | none => throw (.protocol "non-utf8 file name")
  | some name =>
    if isUnsafe name then throw (.protocol ("unsafe file name: " ++ name)) else return name

/-- Create a file, or empty it. This may fail. -/
def createFile (create : String → Except String Unit) (name : String) : RecvM Unit :=
  match create name with
  | .error e => throw (.io e)
  | .ok () => modify fun r => { r with disk := Function.update r.disk name (some []) }

/-- Receive a file whose name is known, verifying its CRC. -/
def recvBody (hasher : Hasher) (create : String → Except String Unit) (name : String) :
    RecvM Unit := do
  let len ← readBE 8
  createFile create name
  let h ← recvData hasher name len hasher.new
  -- The file is complete by now; a wrong checksum leaves it there and fails the transfer.
  let expected ← readBE 4
  let got := hasher.finalize h
  if expected ≠ got.toNat then throw (.checksum name (.ofNat expected) got) else return ()

/-- Receive one file: its name, or `none` at the end of the stream. -/
def recvFile (hasher : Hasher) (create : String → Except String Unit) : RecvM (Option String) := do
  let nameLen ← readBE 2
  if nameLen = 0 then
    return none
  else
    let name ← recvName nameLen
    recvBody hasher create name
    return some name

/-! ## What a read takes -/

section Reading

variable {hasher : Hasher} {create : String → Except String Unit} {r r' : Incoming} {n w : ℕ}
  {bytes : List UInt8}

theorem exec_readOr_iff {eof : String} : exec (readOr eof n) r = (.ok bytes, r') ↔
    r.input = bytes ++ r'.input ∧ bytes.length = n ∧ r'.disk = r.disk := by
  obtain ⟨input, disk⟩ := r
  obtain ⟨input', disk'⟩ := r'
  simp only [readOr, exec_bind, exec_get]
  by_cases h : n ≤ input.length
  · simp only [if_pos h, exec_bind, exec_set, exec_pure, Prod.mk.injEq, Except.ok.injEq,
      Incoming.mk.injEq]
    constructor
    · rintro ⟨rfl, rfl, rfl⟩
      exact ⟨(List.take_append_drop n input).symm, List.length_take_of_le h, rfl⟩
    · rintro ⟨rfl, rfl, rfl⟩
      simp
  · simp only [if_neg h, exec_bind, exec_set, exec_throw, Prod.mk.injEq, reduceCtorEq, false_and,
      false_iff]
    rintro ⟨rfl, rfl, -⟩
    simp at h

theorem exec_readExact_iff : exec (readExact n) r = (.ok bytes, r') ↔
    r.input = bytes ++ r'.input ∧ bytes.length = n ∧ r'.disk = r.disk :=
  exec_readOr_iff

theorem exec_readBE_iff {v : ℕ} : exec (readBE w) r = (.ok v, r') ↔
    r.input = toBE w v ++ r'.input ∧ v < 256 ^ w ∧ r'.disk = r.disk := by
  rw [readBE, exec_bind_ok_iff]
  constructor
  · rintro ⟨bytes, r₁, hread, hpure⟩
    obtain ⟨rfl, rfl⟩ : ofBE bytes = v ∧ r₁ = r' := by simpa using hpure
    obtain ⟨hinput, rfl, hdisk⟩ := exec_readOr_iff.mp hread
    exact ⟨by rw [toBE_ofBE, hinput], ofBE_lt bytes, hdisk⟩
  · rintro ⟨hinput, hlt, hdisk⟩
    refine ⟨toBE w v, r', exec_readOr_iff.mpr ⟨hinput, length_toBE w v, hdisk⟩, ?_⟩
    simp [ofBE_toBE hlt]

/-- With nothing to take, nothing changes. -/
theorem exec_recvData_zero_iff {name : String} {h h' : hasher.State} :
    exec (recvData hasher name 0 h) r = (.ok h', r') ↔ h' = h ∧ r' = r := by
  rw [recvData, dif_pos rfl, exec_pure, Prod.mk.injEq, Except.ok.injEq]
  exact and_congr eq_comm eq_comm

/-- Else one chunk is read, hashed and appended, and the rest is taken after it. -/
theorem exec_recvData_of_pos_iff {name : String} {remaining : ℕ} (hpos : 0 < remaining)
    {h h' : hasher.State} {content : List UInt8} (hopen : r.disk name = some content) :
    exec (recvData hasher name remaining h) r = (.ok h', r') ↔
      ∃ chunk rest, r.input = chunk ++ rest ∧ chunk.length = min remaining CHUNK ∧
        exec (recvData hasher name (remaining - min remaining CHUNK) (hasher.update h chunk))
          ⟨rest, Function.update r.disk name (some (content ++ chunk))⟩ = (.ok h', r') := by
  have hgrown (chunk : List UInt8) :
      (r.disk name).map (· ++ chunk) = some (content ++ chunk) := by
    rw [hopen, Option.map_some]
  rw [recvData, dif_neg (by omega), exec_bind_ok_iff]
  constructor
  · rintro ⟨chunk, ⟨rest, disk⟩, hread, hrest⟩
    obtain ⟨hinput, hlength, rfl⟩ := exec_readExact_iff.mp hread
    obtain ⟨u, r₂, happend, hrest⟩ := exec_bind_ok_iff.mp hrest
    obtain ⟨-, rfl⟩ := Prod.mk.inj happend
    exact ⟨chunk, rest, hinput, hlength, by rwa [← hgrown chunk]⟩
  · rintro ⟨chunk, rest, hinput, hlength, hrest⟩
    refine ⟨chunk, ⟨rest, r.disk⟩, exec_readExact_iff.mpr ⟨hinput, hlength, rfl⟩, ?_⟩
    rw [← hgrown chunk] at hrest
    exact exec_bind_ok_iff.mpr ⟨(), _, rfl, hrest⟩

/-- The data of a file is taken whole, hashed and appended, whatever the chunks. -/
theorem exec_recvData_iff {name : String} {remaining : ℕ}
    {h h' : hasher.State} {content : List UInt8} (hopen : r.disk name = some content) :
    exec (recvData hasher name remaining h) r = (.ok h', r') ↔
      ∃ data, data.length = remaining ∧ r.input = data ++ r'.input ∧ h' = hasher.update h data ∧
        r'.disk = Function.update r.disk name (some (content ++ data)) := by
  induction remaining using Nat.strong_induction_on generalizing r h content with
  | _ remaining ih =>
    rcases Nat.eq_zero_or_pos remaining with rfl | hpos
    · rw [exec_recvData_zero_iff]
      have hsame : Function.update r.disk name (some content) = r.disk := by
        rw [← hopen, Function.update_eq_self]
      constructor
      · rintro ⟨rfl, rfl⟩
        refine ⟨[], rfl, rfl, (hasher.update_nil _).symm, ?_⟩
        rw [List.append_nil, hsame]
      · rintro ⟨data, hlength, hinput, rfl, hdisk⟩
        obtain rfl := List.length_eq_zero_iff.mp hlength
        rw [List.append_nil, hsame] at hdisk
        exact ⟨hasher.update_nil h, congrArg₂ Incoming.mk hinput.symm hdisk⟩
    · have hchunk : 0 < CHUNK := by decide
      have hless : remaining - min remaining CHUNK < remaining := by omega
      have hgrown (chunk : List UInt8) :
          Function.update r.disk name (some (content ++ chunk)) name = some (content ++ chunk) :=
        Function.update_self ..
      rw [exec_recvData_of_pos_iff hpos hopen]
      constructor
      · rintro ⟨chunk, rest, hinput, hlength, hrest⟩
        obtain ⟨data, hdata, rfl, rfl, hdisk⟩ := (ih _ hless (hgrown chunk)).mp hrest
        refine ⟨chunk ++ data, ?_, ?_, hasher.update_append .., ?_⟩
        · rw [List.length_append]
          omega
        · rw [hinput, List.append_assoc]
        · rw [hdisk, Function.update_idem, List.append_assoc]
      · rintro ⟨data, hdata, hinput, rfl, hdisk⟩
        -- The first chunk of the data, and the induction hypothesis for what comes after it.
        have hcut : data.take (min remaining CHUNK) ++ data.drop (min remaining CHUNK) = data :=
          List.take_append_drop _ data
        refine ⟨data.take (min remaining CHUNK), data.drop (min remaining CHUNK) ++ r'.input,
          ?_, List.length_take_of_le (by omega), ?_⟩
        · rw [← List.append_assoc, hcut, hinput]
        · refine (ih _ hless (hgrown _)).mpr ⟨data.drop (min remaining CHUNK), ?_, rfl, ?_, ?_⟩
          · rw [List.length_drop, hdata]
          · rw [hasher.update_append, hcut]
          · rw [Function.update_idem, List.append_assoc, hcut, hdisk]

end Reading

/-! ## The stream of some files -/

/-- A file as it is sent: its name and its contents. -/
abbrev File := String × List UInt8

/-- A name that is not refused, and fits its length field. -/
structure ValidName (name : String) : Prop where
  safe : isUnsafe name = false
  short : (ofText name).length < 2 ^ 16

/-- The frame of one file. -/
def encodeFile (hasher : Hasher) (f : File) : List UInt8 :=
  toBE 2 (ofText f.1).length ++ (ofText f.1 ++ (toBE 8 f.2.length ++ (f.2 ++
    toBE 4 (hasher.checksum f.2).toNat)))

/-- The frames of some files, and the end marker. -/
def encode (hasher : Hasher) (files : List File) : List UInt8 :=
  files.flatMap (encodeFile hasher) ++ toBE 2 0

/-- Write a file into a directory. -/
def written (disk : String → Option (List UInt8)) (f : File) : String → Option (List UInt8) :=
  Function.update disk f.1 (some f.2)

/-- What the framing can carry: a valid name, and a length that fits its field. -/
structure Sendable (f : File) : Prop where
  name : ValidName f.1
  length : f.2.length < 2 ^ 64

section Frames

variable {hasher : Hasher} {create : String → Except String Unit} {r r' : Incoming}

theorem ofText_ne_nil {name : String} (h : isUnsafe name = false) : ofText name ≠ [] := by
  intro hnil
  have htext : toText [] = some name := toText_eq_some_iff.mpr hnil.symm
  obtain rfl : "" = name := Option.some_inj.mp htext
  simp [isUnsafe] at h

theorem exec_recvName_iff {n : ℕ} {name : String} : exec (recvName n) r = (.ok name, r') ↔
    r.input = ofText name ++ r'.input ∧ (ofText name).length = n ∧ isUnsafe name = false ∧
      r'.disk = r.disk := by
  rw [recvName, exec_bind_ok_iff]
  constructor
  · rintro ⟨nameBuf, r₁, hread, hname⟩
    obtain ⟨hinput, hlength, hdisk⟩ := exec_readExact_iff.mp hread
    cases htext : toText nameBuf with
    | none => simp [htext] at hname
    | some text =>
      obtain rfl := toText_eq_some_iff.mp htext
      cases hsafe : isUnsafe text with
      | true => simp [htext, hsafe] at hname
      | false =>
        obtain ⟨rfl, rfl⟩ : text = name ∧ r₁ = r' := by simpa [htext, hsafe] using hname
        exact ⟨hinput, hlength, hsafe, hdisk⟩
  · rintro ⟨hinput, hlength, hsafe, hdisk⟩
    refine ⟨ofText name, r', exec_readExact_iff.mpr ⟨hinput, hlength, hdisk⟩, ?_⟩
    simp [toText_eq_some_iff.mpr rfl, hsafe]

theorem exec_createFile_iff {name : String} : exec (createFile create name) r = (.ok (), r') ↔
    create name = .ok () ∧ r' = { r with disk := Function.update r.disk name (some []) } := by
  rw [createFile]
  cases hcreate : create name with
  | error e => simp
  | ok u => simp [eq_comm]

/-- What is received after a name is a length, as many bytes, and their checksum. -/
theorem exec_recvBody_iff {name : String} :
    exec (recvBody hasher create name) r = (.ok (), r') ↔
      create name = .ok () ∧ ∃ data, data.length < 2 ^ 64 ∧
        r.input = toBE 8 data.length ++ (data ++ (toBE 4 (hasher.checksum data).toNat ++
          r'.input)) ∧
        r'.disk = written r.disk (name, data) := by
  have hcrc : ∀ data, (hasher.checksum data).toNat < 256 ^ 4 :=
    fun data => (hasher.checksum data).toNat_lt
  have hempty : ∀ disk : String → Option (List UInt8),
      Function.update disk name (some []) name = some [] := fun _ => Function.update_self ..
  rw [recvBody, exec_bind_ok_iff]
  constructor
  · rintro ⟨len, r₁, hlen, hrest⟩
    obtain ⟨hinput, hlt, hdisk⟩ := exec_readBE_iff.mp hlen
    obtain ⟨⟨⟩, r₂, hopen, hrest⟩ := exec_bind_ok_iff.mp hrest
    obtain ⟨hcreate, rfl⟩ := exec_createFile_iff.mp hopen
    obtain ⟨h, r₃, hdata, hrest⟩ := exec_bind_ok_iff.mp hrest
    obtain ⟨data, rfl, hdatain, rfl, hdisk'⟩ := (exec_recvData_iff (hempty _)).mp hdata
    obtain ⟨expected, r₄, hread, hrest⟩ := exec_bind_ok_iff.mp hrest
    obtain ⟨hexpected, -, hdisk''⟩ := exec_readBE_iff.mp hread
    -- The checksum read is the one computed, or the file is refused.
    by_cases hsame : expected = (hasher.checksum data).toNat
    · subst hsame
      have hlast : r₄ = r' := by simpa [Hasher.checksum] using hrest
      subst hlast
      refine ⟨hcreate, data, hlt, ?_, ?_⟩
      · rw [hinput, ← hexpected, ← hdatain]
      · rw [hdisk'', hdisk', hdisk, Function.update_idem]
        rfl
    · simp only [Hasher.checksum] at hsame
      simp [hsame] at hrest
  · rintro ⟨hcreate, data, hlt, hinput, hdisk⟩
    refine ⟨data.length, ⟨_, r.disk⟩, exec_readBE_iff.mpr ⟨hinput, hlt, rfl⟩, ?_⟩
    rw [exec_bind_ok_iff]
    refine ⟨(), _, exec_createFile_iff.mpr ⟨hcreate, rfl⟩, ?_⟩
    rw [exec_bind_ok_iff]
    refine ⟨_, ⟨_, r'.disk⟩, (exec_recvData_iff (hempty _)).mpr ⟨data, rfl, rfl, rfl, ?_⟩, ?_⟩
    · rw [hdisk, Function.update_idem]
      rfl
    · rw [exec_bind_ok_iff]
      refine ⟨_, r', exec_readBE_iff.mpr ⟨rfl, hcrc data, rfl⟩, ?_⟩
      simp [Hasher.checksum]

/-- The end of the stream is a name of length zero. -/
theorem exec_recvFile_none_iff : exec (recvFile hasher create) r = (.ok none, r') ↔
    r.input = toBE 2 0 ++ r'.input ∧ r'.disk = r.disk := by
  rw [recvFile, exec_bind_ok_iff]
  constructor
  · rintro ⟨n, r₁, hn, hrest⟩
    obtain ⟨hinput, -, hdisk⟩ := exec_readBE_iff.mp hn
    split at hrest
    case isTrue hzero =>
      obtain rfl : r₁ = r' := by simpa using hrest
      exact ⟨hzero ▸ hinput, hdisk⟩
    case isFalse =>
      obtain ⟨name, r₂, -, hrest⟩ := exec_bind_ok_iff.mp hrest
      obtain ⟨⟨⟩, r₃, -, hpure⟩ := exec_bind_ok_iff.mp hrest
      simp at hpure
  · rintro ⟨hinput, hdisk⟩
    exact ⟨0, r', exec_readBE_iff.mpr ⟨hinput, by decide, hdisk⟩, rfl⟩

/-- A file is received exactly from its frame. -/
theorem exec_recvFile_some_iff {name : String} :
    exec (recvFile hasher create) r = (.ok (some name), r') ↔
      create name = .ok () ∧ ∃ data, Sendable (name, data) ∧
        r.input = encodeFile hasher (name, data) ++ r'.input ∧
        r'.disk = written r.disk (name, data) := by
  rw [recvFile, exec_bind_ok_iff]
  constructor
  · rintro ⟨n, r₁, hn, hrest⟩
    obtain ⟨hinput, hlt, hdisk⟩ := exec_readBE_iff.mp hn
    split at hrest
    case isTrue => simp at hrest
    case isFalse hpos =>
      obtain ⟨text, r₂, htext, hrest'⟩ := exec_bind_ok_iff.mp hrest
      obtain ⟨⟨⟩, r₃, hbody, hpure⟩ := exec_bind_ok_iff.mp hrest'
      obtain ⟨hname, rfl, hsafe, hdisk'⟩ := exec_recvName_iff.mp htext
      obtain ⟨rfl, rfl⟩ : text = name ∧ r₃ = r' := by simpa using hpure
      obtain ⟨hcreate, data, hlength, hdata, hdisk''⟩ := exec_recvBody_iff.mp hbody
      -- The name is of the length that was read, so the frame is the encoding of the file.
      refine ⟨hcreate, data, ⟨⟨hsafe, hlt⟩, hlength⟩, ?_, ?_⟩
      · simp only [encodeFile, List.append_assoc]
        rw [hinput, hname, hdata]
      · rw [hdisk'', hdisk', hdisk]
  · rintro ⟨hcreate, data, hsendable, hinput, hdisk⟩
    simp only [encodeFile, List.append_assoc] at hinput
    refine ⟨_, ⟨_, r.disk⟩, exec_readBE_iff.mpr ⟨hinput, hsendable.name.short, rfl⟩, ?_⟩
    have hpos : (ofText name).length ≠ 0 := by
      simpa using ofText_ne_nil hsendable.name.safe
    rw [if_neg hpos, exec_bind_ok_iff]
    refine ⟨name, ⟨_, r.disk⟩, exec_recvName_iff.mpr ⟨rfl, rfl, hsendable.name.safe, rfl⟩, ?_⟩
    rw [exec_bind_ok_iff]
    refine ⟨(), r', exec_recvBody_iff.mpr ⟨hcreate, data, hsendable.length, rfl, hdisk⟩, ?_⟩
    simp

theorem length_recvFile_some {name : String}
    (h : exec (recvFile hasher create) r = (.ok (some name), r')) :
    r'.input.length < r.input.length := by
  obtain ⟨-, data, -, hinput, -⟩ := exec_recvFile_some_iff.mp h
  rw [hinput, List.length_append, encodeFile, List.length_append, length_toBE]
  omega

end Frames

/-- Receive files until the end marker, after those already written. -/
def recvLoop (hasher : Hasher) (create : String → Except String Unit) (written : List String)
    (r : Incoming) : Except TransferError (List String) × Incoming :=
  match _hfile : exec (recvFile hasher create) r with
  | (.error e, r') => (.error e, r')
  | (.ok none, r') => (.ok written, r')
  | (.ok (some name), r') => recvLoop hasher create (written ++ [name]) r'
termination_by r.input.length
decreasing_by exact length_recvFile_some _hfile

section Loop

variable {hasher : Hasher} {create : String → Except String Unit} {r r' : Incoming}
  {acc : List String}

theorem recvLoop_of_error {e : TransferError}
    (h : exec (recvFile hasher create) r = (.error e, r')) :
    recvLoop hasher create acc r = (.error e, r') := by
  rw [recvLoop]
  split <;> simp_all

theorem recvLoop_of_none (h : exec (recvFile hasher create) r = (.ok none, r')) :
    recvLoop hasher create acc r = (.ok acc, r') := by
  rw [recvLoop]
  split <;> simp_all

theorem recvLoop_of_some {name : String}
    (h : exec (recvFile hasher create) r = (.ok (some name), r')) :
    recvLoop hasher create acc r = recvLoop hasher create (acc ++ [name]) r' := by
  rw [recvLoop]
  split
  case h_1 hfile => simp [h] at hfile
  case h_2 hfile => simp [h] at hfile
  case h_3 other r₁ hfile =>
    obtain ⟨rfl, rfl⟩ : name = other ∧ r' = r₁ := by simpa [h] using hfile
    rfl

end Loop

/-- Receive files into the destination directory. Returns the names written. -/
def recvFiles (hasher : Hasher) (create : String → Except String Unit) :
    Incoming → Except TransferError (List String) × Incoming :=
  recvLoop hasher create []

section Streams

variable {hasher : Hasher} {create : String → Except String Unit} {r r' : Incoming}
  {files files' : List File}

theorem encode_cons (f : File) (files : List File) :
    encode hasher (f :: files) = encodeFile hasher f ++ encode hasher files := by
  simp [encode]

theorem exec_recvFile_cons {f : File} {rest : List UInt8} (hsendable : Sendable f)
    (hcreate : create f.1 = .ok ()) (hinput : r.input = encode hasher (f :: files) ++ rest) :
    exec (recvFile hasher create) r =
      (.ok (some f.1), ⟨encode hasher files ++ rest, written r.disk f⟩) := by
  rw [encode_cons, List.append_assoc] at hinput
  exact exec_recvFile_some_iff.mpr ⟨hcreate, f.2, hsendable, hinput, rfl⟩

theorem recvLoop_eq_ok_iff {acc names : List String} :
    recvLoop hasher create acc r = (.ok names, r') ↔
      ∃ files : List File, names = acc ++ files.map Prod.fst ∧
        (∀ f ∈ files, Sendable f ∧ create f.1 = .ok ()) ∧
        r.input = encode hasher files ++ r'.input ∧ r'.disk = files.foldl written r.disk := by
  constructor
  · intro h
    fun_induction recvLoop hasher create acc r with
    | case1 => simp at h
    | case2 acc r r₁ hfile =>
      obtain ⟨rfl, rfl⟩ : acc = names ∧ r₁ = r' := by simpa using h
      obtain ⟨hinput, hdisk⟩ := exec_recvFile_none_iff.mp hfile
      exact ⟨[], by simp, by simp, hinput, hdisk⟩
    | case3 acc r name r₁ hfile ih =>
      obtain ⟨hcreate, data, hsendable, hinput, hdisk⟩ := exec_recvFile_some_iff.mp hfile
      obtain ⟨files, rfl, hfiles, hinput', hdisk'⟩ := ih h
      refine ⟨(name, data) :: files, by simp, ?_, ?_, ?_⟩
      · simpa using ⟨⟨hsendable, hcreate⟩, fun a b => hfiles (a, b)⟩
      · rw [encode_cons, List.append_assoc, hinput, hinput']
      · rw [List.foldl_cons, ← hdisk, hdisk']
  -- Back from the files, the loop takes one frame after another until the marker is left.
  · rintro ⟨files, rfl, hfiles, hinput, hdisk⟩
    induction files generalizing acc r with
    | nil =>
      rw [recvLoop_of_none (exec_recvFile_none_iff.mpr ⟨hinput, hdisk⟩), List.map_nil,
        List.append_nil]
    | cons f files ih =>
      obtain ⟨hsendable, hcreate⟩ := hfiles f List.mem_cons_self
      have hfile : exec (recvFile hasher create) r = (.ok (some f.1),
          ⟨encode hasher files ++ r'.input, written r.disk f⟩) := by
        rw [exec_recvFile_cons hsendable hcreate hinput]
      have hrest : recvLoop hasher create (acc ++ [f.1])
          ⟨encode hasher files ++ r'.input, written r.disk f⟩ =
          (.ok (acc ++ [f.1] ++ files.map Prod.fst), r') :=
        ih (fun g hg => hfiles g (List.mem_cons_of_mem f hg)) rfl hdisk
      rw [recvLoop_of_some hfile, hrest]
      simp

/-- Exactly the streams of sendable files are accepted, as far as their end markers. -/
theorem recvFiles_eq_ok_iff {names : List String} :
    recvFiles hasher create r = (.ok names, r') ↔
      ∃ files : List File, names = files.map Prod.fst ∧
        (∀ f ∈ files, Sendable f ∧ create f.1 = .ok ()) ∧
        r.input = encode hasher files ++ r'.input ∧ r'.disk = files.foldl written r.disk := by
  rw [recvFiles, recvLoop_eq_ok_iff]
  simp only [List.nil_append]

/-- A stream says by itself which files it carries and where it ends: a receiver that can create
any file would otherwise receive two lists from one input. -/
theorem encode_append_inj {rest rest' : List UInt8} (hfiles : ∀ f ∈ files, Sendable f)
    (hfiles' : ∀ f ∈ files', Sendable f)
    (h : encode hasher files ++ rest = encode hasher files' ++ rest') : files = files' := by
  -- The first frame of both is what one receiver takes first.
  let create : String → Except String Unit := fun _ => .ok ()
  let start (input : List UInt8) : Incoming := ⟨input, fun _ => none⟩
  have hnil : ∀ rest, exec (recvFile hasher create) (start (encode hasher [] ++ rest)) =
      (.ok none, start rest) := fun rest => exec_recvFile_none_iff.mpr ⟨rfl, rfl⟩
  have hcons : ∀ (f : File) (files : List File) (rest : List UInt8), Sendable f →
      exec (recvFile hasher create) (start (encode hasher (f :: files) ++ rest)) =
        (.ok (some f.1), ⟨encode hasher files ++ rest, written (fun _ => none) f⟩) :=
    fun f files rest hsendable => exec_recvFile_cons hsendable rfl rfl
  induction files generalizing files' with
  | nil =>
    cases files' with
    | nil => rfl
    | cons f' files' =>
      have hboth := hnil rest
      rw [h, hcons f' files' rest' (hfiles' f' List.mem_cons_self)] at hboth
      simp at hboth
  | cons f files ih =>
    have hboth := hcons f files rest (hfiles f List.mem_cons_self)
    cases files' with
    | nil =>
      rw [h, hnil] at hboth
      simp at hboth
    | cons f' files' =>
      rw [h, hcons f' files' rest' (hfiles' f' List.mem_cons_self)] at hboth
      simp only [Prod.mk.injEq, Except.ok.injEq, Option.some.injEq, Incoming.mk.injEq] at hboth
      obtain ⟨hname, htail, hdisk⟩ := hboth
      have hdata : f' = f := by
        have hat := congrFun hdisk f.1
        simp only [written, hname, Function.update_self, Option.some.injEq] at hat
        exact Prod.ext hname hat
      rw [hdata, ih (fun g hg => hfiles g (List.mem_cons_of_mem f hg))
        (fun g hg => hfiles' g (List.mem_cons_of_mem f' hg)) htail.symm]

end Streams

/-! ## What is sent -/

/-- A source file with the given contents, under any schedule of short reads. -/
structure Source.Holds (src : Source) (data : List UInt8) : Prop where
  data_eq : src.data = data
  len_eq : src.len.toNat = data.length
  reads_ok : ∀ k, ∃ size, src.reads k = .ok size

/-- The outbound files are the given ones, in order: each under its name, from a path that opens
with its contents. -/
def Opens (openFile : String → Except String Source) (outbound : List OutboundFile)
    (files : List File) : Prop :=
  List.Forall₂ (fun o f => o.name = f.1 ∧ ∃ src, openFile o.path = .ok src ∧ src.Holds f.2)
    outbound files

section Sending

variable {hasher : Hasher} {openFile : String → Except String Source} {sent bytes : List UInt8}

@[simp]
theorem exec_writeAll :
    exec (writeAll bytes) ⟨sent, none⟩ = (.ok (), ⟨sent ++ bytes, none⟩) := rfl

theorem shortRead_pos {size want available : ℕ} (hwant : 0 < want) (havailable : 0 < available) :
    0 < shortRead size want available := by
  simp only [shortRead]
  omega

theorem shortRead_le {size want available : ℕ} : shortRead size want available ≤ want := by
  simp only [shortRead]
  omega

/-- Whatever the reads return, the data is sent whole and hashed. -/
theorem exec_sendData {name : String} {reads : ℕ → Except String ℕ} {k : ℕ} {data : List UInt8}
    {h : hasher.State} (hreads : ∀ k, ∃ size, reads k = .ok size) :
    exec (sendData hasher name reads k data data.length h) ⟨sent, none⟩ =
      (.ok (hasher.update h data), ⟨sent ++ data, none⟩) := by
  induction hlength : data.length using Nat.strong_induction_on
    generalizing k data h sent with
  | _ n ih =>
    subst hlength
    rw [sendData]
    by_cases hzero : data.length = 0
    · obtain rfl := List.length_eq_zero_iff.mp hzero
      simp [hasher.update_nil]
    · obtain ⟨size, hsize⟩ := hreads k
      have hwant : 0 < min data.length CHUNK :=
        Nat.lt_min.mpr ⟨Nat.pos_of_ne_zero hzero, by decide⟩
      have hpos : 0 < shortRead size (min data.length CHUNK) data.length :=
        shortRead_pos hwant (Nat.pos_of_ne_zero hzero)
      have hle : shortRead size (min data.length CHUNK) data.length ≤ min data.length CHUNK :=
        shortRead_le
      -- What this read returns is sent; the rest is what the next ones return.
      generalize hread : shortRead size (min data.length CHUNK) data.length = n at hpos hle
      have hsent : exec (sendData hasher name reads (k + 1) (data.drop n) (data.length - n)
          (hasher.update h (data.take n))) ⟨sent ++ data.take n, none⟩ = _ :=
        ih _ (by omega) List.length_drop
      rw [hasher.update_append, List.append_assoc, List.take_append_drop] at hsent
      simp only [dif_neg hzero, hsize, hread, dif_neg (Nat.ne_of_gt hpos), exec_bind,
        exec_writeAll, hsent]

theorem exec_sendFile {o : OutboundFile} {f : File} (hsendable : Sendable f) {src : Source}
    (hname : o.name = f.1) (hopen : openFile o.path = .ok src) (hsrc : src.Holds f.2) :
    exec (sendFile hasher openFile o) ⟨sent, none⟩ =
      (.ok (), ⟨sent ++ encodeFile hasher f, none⟩) := by
  have hshort : ¬ 2 ^ 16 ≤ (ofText f.1).length := Nat.not_le.mpr hsendable.name.short
  simp only [sendFile, hname, hopen, if_neg hshort, exec_bind, exec_writeAll,
    hsrc.len_eq, hsrc.data_eq, exec_sendData hsrc.reads_ok]
  simp [encodeFile, Hasher.checksum]

/-- Whatever the reads return, what is sent is the encoding. -/
theorem exec_sendFiles {outbound : List OutboundFile} {files : List File}
    (hfiles : ∀ f ∈ files, Sendable f) (hopens : Opens openFile outbound files) :
    exec (sendFiles hasher openFile outbound) ⟨sent, none⟩ =
      (.ok (), ⟨sent ++ encode hasher files, none⟩) := by
  -- Along the outbound files and what they hold, one frame at a time.
  induction hopens generalizing sent with
  | nil => rfl
  | @cons o f outbound files hhead _ ih =>
    obtain ⟨hname, src, hopen, hsrc⟩ := hhead
    have hfile : exec (sendFile hasher openFile o) ⟨sent, none⟩ =
        (.ok (), ⟨sent ++ encodeFile hasher f, none⟩) :=
      exec_sendFile (hfiles f List.mem_cons_self) hname hopen hsrc
    have hsent : exec (sendFiles hasher openFile outbound) ⟨sent ++ encodeFile hasher f, none⟩ =
        (.ok (), ⟨sent ++ encodeFile hasher f ++ encode hasher files, none⟩) :=
      ih fun g hg => hfiles g (List.mem_cons_of_mem f hg)
    simp only [sendFiles, List.forIn_cons, bind_assoc] at hsent ⊢
    rw [exec_bind, hfile, encode_cons, ← List.append_assoc]
    exact hsent

end Sending

/-! ## The framing -/

section Framing

variable {files : List File}

theorem foldl_written_of_notMem {disk : String → Option (List UInt8)} {name : String}
    (h : name ∉ files.map Prod.fst) : files.foldl written disk name = disk name := by
  induction files generalizing disk with
  | nil => rfl
  | cons f files ih =>
    rw [List.map_cons, List.mem_cons, not_or] at h
    rw [List.foldl_cons, ih h.2, written, Function.update_of_ne h.1]

theorem foldl_written_of_mem {disk : String → Option (List UInt8)} {f : File}
    (hnames : (files.map Prod.fst).Nodup) (hmem : f ∈ files) :
    files.foldl written disk f.1 = some f.2 := by
  induction files generalizing disk with
  | nil => cases hmem
  | cons g files ih =>
    obtain ⟨hnew, hnames⟩ := List.nodup_cons.mp hnames
    rw [List.foldl_cons]
    rcases List.mem_cons.mp hmem with rfl | hmem
    · rw [foldl_written_of_notMem hnew, written, Function.update_self]
    · exact ih hnames hmem

/-- What is sent, whatever the reads of the source files return, is received as it was, and
nothing after it is touched. -/
theorem send_recv_files (hasher : Hasher) (hnames : (files.map Prod.fst).Nodup)
    (hfiles : ∀ f ∈ files, Sendable f) :
    ∃ stream,
      (∀ openFile outbound, Opens openFile outbound files →
        exec (sendFiles hasher openFile outbound) ⟨[], none⟩ = (.ok (), ⟨stream, none⟩)) ∧
      ∀ create disk trailing, (∀ f ∈ files, create f.1 = .ok ()) →
        ∃ disk', recvFiles hasher create ⟨stream ++ trailing, disk⟩ =
            (.ok (files.map Prod.fst), ⟨trailing, disk'⟩) ∧
          (∀ f ∈ files, disk' f.1 = some f.2) ∧
          ∀ name ∉ files.map Prod.fst, disk' name = disk name := by
  refine ⟨encode hasher files, fun openFile outbound hopens => exec_sendFiles hfiles hopens, ?_⟩
  intro create disk trailing hcreate
  refine ⟨files.foldl written disk, ?_, ?_, ?_⟩
  · exact recvFiles_eq_ok_iff.mpr
      ⟨files, rfl, fun f hf => ⟨hfiles f hf, hcreate f hf⟩, rfl, rfl⟩
  · exact fun f hf => foldl_written_of_mem hnames hf
  · exact fun name hname => foldl_written_of_notMem hname

/-- Sources of three bytes, read one by one, and of none. -/
def twoSources (path : String) : Except String Source :=
  if path = "mem" then .ok ⟨3, [1, 2, 3], fun _ => .ok 1⟩ else .ok ⟨0, [], fun _ => .ok 9⟩

theorem send_recv_files_two : ∃ stream disk,
    exec (sendFiles crc32 twoSources [⟨"mem.snap", "mem"⟩, ⟨"state.snap", "state"⟩])
      ⟨[], none⟩ = (.ok (), ⟨stream, none⟩) ∧
    recvFiles crc32 (fun _ => .ok ()) ⟨stream ++ [7], fun _ => none⟩ =
      (.ok ["mem.snap", "state.snap"], ⟨[7], disk⟩) ∧
    disk "mem.snap" = some [1, 2, 3] ∧ disk "state.snap" = some [] := by
  have hopens : Opens twoSources [⟨"mem.snap", "mem"⟩, ⟨"state.snap", "state"⟩]
      [("mem.snap", [1, 2, 3]), ("state.snap", [])] :=
    .cons ⟨rfl, _, rfl, rfl, rfl, fun _ => ⟨1, rfl⟩⟩
      (.cons ⟨rfl, _, rfl, rfl, rfl, fun _ => ⟨9, rfl⟩⟩ .nil)
  have hfiles : ∀ f ∈ [("mem.snap", [1, 2, 3]), ("state.snap", [])], Sendable f := by
    intro f hf
    simp only [List.mem_cons, List.not_mem_nil, or_false] at hf
    rcases hf with rfl | rfl
    · exact ⟨⟨by decide, by decide⟩, by decide⟩
    · exact ⟨⟨by decide, by decide⟩, by decide⟩
  obtain ⟨stream, hsend, hrecv⟩ := send_recv_files crc32 (by decide) hfiles
  obtain ⟨disk, hok, hcontents, -⟩ := hrecv (fun _ => .ok ()) (fun _ => none) [7] fun _ _ => rfl
  exact ⟨stream, disk, hsend _ _ hopens, hok, hcontents ("mem.snap", [1, 2, 3]) (by simp),
    hcontents ("state.snap", []) (by simp)⟩

/-- Only whole streams of sendable files are accepted: the prefix taken is what would be sent for
the files received, no proper prefix of such a stream is accepted, and no two lists of files share
one. -/
theorem recv_files_canonical (hasher : Hasher) :
    (∀ create r names r', recvFiles hasher create r = (.ok names, r') →
      ∃ files : List File, names = files.map Prod.fst ∧ (∀ f ∈ files, Sendable f) ∧
        r.input = encode hasher files ++ r'.input ∧ r'.disk = files.foldl written r.disk ∧
        ∀ openFile outbound, Opens openFile outbound files →
          exec (sendFiles hasher openFile outbound) ⟨[], none⟩ =
            (.ok (), ⟨encode hasher files, none⟩)) ∧
    (∀ files : List File, (∀ f ∈ files, Sendable f) →
      ∀ cut more, cut ++ more = encode hasher files → more ≠ [] →
        ∀ create disk, ∃ e r', recvFiles hasher create ⟨cut, disk⟩ = (.error e, r')) ∧
    ∀ files files' : List File, (∀ f ∈ files, Sendable f) → (∀ f ∈ files', Sendable f) →
      ∀ rest rest', encode hasher files ++ rest = encode hasher files' ++ rest' →
        files = files' := by
  refine ⟨?_, ?_, ?_⟩
  · intro create r names r' hrecv
    obtain ⟨files, hnames, hfiles, hinput, hdisk⟩ := recvFiles_eq_ok_iff.mp hrecv
    have hsendable : ∀ f ∈ files, Sendable f := fun f hf => (hfiles f hf).1
    exact ⟨files, hnames, hsendable, hinput, hdisk,
      fun openFile outbound hopens => exec_sendFiles hsendable hopens⟩
  · intro files hfiles cut more hcut hmore create disk
    match hrecv : recvFiles hasher create ⟨cut, disk⟩ with
    | (.error e, r') => exact ⟨e, r', rfl⟩
    | (.ok names, r') =>
      -- Its files would have to be all of them, which leaves nothing cut off.
      obtain ⟨files', -, hfiles', hinput, -⟩ := recvFiles_eq_ok_iff.mp hrecv
      have hwhole : encode hasher files' ++ (r'.input ++ more) = encode hasher files ++ [] := by
        rw [List.append_nil, ← hcut, ← List.append_assoc, ← hinput]
      have hsame := encode_append_inj (fun f hf => (hfiles' f hf).1) hfiles hwhole
      rw [hsame] at hwhole
      have hnone := List.append_cancel_left hwhole
      exact absurd (List.append_eq_nil_iff.mp hnone).2 hmore
  · exact fun files files' hfiles hfiles' rest rest' h => encode_append_inj hfiles hfiles' h

end Framing

end Sleepwalk.Hostd.Transfer
