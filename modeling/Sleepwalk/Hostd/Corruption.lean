import Sleepwalk.Hostd.Transfer
import Sleepwalk.Lib.Lfsr

/-!
# Corruption in transit

CRC-32 is a shift register of 32 bits that absorbs bytes (`toBitVec_update_crc32`). A change to at
most four consecutive bytes of a file leads it to another state, whatever comes before and after
them (`checksum_window_ne`), so the receiver computes another checksum than the sender's and refuses
the file.
-/

namespace Sleepwalk.Hostd.Transfer

open Bytes Exec

/-! ## CRC-32 as a register -/

/-- The taps of CRC-32, least significant bit first. -/
def POLYNOMIAL : BitVec 32 := 0xEDB88320#32

/-- A byte as a symbol of the register. -/
def symbol (b : UInt8) : BitVec 32 := b.toUInt32.toBitVec

theorem crc_and_one_iff (crc : UInt32) : crc &&& 1 = 1 ↔ crc.toBitVec.getLsbD 0 = true := by
  rw [← UInt32.toBitVec_inj, UInt32.toBitVec_and]
  show crc.toBitVec &&& 1#32 = 1#32 ↔ _
  rw [BitVec.and_one_eq_setWidth_ofBool_getLsbD]
  cases crc.toBitVec.getLsbD 0 <;> decide

theorem toBitVec_crcBit (crc : UInt32) :
    (crcBit crc).toBitVec = Lfsr.step POLYNOMIAL crc.toBitVec := by
  unfold crcBit Lfsr.step
  by_cases h : crc.toBitVec.getLsbD 0 = true
  · rw [if_pos ((crc_and_one_iff crc).mpr h), if_pos h]
    rfl
  · rw [if_neg fun hone => h ((crc_and_one_iff crc).mp hone), if_neg h]
    rfl

theorem toBitVec_crcByte (crc : UInt32) (b : UInt8) :
    (crcByte crc b).toBitVec = Lfsr.feed POLYNOMIAL 8 crc.toBitVec (symbol b) := by
  have hmoves : ∀ (n : ℕ) (x : UInt32),
      (crcBit^[n] x).toBitVec = (Lfsr.step POLYNOMIAL)^[n] x.toBitVec := by
    intro n x
    exact (Function.Semiconj.iterate_right toBitVec_crcBit n) x
  exact hmoves 8 _

/-- Hashing some bytes is absorbing them. -/
theorem toBitVec_update_crc32 (crc : UInt32) (bytes : List UInt8) :
    (bytes.foldl crcByte crc).toBitVec =
      Lfsr.absorb POLYNOMIAL 8 crc.toBitVec (bytes.map symbol) := by
  induction bytes generalizing crc with
  | nil => rfl
  | cons b bytes ih =>
    rw [List.foldl_cons, ih, toBitVec_crcByte]
    rfl

theorem below_symbol (b : UInt8) : Lfsr.Below 8 (symbol b) := by
  intro i hi
  show (b.toBitVec.setWidth 32).getLsbD i = false
  rw [BitVec.getLsbD_setWidth, BitVec.getLsbD_of_ge _ _ hi, Bool.and_false]

theorem symbol_injective : Function.Injective symbol := by
  intro a b h
  have hwide : a.toUInt32 = b.toUInt32 := UInt32.toBitVec_inj.mp h
  have hnat := congrArg UInt32.toNat hwide
  rw [UInt8.toNat_toUInt32, UInt8.toNat_toUInt32] at hnat
  exact UInt8.toNat_inj.mp hnat

/-- A change to at most four consecutive bytes changes the checksum. -/
theorem checksum_window_ne (before after : List UInt8) {window window' : List UInt8}
    (hlength : window'.length = window.length) (hfits : window.length ≤ 4)
    (hne : window ≠ window') :
    crc32.checksum (before ++ (window ++ after)) ≠
      crc32.checksum (before ++ (window' ++ after)) := by
  have htop : POLYNOMIAL.getLsbD (32 - 1) = true := by decide
  have hsymbols : ∀ bytes : List UInt8, ∀ d ∈ bytes.map symbol, Lfsr.Below 8 d := by
    intro bytes d hd
    obtain ⟨b, -, rfl⟩ := List.mem_map.mp hd
    exact below_symbol b
  have hstates := Lfsr.absorb_window_ne (x := (0xFFFFFFFF : UInt32).toBitVec) htop
    (before.map symbol) (after.map symbol) (by simpa using hlength) (hsymbols window)
    (hsymbols window') (by rw [List.length_map]; omega)
    fun h => hne (List.map_injective_iff.mpr symbol_injective h)
  intro h
  apply hstates
  -- Finalizing complements the state, which can be taken back.
  have hstate := (UInt32.xor_left_inj 0xFFFFFFFF).mp h
  have hbits := congrArg UInt32.toBitVec hstate
  simpa only [crc32, toBitVec_update_crc32, List.map_append] using hbits

/-! ## What the receiver makes of it -/

section Receiver

variable {hasher : Hasher} {create : String → Except String Unit}
  {disk : String → Option (List UInt8)}

/-- The bytes of a frame before the data. -/
def frameHead (f : File) : List UInt8 :=
  toBE 2 (ofText f.1).length ++ (ofText f.1 ++ toBE 8 f.2.length)

/-- A stream of files in which one of them has this data and this trailer in place of its own. -/
def streamWith (hasher : Hasher) (before : List File) (f : File) (later : List File)
    (data trailer : List UInt8) : List UInt8 :=
  before.flatMap (encodeFile hasher) ++ (frameHead f ++ (data ++ (trailer ++ encode hasher later)))

/-- With its own data and trailer it is the stream that is sent. -/
theorem streamWith_self (hasher : Hasher) (before : List File) (f : File) (later : List File) :
    streamWith hasher before f later f.2 (toBE 4 (hasher.checksum f.2).toNat) =
      encode hasher (before ++ f :: later) := by
  simp [streamWith, frameHead, encode, encodeFile]

/-- A frame with a trailer that is not the checksum of its data is refused. -/
theorem exec_recvFile_checksum {f : File} {data trailer rest : List UInt8}
    (hsendable : Sendable f) (hcreate : create f.1 = .ok ()) (hdata : data.length = f.2.length)
    (htrailer : trailer.length = 4) (hwrong : ofBE trailer ≠ (hasher.checksum data).toNat) :
    ∃ r', exec (recvFile hasher create) ⟨frameHead f ++ (data ++ (trailer ++ rest)), disk⟩ =
      (.error (.checksum f.1 (.ofNat (ofBE trailer)) (hasher.checksum data)), r') := by
  have hpos : (ofText f.1).length ≠ 0 := by simpa using ofText_ne_nil hsendable.name.safe
  -- The reads of the receiver, one after the other.
  have hnameLen : exec (readBE 2) ⟨frameHead f ++ (data ++ (trailer ++ rest)), disk⟩ =
      (.ok (ofText f.1).length, ⟨ofText f.1 ++ (toBE 8 f.2.length ++ (data ++ (trailer ++ rest))),
        disk⟩) :=
    exec_readBE_iff.mpr ⟨by simp [frameHead], hsendable.name.short, rfl⟩
  have hname : exec (recvName (ofText f.1).length)
      ⟨ofText f.1 ++ (toBE 8 f.2.length ++ (data ++ (trailer ++ rest))), disk⟩ =
      (.ok f.1, ⟨toBE 8 f.2.length ++ (data ++ (trailer ++ rest)), disk⟩) :=
    exec_recvName_iff.mpr ⟨rfl, rfl, hsendable.name.safe, rfl⟩
  have hlen : exec (readBE 8) ⟨toBE 8 f.2.length ++ (data ++ (trailer ++ rest)), disk⟩ =
      (.ok f.2.length, ⟨data ++ (trailer ++ rest), disk⟩) :=
    exec_readBE_iff.mpr ⟨rfl, hsendable.length, rfl⟩
  have hopen : exec (createFile create f.1) ⟨data ++ (trailer ++ rest), disk⟩ =
      (.ok (), ⟨data ++ (trailer ++ rest), Function.update disk f.1 (some [])⟩) :=
    exec_createFile_iff.mpr ⟨hcreate, rfl⟩
  have hbody : exec (recvData hasher f.1 f.2.length hasher.new)
      ⟨data ++ (trailer ++ rest), Function.update disk f.1 (some [])⟩ =
      (.ok (hasher.update hasher.new data), ⟨trailer ++ rest, written disk (f.1, data)⟩) := by
    refine (exec_recvData_iff (Function.update_self ..)).mpr ⟨data, hdata, rfl, rfl, ?_⟩
    rw [Function.update_idem]
    rfl
  have hcrc : exec (readBE 4) ⟨trailer ++ rest, written disk (f.1, data)⟩ =
      (.ok (ofBE trailer), ⟨rest, written disk (f.1, data)⟩) := by
    refine exec_readBE_iff.mpr ⟨?_, ?_, rfl⟩
    · rw [← htrailer, toBE_ofBE]
    · rw [← htrailer]
      exact ofBE_lt trailer
  refine ⟨⟨rest, written disk (f.1, data)⟩, ?_⟩
  have hrefused : ofBE trailer ≠ (hasher.finalize (hasher.update hasher.new data)).toNat := hwrong
  simp only [recvFile, exec_bind, hnameLen, if_neg hpos, hname, recvBody, hlen, hopen, hbody, hcrc,
    if_pos hrefused, exec_throw]
  rfl

/-- The loop takes whole frames one after the other. -/
theorem recvLoop_frames {before : List File} {acc : List String} {rest : List UInt8}
    (hbefore : ∀ g ∈ before, Sendable g ∧ create g.1 = .ok ()) :
    recvLoop hasher create acc ⟨before.flatMap (encodeFile hasher) ++ rest, disk⟩ =
      recvLoop hasher create (acc ++ before.map Prod.fst) ⟨rest, before.foldl written disk⟩ := by
  induction before generalizing acc disk with
  | nil => simp
  | cons g before ih =>
    obtain ⟨hsendable, hcreate⟩ := hbefore g List.mem_cons_self
    have hfile : exec (recvFile hasher create)
        ⟨(g :: before).flatMap (encodeFile hasher) ++ rest, disk⟩ =
        (.ok (some g.1), ⟨before.flatMap (encodeFile hasher) ++ rest, written disk g⟩) :=
      exec_recvFile_some_iff.mpr ⟨hcreate, g.2, hsendable, by simp, rfl⟩
    rw [recvLoop_of_some hfile, ih fun a ha => hbefore a (List.mem_cons_of_mem g ha)]
    simp

/-- A stream in which one file has data and a trailer that do not belong together is refused at
that file. -/
theorem recvFiles_streamWith {before : List File} {f : File} (later : List File)
    {data trailer : List UInt8} (rest : List UInt8)
    (hbefore : ∀ g ∈ before, Sendable g ∧ create g.1 = .ok ())
    (hsendable : Sendable f) (hcreate : create f.1 = .ok ()) (hdata : data.length = f.2.length)
    (htrailer : trailer.length = 4) (hwrong : ofBE trailer ≠ (hasher.checksum data).toNat) :
    ∃ expected got r', recvFiles hasher create
      ⟨streamWith hasher before f later data trailer ++ rest, disk⟩ =
        (.error (.checksum f.1 expected got), r') := by
  obtain ⟨r', hfile⟩ : ∃ r', exec (recvFile hasher create)
      ⟨frameHead f ++ (data ++ (trailer ++ (encode hasher later ++ rest))),
        before.foldl written disk⟩ =
      (.error (.checksum f.1 (.ofNat (ofBE trailer)) (hasher.checksum data)), r') :=
    exec_recvFile_checksum hsendable hcreate hdata htrailer hwrong
  refine ⟨.ofNat (ofBE trailer), hasher.checksum data, r', ?_⟩
  have hstream : streamWith hasher before f later data trailer ++ rest =
      before.flatMap (encodeFile hasher) ++
        (frameHead f ++ (data ++ (trailer ++ (encode hasher later ++ rest)))) := by
    simp [streamWith]
  rw [recvFiles, hstream, recvLoop_frames hbefore, recvLoop_of_error hfile]

end Receiver

/-! ## Every short burst is caught -/

/-- What `send_files` sends of some files, with a change to at most four consecutive bytes of one
file's data or to its trailer, is refused with a checksum error for that file. -/
theorem corruption_caught (before : List File) (f : File) (later : List File)
    (hfiles : ∀ g ∈ before ++ f :: later, Sendable g) :
    (∀ openFile outbound, Opens openFile outbound (before ++ f :: later) →
      exec (sendFiles crc32 openFile outbound) ⟨[], none⟩ =
        (.ok (), ⟨streamWith crc32 before f later f.2 (toBE 4 (crc32.checksum f.2).toNat),
          none⟩)) ∧
    ∀ create disk rest, (∀ g ∈ before, create g.1 = .ok ()) → create f.1 = .ok () →
      (∀ front window window' back, f.2 = front ++ (window ++ back) →
        window'.length = window.length → window.length ≤ 4 → window ≠ window' →
        ∃ expected got r', recvFiles crc32 create
          ⟨streamWith crc32 before f later (front ++ (window' ++ back))
            (toBE 4 (crc32.checksum f.2).toNat) ++ rest, disk⟩ =
              (.error (.checksum f.1 expected got), r')) ∧
      ∀ trailer, trailer.length = 4 → trailer ≠ toBE 4 (crc32.checksum f.2).toNat →
        ∃ expected got r', recvFiles crc32 create
          ⟨streamWith crc32 before f later f.2 trailer ++ rest, disk⟩ =
            (.error (.checksum f.1 expected got), r') := by
  have hcrc : (crc32.checksum f.2).toNat < 256 ^ 4 := (crc32.checksum f.2).toNat_lt
  have hf : Sendable f := hfiles f (by simp)
  constructor
  · intro openFile outbound hopens
    rw [streamWith_self]
    exact exec_sendFiles hfiles hopens
  intro create disk rest hcreate hcreate'
  have hbefore : ∀ g ∈ before, Sendable g ∧ create g.1 = .ok () :=
    fun g hg => ⟨hfiles g (by simp [hg]), hcreate g hg⟩
  constructor
  · intro front window window' back hdata hlength hfits hne
    refine recvFiles_streamWith later rest hbefore hf hcreate' ?_ (length_toBE 4 _) ?_
    · rw [hdata]
      simp [hlength]
    -- The trailer is still the checksum of the data before the change.
    · rw [ofBE_toBE hcrc, hdata]
      intro h
      exact checksum_window_ne front back hlength hfits hne (UInt32.toNat_inj.mp h)
  · intro trailer hlength hne
    refine recvFiles_streamWith later rest hbefore hf hcreate' rfl hlength ?_
    intro h
    apply hne
    rw [← h, ← hlength, toBE_ofBE]

/-- The second of two files is hit by a burst of two bytes. -/
theorem corruption_caught_burst :
    ∃ expected got r', recvFiles crc32 (fun _ => .ok ())
      ⟨streamWith crc32 [("mem.snap", [1])] ("state.snap", [5, 6, 7]) [] ([5] ++ ([8, 9] ++ []))
        (toBE 4 (crc32.checksum [5, 6, 7]).toNat) ++ [], fun _ => none⟩ =
          (.error (.checksum "state.snap" expected got), r') := by
  have hfiles : ∀ g ∈ [("mem.snap", [1]), ("state.snap", [5, 6, 7])], Sendable g := by
    intro g hg
    rcases List.mem_pair.mp hg with rfl | rfl
    · exact ⟨⟨by decide, by decide⟩, by decide⟩
    · exact ⟨⟨by decide, by decide⟩, by decide⟩
  obtain ⟨-, hcaught⟩ := corruption_caught [("mem.snap", [1])] ("state.snap", [5, 6, 7]) [] hfiles
  obtain ⟨hburst, -⟩ := hcaught (fun _ => .ok ()) (fun _ => none) [] (fun _ _ => rfl) rfl
  exact hburst [5] [6, 7] [8, 9] [] rfl rfl (by decide) (by decide)

end Sleepwalk.Hostd.Transfer
