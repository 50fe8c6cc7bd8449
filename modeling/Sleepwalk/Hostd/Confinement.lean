import Sleepwalk.Hostd.Transfer
import Sleepwalk.Lib.Attempt
import Sleepwalk.Lib.UnixPath

/-!
# Where received files go

`recv_files` as it meets the file system: every name the stream carries is joined to the destination
directory and the path is opened for writing. Any of the file operations may fail, a write with some
of its bytes written.

A name with a slash is refused, and so is `..`; opening fails on the directory itself, which is what
`.` names. What is left are entries of the directory (`ensures_createFile`). Files that are created
or written to leave the directories and links as they were, so the directory stays where it is for
the names to come (`Confined`).
-/

namespace Sleepwalk.Hostd.Confinement

open Bytes Exec UnixPath Transfer

/-- The receiver: what there is to read, and the file system. -/
structure Receiver where
  input : List UInt8
  fs : FileSystem
  /-- The files created or truncated so far. -/
  touched : List Place
  /-- How many file operations there have been. -/
  calls : ℕ

/-- How a file operation fails: with some of its bytes written. -/
structure Fault where
  written : ℕ
  detail : String

abbrev ReceiveM := ExceptT TransferError (StateM Receiver)

/-- Read from the stream. -/
def fromStream {α : Type} (m : RecvM α) : ReceiveM α := fun s =>
  let (result, r) := exec m ⟨s.input, fun _ => none⟩
  (result, { s with input := r.input })

section Receiving

variable (hasher : Hasher) (fault : ℕ → Option Fault)

/-- Begin the next file operation. -/
def fileCall : ReceiveM (Option Fault) := do
  let s ← get
  set { s with calls := s.calls + 1 }
  return fault s.calls

/-- Create a file, or empty it. -/
def createFile (cwd : Place) (path : Path) : ReceiveM Place := do
  match ← fileCall fault with
  | some f => throw (.io f.detail)
  | none =>
    let s ← get
    match s.fs.create cwd path with
    | .error e => throw (.io e)
    | .ok (out, fs) =>
      set { s with fs := fs, touched := s.touched ++ [out] }
      return out

/-- Write all of some bytes to an open file. -/
def writeAll (out : Place) (bytes : List UInt8) : ReceiveM Unit := do
  match ← fileCall fault with
  | some f =>
    modify fun s => { s with fs := s.fs.append out (bytes.take f.written) }
    throw (.io f.detail)
  | none => modify fun s => { s with fs := s.fs.append out bytes }

/-- Wait for the writes. -/
def flush : ReceiveM Unit := do
  match ← fileCall fault with
  | some f => throw (.io f.detail)
  | none => return ()

/-- Receive what remains of a file's data. -/
def recvData (out : Place) (remaining : ℕ) (h : hasher.State) : ReceiveM hasher.State :=
  if _hzero : remaining = 0 then
    return h
  else do
    let want := min remaining CHUNK
    let chunk ← fromStream (readExact want)
    writeAll fault out chunk
    recvData out (remaining - want) (hasher.update h chunk)
termination_by remaining
decreasing_by
  have hchunk : 0 < CHUNK := by decide
  omega

/-- Receive a file whose name is known. Returns its path. -/
def recvBody (cwd : Place) (dest : Path) (name : String) : ReceiveM Path := do
  let len ← fromStream (readBE 8)
  let path := join dest (ofText name)
  let out ← createFile fault cwd path
  let h ← recvData hasher fault out len hasher.new
  flush fault
  let expected ← fromStream (readBE 4)
  let got := hasher.finalize h
  if expected ≠ got.toNat then throw (.checksum name (.ofNat expected) got) else return path

/-- Receive one file: its path, or `none` at the end of the stream. -/
def recvFile (cwd : Place) (dest : Path) : ReceiveM (Option Path) := do
  let nameLen ← fromStream (readBE 2)
  if nameLen = 0 then
    return none
  else
    let name ← fromStream (recvName nameLen)
    let path ← recvBody hasher fault cwd dest name
    return some path

end Receiving

/-! ## What outlives receiving a file -/

section Keeping

variable {hasher : Hasher} {fault : ℕ → Option Fault} {P : Receiver → Prop} {out : Place}

theorem exec_fromStream {α : Type} (m : RecvM α) (s : Receiver) :
    exec (fromStream m) s = ((exec m ⟨s.input, fun _ => none⟩).1,
      { s with input := (exec m ⟨s.input, fun _ => none⟩).2.input }) := rfl

theorem exec_fromStream_ok_iff {α : Type} {m : RecvM α} {s s' : Receiver} {a : α} :
    exec (fromStream m) s = (.ok a, s') ↔
      ∃ r, exec m ⟨s.input, fun _ => none⟩ = (.ok a, r) ∧ s' = { s with input := r.input } := by
  rw [exec_fromStream]
  rcases exec m ⟨s.input, fun _ => none⟩ with ⟨e | b, r⟩
  · simp
  · simp [eq_comm]

theorem keeps_fromStream {α : Type} {m : RecvM α} (hinput : ∀ s input, P s → P { s with input }) :
    Keeps P (fromStream m) := by
  intro s hs
  rw [exec_fromStream]
  exact hinput s _ hs

theorem keeps_fileCall (hcalls : ∀ s calls, P s → P { s with calls }) :
    Keeps P (fileCall fault) := fun s hs => hcalls s _ hs

theorem keeps_writeAll {bytes : List UInt8} (hcalls : ∀ s calls, P s → P { s with calls })
    (happend : ∀ s bytes, P s → P { s with fs := s.fs.append out bytes }) :
    Keeps P (writeAll fault out bytes) := by
  refine (keeps_fileCall hcalls).bind fun failing => ?_
  rcases failing with - | f
  · exact keeps_modify fun s hs => happend s bytes hs
  · refine Keeps.bind (keeps_modify fun s hs => happend s _ hs) fun _ => ?_
    exact fun s hs => hs

theorem keeps_recvData {remaining : ℕ} {h : hasher.State}
    (hread : ∀ n, Keeps P (fromStream (readExact n)))
    (hwrite : ∀ bytes, Keeps P (writeAll fault out bytes)) :
    Keeps P (recvData hasher fault out remaining h) := by
  induction remaining using Nat.strong_induction_on generalizing h with
  | _ remaining ih =>
    rw [recvData]
    by_cases hzero : remaining = 0
    · rw [dif_pos hzero]
      exact keeps_pure h
    · have hchunk : 0 < CHUNK := by decide
      rw [dif_neg hzero]
      refine (hread _).bind fun chunk => (hwrite chunk).bind fun _ => ?_
      exact ih _ (by omega)

theorem keeps_createFile {cwd : Place} {path : Path}
    (hcalls : ∀ s calls, P s → P { s with calls })
    (hcreate : ∀ s out fs, P s → s.fs.create cwd path = .ok (out, fs) →
      P { s with fs := fs, touched := s.touched ++ [out] }) :
    Keeps P (createFile fault cwd path) := by
  refine (keeps_fileCall hcalls).bind fun failing s hs => ?_
  rcases failing with - | f
  · rw [exec_bind, exec_get]
    rcases hopen : s.fs.create cwd path with e | ⟨out, fs⟩
    · simpa [hopen] using hs
    · simp only [hopen, exec_bind, exec_set, exec_pure]
      exact hcreate s out fs hs hopen
  · exact hs

theorem keeps_flush (hcalls : ∀ s calls, P s → P { s with calls }) : Keeps P (flush fault) := by
  refine (keeps_fileCall hcalls).bind fun failing s hs => ?_
  rcases failing with - | f
  · exact hs
  · exact hs

end Keeping

/-! ## The stream gets shorter -/

section Shorter

variable {hasher : Hasher} {fault : ℕ → Option Fault} {cwd : Place} {dest : Path} {bound : ℕ}

theorem keeps_readOr {eof : String} {n : ℕ} :
    Keeps (fun r => r.input.length ≤ bound) (readOr eof n) := by
  intro r hr
  rw [readOr, exec_bind, exec_get]
  by_cases hn : n ≤ r.input.length
  · simp only [if_pos hn, exec_bind, exec_set, exec_pure, List.length_drop]
    omega
  · simp [hn, exec_bind]

theorem keeps_readExact {n : ℕ} : Keeps (fun r => r.input.length ≤ bound) (readExact n) :=
  keeps_readOr

theorem keeps_readBE {w : ℕ} : Keeps (fun r => r.input.length ≤ bound) (readBE w) :=
  keeps_readOr.bind fun _ => keeps_pure _

theorem keeps_recvName {n : ℕ} : Keeps (fun r => r.input.length ≤ bound) (recvName n) := by
  refine keeps_readExact.bind fun nameBuf r hr => ?_
  rcases toText nameBuf with - | name
  · exact hr
  · by_cases hsafe : isUnsafe name = true
    · simpa [hsafe] using hr
    · simpa [hsafe] using hr

theorem keeps_shorter {α : Type} {m : RecvM α} (h : Keeps (fun r => r.input.length ≤ bound) m) :
    Keeps (fun s => s.input.length ≤ bound) (fromStream m) := fun s hs => h ⟨s.input, _⟩ hs

theorem keeps_recvBody {name : String} :
    Keeps (fun s => s.input.length ≤ bound) (recvBody hasher fault cwd dest name) := by
  refine (keeps_shorter keeps_readBE).bind fun len => ?_
  refine (keeps_createFile (fun _ _ hs => hs) fun _ _ _ hs _ => hs).bind fun out => ?_
  refine (keeps_recvData (fun n => keeps_shorter keeps_readExact)
    fun bytes => keeps_writeAll (fun _ _ hs => hs) fun _ _ hs => hs).bind fun h => ?_
  refine (keeps_flush fun _ _ hs => hs).bind fun _ => ?_
  refine (keeps_shorter keeps_readBE).bind fun expected s hs => ?_
  by_cases hsame : expected ≠ (hasher.finalize h).toNat
  · simpa [hsame] using hs
  · simpa [hsame] using hs

/-- A file takes at least the length of its name off the stream. -/
theorem length_recvFile_some {s s' : Receiver} {path : Path}
    (h : exec (recvFile hasher fault cwd dest) s = (.ok (some path), s')) :
    s'.input.length < s.input.length := by
  rw [recvFile, exec_bind_ok_iff] at h
  obtain ⟨nameLen, s₁, hlen, hrest⟩ := h
  obtain ⟨r, hread, rfl⟩ := exec_fromStream_ok_iff.mp hlen
  have hinput : s.input = toBE 2 nameLen ++ r.input := (exec_readBE_iff.mp hread).1
  split at hrest
  case isTrue => simp at hrest
  case isFalse =>
    have hkeeps : ∀ name, Keeps (fun s' : Receiver => s'.input.length ≤ r.input.length)
        (recvBody hasher fault cwd dest name >>= fun path => pure (some path)) :=
      fun name => keeps_recvBody.bind fun path => keeps_pure (some path)
    have hname : Keeps (fun s' : Receiver => s'.input.length ≤ r.input.length)
        (fromStream (recvName nameLen)) := keeps_shorter keeps_recvName
    have hshorter : s'.input.length ≤ r.input.length := by
      have hend := hname.bind hkeeps { s with input := r.input } le_rfl
      rwa [hrest] at hend
    rw [hinput, List.length_append, length_toBE]
    omega

end Shorter

/-- Receive files until the end marker, after those already written. -/
def recvLoop (hasher : Hasher) (fault : ℕ → Option Fault) (cwd : Place) (dest : Path)
    (written : List Path) (s : Receiver) : Except TransferError (List Path) × Receiver :=
  match _hfile : exec (recvFile hasher fault cwd dest) s with
  | (.error e, s') => (.error e, s')
  | (.ok none, s') => (.ok written, s')
  | (.ok (some path), s') => recvLoop hasher fault cwd dest (written ++ [path]) s'
termination_by s.input.length
decreasing_by exact length_recvFile_some _hfile

section Loop

variable {hasher : Hasher} {fault : ℕ → Option Fault} {cwd : Place} {dest : Path}
  {acc : List Path} {s s' : Receiver}

theorem recvLoop_of_error {e : TransferError}
    (h : exec (recvFile hasher fault cwd dest) s = (.error e, s')) :
    recvLoop hasher fault cwd dest acc s = (.error e, s') := by
  rw [recvLoop]
  split <;> simp_all

theorem recvLoop_of_none (h : exec (recvFile hasher fault cwd dest) s = (.ok none, s')) :
    recvLoop hasher fault cwd dest acc s = (.ok acc, s') := by
  rw [recvLoop]
  split <;> simp_all

theorem recvLoop_of_some {path : Path}
    (h : exec (recvFile hasher fault cwd dest) s = (.ok (some path), s')) :
    recvLoop hasher fault cwd dest acc s =
      recvLoop hasher fault cwd dest (acc ++ [path]) s' := by
  rw [recvLoop]
  split
  case h_1 hfile => simp [h] at hfile
  case h_2 hfile => simp [h] at hfile
  case h_3 other s₁ hfile =>
    obtain ⟨rfl, rfl⟩ : path = other ∧ s' = s₁ := by simpa [h] using hfile
    rfl

end Loop

/-- Receive files into the directory `dest`. Returns the written paths. -/
def recvFiles (hasher : Hasher) (fault : ℕ → Option Fault) (cwd : Place) (dest : Path) :
    Receiver → Except TransferError (List Path) × Receiver :=
  recvLoop hasher fault cwd dest []

/-! ## Confinement -/

/-- A name that is not refused has no slash and is not the parent directory. -/
theorem ofText_of_safe {name : String} (hsafe : isUnsafe name = false) :
    SLASH ∉ ofText name ∧ ofText name ≠ dotDot := by
  constructor
  · refine notMem_ofText (by decide) fun c hc hval => ?_
    have hslash : c = '/' := Char.ext (UInt32.toNat_inj.mp hval)
    simp_all [isUnsafe]
  · intro hparent
    have htext : toText dotDot = some name := toText_eq_some_iff.mpr hparent.symm
    obtain rfl : ".." = name := Option.some_inj.mp htext
    exact absurd hsafe (by decide)

/-- A place directly in the directory `dest` of a file system. -/
def IsChild (fs : FileSystem) (dest : Path) (p : Place) : Prop :=
  ∃ d name, fs.directory dest = .ok d ∧ Ordinary name ∧ p = d ++ [name]

/-- What has been done to a file system: the files touched are all children of `dest`, and nothing
else has changed. -/
structure Confined (start : FileSystem) (dest : Path) (s : Receiver) : Prop where
  tree : FileSystem.SameTree start s.fs
  within : ∀ p ∈ s.touched, IsChild start dest p
  frame : ∀ p ∉ s.touched, s.fs.node p = start.node p

/-- While a file is written: its path has been opened as one of the files touched. -/
structure Writing (start : FileSystem) (dest : Path) (name : String) (out : Place)
    (s : Receiver) : Prop extends Confined start dest s where
  opened : out ∈ s.touched
  ordinary : Ordinary (ofText name)

section Confined

variable {hasher : Hasher} {fault : ℕ → Option Fault} {cwd : Place} {dest : Path}
  {start : FileSystem} {s : Receiver}

/-- A file created at a child of `dest` is one of those touched. -/
theorem Confined.create {p : Place} (hs : Confined start dest s) (hwritable : s.fs.Writable p)
    (hp : IsChild start dest p) :
    Confined start dest
      { s with fs := s.fs.truncate p hwritable, touched := s.touched ++ [p] } where
  tree := hs.tree.trans (FileSystem.sameTree_truncate hwritable)
  within := by
    intro q hq
    rcases List.mem_append.mp hq with hq | hq
    · exact hs.within q hq
    · obtain rfl := List.mem_singleton.mp hq
      exact hp
  frame := by
    intro q hq
    rw [List.mem_append, List.mem_singleton, not_or] at hq
    rw [FileSystem.node_truncate, Function.update_of_ne hq.2, hs.frame q hq.1]

/-- Writing to a file that has been touched changes nothing else. -/
theorem Confined.append {p : Place} (hs : Confined start dest s) (hp : p ∈ s.touched)
    (bytes : List UInt8) : Confined start dest { s with fs := s.fs.append p bytes } where
  tree := hs.tree.trans FileSystem.sameTree_append
  within := hs.within
  frame := by
    intro q hq
    have hne : q ≠ p := fun heq => hq (heq ▸ hp)
    rw [FileSystem.node_append, if_neg hne, hs.frame q hq]

variable (habs : isAbsolute dest = true)
  (hlinks : ∀ d, start.directory dest = .ok d → start.HoldsNoLink d)

include habs hlinks

/-- A name that is not refused is opened as a child of `dest`. -/
theorem Confined.opens {name : String} {out : Place} {fs : FileSystem}
    (hs : Confined start dest s) (hsafe : isUnsafe name = false)
    (h : s.fs.create cwd (join dest (ofText name)) = .ok (out, fs)) :
    Writing start dest name out { s with fs := fs, touched := s.touched ++ [out] } := by
  obtain ⟨hslash, hparent⟩ := ofText_of_safe hsafe
  -- The directory is where it was at the start, and still holds no link.
  have hlinks' : ∀ d, s.fs.directory dest = .ok d → s.fs.HoldsNoLink d := by
    intro d hd
    exact hs.tree.holdsNoLink (hlinks d (hs.tree.symm.resolve hd))
  have hne := ofText_ne_nil hsafe
  obtain ⟨d, hd⟩ := FileSystem.directory_of_create_join habs hne hslash h
  obtain ⟨hordinary, rfl, hwritable, rfl⟩ :=
    FileSystem.create_join habs hne hslash hparent hd (hlinks' d hd) h
  have hchild : IsChild start dest (d ++ [ofText name]) :=
    ⟨d, ofText name, hs.tree.symm.resolve hd, hordinary, rfl⟩
  exact ⟨hs.create hwritable hchild, List.mem_append_right _ List.mem_cons_self, hordinary⟩

theorem ensures_createFile {name : String} (hsafe : isUnsafe name = false) :
    Ensures (Confined start dest) (createFile fault cwd (join dest (ofText name)))
      (Writing start dest name) (Confined start dest) := by
  have hcall : Keeps (Confined start dest) (fileCall fault) :=
    keeps_fileCall fun s calls hs => ⟨hs.tree, hs.within, hs.frame⟩
  refine (hcall.ensures fun _ hs => hs).bind fun failing s hs => ?_
  rcases failing with - | f
  · rw [exec_bind, exec_get]
    rcases hopen : s.fs.create cwd (join dest (ofText name)) with e | ⟨out, fs⟩
    · simpa [hopen] using hs
    · simp only [hopen, exec_bind, exec_set, exec_pure]
      exact hs.opens habs hlinks hsafe hopen
  · exact hs

/-- Every path that is written to is `dest` joined with one ordinary component. -/
theorem ensures_recvBody {name : String} (hsafe : isUnsafe name = false) :
    Ensures (Confined start dest) (recvBody hasher fault cwd dest name)
      (fun path s => Confined start dest s ∧ ∃ name, Ordinary name ∧ path = join dest name)
      (Confined start dest) := by
  have hlen : Keeps (Confined start dest) (fromStream (readBE 8)) :=
    keeps_fromStream fun s input hs => ⟨hs.tree, hs.within, hs.frame⟩
  -- From when the file is open, whatever fails leaves it among those touched.
  have hread : ∀ {α : Type} (out) (m : RecvM α),
      Keeps (Writing start dest name out) (fromStream m) := fun out m =>
    keeps_fromStream fun s input hs => ⟨⟨hs.tree, hs.within, hs.frame⟩, hs.opened, hs.ordinary⟩
  have hwrite : ∀ out bytes, Keeps (Writing start dest name out) (writeAll fault out bytes) :=
    fun out bytes => keeps_writeAll
      (fun s calls hs => ⟨⟨hs.tree, hs.within, hs.frame⟩, hs.opened, hs.ordinary⟩)
      fun s bytes hs => ⟨hs.toConfined.append hs.opened bytes, hs.opened, hs.ordinary⟩
  have hdone : ∀ out, Keeps (Writing start dest name out) (flush fault) := fun out =>
    keeps_flush fun s calls hs => ⟨⟨hs.tree, hs.within, hs.frame⟩, hs.opened, hs.ordinary⟩
  refine (hlen.ensures fun _ hs => hs).bind fun len => ?_
  refine (ensures_createFile habs hlinks hsafe).bind fun out => ?_
  have hdata : Keeps (Writing start dest name out) (recvData hasher fault out len hasher.new) :=
    keeps_recvData (fun n => hread out (readExact n)) (hwrite out)
  refine (hdata.ensures fun _ hs => hs.toConfined).bind fun h => ?_
  refine ((hdone out).ensures fun _ hs => hs.toConfined).bind fun _ => ?_
  refine ((hread out (readBE 4)).ensures fun _ hs => hs.toConfined).bind fun expected s hs => ?_
  by_cases hsame : expected ≠ (hasher.finalize h).toNat
  · simpa [hsame] using hs.toConfined
  · simpa [hsame] using ⟨hs.toConfined, ofText name, hs.ordinary, rfl⟩

theorem ensures_recvFile :
    Ensures (Confined start dest) (recvFile hasher fault cwd dest)
      (fun file s => Confined start dest s ∧
        ∀ path ∈ file, ∃ name, Ordinary name ∧ path = join dest name)
      (Confined start dest) := by
  have hread : ∀ {α : Type} (m : RecvM α), Keeps (Confined start dest) (fromStream m) := fun m =>
    keeps_fromStream fun s input hs => ⟨hs.tree, hs.within, hs.frame⟩
  have hname : ∀ nameLen, Ensures (Confined start dest) (fromStream (recvName nameLen))
      (fun name s => Confined start dest s ∧ isUnsafe name = false) (Confined start dest) := by
    intro nameLen s hs
    have hkept := hread (recvName nameLen) s hs
    rcases hexec : exec (fromStream (recvName nameLen)) s with ⟨e | name, s'⟩
    · rwa [hexec] at hkept
    · rw [hexec] at hkept
      obtain ⟨r, hrecv, -⟩ := exec_fromStream_ok_iff.mp hexec
      exact ⟨hkept, (exec_recvName_iff.mp hrecv).2.2.1⟩
  refine ((hread (readBE 2)).ensures fun _ hs => hs).bind fun nameLen => ?_
  by_cases hend : nameLen = 0
  · -- The end of the files.
    rw [if_pos hend]
    exact ensures_pure fun s hs => ⟨hs, by simp⟩
  · rw [if_neg hend]
    refine (hname nameLen).bind fun name => ?_
    intro s hs
    refine ((ensures_recvBody habs hlinks hs.2).bind fun path => ?_) s hs.1
    exact ensures_pure fun s hs => ⟨hs.1, by simpa using hs.2⟩

/-- Whatever the stream holds and whichever file operations fail. -/
theorem recvLoop_confined {written : List Path}
    (hs : Confined start dest s)
    (hwritten : ∀ path ∈ written, ∃ name, Ordinary name ∧ path = join dest name) :
    Confined start dest (recvLoop hasher fault cwd dest written s).2 ∧
      ∀ paths, (recvLoop hasher fault cwd dest written s).1 = .ok paths →
        ∀ path ∈ paths, ∃ name, Ordinary name ∧ path = join dest name := by
  have hfile : Ensures (Confined start dest) (recvFile hasher fault cwd dest) _ _ :=
    ensures_recvFile habs hlinks
  fun_induction recvLoop hasher fault cwd dest written s with
  | case1 written s e s' hexec =>
    exact ⟨hfile.error hs hexec, by simp⟩
  | case2 written s s' hexec =>
    refine ⟨(hfile.ok hs hexec).1, fun paths hpaths => ?_⟩
    obtain rfl := Except.ok.inj hpaths
    exact hwritten
  | case3 written s path s' hexec ih =>
    obtain ⟨hs', hpath⟩ := hfile.ok hs hexec
    refine ih hs' fun path' hmem => ?_
    rcases List.mem_append.mp hmem with hmem | hmem
    · exact hwritten path' hmem
    · obtain rfl := List.mem_singleton.mp hmem
      exact hpath path' rfl

end Confined

/-- Whatever is sent, and whichever file operations fail on the way, the files created or truncated
are children of the destination directory, everything else is as it was, and the paths returned are
the directory joined with one ordinary component. The directory is absolute and holds no links. -/
theorem received_in_dest (hasher : Hasher) (fault : ℕ → Option Fault) (cwd : Place)
    (fs : FileSystem) (dest : Path) (habs : isAbsolute dest = true)
    (hlinks : ∀ d, fs.directory dest = .ok d → fs.HoldsNoLink d) (input : List UInt8) :
    ∀ result s, recvFiles hasher fault cwd dest ⟨input, fs, [], 0⟩ = (result, s) →
      (∀ p ∈ s.touched, ∃ d name, fs.directory dest = .ok d ∧ Ordinary name ∧ p = d ++ [name]) ∧
      (∀ p ∉ s.touched, s.fs.node p = fs.node p) ∧
      ∀ paths, result = .ok paths →
        ∀ path ∈ paths, ∃ name, Ordinary name ∧ path = join dest name := by
  intro result s hrun
  have hstart : Confined fs dest ⟨input, fs, [], 0⟩ := ⟨.refl fs, by simp, fun _ _ => rfl⟩
  have hnone : ∀ path ∈ ([] : List Path), ∃ name, Ordinary name ∧ path = join dest name := by simp
  obtain ⟨hs, hpaths⟩ :
      Confined fs dest (recvFiles hasher fault cwd dest ⟨input, fs, [], 0⟩).2 ∧ _ :=
    recvLoop_confined habs hlinks hstart hnone
  rw [← recvFiles, hrun] at hpaths
  rw [hrun] at hs
  exact ⟨hs.within, hs.frame, hpaths⟩

/-- A file `x`, and a directory `d` next to it. -/
def fileAndDirectory : FileSystem where
  node p :=
    if p = [] ∨ p = [ofText "d"] then some .dir
    else if p = [ofText "x"] then some (.file [1])
    else none
  root := by simp
  parent := by
    intro p name hnode
    rcases p with - | ⟨first, rest⟩
    · simp
    · simp at hnode

/-- A stream that names the file through the directory. -/
def hostile : List UInt8 :=
  toBE 2 4 ++ ofText "../x" ++ toBE 8 0 ++ toBE 4 (crc32.checksum []).toNat ++ toBE 2 0

theorem received_in_dest_hostile :
    (recvFiles crc32 (fun _ => none) [] (ofText "/d") ⟨hostile, fileAndDirectory, [], 0⟩).2.fs.node
      [ofText "x"] = some (.file [1]) := by
  have hd : fileAndDirectory.directory (ofText "/d") = .ok [ofText "d"] := by
    have hcomponents : components (ofText "/d") = [ofText "d"] := by decide
    have hdot : ofText "d" ≠ dot := by decide
    have hdotDot : ofText "d" ≠ dotDot := by decide
    rw [FileSystem.directory, hcomponents, FileSystem.resolve_dir hdot hdotDot (by decide),
      FileSystem.resolve_nil]
    rfl
  have hlinks : ∀ d, fileAndDirectory.directory (ofText "/d") = .ok d →
      fileAndDirectory.HoldsNoLink d := by
    intro d _ name target
    simp only [fileAndDirectory]
    split_ifs <;> simp
  rcases hrun : recvFiles crc32 (fun _ => none) [] (ofText "/d") ⟨hostile, fileAndDirectory, [], 0⟩
    with ⟨result, s⟩
  obtain ⟨hwithin, hframe, -⟩ := received_in_dest crc32 (fun _ => none) [] fileAndDirectory
    (ofText "/d") (by decide) hlinks hostile result s hrun
  -- The file is a child of the root, and not of `/d`.
  have hx : [ofText "x"] ∉ s.touched := by
    intro hmem
    obtain ⟨d, name, hdir, -, hplace⟩ := hwithin _ hmem
    obtain rfl : [ofText "d"] = d := Except.ok.inj (hd.symm.trans hdir)
    simp at hplace
  exact hframe _ hx

end Sleepwalk.Hostd.Confinement
