import Mathlib.Data.List.Nodup
import Mathlib.Data.List.Perm.Subperm
import Sleepwalk.Hostd.Restore

/-!
# Which files make a snapshot

`receive_and_restore` looks at how many files it received, and not at their names. `WellFormed` is
what it takes them for: the memory, the state, and up to two files of metadata, each of them once.
`only_well_formed_iff` says for which streams the count stands for that, and
`altered_name_restored` is a stream for which it does not.
-/

namespace Sleepwalk.Hostd.Restore

open Exec Overlay Proto Transfer

/-- The names of the files of a snapshot. -/
structure WellFormed (names : List String) : Prop where
  mem : names.count "mem.snap" = 1
  state : names.count "state.snap" = 1
  vsock : names.count "vsock.txt" ≤ 1
  net : names.count "net.json" ≤ 1
  nothingElse : ∀ name ∈ names, name ∈ ["mem.snap", "state.snap", "vsock.txt", "net.json"]

/-- A well-formed snapshot has two to four files. -/
theorem WellFormed.length {names : List String} (h : WellFormed names) :
    2 ≤ names.length ∧ names.length ≤ 4 := by
  constructor
  · have hboth : ["mem.snap", "state.snap"] ⊆ names := by
      intro name hname
      apply List.one_le_count_iff.mp
      rcases List.mem_pair.mp hname with rfl | rfl
      · exact h.mem.ge
      · exact h.state.ge
    exact (List.Nodup.subperm (by decide) hboth).length_le
  · have hnodup : names.Nodup := by
      rw [List.nodup_iff_count_le_one]
      intro name
      by_cases hname : name ∈ names
      · have hfour := h.nothingElse name hname
        simp only [List.mem_cons, List.not_mem_nil, or_false] at hfour
        rcases hfour with rfl | rfl | rfl | rfl
        · exact h.mem.le
        · exact h.state.le
        · exact h.vsock
        · exact h.net
      · rw [List.count_eq_zero_of_not_mem hname]
        exact Nat.zero_le 1
    exact (hnodup.subperm h.nothingElse).length_le

section Check

variable (e : Steps) (taps : List String)

/-- Make the work dir and receive files into it. -/
def receivedFiles : RestoreM (List String) := do
  makeWork e
  recvSnapshot e

/-- Receive files, and check them. -/
def checkedFiles : RestoreM (List String) := do
  let files ← receivedFiles e
  checkCount files
  return files

/-- What comes after the check: the tap, the page server and Firecracker. -/
def restoreChecked : RestoreM RunningVm := do
  let net ← readIdentity e
  replumbIdentity e net
  startServer e
  launchFirecracker e
  loadSnapshot e net
  let s ← get
  return { id := e.id, proc := e.proc, vsockUds := readVsock (s.work.getD fun _ => none), net }

theorem receiveAndRestore_eq :
    receiveAndRestore e =
      receivedFiles e >>= fun files => checkCount files >>= fun _ => restoreChecked e := by
  simp only [receiveAndRestore, receivedFiles, restoreChecked, bind_assoc]

/-- A restore goes past its check exactly with a well-formed snapshot, and any other one is rejected
as malformed. -/
structure OnlyWellFormed : Prop where
  passes : ∀ names s, exec (checkedFiles e) (.fresh taps) = (.ok names, s) → WellFormed names
  rejects : ∀ names s, exec (receivedFiles e) (.fresh taps) = (.ok names, s) → ¬ WellFormed names →
    ∃ detail, (exec (receiveAndRestore e) (.fresh taps)).1 = .error (.snapshot detail)

variable {e taps} {names : List String} {s : Target}

/-- Files are received from a stream that is a framing of them. -/
theorem exec_receivedFiles_iff : exec (receivedFiles e) (.fresh taps) = (.ok names, s) ↔
    e.mkdir = .ok () ∧ ∃ stream, e.accepted = .ok stream ∧
      ∃ (files : List File) (rest : List UInt8), names = files.map Prod.fst ∧
      (∀ f ∈ files, Sendable f ∧ e.create f.1 = .ok ()) ∧
      stream = encode e.hasher files ++ rest ∧
      s = { Target.fresh taps with work := some (files.foldl written fun _ => none) } := by
  rw [receivedFiles, exec_bind, makeWork]
  rcases e.mkdir with detail | _
  · simp
  dsimp only
  rw [exec_modify]
  dsimp only
  rw [recvSnapshot]
  rcases e.accepted with err | stream
  · simp
  dsimp only
  rw [exec_bind, exec_get]
  dsimp only [Option.getD_some]
  rcases hrecv : recvFiles e.hasher e.create ⟨stream, fun _ => none⟩ with ⟨err | files, r⟩
  · -- What was not received is no framing of files that can be created.
    refine iff_of_false (by simp [exec_bind]) ?_
    rintro ⟨-, stream', hstream', files, rest, -, hfiles, hinput, -⟩
    obtain rfl := Except.ok.inj hstream'
    have hok : recvFiles e.hasher e.create ⟨stream, fun _ => none⟩ =
        (.ok (files.map Prod.fst), ⟨rest, files.foldl written fun _ => none⟩) :=
      recvFiles_eq_ok_iff.mpr ⟨files, rfl, hfiles, hinput, rfl⟩
    cases (congrArg Prod.fst hrecv).symm.trans (congrArg Prod.fst hok)
  · obtain ⟨files', hnames, hfiles, hinput, hdisk⟩ := recvFiles_eq_ok_iff.mp hrecv
    simp only [exec_bind, exec_set, exec_pure, Prod.mk.injEq, Except.ok.injEq, true_and]
    constructor
    · rintro ⟨rfl, rfl⟩
      exact ⟨stream, rfl, files', r.input, hnames, hfiles, hinput, by rw [hdisk]⟩
    · rintro ⟨_, rfl, files'', rest, rfl, hfiles', hinput', rfl⟩
      -- One stream is a framing of one list of files.
      obtain rfl : files' = files'' := encode_append_inj (fun f hf => (hfiles f hf).1)
        (fun f hf => (hfiles' f hf).1) (hinput.symm.trans hinput')
      exact ⟨hnames, by rw [hdisk]⟩

theorem checkCount_of_length (hcount : 2 ≤ names.length ∧ names.length ≤ 4) :
    exec (checkCount names) s = (.ok (), s) := by
  rw [checkCount, if_pos hcount, exec_pure]

/-- The check is on the number of files. -/
theorem exec_checkedFiles_iff : exec (checkedFiles e) (.fresh taps) = (.ok names, s) ↔
    exec (receivedFiles e) (.fresh taps) = (.ok names, s) ∧
      2 ≤ names.length ∧ names.length ≤ 4 := by
  rw [checkedFiles, exec_bind_ok_iff]
  constructor
  · rintro ⟨files, s', hreceived, hrest⟩
    obtain ⟨u, s'', hcheck, hpure⟩ := exec_bind_ok_iff.mp hrest
    obtain ⟨rfl, rfl⟩ : files = names ∧ s'' = s := by simpa using hpure
    by_cases hcount : 2 ≤ files.length ∧ files.length ≤ 4
    · rw [checkCount_of_length hcount] at hcheck
      obtain ⟨-, rfl⟩ := Prod.mk.inj hcheck
      exact ⟨hreceived, hcount⟩
    · rw [checkCount, if_neg hcount, exec_throw] at hcheck
      cases (Prod.mk.inj hcheck).1
  · rintro ⟨hreceived, hcount⟩
    refine ⟨names, s, hreceived, ?_⟩
    rw [exec_bind, checkCount_of_length hcount]
    rfl

/-- For every way the steps of a restore turn out: only a well-formed snapshot passes its check, if
and only if the stream is not a framing of two to four files that are something else. -/
theorem only_well_formed_iff (e : Steps) (taps : List String) :
    OnlyWellFormed e taps ↔
      ∀ stream, e.mkdir = .ok () → e.accepted = .ok stream →
        ∀ (files : List File) (rest : List UInt8),
          (∀ f ∈ files, Sendable f ∧ e.create f.1 = .ok ()) →
          stream = encode e.hasher files ++ rest → 2 ≤ files.length → files.length ≤ 4 →
            WellFormed (files.map Prod.fst) := by
  constructor
  · intro honly stream hmkdir haccepted files rest hfiles hstream hlow hhigh
    have hreceived : exec (receivedFiles e) (.fresh taps) = (.ok (files.map Prod.fst), _) :=
      exec_receivedFiles_iff.mpr ⟨hmkdir, stream, haccepted, files, rest, rfl, hfiles, hstream, rfl⟩
    exact honly.passes _ _ (exec_checkedFiles_iff.mpr ⟨hreceived, by simpa using ⟨hlow, hhigh⟩⟩)
  · intro hwell
    -- What was received is what some stream frames.
    have hsome : ∀ names s, exec (receivedFiles e) (.fresh taps) = (.ok names, s) →
        2 ≤ names.length → names.length ≤ 4 → WellFormed names := by
      intro names s hreceived hlow hhigh
      obtain ⟨hmkdir, stream, haccepted, files, rest, rfl, hfiles, hstream, -⟩ :=
        exec_receivedFiles_iff.mp hreceived
      rw [List.length_map] at hlow hhigh
      exact hwell stream hmkdir haccepted files rest hfiles hstream hlow hhigh
    constructor
    · intro names s hchecked
      obtain ⟨hreceived, hlow, hhigh⟩ := exec_checkedFiles_iff.mp hchecked
      exact hsome names s hreceived hlow hhigh
    · intro names s hreceived hbad
      have hcount : ¬ (2 ≤ names.length ∧ names.length ≤ 4) :=
        fun hcount => hbad (hsome names s hreceived hcount.1 hcount.2)
      refine ⟨"expected 2..4 files, got " ++ names.length.repr, ?_⟩
      rw [receiveAndRestore_eq, exec_bind, hreceived]
      dsimp only
      rw [exec_bind, checkCount, if_neg hcount, exec_throw]

end Check

/-- A snapshot of two files on its way, with one byte of a name altered: the `a` of `state.snap` has
become an `e`. -/
def alteredName : Steps where
  hasher := crc32
  codec := ⟨fun _ => none, fun _ => none, fun _ => "", id⟩
  mkdir := .ok ()
  accepted := .ok (encode crc32 [("mem.snap", [1]), ("stete.snap", [2])])
  create _ := .ok ()
  read := .ok ()
  plumbing := .works
  bind := .ok ()
  launch := .ok ()
  load := .error "No such file or directory"
  untaps := true
  removes := true
  id := ⟨7⟩
  proc := 0

/-- That one byte apart the stream is what a sender sends. The restore goes past its check and fails
as Firecracker, which it has started, loads the snapshot. -/
theorem altered_name_restored :
    (∃ front back, encode crc32 [("mem.snap", [1]), ("state.snap", [2])] = front ++ 97 :: back ∧
      alteredName.accepted = .ok (front ++ 101 :: back)) ∧
    (exec (receiveAndRestore alteredName) (.fresh [])).1 =
      .error (.firecracker "No such file or directory") ∧
    ¬ OnlyWellFormed alteredName [] := by
  refine ⟨⟨(encode crc32 [("mem.snap", [1]), ("state.snap", [2])]).take 27,
    (encode crc32 [("mem.snap", [1]), ("state.snap", [2])]).drop 28, ?_, ?_⟩, ?_, ?_⟩
  · decide +kernel
  · decide +kernel
  · decide +kernel
  · intro honly
    have hfiles : ∀ f ∈ [("mem.snap", [1]), ("stete.snap", [2])],
        Sendable f ∧ alteredName.create f.1 = .ok () := by
      intro f hf
      rcases List.mem_pair.mp hf with rfl | rfl
      · exact ⟨⟨⟨by decide, by decide⟩, by decide⟩, rfl⟩
      · exact ⟨⟨⟨by decide, by decide⟩, by decide⟩, rfl⟩
    have hreceived : exec (receivedFiles alteredName) (.fresh []) = _ :=
      exec_receivedFiles_iff.mpr ⟨rfl, _, rfl, _, [], rfl, hfiles, (List.append_nil _).symm, rfl⟩
    have hwell := honly.passes _ _ (exec_checkedFiles_iff.mpr ⟨hreceived, by decide⟩)
    exact absurd hwell.state (by decide)

end Sleepwalk.Hostd.Restore
