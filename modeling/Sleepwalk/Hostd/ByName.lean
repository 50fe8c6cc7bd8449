import Sleepwalk.Hostd.Confinement

/-!
# Received files by their names

`Transfer` knows a file of the receiver by its name alone. That is how `recv_files` works on the
file system as well, as long as no file operation fails: in a directory without links a name is
opened or not whatever files have been written before, and each name has a file of its own
(`recvFiles_byName`). What is known of streams there holds of directories.
-/

namespace Sleepwalk.Hostd.Confinement

open Bytes Exec UnixPath Transfer

/-- The files of a directory. -/
def contents (fs : FileSystem) (d : Place) (name : String) : Option (List UInt8) :=
  match fs.node (d ++ [ofText name]) with
  | some (.file content) => some content
  | _ => none

/-- Whether a name can be opened in the directory `dest`. -/
def opens (fs : FileSystem) (cwd : Place) (dest : Path) (name : String) : Except String Unit :=
  (fs.create cwd (join dest (ofText name))).map fun _ => ()

/-- A receiver on the file system, and one that knows the files of the directory `d` by name. -/
structure SameFiles (start : FileSystem) (d : Place) (s : Receiver) (r : Incoming) : Prop where
  input : s.input = r.input
  tree : FileSystem.SameTree start s.fs
  disk : r.disk = contents s.fs d

section Operations

variable {start : FileSystem} {d : Place} {s : Receiver} {r : Incoming}

theorem ofText_inj {name name' : String} (h : ofText name = ofText name') : name = name' := by
  have htext : toText (ofText name') = some name := toText_eq_some_iff.mpr h.symm
  rw [toText_eq_some_iff.mpr rfl] at htext
  exact (Option.some_inj.mp htext).symm

/-- Emptying or creating the file of a name. -/
theorem contents_truncate {fs : FileSystem} {name : String}
    (hwritable : fs.Writable (d ++ [ofText name])) :
    contents (fs.truncate _ hwritable) d = Function.update (contents fs d) name (some []) := by
  ext1 other
  by_cases hother : other = name
  · subst hother
    simp [contents]
  · have hplace : d ++ [ofText other] ≠ d ++ [ofText name] := fun h =>
      hother (ofText_inj (by simpa using h))
    rw [Function.update_of_ne hother, contents, FileSystem.node_truncate,
      Function.update_of_ne hplace, contents]

/-- Writing to the file of a name. -/
theorem contents_append {fs : FileSystem} {name : String} {bytes : List UInt8} :
    contents (fs.append (d ++ [ofText name]) bytes) d =
      Function.update (contents fs d) name ((contents fs d name).map (· ++ bytes)) := by
  ext1 other
  by_cases hother : other = name
  · subst hother
    rw [Function.update_self, contents, contents, FileSystem.node_append, if_pos rfl]
    rcases fs.node (d ++ [ofText other]) with - | (- | content | target)
    · rfl
    · rfl
    · rfl
    · rfl
  · have hplace : d ++ [ofText other] ≠ d ++ [ofText name] := fun h =>
      hother (ofText_inj (by simpa using h))
    rw [Function.update_of_ne hother, contents, FileSystem.node_append, if_neg hplace, contents]

/-- Two receivers with the same to read, of which the second has the given files. -/
def SameInput (disk : String → Option (List UInt8)) (r₀ r : Incoming) : Prop :=
  r₀.input = r.input ∧ r.disk = disk

variable {disk : String → Option (List UInt8)}

theorem follows_readOr (eof : String) (n : ℕ) :
    Follows (SameInput disk) (readOr eof n) (readOr eof n) Eq := by
  rintro ⟨input, disk₀⟩ ⟨_, _⟩ ⟨rfl, rfl⟩
  rw [readOr, exec_bind, exec_bind, exec_get, exec_get]
  by_cases hn : n ≤ input.length
  · simp only [if_pos hn, exec_bind, exec_set, exec_pure]
    exact ⟨rfl, rfl, rfl⟩
  · simp only [if_neg hn, exec_bind, exec_set, exec_throw]
    exact ⟨rfl, rfl, rfl⟩

theorem follows_readExact (n : ℕ) : Follows (SameInput disk) (readExact n) (readExact n) Eq :=
  follows_readOr _ n

theorem follows_readBE (w : ℕ) : Follows (SameInput disk) (readBE w) (readBE w) Eq := by
  refine (follows_readOr _ w).bind fun bytes _ heq => ?_
  rw [← heq]
  exact follows_pure rfl

/-- The name that is read is one that is not refused. -/
theorem follows_recvName (n : ℕ) :
    Follows (SameInput disk) (recvName n) (recvName n)
      fun name name' => name = name' ∧ isUnsafe name = false := by
  refine (follows_readExact n).bind fun nameBuf _ heq => ?_
  rw [← heq]
  rcases toText nameBuf with - | name
  · exact follows_throw
  · dsimp only
    split
    · exact follows_throw
    case isFalse hsafe => exact follows_pure ⟨rfl, by simpa using hsafe⟩

theorem follows_fromStream {α : Type} {m : RecvM α} {V : α → α → Prop}
    (hm : ∀ disk, Follows (SameInput disk) m m V) :
    Follows (SameFiles start d) (fromStream m) m V := by
  intro s r hsame
  have hend := hm r.disk ⟨s.input, fun _ => none⟩ r ⟨hsame.input, rfl⟩
  rw [exec_fromStream]
  rcases hright : exec m r with ⟨e | b, r'⟩
  · rw [hright] at hend
    obtain ⟨r₀, hleft, hinput, hdisk⟩ := hend.of_error
    rw [hleft]
    exact ⟨rfl, hinput, hsame.tree, hdisk.trans hsame.disk⟩
  · rw [hright] at hend
    obtain ⟨a, r₀, hleft, hV, hinput, hdisk⟩ := hend.of_ok
    rw [hleft]
    exact ⟨hV, hinput, hsame.tree, hdisk.trans hsame.disk⟩

theorem exec_fileCall (s : Receiver) :
    exec (fileCall fun _ => none) s = (.ok none, { s with calls := s.calls + 1 }) := rfl

theorem follows_writeAll {name : String} {bytes : List UInt8} :
    Follows (SameFiles start d) (writeAll (fun _ => none) (d ++ [ofText name]) bytes)
      (append name bytes) fun _ _ => True := by
  intro s r hsame
  rw [writeAll, exec_bind, exec_fileCall]
  refine ⟨trivial, hsame.input, hsame.tree.trans FileSystem.sameTree_append, ?_⟩
  show Function.update r.disk name _ = _
  rw [hsame.disk]
  exact contents_append.symm

/-- Waiting for the writes changes neither. -/
theorem follows_flush {α β : Type} {f : ReceiveM α} {f' : RecvM β} {V : α → β → Prop}
    (hf : Follows (SameFiles start d) f f' V) :
    Follows (SameFiles start d) (flush (fun _ => none) >>= fun _ => f) f' V := by
  intro s r hsame
  exact hf { s with calls := s.calls + 1 } r ⟨hsame.input, hsame.tree, hsame.disk⟩

theorem follows_recvData {hasher : Hasher} {name : String} {remaining : ℕ} {h : hasher.State} :
    Follows (SameFiles start d)
      (recvData hasher (fun _ => none) (d ++ [ofText name]) remaining h)
      (Transfer.recvData hasher name remaining h) Eq := by
  induction remaining using Nat.strong_induction_on generalizing h with
  | _ remaining ih =>
    rw [recvData, Transfer.recvData]
    by_cases hzero : remaining = 0
    · rw [dif_pos hzero, dif_pos hzero]
      exact follows_pure rfl
    · have hchunk : 0 < CHUNK := by decide
      rw [dif_neg hzero, dif_neg hzero]
      refine (follows_fromStream fun _ => follows_readExact _).bind fun chunk _ heq => ?_
      rw [← heq]
      refine follows_writeAll.bind fun _ _ _ => ?_
      exact ih _ (by omega)

variable {cwd : Place} {dest : Path} (habs : isAbsolute dest = true)
  (hd : start.directory dest = .ok d) (hlinks : start.HoldsNoLink d)

include habs hd hlinks

/-- Whether a name can be opened does not depend on the files there are by now. -/
theorem follows_createFile {name : String} (hsafe : isUnsafe name = false) :
    Follows (SameFiles start d) (createFile (fun _ => none) cwd (join dest (ofText name)))
      (Transfer.createFile (opens start cwd dest) name) fun out _ => out = d ++ [ofText name] := by
  obtain ⟨hslash, hparent⟩ := ofText_of_safe hsafe
  have hne := ofText_ne_nil hsafe
  intro s r hsame
  have hopens : opens start cwd dest name =
      ((s.fs.create cwd (join dest (ofText name))).map Prod.fst).map fun _ => () := by
    rw [← hsame.tree.create_join habs hne hslash hparent hd hlinks, opens]
    rcases start.create cwd (join dest (ofText name)) with e | o
    · rfl
    · rfl
  rw [createFile, exec_bind, exec_fileCall, Transfer.createFile, hopens]
  simp only [exec_bind, exec_get]
  rcases hcreate : s.fs.create cwd (join dest (ofText name)) with e | ⟨out, fs⟩
  · exact ⟨rfl, hsame.input, hsame.tree, hsame.disk⟩
  · obtain ⟨-, rfl, hwritable, rfl⟩ := FileSystem.create_join habs hne hslash hparent
      (hsame.tree.resolve hd) (hsame.tree.holdsNoLink hlinks) hcreate
    refine ⟨rfl, hsame.input, hsame.tree.trans (FileSystem.sameTree_truncate hwritable), ?_⟩
    show Function.update r.disk name _ = _
    rw [hsame.disk]
    exact (contents_truncate hwritable).symm

theorem follows_recvBody {hasher : Hasher} {name : String} (hsafe : isUnsafe name = false) :
    Follows (SameFiles start d) (recvBody hasher (fun _ => none) cwd dest name)
      (Transfer.recvBody hasher (opens start cwd dest) name)
      fun path _ => path = join dest (ofText name) := by
  refine (follows_fromStream fun _ => follows_readBE 8).bind fun len _ heq => ?_
  rw [← heq]
  refine (follows_createFile habs hd hlinks hsafe).bind fun out _ hout => ?_
  rw [hout]
  refine follows_recvData.bind fun h _ heq' => ?_
  rw [← heq']
  refine follows_flush ?_
  refine (follows_fromStream fun _ => follows_readBE 4).bind fun expected _ heq'' => ?_
  rw [← heq'']
  dsimp only
  split
  · exact follows_throw
  · exact follows_pure rfl

theorem follows_recvFile {hasher : Hasher} :
    Follows (SameFiles start d) (recvFile hasher (fun _ => none) cwd dest)
      (Transfer.recvFile hasher (opens start cwd dest))
      fun path name => path = name.map fun name => join dest (ofText name) := by
  refine (follows_fromStream fun _ => follows_readBE 2).bind fun nameLen _ heq => ?_
  rw [← heq]
  split
  · exact follows_pure rfl
  · refine (follows_fromStream fun _ => follows_recvName nameLen).bind fun name _ hname => ?_
    rw [← hname.1]
    refine (follows_recvBody habs hd hlinks hname.2).bind fun path _ hpath => ?_
    exact follows_pure (by rw [hpath]; rfl)

/-- One receiver goes on as long as the other, and both receive the same files. -/
theorem recvLoop_follows {hasher : Hasher} (written : List String)
    (hsame : SameFiles start d s r) :
    Matches (SameFiles start d)
      (fun paths names => paths = names.map fun name => join dest (ofText name))
      (recvLoop hasher (fun _ => none) cwd dest
        (written.map fun name => join dest (ofText name)) s)
      (Transfer.recvLoop hasher (opens start cwd dest) written r) := by
  fun_induction Transfer.recvLoop hasher (opens start cwd dest) written r generalizing s with
  | case1 written r e r' hfile =>
    have hend : Matches _ _ (exec (recvFile hasher (fun _ => none) cwd dest) s) _ :=
      follows_recvFile habs hd hlinks s r hsame
    rw [hfile] at hend
    obtain ⟨s', hleft, hsame'⟩ := hend.of_error
    rw [recvLoop_of_error hleft]
    exact ⟨rfl, hsame'⟩
  | case2 written r r' hfile =>
    have hend : Matches _ _ (exec (recvFile hasher (fun _ => none) cwd dest) s) _ :=
      follows_recvFile habs hd hlinks s r hsame
    rw [hfile] at hend
    obtain ⟨file, s', hleft, rfl, hsame'⟩ := hend.of_ok
    rw [recvLoop_of_none hleft]
    exact ⟨rfl, hsame'⟩
  | case3 written r name r' hfile ih =>
    have hend : Matches _ _ (exec (recvFile hasher (fun _ => none) cwd dest) s) _ :=
      follows_recvFile habs hd hlinks s r hsame
    rw [hfile] at hend
    obtain ⟨file, s', hleft, rfl, hsame'⟩ := hend.of_ok
    -- Both have taken the same file, and go on with what is left of the stream.
    rw [recvLoop_of_some hleft]
    have hrest := ih hsame'
    rwa [List.map_append] at hrest

/-- On the file system the same is received as by name: the same paths or the same error, the same
rest of the stream, and the same files in the directory. -/
theorem recvFiles_byName (hasher : Hasher) (input : List UInt8) :
    Matches (SameFiles start d)
      (fun paths names => paths = names.map fun name => join dest (ofText name))
      (recvFiles hasher (fun _ => none) cwd dest ⟨input, start, [], 0⟩)
      (Transfer.recvFiles hasher (opens start cwd dest) ⟨input, contents start d⟩) :=
  recvLoop_follows habs hd hlinks [] ⟨rfl, .refl start, rfl⟩

/-- What is sent is in the directory afterwards, each file under its name. -/
theorem recvFiles_encode (hasher : Hasher) {files : List File} (trailing : List UInt8)
    (hfiles : ∀ f ∈ files, Sendable f ∧ opens start cwd dest f.1 = .ok ()) :
    ∃ s, recvFiles hasher (fun _ => none) cwd dest ⟨encode hasher files ++ trailing, start, [], 0⟩ =
        (.ok (files.map fun f => join dest (ofText f.1)), s) ∧
      s.input = trailing ∧ contents s.fs d = files.foldl written (contents start d) := by
  have hnamed : Transfer.recvFiles hasher (opens start cwd dest)
      ⟨encode hasher files ++ trailing, contents start d⟩ =
        (.ok (files.map Prod.fst), ⟨trailing, files.foldl written (contents start d)⟩) :=
    recvFiles_eq_ok_iff.mpr ⟨files, rfl, hfiles, rfl, rfl⟩
  have hsame : Matches _ _
      (recvFiles hasher (fun _ => none) cwd dest
        ⟨encode hasher files ++ trailing, start, [], 0⟩) _ :=
    recvFiles_byName habs hd hlinks hasher (encode hasher files ++ trailing)
  rw [hnamed] at hsame
  obtain ⟨paths, s, hrun, rfl, hfinal⟩ := hsame.of_ok
  refine ⟨s, ?_, hfinal.input, hfinal.disk.symm⟩
  rw [hrun, List.map_map]
  rfl

end Operations

end Sleepwalk.Hostd.Confinement
