import Mathlib.Data.List.Basic
import Mathlib.Data.List.DropRight
import Mathlib.Logic.Function.Basic
import Mathlib.Tactic.Common

/-!
# Unix paths

Paths as bytes, the file system they lead through (directories, files and symbolic links), and what
opening one for writing does to it. A place of the file system is given by the names that lead to it
from the root, so a directory has one place. Other names of one file are not followed.

A name without a slash that is joined to a directory is the last component of the path
(`components_join`). Opening that path for writing therefore reaches an entry of the directory,
unless there is a link in its place (`FileSystem.create_join`). Neither that nor writing to the file
changes where paths lead (`FileSystem.SameTree`).
-/

namespace UnixPath

/-- A path, or a component of one. -/
abbrev Path := List UInt8

/-- The byte between components. -/
def SLASH : UInt8 := 47

/-- The component that stays where it is. -/
def dot : Path := [46]

/-- The component that leads to the parent directory. -/
def dotDot : Path := [46, 46]

/-- The names between the slashes of a path. -/
def components (path : Path) : List Path := (path.splitOn SLASH).filter fun c => c ≠ []

/-- The path starts at the root. -/
def isAbsolute (path : Path) : Bool := path.head? = some SLASH

/-- The path ends in a slash, and so can only name a directory. -/
def endsInSlash (path : Path) : Bool := path.getLast? = some SLASH

/-- A path below a directory. An absolute one replaces it. -/
def join (dir name : Path) : Path :=
  if isAbsolute name then name
  else if dir = [] ∨ endsInSlash dir then dir ++ name
  else dir ++ SLASH :: name

/-- A component that names an entry of a directory. -/
structure Ordinary (name : Path) : Prop where
  nonempty : name ≠ []
  noSlash : SLASH ∉ name
  notDot : name ≠ dot
  notDotDot : name ≠ dotDot

/-! ## Joining a name to a directory -/

section Join

variable {dir name : Path}

theorem join_eq (hslash : SLASH ∉ name) :
    join dir name = if dir = [] ∨ endsInSlash dir then dir ++ name else dir ++ SLASH :: name := by
  have hrelative : isAbsolute name = false := by
    rw [isAbsolute, decide_eq_false_iff_not]
    exact fun hhead => hslash (List.mem_of_head? hhead)
  simp [join, hrelative]

/-- A name without a slash is a component by itself. -/
theorem components_of_noSlash (hne : name ≠ []) (hslash : SLASH ∉ name) :
    components name = [name] := by
  rw [components, List.splitOn_eq_singleton hslash]
  simp [hne]

/-- What comes after a slash has components of its own. -/
theorem components_slash (dir name : Path) :
    components (dir ++ SLASH :: name) = components dir ++ components name := by
  rw [components, List.splitOn_append_cons_self, List.filter_append]
  rfl

/-- A name without a slash, joined to a directory, is the last component. -/
theorem components_join (hne : name ≠ []) (hslash : SLASH ∉ name) :
    components (join dir name) = components dir ++ [name] := by
  rw [join_eq hslash]
  split_ifs with hjoined
  · rcases hjoined with rfl | hends
    · rw [List.nil_append, components_of_noSlash hne hslash]
      rfl
    · -- The slash that the directory ends in adds no component of its own.
      have hlast : dir.getLast? = some SLASH := by simpa [endsInSlash] using hends
      obtain ⟨front, rfl⟩ := List.getLast?_eq_some_iff.mp hlast
      have hempty : components [] = [] := rfl
      rw [List.append_assoc, List.singleton_append, components_slash, components_slash,
        components_of_noSlash hne hslash, hempty, List.append_nil]
  · rw [components_slash, components_of_noSlash hne hslash]

theorem isAbsolute_join (hdir : isAbsolute dir = true) (hslash : SLASH ∉ name) :
    isAbsolute (join dir name) = true := by
  obtain ⟨rest, rfl⟩ : ∃ rest, dir = SLASH :: rest := by
    rw [isAbsolute, decide_eq_true_iff] at hdir
    exact List.head?_eq_some_iff.mp hdir
  rw [join_eq hslash]
  split
  · rfl
  · rfl

theorem endsInSlash_join (hne : name ≠ []) (hslash : SLASH ∉ name) :
    endsInSlash (join dir name) = false := by
  have hlast : ∀ front : Path, (front ++ name).getLast? ≠ some SLASH := by
    intro front hends
    rw [List.getLast?_append_of_ne_nil front hne] at hends
    exact hslash (List.mem_of_getLast? hends)
  rw [endsInSlash, decide_eq_false_iff_not, join_eq hslash]
  split_ifs
  · exact hlast dir
  · rw [← List.singleton_append, ← List.append_assoc]
    exact hlast (dir ++ [SLASH])

end Join

/-! ## The file system -/

/-- The names that lead to something from the root. -/
abbrev Place := List Path

/-- What stands at a place. -/
inductive Node where
  | dir
  | file (content : List UInt8)
  | link (target : Path)
deriving DecidableEq, Repr

/-- A node as path resolution sees it: files lead nowhere. -/
def Node.leads : Node → Option Node
  | .dir => some .dir
  | .file _ => none
  | .link target => some (.link target)

/-- A file with more at its end. -/
def Node.grow (bytes : List UInt8) : Node → Node
  | .file content => .file (content ++ bytes)
  | node => node

/-- The nodes of a file system, each in a directory. -/
structure FileSystem where
  node : Place → Option Node
  root : node [] = some .dir
  parent : ∀ p name, node (p ++ [name]) ≠ none → node p = some .dir

namespace FileSystem

/-- A directory has room for a file here, or holds one. -/
def Writable (fs : FileSystem) (p : Place) : Prop :=
  fs.node p.dropLast = some .dir ∧ (fs.node p).bind Node.leads = none

instance (fs : FileSystem) (p : Place) : Decidable (fs.Writable p) :=
  inferInstanceAs (Decidable (_ ∧ _))

/-- How many links a path may lead through. -/
def MAXSYMLINKS : ℕ := 40

/-- Where a path starts. -/
def origin (dir : Place) (path : Path) : Place := if isAbsolute path then [] else dir

/-- The place that the remaining components of a path lead to from a directory, whether or not the
last of them exists. Where the path ends in a slash it has to be a directory. -/
def resolve (fs : FileSystem) (links : ℕ) (dir : Place) (comps : List Path) (slash : Bool) :
    Except String Place :=
  match comps with
  | [] => .ok dir
  | name :: rest =>
    if name = dot then fs.resolve links dir rest slash
    else if name = dotDot then fs.resolve links dir.dropLast rest slash
    else
      match fs.node (dir ++ [name]) with
      | some (.link target) =>
        match links with
        | 0 => .error "Too many levels of symbolic links"
        | links + 1 =>
          fs.resolve links (origin dir target) (components target ++ rest)
            (slash || (rest.isEmpty && endsInSlash target))
      | some .dir => fs.resolve links (dir ++ [name]) rest slash
      | some (.file _) =>
        if rest = [] ∧ slash = false then .ok (dir ++ [name]) else .error "Not a directory"
      | none =>
        if rest = [] ∧ slash = false then .ok (dir ++ [name])
        else .error "No such file or directory"
termination_by (links, comps.length)

section Resolve

variable {fs : FileSystem} {links : ℕ} {dir : Place} {name : Path} {rest : List Path}
  {slash : Bool}

@[simp]
theorem resolve_nil : fs.resolve links dir [] slash = .ok dir := by rw [resolve]

@[simp]
theorem resolve_dot :
    fs.resolve links dir (dot :: rest) slash = fs.resolve links dir rest slash := by
  rw [resolve, if_pos rfl]

@[simp]
theorem resolve_dotDot :
    fs.resolve links dir (dotDot :: rest) slash = fs.resolve links dir.dropLast rest slash := by
  have hne : dotDot ≠ dot := by decide
  rw [resolve, if_neg hne, if_pos rfl]

variable (hdot : name ≠ dot) (hdotDot : name ≠ dotDot)

include hdot hdotDot

theorem resolve_dir (hnode : fs.node (dir ++ [name]) = some .dir) :
    fs.resolve links dir (name :: rest) slash = fs.resolve links (dir ++ [name]) rest slash := by
  rw [resolve, if_neg hdot, if_neg hdotDot, hnode]

theorem resolve_file {content : List UInt8}
    (hnode : fs.node (dir ++ [name]) = some (.file content)) :
    fs.resolve links dir (name :: rest) slash =
      if rest = [] ∧ slash = false then .ok (dir ++ [name]) else .error "Not a directory" := by
  rw [resolve, if_neg hdot, if_neg hdotDot, hnode]

theorem resolve_none (hnode : fs.node (dir ++ [name]) = none) :
    fs.resolve links dir (name :: rest) slash =
      if rest = [] ∧ slash = false then .ok (dir ++ [name])
      else .error "No such file or directory" := by
  rw [resolve, if_neg hdot, if_neg hdotDot, hnode]

variable {target : Path} (hnode : fs.node (dir ++ [name]) = some (.link target))

include hnode

theorem resolve_link :
    fs.resolve (links + 1) dir (name :: rest) slash =
      fs.resolve links (origin dir target) (components target ++ rest)
        (slash || (rest.isEmpty && endsInSlash target)) := by
  rw [resolve, if_neg hdot, if_neg hdotDot, hnode]

theorem resolve_link_zero :
    fs.resolve 0 dir (name :: rest) slash = .error "Too many levels of symbolic links" := by
  rw [resolve, if_neg hdot, if_neg hdotDot, hnode]

end Resolve

/-- The place of a path, for a process in the directory `cwd`. -/
def lookup (fs : FileSystem) (cwd : Place) (path : Path) : Except String Place :=
  if 0 ∈ path then .error "file name contained an unexpected NUL byte"
  else if path = [] then .error "No such file or directory"
  else fs.resolve MAXSYMLINKS (origin cwd path) (components path) (endsInSlash path)

theorem Writable.ne_of_dir {fs : FileSystem} {p q : Place} (hwritable : fs.Writable p)
    (hdir : fs.node q = some .dir) : q ≠ p := by
  rintro rfl
  have hleads := hwritable.2
  simp [hdir, Node.leads] at hleads

/-- A file is empty now, and new if there was none. -/
def truncate (fs : FileSystem) (p : Place) (hwritable : fs.Writable p) : FileSystem where
  node := Function.update fs.node p (some (.file []))
  root := by
    rw [Function.update_of_ne (hwritable.ne_of_dir fs.root), fs.root]
  parent := by
    intro q name hnode
    have hq : fs.node q = some .dir := by
      by_cases hp : q ++ [name] = p
      · have hparent : (q ++ [name]).dropLast = q := List.dropLast_concat
        rw [← hparent, hp]
        exact hwritable.1
      · rw [Function.update_of_ne hp] at hnode
        exact fs.parent q name hnode
    rw [Function.update_of_ne (hwritable.ne_of_dir hq), hq]

@[simp]
theorem node_truncate {fs : FileSystem} {p : Place} (hwritable : fs.Writable p) :
    (fs.truncate p hwritable).node = Function.update fs.node p (some (.file [])) := rfl

/-- A file has more at its end. -/
def append (fs : FileSystem) (p : Place) (bytes : List UInt8) : FileSystem where
  node q := if q = p then (fs.node q).map (Node.grow bytes) else fs.node q
  root := by
    rw [fs.root]
    exact ite_self _
  parent := by
    intro q name hnode
    have hq : fs.node q = some .dir := by
      refine fs.parent q name fun hnone => hnode ?_
      rw [hnone]
      exact ite_self _
    rw [hq]
    exact ite_self _

@[simp]
theorem node_append {fs : FileSystem} {p q : Place} {bytes : List UInt8} :
    (fs.append p bytes).node q =
      if q = p then (fs.node q).map (Node.grow bytes) else fs.node q := rfl

/-- Open a path for writing, with its file created or emptied. A directory cannot be. -/
def create (fs : FileSystem) (cwd : Place) (path : Path) : Except String (Place × FileSystem) :=
  match fs.lookup cwd path with
  | .error e => .error e
  | .ok p =>
    if hwritable : fs.Writable p then .ok (p, fs.truncate p hwritable)
    else .error "Is a directory"

/-- No entry of the directory is a link. -/
def HoldsNoLink (fs : FileSystem) (d : Place) : Prop :=
  ∀ name target, fs.node (d ++ [name]) ≠ some (.link target)

/-! ## What resolution depends on -/

/-- The directories and links are the same. -/
def SameTree (fs fs' : FileSystem) : Prop :=
  ∀ p, (fs.node p).bind Node.leads = (fs'.node p).bind Node.leads

variable {fs fs' : FileSystem} {p d : Place}

theorem SameTree.refl (fs : FileSystem) : SameTree fs fs := fun _ => rfl

theorem SameTree.trans {fs'' : FileSystem} (h : SameTree fs fs') (h' : SameTree fs' fs'') :
    SameTree fs fs'' := fun p => (h p).trans (h' p)

theorem SameTree.symm (h : SameTree fs fs') : SameTree fs' fs := fun p => (h p).symm

theorem sameTree_truncate (hwritable : fs.Writable p) : SameTree fs (fs.truncate p hwritable) := by
  intro q
  by_cases hq : q = p
  · subst hq
    rw [hwritable.2, node_truncate, Function.update_self]
    rfl
  · rw [node_truncate, Function.update_of_ne hq]

theorem sameTree_append {bytes : List UInt8} : SameTree fs (fs.append p bytes) := by
  intro q
  rw [node_append]
  split_ifs
  · rcases fs.node q with - | (- | content | target)
    · rfl
    · rfl
    · rfl
    · rfl
  · rfl

theorem SameTree.dir (h : SameTree fs fs') (hdir : fs.node p = some .dir) :
    fs'.node p = some .dir := by
  have hp := h p
  rw [hdir] at hp
  rcases hnode : fs'.node p with - | (- | content | target)
  all_goals simp_all [Node.leads]

theorem SameTree.link {target : Path} (h : SameTree fs fs')
    (hlink : fs.node p = some (.link target)) : fs'.node p = some (.link target) := by
  have hp := h p
  rw [hlink] at hp
  rcases hnode : fs'.node p with - | (- | content | target')
  all_goals simp_all [Node.leads]

theorem SameTree.writable_iff (h : SameTree fs fs') : fs.Writable p ↔ fs'.Writable p := by
  rw [Writable, Writable, h p]
  exact and_congr_left fun _ => ⟨h.dir, h.symm.dir⟩

theorem SameTree.holdsNoLink (h : SameTree fs fs') (hlinks : fs.HoldsNoLink d) :
    fs'.HoldsNoLink d := fun name target hnode => hlinks name target (h.symm.link hnode)

/-- Which directory a path leads to is the same. -/
theorem SameTree.resolve (h : SameTree fs fs') {links : ℕ} {dir : Place} {comps : List Path}
    (hd : fs.resolve links dir comps true = .ok d) :
    fs'.resolve links dir comps true = .ok d := by
  generalize hslash : true = slash at hd ⊢
  fun_induction fs.resolve links dir comps slash with
  | case1 =>
    rw [resolve_nil]
    exact hd
  | case2 links dir slash rest ih =>
    rw [resolve_dot]
    exact ih hslash hd
  | case3 links dir slash rest _ ih =>
    rw [resolve_dotDot]
    exact ih hslash hd
  | case4 => cases hd
  | case5 dir slash name rest hdot hdotDot target hnode links ih =>
    rw [resolve_link hdot hdotDot (h.link hnode)]
    refine ih ?_ hd
    rw [← hslash, Bool.true_or]
  | case6 links dir slash name rest hdot hdotDot hnode ih =>
    rw [resolve_dir hdot hdotDot (h.dir hnode)]
    exact ih hslash hd
  -- A path that has to lead to a directory does not end at a file, or at nothing.
  | case7 _ _ _ _ _ _ _ _ _ hends => cases hslash.trans hends.2
  | case8 => cases hd
  | case9 _ _ _ _ _ _ _ _ hends => cases hslash.trans hends.2
  | case10 => cases hd

/-! ## Where a path leads -/

theorem node_dropLast (hdir : fs.node p = some .dir) : fs.node p.dropLast = some .dir := by
  rcases List.eq_nil_or_concat p with rfl | ⟨q, name, rfl⟩
  · exact hdir
  · rw [List.concat_eq_append, List.dropLast_concat]
    refine fs.parent q name ?_
    rw [← List.concat_eq_append, hdir]
    exact Option.some_ne_none _

/-- A path that has to lead to a directory does. -/
theorem node_resolve {links : ℕ} {dir : Place} {comps : List Path}
    (hdir : fs.node dir = some .dir) (hd : fs.resolve links dir comps true = .ok d) :
    fs.node d = some .dir := by
  generalize hslash : true = slash at hd
  fun_induction fs.resolve links dir comps slash with
  | case1 =>
    obtain rfl := Except.ok.inj hd
    exact hdir
  | case2 _ _ _ _ ih => exact ih hdir hslash hd
  | case3 _ _ _ _ _ ih => exact ih (node_dropLast hdir) hslash hd
  | case4 => cases hd
  | case5 dir slash name rest _ _ target _ links ih =>
    refine ih ?_ (by rw [← hslash, Bool.true_or]) hd
    rw [origin]
    split
    · exact fs.root
    · exact hdir
  | case6 _ _ _ _ _ _ _ hnode ih => exact ih hnode hslash hd
  | case7 _ _ _ _ _ _ _ _ _ hends => cases hslash.trans hends.2
  | case8 => cases hd
  | case9 _ _ _ _ _ _ _ _ hends => cases hslash.trans hends.2
  | case10 => cases hd

/-- What a path leads to is found in the directory that all but its last component lead to, if there
is one. -/
theorem resolve_concat (fs : FileSystem) (links : ℕ) (dir : Place) (front : List Path)
    (name : Path) :
    (∃ links' d, fs.resolve links dir front true = .ok d ∧
      fs.resolve links dir (front ++ [name]) false = fs.resolve links' d [name] false) ∨
    ∃ e e', fs.resolve links dir front true = .error e ∧
      fs.resolve links dir (front ++ [name]) false = .error e' := by
  generalize hslash : true = slash
  fun_induction fs.resolve links dir front slash with
  | case1 links dir => exact Or.inl ⟨links, dir, rfl, rfl⟩
  | case2 links dir slash rest ih =>
    rw [List.cons_append, resolve_dot]
    exact ih hslash
  | case3 links dir slash rest _ ih =>
    rw [List.cons_append, resolve_dotDot]
    exact ih hslash
  | case4 dir slash name' rest hdot hdotDot target hnode =>
    rw [List.cons_append, resolve_link_zero hdot hdotDot hnode]
    exact Or.inr ⟨_, _, rfl, rfl⟩
  | case5 dir slash name' rest hdot hdotDot target hnode links ih =>
    -- What the link stands for is followed by the rest of the path, so it is not the last.
    have hmore : (rest ++ [name]).isEmpty = false := by simp
    rw [List.cons_append, resolve_link hdot hdotDot hnode, hmore, Bool.false_and, Bool.or_false,
      ← List.append_assoc]
    exact ih (by rw [← hslash, Bool.true_or])
  | case6 links dir slash name' rest hdot hdotDot hnode ih =>
    rw [List.cons_append, resolve_dir hdot hdotDot hnode]
    exact ih hslash
  | case7 _ _ _ _ _ _ _ _ _ hends => cases hslash.trans hends.2
  | case8 links dir slash name' rest hdot hdotDot content hnode _ =>
    rw [List.cons_append, resolve_file hdot hdotDot hnode]
    exact Or.inr ⟨_, _, rfl, if_neg (by simp)⟩
  | case9 _ _ _ _ _ _ _ _ hends => cases hslash.trans hends.2
  | case10 links dir slash name' rest hdot hdotDot hnode _ =>
    rw [List.cons_append, resolve_none hdot hdotDot hnode]
    exact Or.inr ⟨_, _, rfl, if_neg (by simp)⟩

/-- A name that is not a link leads to its entry, and `.` to the directory. -/
theorem resolve_singleton {links : ℕ} {name : Path} (hdotDot : name ≠ dotDot)
    (hlink : ∀ target, fs.node (d ++ [name]) ≠ some (.link target)) :
    fs.resolve links d [name] false = .ok (if name = dot then d else d ++ [name]) := by
  by_cases hdot : name = dot
  · rw [if_pos hdot, hdot, resolve_dot, resolve_nil]
  · rw [if_neg hdot]
    rcases hentry : fs.node (d ++ [name]) with - | (- | content | target)
    · rw [resolve_none hdot hdotDot hentry]
      rfl
    · rw [resolve_dir hdot hdotDot hentry, resolve_nil]
    · rw [resolve_file hdot hdotDot hentry]
      rfl
    · exact absurd hentry (hlink target)

/-- The directory that an absolute path names. -/
def directory (fs : FileSystem) (path : Path) : Except String Place :=
  fs.resolve MAXSYMLINKS [] (components path) true

section Join

variable {cwd : Place} {dir name : Path} (hdir : isAbsolute dir = true) (hne : name ≠ [])
  (hslash : SLASH ∉ name)

include hdir hne hslash

theorem lookup_join_eq (hnul : 0 ∉ join dir name) :
    fs.lookup cwd (join dir name) =
      fs.resolve MAXSYMLINKS [] (components dir ++ [name]) false := by
  have habs : isAbsolute (join dir name) = true := isAbsolute_join hdir hslash
  have hjoin : join dir name ≠ [] := by
    intro hnil
    rw [hnil] at habs
    exact absurd habs (by decide)
  rw [lookup, if_neg hnul, if_neg hjoin, origin, if_pos habs, components_join hne hslash,
    endsInSlash_join hne hslash]

/-- A path that ends in a name can be opened only if the rest of it leads to a directory. -/
theorem directory_of_create_join (h : fs.create cwd (join dir name) = .ok (p, fs')) :
    ∃ d, fs.directory dir = .ok d := by
  rcases hlookup : fs.lookup cwd (join dir name) with e | q
  · simp [create, hlookup] at h
  · by_cases hnul : 0 ∈ join dir name
    · rw [lookup, if_pos hnul] at hlookup
      cases hlookup
    · rw [lookup_join_eq hdir hne hslash hnul] at hlookup
      rcases resolve_concat fs MAXSYMLINKS [] (components dir) name with
        ⟨_, d, hd, -⟩ | ⟨_, _, -, herror⟩
      · exact ⟨d, hd⟩
      · cases herror.symm.trans hlookup

variable (hdotDot : name ≠ dotDot) (hd : fs.directory dir = .ok d) (hlinks : fs.HoldsNoLink d)

include hdotDot hd hlinks

/-- A name in a directory without links leads to its entry, and `.` to the directory. -/
theorem lookup_join :
    fs.lookup cwd (join dir name) =
      if 0 ∈ join dir name then .error "file name contained an unexpected NUL byte"
      else .ok (if name = dot then d else d ++ [name]) := by
  split_ifs with hnul
  · rw [lookup, if_pos hnul]
  all_goals
    rw [lookup_join_eq hdir hne hslash hnul]
    rcases resolve_concat fs MAXSYMLINKS [] (components dir) name with
      ⟨links, d', hd', hlast⟩ | ⟨_, _, herror, -⟩
    · obtain rfl : d' = d := Except.ok.inj (hd'.symm.trans hd)
      rw [hlast, resolve_singleton hdotDot fun target => hlinks name target]
      simp_all
    · cases herror.symm.trans hd

/-- Opening a name in a directory without links for writing opens an entry of that directory. -/
theorem create_join (h : fs.create cwd (join dir name) = .ok (p, fs')) :
    Ordinary name ∧ p = d ++ [name] ∧
      ∃ hwritable : fs.Writable p, fs' = fs.truncate p hwritable := by
  rw [create, lookup_join hdir hne hslash hdotDot hd hlinks] at h
  by_cases hnul : 0 ∈ join dir name
  · simp [hnul] at h
  · rw [if_neg hnul] at h
    by_cases hdot : name = dot
    · -- The directory itself cannot be opened.
      have hself : ¬ fs.Writable d := fun hw => hw.ne_of_dir (node_resolve fs.root hd) rfl
      rw [if_pos hdot] at h
      simp [hself] at h
    · simp only [if_neg hdot] at h
      split at h
      case isFalse => cases h
      case isTrue hwritable =>
        obtain ⟨rfl, rfl⟩ : d ++ [name] = p ∧ fs.truncate _ hwritable = fs' := by simpa using h
        exact ⟨⟨hne, hslash, hdot, hdotDot⟩, rfl, hwritable, rfl⟩

/-- Whether it can be opened, and where, depends on the directories and links alone. -/
theorem SameTree.create_join (h : SameTree fs fs') :
    (fs.create cwd (join dir name)).map Prod.fst =
      (fs'.create cwd (join dir name)).map Prod.fst := by
  rw [create, create, lookup_join hdir hne hslash hdotDot hd hlinks,
    lookup_join hdir hne hslash hdotDot (h.resolve hd) (h.holdsNoLink hlinks)]
  by_cases hnul : 0 ∈ join dir name
  · simp only [if_pos hnul]
  · simp only [if_neg hnul]
    generalize (if name = dot then d else d ++ [name]) = p
    by_cases hwritable : fs.Writable p
    · rw [dif_pos hwritable, dif_pos (h.writable_iff.mp hwritable)]
      rfl
    · rw [dif_neg hwritable, dif_neg fun hw => hwritable (h.writable_iff.mpr hw)]

end Join

end FileSystem

end UnixPath
