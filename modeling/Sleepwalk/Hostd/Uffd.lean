import Mathlib.Data.List.Find
import Mathlib.Data.List.Pairwise
import Mathlib.Data.Nat.Bitwise
import Sleepwalk.Lib.Bytes
import Sleepwalk.Lib.Paging

/-!
# The page-fault server

`hostd::uffd`: a restored guest starts with empty memory, and each page is read from the snapshot
file and copied in on its first touch. `serveFault` resolves one fault, `serveLoop` is the loop
that reads events until it is told to stop or fails, and `serve` accepts Firecracker's connection
first. The kernel's side is a `Userfaultfd` with `copy` and `zeropage`, which refuse a page that is
not registered or that is present, and `readAt`, which reads nothing beyond `i64::MAX` and comes up
short only at the end of the file.

On a `Layout` a fault is one touch of demand paging (`exec_serveFault`), with the eager load of the
file as the image.

* `lazy_is_eager`: faults on pages that are absent install what an eager load would have.
* `serve_survives_iff`: the loop outlives a sequence of faults exactly if no page is touched twice.
-/

namespace Sleepwalk.Hostd.Uffd

open Exec

/-! ## Addresses -/

/-- A size of pages: a power of two. -/
structure PageSize where
  log : ℕ
  log_lt : log < 64

namespace PageSize

/-- The number of bytes in a page. -/
def size (page : PageSize) : ℕ := 2 ^ page.log

/-- The same as a machine integer. -/
def bytes (page : PageSize) : UInt64 := .ofNat page.size

/-- The page of an address. -/
def of (page : PageSize) (addr : UInt64) : UInt64 := addr &&& ~~~(page.bytes - 1)

end PageSize

/-- One guest memory region, as Firecracker describes it. -/
structure GuestRegionUffdMapping where
  /-- Base address of the region in Firecracker's virtual address space. -/
  baseHostVirtAddr : UInt64
  /-- Region length in bytes. -/
  size : UInt64
  /-- The region's offset within the snapshot memory file. -/
  offset : UInt64
  /-- The region's page size in bytes. -/
  pageSize : UInt64
deriving DecidableEq, Repr

namespace GuestRegionUffdMapping

/-- Whether an address falls within the region. -/
def contains (region : GuestRegionUffdMapping) (addr : UInt64) : Bool :=
  addr ≥ region.baseHostVirtAddr && addr < region.baseHostVirtAddr + region.size

/-- The file offset that backs an address of the region. -/
def fileOffset (region : GuestRegionUffdMapping) (addr : UInt64) : UInt64 :=
  region.offset + (addr - region.baseHostVirtAddr)

end GuestRegionUffdMapping

/-! ## The server -/

/-- What the kernel reports. -/
inductive Errno where
  | EAGAIN
  | EEXIST
  | EINVAL
  | other (code : ℕ)
deriving DecidableEq, Repr

/-- An error from the page-fault server. -/
inductive UffdError where
  /-- A userfaultfd operation failed. -/
  | uffd (e : Errno)
  /-- An I/O error. -/
  | io (e : Errno)
  /-- A fault landed outside the registered region. -/
  | outOfRange (addr base stop : UInt64)
  /-- A fault address matched none of the memory regions Firecracker sent. -/
  | noRegion (addr : UInt64)
  /-- The handshake message from Firecracker was malformed. -/
  | handshake (detail : String)
deriving DecidableEq, Repr

/-- The userfaultfd of a process, by what it says of a page that it does not install: `ENOENT` where
nothing is registered, and `EINVAL` where a process has no addresses. -/
structure Userfaultfd (page : PageSize) where
  refusal : UInt64 → Option Errno
  /-- No process has addresses in the upper half. -/
  upper : ∀ p, 2 ^ 63 ≤ p.toNat + page.size → refusal p = some .EINVAL

/-- The pages of the guest that are present, by their addresses. -/
abbrev Memory := UInt64 → Option (List UInt8)

/-- A computation of the server. -/
abbrev ServerM := ExceptT UffdError (StateM Memory)

/-- Read up to `n` bytes at an offset. What is asked for may not go beyond the offsets there are. -/
def readAt (mem : List UInt8) (n : ℕ) (offset : UInt64) : Except UffdError (List UInt8) :=
  if offset.toNat + n < 2 ^ 63 then .ok ((mem.drop offset.toNat).take n) else .error (.io .EINVAL)

section Kernel

variable {page : PageSize} (uffd : Userfaultfd page)

/-- `UFFDIO_COPY` of one page. -/
def copy (buf : List UInt8) (dst : UInt64) : ServerM Unit :=
  match uffd.refusal dst with
  | some e => throw (.uffd e)
  | none => do
    let m ← get
    if (m dst).isSome then throw (.uffd .EEXIST)
    else set (Function.update m dst (some buf) : Memory)

/-- More zero pages after the first. One that cannot be installed leaves part of the range done. -/
def zeroRest (start : UInt64) : ℕ → ServerM Unit
  | 0 => pure ()
  | pages + 1 => do
    tryCatch (copy uffd (List.replicate page.size 0) start) fun _ => throw (.uffd .EAGAIN)
    zeroRest (start + page.bytes) pages

/-- `UFFDIO_ZEROPAGE` of a range, which is checked as a whole first. -/
def zeropage (start len : UInt64) : ServerM Unit :=
  let pages := len.toNat / page.size
  if len = 0 ∨ ¬ page.size ∣ len.toNat then throw (.uffd .EINVAL)
  else
    match (List.range pages).findSome? fun i => uffd.refusal (start + .ofNat (i * page.size)) with
    | some e => throw (.uffd e)
    | none => do
      copy uffd (List.replicate page.size 0) start
      zeroRest uffd (start + page.bytes) (pages - 1)

end Kernel

/-- Resolve one Firecracker fault: locate the region, read the page from the snapshot file, and copy
it into the faulting address. -/
def serveFault {page : PageSize} (uffd : Userfaultfd page) (mappings : List GuestRegionUffdMapping)
    (mem : List UInt8) (addr : UInt64) : ServerM Unit := do
  let aligned := page.of addr
  match mappings.find? (·.contains aligned) with
  | none => throw (.noRegion aligned)
  | some region =>
    match readAt mem page.size (region.fileOffset aligned) with
    | .error e => throw e
    | .ok read => copy uffd (read ++ List.replicate (page.size - read.length) 0) aligned

/-- An event of the userfaultfd. -/
inductive Event where
  | pagefault (addr : UInt64)
  | remove (start stop : UInt64)
  /-- A fork, a remap or an unmap. -/
  | other
deriving DecidableEq, Repr

/-- What one turn of the loop meets. -/
inductive Wake where
  /-- The stop flag is set. -/
  | stopped
  /-- The poll times out. -/
  | timedOut
  /-- The poll is interrupted. -/
  | interrupted
  /-- The poll fails. -/
  | failed (e : Errno)
  /-- Successive `read_event` calls return these events, and then none or an error. A fault is among
  them when it is read, not when it is queued: serving one wakes all threads that wait for its page,
  and takes their faults off the queue. -/
  | ready (events : List Event) (broken : Option Errno)
deriving DecidableEq, Repr

/-- Where the loop is when it has not failed. -/
inductive Served where
  /-- It has returned. -/
  | stopped
  /-- It goes on. -/
  | serving
deriving DecidableEq, Repr

section Server

variable {page : PageSize} (uffd : Userfaultfd page) (mappings : List GuestRegionUffdMapping)
  (mem : List UInt8)

/-- Handle one event. -/
def handleEvent : Event → ServerM Unit
  | .pagefault addr => serveFault uffd mappings mem addr
  | .remove start stop => zeropage uffd start (stop - start)
  | .other => pure ()

/-- Serve faults until told to stop. -/
def serveLoop : List Wake → ServerM Served
  | [] => pure .serving
  | .stopped :: _ => pure .stopped
  | .timedOut :: wakes => serveLoop wakes
  | .interrupted :: wakes => serveLoop wakes
  | .failed e :: _ => throw (.io e)
  | .ready events broken :: wakes => do
    events.forM (handleEvent uffd mappings mem)
    match broken with
    | some e => throw (.uffd e)
    | none => serveLoop wakes

/-- Resolve some faults one after the other, whatever comes of each. -/
def serveFaults (faults : List UInt64) (m : Memory) : Memory :=
  faults.foldl (fun m addr => (exec (serveFault uffd mappings mem addr) m).2) m

end Server

/-- Accept Firecracker's connection, receive its userfaultfd and memory layout, and serve faults
from the memory file. Nothing is accepted if the server is stopped first. -/
def serve {page : PageSize} (accepted : Except UffdError (Option (Except UffdError
    (Userfaultfd page × List GuestRegionUffdMapping)))) (opened : Except Errno (List UInt8))
    (wakes : List Wake) : ServerM Served :=
  match accepted with
  | .error e => throw e
  | .ok none => pure .stopped
  | .ok (some (.error e)) => throw e
  | .ok (some (.ok (uffd, mappings))) =>
    match opened with
    | .error e => throw (.io e)
    | .ok mem => serveLoop uffd mappings mem wakes

/-! ## Eager loading -/

/-- An address of the region. -/
def GuestRegionUffdMapping.Covers (region : GuestRegionUffdMapping) (a : ℕ) : Prop :=
  region.baseHostVirtAddr.toNat ≤ a ∧ a < region.baseHostVirtAddr.toNat + region.size.toNat

instance (region : GuestRegionUffdMapping) (a : ℕ) : Decidable (region.Covers a) :=
  inferInstanceAs (Decidable (_ ∧ _))

/-- So many bytes of a file from an offset on, zero beyond its end. -/
def window (mem : List UInt8) (offset n : ℕ) : List UInt8 :=
  (List.range n).map fun i => mem.getD (offset + i) 0

/-- What an eager load of the whole file puts at an address. -/
def eagerLoad (regions : List GuestRegionUffdMapping) (mem : List UInt8) (a : ℕ) : Option UInt8 :=
  (regions.find? fun r => r.Covers a).map fun r =>
    mem.getD (r.offset.toNat + (a - r.baseHostVirtAddr.toNat)) 0

/-- A page with the bytes of an eager load. -/
def EagerPage (page : PageSize) (regions : List GuestRegionUffdMapping) (mem : List UInt8)
    (p : UInt64) (bytes : List UInt8) : Prop :=
  bytes.length = page.size ∧ ∀ i < page.size, bytes[i]? = eagerLoad regions mem (p.toNat + i)

/-- Regions of whole pages that share no address. -/
structure Regions (page : PageSize) (regions : List GuestRegionUffdMapping) : Prop where
  aligned : ∀ r ∈ regions, page.size ∣ r.baseHostVirtAddr.toNat ∧ page.size ∣ r.size.toNat ∧
    page.size ∣ r.offset.toNat
  disjoint : regions.Pairwise fun r s => ∀ a, r.Covers a → ¬ s.Covers a
  ends : ∀ r ∈ regions, r.baseHostVirtAddr.toNat + r.size.toNat ≤ 2 ^ 64
  pageSize : ∀ r ∈ regions, r.pageSize = page.bytes

/-- Regions that are registered, at offsets that a file can have. -/
structure Layout {page : PageSize} (uffd : Userfaultfd page)
    (regions : List GuestRegionUffdMapping) : Prop extends Regions page regions where
  mapped : ∀ r ∈ regions, ∀ a : UInt64, r.Covers a.toNat → uffd.refusal (page.of a) = none
  offsets : ∀ r ∈ regions, r.size ≠ 0 → r.offset.toNat + r.size.toNat < 2 ^ 63

/-- A page of the eager load, if a region has it. -/
def image (page : PageSize) (regions : List GuestRegionUffdMapping) (mem : List UInt8)
    (p : UInt64) : Option (List UInt8) :=
  (regions.find? fun r => r.Covers p.toNat).map fun r =>
    window mem (r.offset.toNat + (p.toNat - r.baseHostVirtAddr.toNat)) page.size

/-! ## Pages and addresses -/

section Pages

variable {page : PageSize} {a : UInt64} {r : GuestRegionUffdMapping}

theorem PageSize.size_pos (page : PageSize) : 0 < page.size := Nat.two_pow_pos _

theorem PageSize.toNat_bytes (page : PageSize) : page.bytes.toNat = page.size := by
  have hlt : 2 ^ page.log < 2 ^ 64 := Nat.pow_lt_pow_right (by decide) page.log_lt
  rw [bytes, UInt64.toNat_ofNat', size, Nat.mod_eq_of_lt hlt]

/-- Clearing the low `k` bits rounds down to a multiple of `2 ^ k`. -/
theorem and_mask {a k w : ℕ} (hk : k ≤ w) (ha : a < 2 ^ w) :
    a &&& (2 ^ w - 1 - (2 ^ k - 1)) = a / 2 ^ k * 2 ^ k := by
  have hpos : 0 < 2 ^ k := Nat.two_pow_pos k
  have hle : 2 ^ k ≤ 2 ^ w := Nat.pow_le_pow_right (by decide) hk
  have hmask : 2 ^ w - 1 - (2 ^ k - 1) = 2 ^ w - ((2 ^ k - 1) + 1) := by omega
  apply Nat.eq_of_testBit_eq
  intro i
  rw [hmask, Nat.testBit_and, Nat.testBit_two_pow_sub_succ (by omega), Nat.testBit_two_pow_sub_one,
    Nat.testBit_mul_two_pow, Nat.testBit_div_two_pow]
  by_cases hi : k ≤ i
  · by_cases hw : i < w
    · simp [hi, hw]
    · have hbit : a.testBit i = false :=
        Nat.testBit_eq_false_of_lt (ha.trans_le (Nat.pow_le_pow_right (by decide) (by omega)))
      simp [hi, hbit]
  · have hlt : i < k := by omega
    simp [hi, hlt]

theorem PageSize.toNat_of (page : PageSize) (addr : UInt64) :
    (page.of addr).toNat = addr.toNat / page.size * page.size := by
  have hpos : 1 ≤ page.bytes := by
    rw [UInt64.le_iff_toNat_le, page.toNat_bytes]
    exact page.size_pos
  rw [PageSize.of, UInt64.toNat_and, UInt64.toNat_not, UInt64.toNat_sub_of_le _ _ hpos,
    page.toNat_bytes]
  exact and_mask page.log_lt.le addr.toNat_lt

/-- A region of whole pages covers all of a page or nothing of it. -/
theorem covers_page_iff (hbase : page.size ∣ r.baseHostVirtAddr.toNat)
    (hsize : page.size ∣ r.size.toNat) (q : ℕ) {i : ℕ} (hi : i < page.size) :
    r.Covers (q * page.size + i) ↔ r.Covers (q * page.size) := by
  obtain ⟨b, hb⟩ := hbase
  obtain ⟨s, hs⟩ := hsize
  have hpos := page.size_pos
  rw [GuestRegionUffdMapping.Covers, GuestRegionUffdMapping.Covers, hb, hs,
    Nat.mul_comm page.size b, Nat.mul_comm page.size s, ← Nat.add_mul]
  -- Both ends are multiples of the page size, as is the start of the page.
  have hlow : b * page.size ≤ q * page.size + i ↔ b * page.size ≤ q * page.size := by
    rw [Nat.mul_le_mul_right_iff hpos, ← Nat.lt_succ_iff, ← Nat.lt_succ_iff]
    constructor
    · intro h
      by_contra hlt
      have hmul : (q + 1) * page.size ≤ b * page.size := Nat.mul_le_mul_right _ (by omega)
      rw [Nat.add_mul] at hmul
      omega
    · intro h
      have hmul : b * page.size ≤ q * page.size := Nat.mul_le_mul_right _ (by omega)
      omega
  have hhigh : q * page.size + i < (b + s) * page.size ↔ q * page.size < (b + s) * page.size := by
    constructor
    · omega
    · intro h
      have hq : q < b + s := Nat.lt_of_mul_lt_mul_right h
      have hmul : (q + 1) * page.size ≤ (b + s) * page.size := Nat.mul_le_mul_right _ hq
      rw [Nat.add_mul] at hmul
      omega
  rw [hlow, hhigh]

end Pages

/-! ## One fault -/

section Fault

variable {page : PageSize} {uffd : Userfaultfd page} {regions : List GuestRegionUffdMapping}
  {mem : List UInt8} {a p : UInt64} {r : GuestRegionUffdMapping} {c : List UInt8} {m : Memory}

theorem contains_eq (hbelow : r.size ≠ 0 → r.baseHostVirtAddr.toNat + r.size.toNat < 2 ^ 64) :
    r.contains a = decide (r.Covers a.toNat) := by
  have hend : (r.baseHostVirtAddr + r.size).toNat = r.baseHostVirtAddr.toNat + r.size.toNat := by
    rw [UInt64.toNat_add]
    apply Nat.mod_eq_of_lt
    by_cases hsize : r.size = 0
    · rw [hsize]
      exact r.baseHostVirtAddr.toNat_lt
    · exact hbelow hsize
  rw [Bool.eq_iff_iff, decide_eq_true_iff]
  simp [GuestRegionUffdMapping.contains, GuestRegionUffdMapping.Covers, UInt64.le_iff_toNat_le,
    UInt64.lt_iff_toNat_lt, hend]

/-- The addresses of a page are covered by the same regions as its first one. -/
theorem covers_of_iff (h : Regions page regions) (hr : r ∈ regions) (a : UInt64) {i : ℕ}
    (hi : i < page.size) : r.Covers ((page.of a).toNat + i) ↔ r.Covers (page.of a).toNat := by
  obtain ⟨hbase, hsize, -⟩ := h.aligned r hr
  rw [page.toNat_of]
  exact covers_page_iff hbase hsize _ hi

theorem covers_iff (h : Regions page regions) (hr : r ∈ regions) (a : UInt64) :
    r.Covers a.toNat ↔ r.Covers (page.of a).toNat := by
  have haddr : a.toNat = (page.of a).toNat + a.toNat % page.size := by
    rw [page.toNat_of, Nat.mul_comm, Nat.div_add_mod]
  have hsame := covers_of_iff h hr a (Nat.mod_lt a.toNat page.size_pos)
  rwa [← haddr] at hsame

theorem ne_zero_of_covers {a : ℕ} (hcovers : r.Covers a) : r.size ≠ 0 := by
  intro hzero
  obtain ⟨hlow, hhigh⟩ := hcovers
  rw [hzero] at hhigh
  exact absurd hhigh (by simpa using hlow)

/-- The page of an address is inside the region, if the address is. -/
theorem page_le (h : Regions page regions) (hr : r ∈ regions)
    (hcovers : r.Covers (page.of a).toNat) :
    (page.of a).toNat + page.size ≤ r.baseHostVirtAddr.toNat + r.size.toNat := by
  have hpos := page.size_pos
  have hlast := (covers_of_iff h hr a (show page.size - 1 < page.size by omega)).mpr hcovers
  have hhigh := hlast.2
  omega

/-- Regions that are registered end in the lower half. -/
theorem Layout.below (h : Layout uffd regions) (hr : r ∈ regions) (hsize : r.size ≠ 0) :
    r.baseHostVirtAddr.toNat + r.size.toNat < 2 ^ 63 := by
  have hends := h.ends r hr
  have hpositive : 0 < r.size.toNat := UInt64.lt_iff_toNat_lt.mp (UInt64.pos_iff_ne_zero.mpr hsize)
  -- The page of the last address of the region is registered, so it is in the lower half.
  have hlast : (UInt64.ofNat (r.baseHostVirtAddr.toNat + r.size.toNat - 1)).toNat =
      r.baseHostVirtAddr.toNat + r.size.toNat - 1 :=
    UInt64.toNat_ofNat_of_lt' (show _ < 2 ^ 64 by omega)
  generalize UInt64.ofNat (r.baseHostVirtAddr.toNat + r.size.toNat - 1) = last at hlast
  have hmapped := h.mapped r hr last ⟨by omega, by omega⟩
  have hmod := Nat.mod_lt last.toNat page.size_pos
  have hdiv := Nat.div_add_mod' last.toNat page.size
  rw [← page.toNat_of] at hdiv
  by_contra hupper
  have hrefused := uffd.upper (page.of last) (by omega)
  rw [hmapped] at hrefused
  cases hrefused

/-- The file range of a page of the layout has offsets, and their sum does not wrap. -/
theorem toNat_fileOffset (h : Layout uffd regions) (hr : r ∈ regions)
    (hcovers : r.Covers (page.of a).toNat) :
    (r.fileOffset (page.of a)).toNat =
        r.offset.toNat + ((page.of a).toNat - r.baseHostVirtAddr.toNat) ∧
      (r.fileOffset (page.of a)).toNat + page.size < 2 ^ 63 := by
  have hfits := h.offsets r hr (ne_zero_of_covers hcovers)
  have hpage := page_le h.toRegions hr hcovers
  have hlow := hcovers.1
  have hsub : (page.of a - r.baseHostVirtAddr).toNat =
      (page.of a).toNat - r.baseHostVirtAddr.toNat :=
    UInt64.toNat_sub_of_le _ _ (UInt64.le_iff_toNat_le.mpr hlow)
  have hsum : (r.fileOffset (page.of a)).toNat =
      r.offset.toNat + ((page.of a).toNat - r.baseHostVirtAddr.toNat) := by
    rw [GuestRegionUffdMapping.fileOffset, UInt64.toNat_add, hsub]
    exact Nat.mod_eq_of_lt (by omega)
  exact ⟨hsum, by omega⟩

/-- A read that is filled up with zeros is a window of the file. -/
theorem filled_eq_window (mem : List UInt8) (offset n : ℕ) :
    (mem.drop offset).take n ++ List.replicate (n - ((mem.drop offset).take n).length) 0 =
      window mem offset n := by
  apply List.ext_getElem?
  intro i
  rw [window, List.getElem?_map, List.getElem?_append, List.length_take, List.length_drop,
    List.getElem?_take, List.getElem?_drop, List.getElem?_replicate]
  simp only [List.getD_eq_getElem?_getD]
  -- Before the end of the file it is the byte that was read, and past it the zero of the buffer.
  by_cases hi : i < n
  · by_cases hend : offset + i < mem.length
    · have hshort : i < min n (mem.length - offset) := by omega
      simp [hi, hend, hshort]
    · have hshort : ¬ i < min n (mem.length - offset) := by omega
      have hnone : mem[offset + i]? = none := List.getElem?_eq_none (by omega)
      have hzero : i - min n (mem.length - offset) < n - min n (mem.length - offset) := by omega
      simp [hi, hnone, hshort, hzero]
  · have hshort : ¬ i < min n (mem.length - offset) := by omega
    have hzero : ¬ i - min n (mem.length - offset) < n - min n (mem.length - offset) := by omega
    simp [hi, hshort, hzero]

theorem exec_copy {dst : UInt64} (hmapped : uffd.refusal dst = none) (buf : List UInt8)
    (m : Memory) :
    exec (copy uffd buf dst) m =
      if (m dst).isSome then (.error (.uffd .EEXIST), m)
      else (.ok (), Function.update m dst (some buf)) := by
  rw [copy, hmapped]
  dsimp only
  rw [exec_bind, exec_get]
  by_cases h : (m dst).isSome = true
  · simp [h]
  · simp [h, exec_set]

/-- A page that is refused is not copied. -/
theorem exec_copy_refused {dst : UInt64} {e : Errno} (hrefused : uffd.refusal dst = some e)
    (buf : List UInt8) (m : Memory) : exec (copy uffd buf dst) m = (.error (.uffd e), m) := by
  rw [copy, hrefused]
  rfl

/-- How the server reports a refusal. -/
def refusal : Paging.Refusal UInt64 → UffdError
  | .unmapped p => .noRegion p
  | .present _ => .uffd .EEXIST

/-- What the server makes of the result of touching pages. -/
def reported {α : Type} (value : α) (r : Except (Paging.Refusal UInt64) Unit × Memory) :
    Except UffdError α × Memory :=
  ((r.1.mapError refusal).map fun _ => value, r.2)

/-- A fault touches the page of its address. -/
theorem exec_serveFault (h : Layout uffd regions) (mem : List UInt8) (a : UInt64) (m : Memory) :
    exec (serveFault uffd regions mem a) m =
      reported () (Paging.touch (image page regions mem) (page.of a) m) := by
  -- In a layout no sum of the lookup wraps.
  have hfind : regions.find? (·.contains (page.of a)) =
      regions.find? fun r => r.Covers (page.of a).toNat :=
    List.find?_congr fun r hr => contains_eq fun hsize => (h.below hr hsize).trans (by decide)
  rw [serveFault, hfind, Paging.touch, image]
  cases hregion : regions.find? fun r => r.Covers (page.of a).toNat with
  | none => rfl
  | some r =>
    have hmem := List.mem_of_find?_eq_some hregion
    have hcovers : r.Covers (page.of a).toNat := by simpa using List.find?_some hregion
    obtain ⟨hoffset, hlt⟩ := toNat_fileOffset h hmem hcovers
    have hmapped := h.mapped r hmem a ((covers_iff h.toRegions hmem a).mpr hcovers)
    have hread : readAt mem page.size (r.fileOffset (page.of a)) =
        .ok ((mem.drop (r.fileOffset (page.of a)).toNat).take page.size) := if_pos hlt
    simp only [hread, Option.map_some, filled_eq_window, exec_copy hmapped, hoffset]
    split
    · rfl
    · rfl

/-- An address is in one region at most. -/
theorem eq_of_covers (h : Regions page regions) {s : GuestRegionUffdMapping} (hr : r ∈ regions)
    (hs : s ∈ regions) {a : ℕ} (hra : r.Covers a) (hsa : s.Covers a) : r = s := by
  by_contra hne
  have : Std.Symm fun r s : GuestRegionUffdMapping => ∀ a, r.Covers a → ¬ s.Covers a :=
    ⟨fun r s hdisjoint a hsa hra => hdisjoint a hra hsa⟩
  exact h.disjoint.forall hr hs hne a hra hsa

theorem find?_covers (h : Regions page regions) (hr : r ∈ regions) {a : ℕ} (hcovers : r.Covers a) :
    (regions.find? fun s => s.Covers a) = some r := by
  cases hfind : regions.find? fun s => s.Covers a with
  | none => exact absurd hcovers (by simpa using List.find?_eq_none.mp hfind r hr)
  | some s =>
    have hs : s.Covers a := by simpa using List.find?_some hfind
    rw [eq_of_covers h hr (List.mem_of_find?_eq_some hfind) hcovers hs]

/-- Where a region covers an address, the page of the address is in the image. -/
theorem image_of_covers (h : Regions page regions) (mem : List UInt8) (hr : r ∈ regions)
    (hcovers : r.Covers a.toNat) :
    image page regions mem (page.of a) =
      some (window mem (r.offset.toNat + ((page.of a).toNat - r.baseHostVirtAddr.toNat))
        page.size) := by
  rw [image, find?_covers h hr ((covers_iff h hr a).mp hcovers)]
  rfl

/-- Where no region covers an address, the page of the address is in no image. -/
theorem image_of_not_covers (h : Regions page regions) (mem : List UInt8)
    (hnot : ∀ r ∈ regions, ¬ r.Covers a.toNat) : image page regions mem (page.of a) = none := by
  rw [image, Option.map_eq_none_iff, List.find?_eq_none]
  intro r hr
  simpa using fun hcovers => hnot r hr ((covers_iff h hr a).mpr hcovers)

/-- The pages of the image are those of the eager load. -/
theorem eagerPage_of_image (h : Regions page regions)
    (hc : image page regions mem (page.of a) = some c) :
    EagerPage page regions mem (page.of a) c := by
  obtain ⟨r, hfind, rfl⟩ := Option.map_eq_some_iff.mp hc
  have hr := List.mem_of_find?_eq_some hfind
  have hcovers : r.Covers (page.of a).toNat := by simpa using List.find?_some hfind
  refine ⟨by simp [window], fun i hi => ?_⟩
  have hlow := hcovers.1
  have hindex : r.offset.toNat + ((page.of a).toNat - r.baseHostVirtAddr.toNat) + i =
      r.offset.toNat + ((page.of a).toNat + i - r.baseHostVirtAddr.toNat) := by omega
  rw [eagerLoad, find?_covers h hr ((covers_of_iff h hr a hi).mpr hcovers), window]
  simp [hi, hindex]

end Fault

/-! ## Lazy restore is eager restore -/

section Lazy

variable {page : PageSize} {uffd : Userfaultfd page} {regions : List GuestRegionUffdMapping}
  {mem : List UInt8}

theorem serveFaults_eq (h : Layout uffd regions) (mem : List UInt8) (faults : List UInt64)
    (m : Memory) :
    serveFaults uffd regions mem faults m =
      Paging.touchAll (image page regions mem) (faults.map page.of) m := by
  induction faults generalizing m with
  | nil => rfl
  | cons a faults ih =>
    rw [serveFaults, List.foldl_cons, exec_serveFault h]
    exact ih _

/-- How some faults, one after the other, restore a memory. -/
structure LazyIsEager {page : PageSize} (uffd : Userfaultfd page)
    (regions : List GuestRegionUffdMapping) (mem : List UInt8) (m : Memory)
    (faults : List UInt64) : Prop where
  /-- A fault inside a region installs exactly the page of its address, with the bytes of the file
  that belong there. -/
  installs : ∀ before a after, faults = before ++ a :: after → ∀ r ∈ regions, r.Covers a.toNat →
    exec (serveFault uffd regions mem a) (serveFaults uffd regions mem before m) =
      (.ok (), Function.update (serveFaults uffd regions mem before m) (page.of a)
        (some (window mem (r.offset.toNat + ((page.of a).toNat - r.baseHostVirtAddr.toNat))
          page.size)))
  /-- A fault outside every region installs nothing. -/
  rejects : ∀ before a after, faults = before ++ a :: after →
    (∀ r ∈ regions, ¬ r.Covers a.toNat) →
    exec (serveFault uffd regions mem a) (serveFaults uffd regions mem before m) =
      (.error (.noRegion (page.of a)), serveFaults uffd regions mem before m)
  /-- At every moment each present page is what an eager load would have put there. -/
  eager : ∀ before after, faults = before ++ after → ∀ p c,
    serveFaults uffd regions mem before m p = some c → EagerPage page regions mem p c
  /-- The order of the faults does not matter. -/
  order : ∀ faults', faults.Perm faults' →
    serveFaults uffd regions mem faults' m = serveFaults uffd regions mem faults m

/-- For all regions of a layout, every snapshot file, and every sequence of faults on distinct pages
that are not present: lazy restore does what eager restore would have done. -/
theorem lazy_is_eager (page : PageSize) (uffd : Userfaultfd page)
    (regions : List GuestRegionUffdMapping) (mem : List UInt8) (m : Memory) (faults : List UInt64)
    (h : Layout uffd regions)
    (hstart : ∀ p c, m p = some c → EagerPage page regions mem p c)
    (hnodup : (faults.map page.of).Nodup) (habsent : ∀ a ∈ faults, m (page.of a) = none) :
    LazyIsEager uffd regions mem m faults where
  installs := by
    rintro before a after rfl r hr hcovers
    -- The page is none of those touched before, so it is still absent.
    rw [List.map_append, List.map_cons] at hnodup
    have hnew : page.of a ∉ before.map page.of := by
      intro hmem
      exact (List.disjoint_of_nodup_append hnodup) hmem List.mem_cons_self
    have habsent' : serveFaults uffd regions mem before m (page.of a) = none := by
      rw [serveFaults_eq h]
      exact Paging.touchAll_eq_none (habsent a (by simp)) hnew
    rw [exec_serveFault h, Paging.touch_eq_ok_iff.mpr
      ⟨habsent', _, image_of_covers h.toRegions mem hr hcovers, rfl⟩]
    rfl
  rejects := by
    rintro before a after - hnot
    rw [exec_serveFault h, Paging.touch, image_of_not_covers h.toRegions mem hnot]
    rfl
  eager := by
    rintro before after - p c hp
    rw [serveFaults_eq h, Paging.touchAll_apply] at hp
    -- The page was there from the start, or one of the faults touched it.
    cases hm : m p with
    | some c' =>
      rw [hm, Option.some_or] at hp
      exact hstart p c (hm.trans hp)
    | none =>
      rw [hm, Option.none_or] at hp
      split at hp
      case isTrue hmem =>
        obtain ⟨a, -, rfl⟩ := List.mem_map.mp hmem
        exact eagerPage_of_image h.toRegions hp
      case isFalse => cases hp
  order := by
    intro faults' hperm
    rw [serveFaults_eq h, serveFaults_eq h]
    exact Paging.touchAll_perm (hperm.map page.of).symm

/-- Everything below the top of the lower half of a 48-bit address space is registered. -/
def lowerHalf (page : PageSize) : Userfaultfd page where
  refusal p := if p.toNat + page.size < 2 ^ 47 then none else some .EINVAL
  upper p hp := if_neg (by omega)

theorem Regions.layout (h : Regions page regions)
    (hlower : ∀ r ∈ regions, r.baseHostVirtAddr.toNat + r.size.toNat < 2 ^ 47)
    (hoffsets : ∀ r ∈ regions, r.size ≠ 0 → r.offset.toNat + r.size.toNat < 2 ^ 63) :
    Layout (lowerHalf page) regions where
  toRegions := h
  mapped := by
    intro r hr a hcovers
    have hpage := page_le h hr ((covers_iff h hr a).mp hcovers)
    exact if_pos (hpage.trans_lt (hlower r hr))
  offsets := hoffsets

/-- Pages of 4096 bytes. -/
def pages4K : PageSize := ⟨12, by decide⟩

/-- A region of four pages, of which the file has less than one. -/
def fourPages : GuestRegionUffdMapping := ⟨0x7F0000000000, 0x4000, 0, 4096⟩

theorem layout_fourPages : Layout (lowerHalf pages4K) [fourPages] :=
  Regions.layout ⟨by decide, List.pairwise_singleton .., by decide, by decide⟩ (by decide)
    (by decide)

/-- Faults at the end of one page and at the start of the next, on an empty memory. -/
theorem lazy_is_eager_two_pages :
    LazyIsEager (lowerHalf pages4K) [fourPages] [7, 8] (fun _ => none)
      [0x7F0000000FFF, 0x7F0000001000] :=
  lazy_is_eager pages4K (lowerHalf pages4K) [fourPages] [7, 8] _ _ layout_fourPages
    (fun _ _ h => by cases h) (by decide) fun _ _ => rfl

/-- Two regions that lack the room: the file range of one goes up to the last offset that a file
has, and the other ends at the top of the address space. Neither gets its page. -/
theorem lazy_not_eager_without_room :
    let far : GuestRegionUffdMapping := ⟨0x7F0000000000, 0x1000, 0x7FFFFFFFFFFFF000, 4096⟩
    let top : GuestRegionUffdMapping := ⟨0xFFFFFFFFFFFFF000, 0x1000, 0, 4096⟩
    Regions pages4K [far] ∧
      ¬ LazyIsEager (lowerHalf pages4K) [far] [] (fun _ => none) [0x7F0000000000] ∧
      Regions pages4K [top] ∧
        ¬ LazyIsEager (lowerHalf pages4K) [top] [] (fun _ => none) [0xFFFFFFFFFFFFF000] := by
  intro far top
  refine ⟨⟨by decide, List.pairwise_singleton .., by decide, by decide⟩, fun h => ?_,
    ⟨by decide, List.pairwise_singleton .., by decide, by decide⟩, fun h => ?_⟩
  · have hinstalls := congrArg Prod.fst
      (h.installs [] 0x7F0000000000 [] rfl far (by simp) (by decide))
    have hfails : (exec (serveFault (lowerHalf pages4K) [far] [] 0x7F0000000000)
        fun _ => none).1 = .error (.io .EINVAL) := by decide +kernel
    cases hfails.symm.trans hinstalls
  · have hinstalls := congrArg Prod.fst
      (h.installs [] 0xFFFFFFFFFFFFF000 [] rfl top (by simp) (by decide))
    have hfails : (exec (serveFault (lowerHalf pages4K) [top] [] 0xFFFFFFFFFFFFF000)
        fun _ => none).1 = .error (.noRegion 0xFFFFFFFFFFFFF000) := by decide +kernel
    cases hfails.symm.trans hinstalls

end Lazy

/-! ## The life of the server -/

section Life

variable {page : PageSize} {uffd : Userfaultfd page} {regions : List GuestRegionUffdMapping}
  {mem : List UInt8} {wakes : List Wake} {faults : List UInt64}

/-- The loop is not told to stop and nothing fails around it; what it reads are these faults, in
batches of any size. -/
inductive Carries : List Wake → List UInt64 → Prop where
  | nil : Carries [] []
  | timedOut {wakes : List Wake} {faults : List UInt64} (h : Carries wakes faults) :
    Carries (.timedOut :: wakes) faults
  | interrupted {wakes : List Wake} {faults : List UInt64} (h : Carries wakes faults) :
    Carries (.interrupted :: wakes) faults
  | ready {wakes : List Wake} {faults : List UInt64} (addrs : List UInt64)
    (h : Carries wakes faults) :
    Carries (.ready (addrs.map .pagefault) none :: wakes) (addrs ++ faults)

theorem Carries.append {wakes' : List Wake} {faults' : List UInt64} (h : Carries wakes faults)
    (h' : Carries wakes' faults') : Carries (wakes ++ wakes') (faults ++ faults') := by
  induction h with
  | nil => exact h'
  | timedOut _ ih => exact .timedOut ih
  | interrupted _ ih => exact .interrupted ih
  | ready addrs _ ih =>
    rw [List.cons_append, List.append_assoc]
    exact .ready addrs ih

/-- A batch of faults touches the pages of their addresses, up to the first refusal. -/
theorem exec_faults (h : Layout uffd regions) (mem : List UInt8) (addrs : List UInt64)
    (m : Memory) :
    exec ((addrs.map Event.pagefault).forM (handleEvent uffd regions mem)) m =
      reported () (Paging.serveAll (image page regions mem) (addrs.map page.of) m) := by
  induction addrs generalizing m with
  | nil => rfl
  | cons a addrs ih =>
    change exec (handleEvent uffd regions mem (.pagefault a) >>= fun _ =>
      (addrs.map Event.pagefault).forM (handleEvent uffd regions mem)) m = _
    rw [exec_bind, handleEvent, exec_serveFault h, List.map_cons, Paging.serveAll]
    rcases Paging.touch (image page regions mem) (page.of a) m with ⟨_ | _, m'⟩
    · rfl
    · exact ih m'

/-- And so does the loop. -/
theorem exec_serveLoop (h : Layout uffd regions) (mem : List UInt8)
    (hcarries : Carries wakes faults) (m : Memory) :
    exec (serveLoop uffd regions mem wakes) m =
      reported .serving (Paging.serveAll (image page regions mem) (faults.map page.of) m) := by
  induction hcarries generalizing m with
  | nil => rfl
  | timedOut _ ih => exact ih m
  | interrupted _ ih => exact ih m
  | ready addrs _ ih =>
    rw [serveLoop, exec_bind, exec_faults h, List.map_append, Paging.serveAll_append]
    rcases Paging.serveAll (image page regions mem) (addrs.map page.of) m with ⟨_ | _, m'⟩
    · rfl
    · exact ih m'

/-- The page of every fault is there, as in the snapshot. -/
def Resolved (page : PageSize) (regions : List GuestRegionUffdMapping) (mem : List UInt8)
    (faults : List UInt64) (m : Memory) : Prop :=
  ∀ a ∈ faults, ∃ c, m (page.of a) = some c ∧ EagerPage page regions mem (page.of a) c

/-- The server survives some faults: it is still serving, has resolved all of them, and will resolve
one on any page that is still absent. -/
structure Survives {page : PageSize} (uffd : Userfaultfd page)
    (regions : List GuestRegionUffdMapping) (mem : List UInt8) (m : Memory) (wakes : List Wake)
    (faults : List UInt64) : Prop where
  serves : ∃ m', exec (serve (.ok (some (.ok (uffd, regions)))) (.ok mem) wakes) m =
    (.ok .serving, m') ∧ Resolved page regions mem faults m'
  later : ∀ a, (∃ r ∈ regions, r.Covers a.toNat) → m (page.of a) = none →
    page.of a ∉ faults.map page.of →
    ∃ m', exec (serve (.ok (some (.ok (uffd, regions)))) (.ok mem)
      (wakes ++ [.ready [.pagefault a] none])) m = (.ok .serving, m') ∧
        Resolved page regions mem [a] m'

theorem isSome_image (h : Regions page regions) (mem : List UInt8) {a : UInt64}
    (hcovered : ∃ r ∈ regions, r.Covers a.toNat) :
    (image page regions mem (page.of a)).isSome = true := by
  obtain ⟨r, hr, hcovers⟩ := hcovered
  rw [image_of_covers h mem hr hcovers]
  rfl

/-- Faults on distinct absent pages of the regions are all served. -/
theorem serves_of_nodup (h : Layout uffd regions) (mem : List UInt8) {m : Memory}
    (hcarries : Carries wakes faults) (hcovered : ∀ a ∈ faults, ∃ r ∈ regions, r.Covers a.toNat)
    (hnodup : (faults.map page.of).Nodup) (habsent : ∀ a ∈ faults, m (page.of a) = none) :
    ∃ m', exec (serve (.ok (some (.ok (uffd, regions)))) (.ok mem) wakes) m = (.ok .serving, m') ∧
      Resolved page regions mem faults m' := by
  have hall : (Paging.serveAll (image page regions mem) (faults.map page.of) m).1 = .ok () := by
    refine Paging.serveAll_eq_ok_iff.mpr ⟨hnodup, ?_⟩
    rintro p hp
    obtain ⟨a, ha, rfl⟩ := List.mem_map.mp hp
    exact ⟨habsent a ha, isSome_image h.toRegions mem (hcovered a ha)⟩
  refine ⟨Paging.touchAll (image page regions mem) (faults.map page.of) m, ?_, fun a ha => ?_⟩
  · rw [serve, exec_serveLoop h mem hcarries, Paging.serveAll_eq_touchAll hall]
    rfl
  · obtain ⟨c, hc⟩ := Option.isSome_iff_exists.mp (isSome_image h.toRegions mem (hcovered a ha))
    refine ⟨c, ?_, eagerPage_of_image h.toRegions hc⟩
    rw [Paging.touchAll_apply, habsent a ha, Option.none_or, if_pos (List.mem_map_of_mem ha), hc]

/-- For every layout, every snapshot file, and every sequence of faults inside its regions: the
server survives them if and only if no two of them hit one page and none hits a page that is
present. -/
theorem serve_survives_iff (page : PageSize) (uffd : Userfaultfd page)
    (regions : List GuestRegionUffdMapping) (mem : List UInt8) (m : Memory) (wakes : List Wake)
    (faults : List UInt64) (h : Layout uffd regions) (hcarries : Carries wakes faults)
    (hcovered : ∀ a ∈ faults, ∃ r ∈ regions, r.Covers a.toNat) :
    Survives uffd regions mem m wakes faults ↔
      (faults.map page.of).Nodup ∧ ∀ a ∈ faults, m (page.of a) = none := by
  constructor
  · rintro ⟨⟨m', hserves, -⟩, -⟩
    rw [serve, exec_serveLoop h mem hcarries] at hserves
    -- The loop goes on, so nothing was refused.
    have hall : (Paging.serveAll (image page regions mem) (faults.map page.of) m).1 = .ok () := by
      rcases hrun : Paging.serveAll (image page regions mem) (faults.map page.of) m
        with ⟨_ | _, m''⟩
      · rw [hrun] at hserves
        cases hserves
      · rfl
    obtain ⟨hnodup, habsent⟩ := Paging.serveAll_eq_ok_iff.mp hall
    exact ⟨hnodup, fun a ha => (habsent _ (List.mem_map_of_mem ha)).1⟩
  · rintro ⟨hnodup, habsent⟩
    refine ⟨serves_of_nodup h mem hcarries hcovered hnodup habsent, fun a ha hfree hnew => ?_⟩
    have hmore : Carries (wakes ++ [.ready [.pagefault a] none]) (faults ++ [a]) :=
      hcarries.append (.ready [a] .nil)
    have hnodup' : ((faults ++ [a]).map page.of).Nodup := by
      rw [List.map_append, List.nodup_append]
      refine ⟨hnodup, List.nodup_singleton _, ?_⟩
      rintro p hp q hq rfl
      obtain rfl := List.mem_singleton.mp hq
      exact hnew hp
    obtain ⟨m', hserves, hresolved⟩ := serves_of_nodup h mem (m := m) hmore
      (fun b hb => (List.mem_append.mp hb).elim (hcovered b) fun hb => by
        rw [List.mem_singleton.mp hb]
        exact ha) hnodup'
      fun b hb => (List.mem_append.mp hb).elim (habsent b) fun hb => by
        rw [List.mem_singleton.mp hb]
        exact hfree
    exact ⟨m', hserves, fun b hb => hresolved b (List.mem_append_right _ hb)⟩

/-- Two faults on two pages, with a timeout in between. -/
theorem serve_survives_two_pages :
    Survives (lowerHalf pages4K) [fourPages] [7, 8] (fun _ => none)
      [.ready [.pagefault 0x7F0000000FFF] none, .timedOut, .ready [.pagefault 0x7F0000001000] none]
      [0x7F0000000FFF, 0x7F0000001000] := by
  have hcovered : ∀ a ∈ [0x7F0000000FFF, 0x7F0000001000], ∃ r ∈ [fourPages],
      r.Covers (UInt64.toNat a) := by
    intro a ha
    refine ⟨fourPages, List.mem_singleton_self _, ?_⟩
    rcases List.mem_pair.mp ha with rfl | rfl <;> decide
  exact (serve_survives_iff pages4K (lowerHalf pages4K) [fourPages] [7, 8] _ _ _ layout_fourPages
    (.ready [0x7F0000000FFF] (.timedOut (.ready [0x7F0000001000] .nil))) hcovered).mpr
    ⟨by decide, fun _ _ => rfl⟩

/-- A thread of the VM that found a page missing queues its fault only after the page has been
copied for another thread, and the server reads it: it fails. -/
theorem server_dies_of_second_touch :
    (exec (serve (.ok (some (.ok (lowerHalf pages4K, [fourPages])))) (.ok [])
        [.ready [.pagefault 0x7F0000000000, .pagefault 0x7F0000000008] none]) fun _ => none).1 =
      .error (.uffd .EEXIST) ∧
    ¬ Survives (lowerHalf pages4K) [fourPages] [] (fun _ => none)
      [.ready [.pagefault 0x7F0000000000, .pagefault 0x7F0000000008] none]
      [0x7F0000000000, 0x7F0000000008] := by
  have hdies : (exec (serve (.ok (some (.ok (lowerHalf pages4K, [fourPages])))) (.ok [])
      [.ready [.pagefault 0x7F0000000000, .pagefault 0x7F0000000008] none]) fun _ => none).1 =
      .error (.uffd .EEXIST) := by rfl
  refine ⟨hdies, fun h => ?_⟩
  obtain ⟨m', hserves, -⟩ := h.serves
  cases hdies.symm.trans (congrArg Prod.fst hserves)

end Life

end Sleepwalk.Hostd.Uffd
