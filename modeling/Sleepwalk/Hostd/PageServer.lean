import Sleepwalk.Hostd.Uffd

/-!
# The two page servers

`PageFaultServer` of `hostd::uffd` serves one region of pages from any `PageSource`, and maps a zero
page where the source has a hole. `FilePageSource` reads its pages from a snapshot file and has a
hole past the end of it. `serve_fault` is the other server, over a list of regions, which reads
first and fills up with zeros whatever did not come.

Both are put over one `SnapshotFile`, whose positioned reads may return any part of what was asked
for, or fail. `servers_agree` compares them on one region that starts at offset `0` of the file.
Past the offsets of a file one reads nothing and the other fails to read, but a page that far into
the region is none that the kernel installs.
-/

namespace Sleepwalk.Hostd.Uffd

open Exec

/-- A snapshot file that does not change, and what a positioned read of up to `n` bytes returns at
each offset. -/
structure SnapshotFile (n : ℕ) where
  len : UInt64
  readAt : UInt64 → Except Errno (List UInt8)
  /-- A read returns no more than was asked for. -/
  atMost : ∀ offset bytes, readAt offset = .ok bytes → bytes.length ≤ n
  /-- At the end of the file and past it there is nothing to read. -/
  atEnd : ∀ offset, len ≤ offset → offset.toNat + n < 2 ^ 63 → readAt offset = .ok []
  /-- An offset is signed, and a read may not go beyond the last one. -/
  signed : ∀ offset, 2 ^ 63 ≤ offset.toNat + n → readAt offset = .error .EINVAL

/-- Something that can supply the bytes of a faulted page: whether it has any for this offset, and
the buffer it leaves behind. -/
structure PageSource where
  fill : UInt64 → List UInt8 → Except Errno (Bool × List UInt8)

/-- A page source backed by a snapshot file. -/
def FilePageSource {n : ℕ} (file : SnapshotFile n) : PageSource where
  fill offset page :=
    if offset ≥ file.len then .ok (false, page) -- past the end of the snapshot, a hole
    else
      match file.readAt offset with
      | .error e => .error e
      | .ok read =>
        if read.length = 0 then .ok (false, page)
        -- After a short read the tail of the buffer is zeroed.
        else .ok (true, read ++ List.replicate (page.length - read.length) 0)

/-- Serves missing-page faults for one registered region. -/
structure PageFaultServer where
  page : PageSize
  uffd : Userfaultfd page
  base : UInt64
  len : UInt64
  source : PageSource

/-- Resolve one fault: copy the backing page in, or map a zero page for a hole. -/
def PageFaultServer.servePage (server : PageFaultServer) (addr : UInt64) : ServerM Unit := do
  let aligned := server.page.of addr
  let stop := server.base + server.len
  if aligned < server.base ∨ aligned ≥ stop then
    throw (.outOfRange addr server.base stop)
  else
    let offset := aligned - server.base
    match server.source.fill offset (List.replicate server.page.size 0) with
    | .error e => throw (.io e)
    | .ok (true, buf) => copy server.uffd buf aligned
    | .ok (false, _) => zeropage server.uffd aligned server.page.bytes

/-- `serve_fault`, over a file whose reads may return anything that a read can. -/
def serveFaultOver {page : PageSize} (uffd : Userfaultfd page)
    (mappings : List GuestRegionUffdMapping) (file : SnapshotFile page.size) (addr : UInt64) :
    ServerM Unit := do
  let aligned := page.of addr
  match mappings.find? (·.contains aligned) with
  | none => throw (.noRegion aligned)
  | some region =>
    match file.readAt (region.fileOffset aligned) with
    | .error e => throw (.io e)
    | .ok read => copy uffd (read ++ List.replicate (page.size - read.length) 0) aligned

/-- A file whose reads come up short at its end only. -/
def SnapshotFile.ofBytes (mem : List UInt8) (n : ℕ) (h : mem.length < 2 ^ 63) : SnapshotFile n where
  len := .ofNat mem.length
  readAt offset :=
    if offset.toNat + n < 2 ^ 63 then .ok ((mem.drop offset.toNat).take n) else .error .EINVAL
  atMost := by
    intro offset bytes hread
    split at hread
    · obtain rfl := Except.ok.inj hread
      simp
    · cases hread
  atEnd := by
    intro offset hend hlt
    have hlen : mem.length ≤ offset.toNat := by
      rw [UInt64.le_iff_toNat_le, UInt64.toNat_ofNat'] at hend
      omega
    rw [if_pos hlt, List.drop_of_length_le hlen, List.take_nil]
  signed := by
    intro offset hfar
    exact if_neg (by omega)

/-- Over such a file it is the `serve_fault` of lazy restore. -/
theorem serveFaultOver_ofBytes {page : PageSize} (uffd : Userfaultfd page)
    (mappings : List GuestRegionUffdMapping) (mem : List UInt8) (h : mem.length < 2 ^ 63)
    (addr : UInt64) :
    serveFaultOver uffd mappings (.ofBytes mem page.size h) addr =
      serveFault uffd mappings mem addr := by
  rw [serveFaultOver, serveFault]
  cases hregion : mappings.find? (·.contains (page.of addr)) with
  | none => rfl
  | some region =>
    simp only [SnapshotFile.ofBytes, readAt]
    by_cases hlt : (region.fileOffset (page.of addr)).toNat + page.size < 2 ^ 63
    · simp only [if_pos hlt]
    · simp only [if_neg hlt]

section Agree

variable {page : PageSize} {uffd : Userfaultfd page} {base len addr : UInt64}
  {file : SnapshotFile page.size} {m : Memory}

/-- A page outside the bounds of the region. -/
def Outside (page : PageSize) (base len addr : UInt64) : Prop :=
  page.of addr < base ∨ page.of addr ≥ base + len

instance : Decidable (Outside page base len addr) := inferInstanceAs (Decidable (_ ∨ _))

/-- `contains` is the same check, spelled the other way round. -/
theorem find?_region (r : GuestRegionUffdMapping) :
    [r].find? (·.contains (page.of addr)) =
      if Outside page r.baseHostVirtAddr r.size addr then none else some r := by
  have hcontains : r.contains (page.of addr) = true ↔
      ¬ Outside page r.baseHostVirtAddr r.size addr := by
    simp [GuestRegionUffdMapping.contains, Outside]
  split
  case isTrue houtside =>
    rw [List.find?_cons_of_neg, List.find?_nil]
    exact fun h => hcontains.mp h houtside
  case isFalse hinside =>
    rw [List.find?_cons_of_pos]
    exact hcontains.mpr hinside

/-- Mapping one zero page is copying a page of zeros. -/
theorem zeropage_one (dst : UInt64) :
    zeropage uffd dst page.bytes = copy uffd (List.replicate page.size 0) dst := by
  have hsize : page.bytes.toNat = page.size := page.toNat_bytes
  have hne : page.bytes ≠ 0 := by
    intro hzero
    rw [hzero] at hsize
    exact page.size_pos.ne hsize
  have hvalid : ¬ (page.bytes = 0 ∨ ¬ page.size ∣ page.bytes.toNat) := by simp [hne, hsize]
  have hfirst : dst + UInt64.ofNat (0 * page.size) = dst := by simp
  rw [zeropage, if_neg hvalid, hsize, Nat.div_self page.size_pos]
  simp only [List.range_one, List.findSome?_singleton, hfirst]
  cases hrefusal : uffd.refusal dst with
  | some e => rw [copy, hrefusal]
  | none => exact bind_pure_unit

/-- Inside the bounds the two servers do the same, where the file can be read at all. -/
theorem servePage_eq (hinside : ¬ Outside page base len addr)
    (hoffset : (page.of addr - base).toNat + page.size < 2 ^ 63) :
    (PageFaultServer.mk page uffd base len (FilePageSource file)).servePage addr =
      serveFaultOver uffd [⟨base, len, 0, page.bytes⟩] file addr := by
  have hsame : (⟨base, len, 0, page.bytes⟩ : GuestRegionUffdMapping).fileOffset (page.of addr) =
      page.of addr - base := UInt64.zero_add _
  rw [PageFaultServer.servePage, serveFaultOver, find?_region, if_neg hinside]
  have hbounds : ¬ (page.of addr < base ∨ page.of addr ≥ base + len) := hinside
  simp only [if_neg hbounds, hsame, FilePageSource]
  by_cases hend : page.of addr - base ≥ file.len
  · -- Past the end one maps a hole unread, and the other reads nothing and copies zeros.
    simp [hend, file.atEnd _ hend hoffset, zeropage_one]
  · rw [if_neg hend]
    cases file.readAt (page.of addr - base) with
    | error e => rfl
    | ok read =>
      by_cases hread : read.length = 0
      · obtain rfl := List.length_eq_zero_iff.mp hread
        simp [zeropage_one]
      · simp [hread]

variable (uffd file) in
/-- Outside the bounds each reports the fault in its own way, and neither touches the memory. -/
theorem exec_outside (houtside : Outside page base len addr) :
    exec ((PageFaultServer.mk page uffd base len (FilePageSource file)).servePage addr) m =
        (.error (.outOfRange addr base (base + len)), m) ∧
      exec (serveFaultOver uffd [⟨base, len, 0, page.bytes⟩] file addr) m =
        (.error (.noRegion (page.of addr)), m) := by
  rw [PageFaultServer.servePage, serveFaultOver, find?_region, if_pos houtside]
  have hbounds : page.of addr < base ∨ page.of addr ≥ base + len := houtside
  simp only [if_pos hbounds]
  exact ⟨rfl, rfl⟩

variable (uffd file) in
/-- Past the offsets of the file neither installs a page: one fails to read it, and the kernel does
not map the hole of the other, as no process has that address. -/
theorem exec_far (hinside : ¬ Outside page base len addr)
    (hoffset : 2 ^ 63 ≤ (page.of addr - base).toNat + page.size) :
    (∃ e, exec ((PageFaultServer.mk page uffd base len (FilePageSource file)).servePage addr) m =
        (.error e, m)) ∧
      ∃ e, exec (serveFaultOver uffd [⟨base, len, 0, page.bytes⟩] file addr) m = (.error e, m) := by
  have hsame : (⟨base, len, 0, page.bytes⟩ : GuestRegionUffdMapping).fileOffset (page.of addr) =
      page.of addr - base := UInt64.zero_add _
  have hread := file.signed _ hoffset
  have hbounds : ¬ (page.of addr < base ∨ page.of addr ≥ base + len) := hinside
  constructor
  · rw [PageFaultServer.servePage]
    simp only [if_neg hbounds, FilePageSource]
    by_cases hend : page.of addr - base ≥ file.len
    · have hlow : base ≤ page.of addr := UInt64.not_lt.mp fun hlt => hbounds (.inl hlt)
      have hupper : 2 ^ 63 ≤ (page.of addr).toNat + page.size := by
        rw [UInt64.toNat_sub_of_le _ _ hlow] at hoffset
        omega
      simp only [if_pos hend, zeropage_one]
      exact ⟨_, exec_copy_refused (uffd.upper _ hupper) _ m⟩
    · simp only [if_neg hend, hread]
      exact ⟨_, rfl⟩
  · rw [serveFaultOver, find?_region, if_neg hinside]
    simp only [hsame, hread]
    exact ⟨_, rfl⟩

/-- A copy reports nothing about regions. -/
theorem exec_copy_ne (buf : List UInt8) (dst : UInt64) (e : UffdError)
    (he : ∀ errno, e ≠ .uffd errno) : (exec (copy uffd buf dst) m).1 ≠ .error e := by
  cases hrefusal : uffd.refusal dst with
  | some errno =>
    rw [exec_copy_refused hrefusal]
    intro h
    exact he errno (Except.error.inj h).symm
  | none =>
    rw [exec_copy hrefusal]
    split
    · intro h
      exact he .EEXIST (Except.error.inj h).symm
    · intro h
      cases h

variable (uffd file) in
/-- Inside the bounds neither reports the fault as out of bounds, whatever the file returns. -/
theorem exec_inside_ne (hinside : ¬ Outside page base len addr) :
    (∀ a b c, (exec ((PageFaultServer.mk page uffd base len (FilePageSource file)).servePage addr)
        m).1 ≠ .error (.outOfRange a b c)) ∧
      ∀ p, (exec (serveFaultOver uffd [⟨base, len, 0, page.bytes⟩] file addr) m).1 ≠
        .error (.noRegion p) := by
  constructor
  · intro a b c
    have hbounds : ¬ (page.of addr < base ∨ page.of addr ≥ base + len) := hinside
    rw [PageFaultServer.servePage]
    simp only [if_neg hbounds]
    split
    · exact fun h => by cases h
    · exact exec_copy_ne _ _ _ (by simp)
    · rw [zeropage_one]
      exact exec_copy_ne _ _ _ (by simp)
  · intro p
    rw [serveFaultOver, find?_region, if_neg hinside]
    dsimp only
    split
    · exact fun h => by cases h
    · exact exec_copy_ne _ _ _ (by simp)

/-- On one region that starts at offset `0` of a file, whatever its reads return, the two servers
accept the same faults, install the same pages with the same bytes, and one succeeds where the other
does. A rejected fault changes nothing. The results are the same, errors included, but for pages
that are out of reach of any read. -/
theorem servers_agree (page : PageSize) (uffd : Userfaultfd page) (base len : UInt64)
    (file : SnapshotFile page.size) (addr : UInt64) (m : Memory) :
    let one := exec ((PageFaultServer.mk page uffd base len (FilePageSource file)).servePage addr) m
    let two := exec (serveFaultOver uffd [⟨base, len, 0, page.bytes⟩] file addr) m
    ((∃ a b c, one.1 = .error (.outOfRange a b c)) ↔ ∃ p, two.1 = .error (.noRegion p)) ∧
    ((∃ a b c, one.1 = .error (.outOfRange a b c)) → one.2 = m) ∧
    one.2 = two.2 ∧ (one.1 = .ok () ↔ two.1 = .ok ()) ∧
    ((¬ ∃ a b c, one.1 = .error (.outOfRange a b c)) →
      (page.of addr - base).toNat + page.size < 2 ^ 63 → one = two) := by
  intro one two
  by_cases houtside : Outside page base len addr
  · -- Both reject it, and neither has read or copied anything yet.
    obtain ⟨hone, htwo⟩ := exec_outside (m := m) uffd file houtside
    have hrejected : ∃ a b c, one.1 = .error (.outOfRange a b c) :=
      ⟨_, _, _, congrArg Prod.fst hone⟩
    refine ⟨iff_of_true hrejected ⟨_, congrArg Prod.fst htwo⟩, fun _ => congrArg Prod.snd hone,
      ?_, ?_, fun h => absurd hrejected h⟩
    · exact (congrArg Prod.snd hone).trans (congrArg Prod.snd htwo).symm
    · show (exec _ m).1 = _ ↔ (exec _ m).1 = _
      rw [hone, htwo]
      simp
  · obtain ⟨hone, htwo⟩ := exec_inside_ne (m := m) uffd file houtside
    have haccepted : ¬ ∃ a b c, one.1 = .error (.outOfRange a b c) :=
      fun ⟨a, b, c, h⟩ => hone a b c h
    refine ⟨iff_of_false haccepted fun ⟨p, h⟩ => htwo p h, fun h => absurd h haccepted, ?_⟩
    by_cases hoffset : (page.of addr - base).toNat + page.size < 2 ^ 63
    · have hsame : one = two := by
        show exec _ m = exec _ m
        rw [servePage_eq houtside hoffset]
      exact ⟨congrArg Prod.snd hsame, by rw [hsame], fun _ _ => hsame⟩
    · obtain ⟨⟨e, hone⟩, e', htwo⟩ :=
        exec_far (m := m) uffd file houtside (Nat.not_lt.mp hoffset)
      refine ⟨(congrArg Prod.snd hone).trans (congrArg Prod.snd htwo).symm, ?_,
        fun _ h => absurd h hoffset⟩
      show (exec _ m).1 = _ ↔ (exec _ m).1 = _
      rw [hone, htwo]
      simp

/-- The last fault of two pages whose second one the file does not reach. -/
theorem servers_agree_short_file :
    let file : SnapshotFile pages4K.size := .ofBytes [7, 8] pages4K.size (by decide)
    exec ((PageFaultServer.mk pages4K (lowerHalf pages4K) 0x7F0000000000 0x2000
        (FilePageSource file)).servePage 0x7F0000001008) (fun _ => none) =
      exec (serveFaultOver (lowerHalf pages4K) [⟨0x7F0000000000, 0x2000, 0, pages4K.bytes⟩] file
        0x7F0000001008) fun _ => none := by
  intro file
  obtain ⟨-, -, -, -, hsame⟩ := servers_agree pages4K (lowerHalf pages4K) 0x7F0000000000 0x2000 file
    0x7F0000001008 fun _ => none
  refine hsame ?_ (by decide)
  rintro ⟨a, b, c, h⟩
  exact (exec_inside_ne (lowerHalf pages4K) file (by decide)).1 a b c h

end Agree

end Sleepwalk.Hostd.Uffd
