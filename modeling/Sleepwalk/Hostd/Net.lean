import Sleepwalk.Hostd.Migrate
import Sleepwalk.Proto.Wire

/-!
# Per-VM host network plumbing

`hostd::net`: the identity a VM gets from its index, the taps of a host, and the identity as it
travels in `net.json`. The announcement of an address changes nothing here and is left out.

* `NetId.ofIndex` is the identity of an index. Each of its three parts tells the index
  (`NetId.eq_of_part_eq`).
* `createTap` is the three `ip` commands of a tap, any of which may fail. One that exists already
  cannot be added.
-/

namespace Sleepwalk.Hostd

open Proto Serde

/-- The shared bridge that taps attach to. -/
def BRIDGE : String := "br-sw"

/-- A failure plumbing a VM's network. -/
inductive NetError where
  /-- An `ip` command failed. -/
  | command (cmd detail : String)
  /-- The VM index is outside the assignable host range. -/
  | outOfRange (idx : UInt32)
deriving DecidableEq, Repr

/-- `u32::checked_add`. -/
def checkedAdd (a b : UInt32) : Option UInt32 :=
  if a.toNat + b.toNat < 2 ^ 32 then some (a + b) else none

/-- The host part of a VM's address. -/
def hostNumber (idx : UInt32) : Option UInt32 := (checkedAdd idx 2).filter fun h => h ≤ 254

/-- Two hexadecimal digits at least, as `{:02x}` writes them. -/
def hex2 (n : ℕ) : String := .ofList (List.leftpad 2 '0' (Nat.toDigits 16 n))

namespace NetId

/-- The identity of a VM index, if it is in range. -/
def ofIndex (idx : UInt32) : Option NetId :=
  (hostNumber idx).map fun host =>
    { tap := "sw-tap" ++ idx.toNat.repr
      mac := "02:00:00:00:00:" ++ hex2 host.toNat
      ip := "10.200.0." ++ host.toNat.repr }

/-- The identity as it is written. -/
def encode (net : NetId) : Json :=
  .object [("tap", .string net.tap), ("mac", .string net.mac), ("ip", .string net.ip)]

/-- The identity as it is read. -/
def decode : Json → Option NetId
  | .object entries => do
    let tap ← (Serde.Field.required "tap" decodeString).fromMap entries
    let mac ← (Serde.Field.required "mac" decodeString).fromMap entries
    let ip ← (Serde.Field.required "ip" decodeString).fromMap entries
    return { tap, mac, ip }
  | .array [tap, mac, ip] => do
    return { tap := ← decodeString tap, mac := ← decodeString mac, ip := ← decodeString ip }
  | _ => none

end NetId

/-! ## Taps -/

/-- How the `ip` commands of one tap turn out, where they can. -/
inductive Plumbing where
  /-- All of them succeed. -/
  | works
  /-- The tap is not added. -/
  | refused (detail : String)
  /-- The tap is added, but not to the bridge. -/
  | detached (detail : String)
  /-- The tap is on the bridge, but not up. -/
  | down (detail : String)
deriving DecidableEq, Repr

/-- Create a tap on the bridge, up. Afterwards these are the taps of the host. -/
def createTap (plumbing : Plumbing) (name : String) (taps : List String) :
    Except NetError Unit × List String :=
  let add := "ip tuntap add " ++ name ++ " mode tap"
  -- A tap that is there already is kept, and cannot be added.
  if name ∈ taps then
    (.error (.command add "ioctl(TUNSETIFF): Device or resource busy"), taps)
  else
    match plumbing with
    | .works => (.ok (), name :: taps)
    | .refused detail => (.error (.command add detail), taps)
    | .detached detail =>
      (.error (.command ("ip link set " ++ name ++ " master " ++ BRIDGE) detail), name :: taps)
    | .down detail => (.error (.command ("ip link set " ++ name ++ " up") detail), name :: taps)

/-- Tear down a tap, best effort. -/
def destroy (works : Bool) (tap : String) (taps : List String) : List String :=
  if works then taps.filter fun t => t ≠ tap else taps

/-- Allocate the identity of a VM index and create its tap. -/
def create (plumbing : Plumbing) (idx : UInt32) (taps : List String) :
    Except NetError NetId × List String :=
  match NetId.ofIndex idx with
  | none => (.error (.outOfRange idx), taps)
  | some net =>
    match createTap plumbing net.tap taps with
    | (.ok (), taps) => (.ok net, taps)
    | (.error e, taps) => (.error e, taps)

section Taps

variable {plumbing : Plumbing} {name : String} {taps taps' : List String} {idx : UInt32}
  {net : NetId}

theorem createTap_eq_ok_iff : createTap plumbing name taps = (.ok (), taps') ↔
    plumbing = .works ∧ name ∉ taps ∧ taps' = name :: taps := by
  unfold createTap
  by_cases hmem : name ∈ taps
  · simp [hmem]
  · cases plumbing <;> simp [hmem, eq_comm]

/-- No tap is lost where one cannot be made. -/
theorem taps_subset_createTap : taps ⊆ (createTap plumbing name taps).2 := by
  unfold createTap
  by_cases hmem : name ∈ taps
  · simp [hmem]
  · cases plumbing <;> simp [hmem]

theorem create_eq_ok_iff : create plumbing idx taps = (.ok net, taps') ↔
    NetId.ofIndex idx = some net ∧ plumbing = .works ∧ net.tap ∉ taps ∧
      taps' = net.tap :: taps := by
  unfold create
  cases hnet : NetId.ofIndex idx with
  | none => simp
  | some n =>
    rcases htap : createTap plumbing n.tap taps with ⟨_ | _, taps''⟩
    · have hnot : ∀ t, ¬ createTap plumbing n.tap taps = (.ok (), t) := by simp [htap]
      simp only [createTap_eq_ok_iff] at hnot
      simp only [htap, Prod.mk.injEq, reduceCtorEq, false_and, Option.some.injEq, false_iff]
      rintro ⟨rfl, hworks, hnew, -⟩
      exact hnot _ ⟨hworks, hnew, rfl⟩
    · obtain ⟨hworks, hnew, rfl⟩ := createTap_eq_ok_iff.mp htap
      simp only [htap, Prod.mk.injEq, Except.ok.injEq, Option.some.injEq]
      constructor
      · rintro ⟨rfl, rfl⟩
        exact ⟨rfl, hworks, hnew, rfl⟩
      · rintro ⟨rfl, -, -, rfl⟩
        exact ⟨rfl, rfl⟩

theorem taps_subset_create : taps ⊆ (create plumbing idx taps).2 := by
  unfold create
  cases NetId.ofIndex idx with
  | none => exact List.Subset.refl taps
  | some n =>
    have hsub : taps ⊆ (createTap plumbing n.tap taps).2 := taps_subset_createTap
    rcases htap : createTap plumbing n.tap taps with ⟨_ | _, taps''⟩ <;> simpa [htap] using hsub

end Taps

/-! ## Identities -/

namespace NetId

example : ofIndex 0 = some ⟨"sw-tap0", "02:00:00:00:00:02", "10.200.0.2"⟩ := by decide

variable {i j : UInt32} {net net' : NetId}

theorem hostNumber_eq_some_iff {host : UInt32} :
    hostNumber i = some host ↔ host.toNat = i.toNat + 2 ∧ host.toNat ≤ 254 := by
  have hsmall : host ≤ 254 ↔ host.toNat ≤ 254 := UInt32.le_iff_toNat_le
  have htwo : (2 : UInt32).toNat = 2 := rfl
  have hlt := host.toNat_lt
  rw [hostNumber, checkedAdd, htwo]
  split
  case isTrue hfits =>
    have hsum : (i + 2).toNat = i.toNat + 2 := by
      rw [UInt32.toNat_add, htwo, Nat.mod_eq_of_lt hfits]
    have hhost : i + 2 = host ↔ host.toNat = i.toNat + 2 := by
      rw [← UInt32.toNat_inj, hsum, eq_comm]
    simp only [Option.filter_eq_some_iff, Option.some.injEq, decide_eq_true_eq, hsmall, hhost]
  case isFalse hover =>
    simp only [Option.filter_none, reduceCtorEq, false_iff]
    omega

/-- The identity of an index in range. -/
theorem ofIndex_eq_some_iff : ofIndex i = some net ↔ i.toNat + 2 ≤ 254 ∧
    net = ⟨"sw-tap" ++ i.toNat.repr, "02:00:00:00:00:" ++ hex2 (i.toNat + 2),
      "10.200.0." ++ (i.toNat + 2).repr⟩ := by
  rw [ofIndex, Option.map_eq_some_iff]
  constructor
  · rintro ⟨host, hhost, rfl⟩
    obtain ⟨hsum, hle⟩ := hostNumber_eq_some_iff.mp hhost
    rw [hsum] at hle ⊢
    exact ⟨hle, rfl⟩
  · rintro ⟨hle, rfl⟩
    have hsum : (UInt32.ofNat (i.toNat + 2)).toNat = i.toNat + 2 := by
      rw [UInt32.toNat_ofNat']
      omega
    refine ⟨.ofNat (i.toNat + 2), hostNumber_eq_some_iff.mpr ⟨hsum, ?_⟩, ?_⟩
    · rwa [hsum]
    · rw [hsum]

theorem hex2_injOn {m n : ℕ} (hm : m < 256) (hn : n < 256) (h : hex2 m = hex2 n) : m = n := by
  have hdigits : ∀ k < 256, (hex2 k).toList = [Nat.digitChar (k / 16), Nat.digitChar (k % 16)] := by
    decide +kernel
  have hinj : ∀ a < 16, ∀ b < 16, Nat.digitChar a = Nat.digitChar b → a = b := by decide
  have hlist := congrArg String.toList h
  rw [hdigits m hm, hdigits n hn] at hlist
  simp only [List.cons.injEq, and_true] at hlist
  have hhigh := hinj _ (by omega) _ (by omega) hlist.1
  have hlow := hinj _ (by omega) _ (by omega) hlist.2
  omega

section Injective

variable (hi : ofIndex i = some net) (hj : ofIndex j = some net')
include hi hj

theorem index_of_tap (h : net.tap = net'.tap) : i = j := by
  obtain ⟨-, rfl⟩ := ofIndex_eq_some_iff.mp hi
  obtain ⟨-, rfl⟩ := ofIndex_eq_some_iff.mp hj
  exact UInt32.toNat_inj.mp (Text.repr_inj ((String.append_right_inj _).mp h))

theorem index_of_mac (h : net.mac = net'.mac) : i = j := by
  obtain ⟨hlei, rfl⟩ := ofIndex_eq_some_iff.mp hi
  obtain ⟨hlej, rfl⟩ := ofIndex_eq_some_iff.mp hj
  have hsum : i.toNat + 2 = j.toNat + 2 :=
    hex2_injOn (by omega) (by omega) ((String.append_right_inj _).mp h)
  exact UInt32.toNat_inj.mp (Nat.add_right_cancel hsum)

theorem index_of_ip (h : net.ip = net'.ip) : i = j := by
  obtain ⟨-, rfl⟩ := ofIndex_eq_some_iff.mp hi
  obtain ⟨-, rfl⟩ := ofIndex_eq_some_iff.mp hj
  have hsum : i.toNat + 2 = j.toNat + 2 := Text.repr_inj ((String.append_right_inj _).mp h)
  exact UInt32.toNat_inj.mp (Nat.add_right_cancel hsum)

/-- Identities that share a part are the same. -/
theorem eq_of_part_eq (h : net.tap = net'.tap ∨ net.mac = net'.mac ∨ net.ip = net'.ip) :
    net = net' := by
  have hsame : i = j := by
    rcases h with h | h | h
    · exact index_of_tap hi hj h
    · exact index_of_mac hi hj h
    · exact index_of_ip hi hj h
  subst hsame
  exact Option.some.inj (hi.symm.trans hj)

end Injective

theorem decode_encode (net : NetId) : decode net.encode = some net := rfl

theorem readable_encode (net : NetId) : Json.Readable net.encode := by
  apply Json.readable_object
  simp [Json.readable_string]

end NetId

end Sleepwalk.Hostd
