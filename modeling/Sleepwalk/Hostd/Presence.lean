import Sleepwalk.Hostd.Migrate
import Sleepwalk.Lib.Runs

/-!
# The presence gauge

The registry of a host and its `VM_INFO` gauge, under any interleaving of requests. A VM is a value
with one owner, so a request that has taken one, or has not put it into the registry yet, is known
by the id of that VM. An event is one operation on the map or one call of the telemetry.

`insert`, `take` and `remove` have the VM for themselves when they set the gauge. `spawn` sets it
after the VM is in the map, where others may have taken it from. The gauge agrees with the map in
the end if and only if no VM is overtaken in this way (`agrees_iff`).
-/

namespace Sleepwalk.Hostd.Presence

open Proto

/-! ## The registry -/

/-- The labels of a `VM_INFO` gauge. -/
structure Series where
  /-- The `vm_id` label. -/
  vmId : VmId
  /-- The `host` label. -/
  host : HostId
  /-- The `ip` label. -/
  ip : String
deriving DecidableEq, Repr

/-- The VM's address for telemetry labels, or `"none"` if it has no network. -/
def vmIp (net : Option NetId) : String := (net.map NetId.ip).getD "none"

/-- Why a VM is taken out of the registry. -/
inductive Purpose where
  /-- `take`, for `/migrate/send`. -/
  | migrate
  /-- `remove`. -/
  | remove
deriving DecidableEq, Repr

/-- Where the request is that has a VM. -/
inductive Hand where
  /-- In `spawn`, which has booted it. The lock is next. -/
  | registering
  /-- In `insert`, before `vm_present`. -/
  | arriving
  /-- In `insert`, before the lock. -/
  | inserting
  /-- In `take` or `remove`, before `vm_absent`. -/
  | retiring (purpose : Purpose)
  /-- In `migrate_running`. -/
  | migrating
deriving DecidableEq, Repr

/-- A registry, its gauge, and the requests under way. -/
structure VmRegistry where
  /-- This host. -/
  host : HostId
  /-- The VMs of the registry. -/
  vms : VmId → Option RunningVm
  /-- The `VM_INFO` gauge. -/
  vmInfo : Series → Option ℕ
  /-- The VMs made here, by the ids they were given. -/
  made : VmId → Option RunningVm
  /-- The VMs that a request has. -/
  hands : VmId → Option (Hand × RunningVm)
  /-- The addresses of the VMs that a `spawn` has put into the registry and not yet announced. -/
  announcing : VmId → Option String

/-- What happens at a registry. -/
inductive Event where
  /-- `spawn` has booted a VM under a new id. -/
  | booted (vm : RunningVm)
  /-- A receiver has restored a VM under a new id, and calls `insert`. -/
  | restored (vm : RunningVm)
  /-- `spawn` puts its VM into the map. -/
  | registered (id : VmId)
  /-- `spawn` calls `vm_present`. -/
  | announced (id : VmId)
  /-- `insert` calls `vm_present`. -/
  | welcomed (id : VmId)
  /-- `insert` puts its VM into the map. -/
  | inserted (id : VmId)
  /-- `take` or `remove` looks an id up in the map, and takes the VM out. -/
  | taken (id : VmId) (purpose : Purpose)
  /-- `take` or `remove` calls `vm_absent`. -/
  | retired (id : VmId)
  /-- `migrate_running` returns, and gives the VM back if it stood down. -/
  | migrated (id : VmId) (back : Bool)
deriving DecidableEq, Repr

namespace VmRegistry

/-- An empty registry. -/
def new (host : HostId) : VmRegistry :=
  { host, vms := fun _ => none, vmInfo := fun _ => none, made := fun _ => none,
    hands := fun _ => none, announcing := fun _ => none }

/-- A VM is given an id. -/
def make (id : VmId) (vm : RunningVm) (r : VmRegistry) : VmRegistry :=
  { r with made := Function.update r.made id (some vm) }

/-- The entry of the map at an id. -/
def setVm (id : VmId) (vm : Option RunningVm) (r : VmRegistry) : VmRegistry :=
  { r with vms := Function.update r.vms id vm }

/-- The request that has the VM of an id. -/
def setHand (id : VmId) (hand : Option (Hand × RunningVm)) (r : VmRegistry) : VmRegistry :=
  { r with hands := Function.update r.hands id hand }

/-- The `spawn` that has yet to announce the VM of an id. -/
def setAnnouncing (id : VmId) (ip : Option String) (r : VmRegistry) : VmRegistry :=
  { r with announcing := Function.update r.announcing id ip }

/-- Mark a VM as present on this host. -/
def vmPresent (id : VmId) (ip : String) (r : VmRegistry) : VmRegistry :=
  { r with vmInfo := Function.update r.vmInfo ⟨id, r.host, ip⟩ (some 1) }

/-- Mark a VM as gone from this host. -/
def vmAbsent (id : VmId) (ip : String) (r : VmRegistry) : VmRegistry :=
  { r with vmInfo := Function.update r.vmInfo ⟨id, r.host, ip⟩ (some 0) }

/-- The next event, where it can happen. -/
def step (r : VmRegistry) : Event → Option VmRegistry
  | .booted vm =>
    match r.made vm.id with
    | none => some ((r.make vm.id vm).setHand vm.id (some (.registering, vm)))
    | some _ => none
  | .restored vm =>
    match r.made vm.id with
    | none => some ((r.make vm.id vm).setHand vm.id (some (.arriving, vm)))
    | some _ => none
  | .registered id =>
    match r.hands id with
    | some (.registering, vm) =>
      some (((r.setHand id none).setVm id (some vm)).setAnnouncing id (some (vmIp vm.net)))
    | _ => none
  | .announced id =>
    match r.announcing id with
    | some ip => some ((r.setAnnouncing id none).vmPresent id ip)
    | none => none
  | .welcomed id =>
    match r.hands id with
    | some (.arriving, vm) =>
      some ((r.vmPresent id (vmIp vm.net)).setHand id (some (.inserting, vm)))
    | _ => none
  | .inserted id =>
    match r.hands id with
    | some (.inserting, vm) => some ((r.setHand id none).setVm id (some vm))
    | _ => none
  | .taken id purpose =>
    match r.vms id with
    | some vm => some ((r.setVm id none).setHand id (some (.retiring purpose, vm)))
    -- The request has nothing to do.
    | none => some r
  | .retired id =>
    match r.hands id with
    | some (.retiring .migrate, vm) =>
      some ((r.vmAbsent id (vmIp vm.net)).setHand id (some (.migrating, vm)))
    | some (.retiring .remove, vm) => some ((r.vmAbsent id (vmIp vm.net)).setHand id none)
    | _ => none
  | .migrated id back =>
    match r.hands id with
    | some (.migrating, vm) =>
      some (r.setHand id (if back then some (.arriving, vm) else none))
    | _ => none

/-- A registry after some events, if they can happen. -/
def run (host : HostId) (events : List Event) : Option VmRegistry :=
  Runs.run step (new host) events

/-- No request is under way. -/
def Finished (r : VmRegistry) : Prop := ∀ id, r.hands id = none ∧ r.announcing id = none

/-- The gauge is 1 for the VMs of the map, and for nothing else. -/
def Agrees (r : VmRegistry) : Prop :=
  ∀ s : Series, r.vmInfo s = some 1 ↔
    s.host = r.host ∧ ∃ vm, r.vms s.vmId = some vm ∧ vmIp vm.net = s.ip

end VmRegistry

/-! ## The calls of the telemetry -/

/-- A call that sets the gauge of a VM. -/
inductive GaugeCall where
  /-- `vm_present`, from `spawn`. -/
  | spawned
  /-- `vm_present`, from `insert`. -/
  | inserted
  /-- `vm_absent`. -/
  | absent
deriving DecidableEq, Repr

/-- The call about the VM of an id that an event is. -/
def Event.gaugeCall (id : VmId) : Event → Option GaugeCall
  | .announced id' => if id' = id then some .spawned else none
  | .welcomed id' => if id' = id then some .inserted else none
  | .retired id' => if id' = id then some .absent else none
  | _ => none

/-- The calls about the VM of an id, the last one first. -/
def gaugeCalls (id : VmId) (events : List Event) : List GaugeCall :=
  (events.filterMap (Event.gaugeCall id)).reverse

/-- The last call about a VM is the `vm_present` of its `spawn`, and the call before it is the
`vm_absent` of a request that took the VM out. -/
def Overtaken (id : VmId) (events : List Event) : Prop :=
  ∃ earlier, gaugeCalls id events = .spawned :: .absent :: earlier

/-- What the gauge of a VM shows after some calls. -/
def level : List GaugeCall → Option ℕ
  | [] => none
  | .absent :: _ => some 0
  | .spawned :: _ | .inserted :: _ => some 1

/-! ## What an event does -/

/-- The id an event is about. -/
def Event.about : Event → VmId
  | .booted vm | .restored vm => vm.id
  | .registered id | .announced id | .welcomed id | .inserted id | .taken id _ | .retired id
  | .migrated id _ => id

namespace VmRegistry

variable {r r' : VmRegistry} {e : Event} {id : VmId}

/-- What an event needs and does. -/
inductive Stepped (r : VmRegistry) : Event → VmRegistry → Prop where
  | booted {vm : RunningVm} (hmade : r.made vm.id = none) :
    Stepped r (.booted vm) ((r.make vm.id vm).setHand vm.id (some (.registering, vm)))
  | restored {vm : RunningVm} (hmade : r.made vm.id = none) :
    Stepped r (.restored vm) ((r.make vm.id vm).setHand vm.id (some (.arriving, vm)))
  | registered {id : VmId} {vm : RunningVm} (hhand : r.hands id = some (.registering, vm)) :
    Stepped r (.registered id)
      (((r.setHand id none).setVm id (some vm)).setAnnouncing id (some (vmIp vm.net)))
  | announced {id : VmId} {ip : String} (hip : r.announcing id = some ip) :
    Stepped r (.announced id) ((r.setAnnouncing id none).vmPresent id ip)
  | welcomed {id : VmId} {vm : RunningVm} (hhand : r.hands id = some (.arriving, vm)) :
    Stepped r (.welcomed id)
      ((r.vmPresent id (vmIp vm.net)).setHand id (some (.inserting, vm)))
  | inserted {id : VmId} {vm : RunningVm} (hhand : r.hands id = some (.inserting, vm)) :
    Stepped r (.inserted id) ((r.setHand id none).setVm id (some vm))
  | taken {id : VmId} {purpose : Purpose} {vm : RunningVm} (hvm : r.vms id = some vm) :
    Stepped r (.taken id purpose)
      ((r.setVm id none).setHand id (some (.retiring purpose, vm)))
  | notFound {id : VmId} {purpose : Purpose} (hvm : r.vms id = none) :
    Stepped r (.taken id purpose) r
  | retired {id : VmId} {purpose : Purpose} {vm : RunningVm}
    (hhand : r.hands id = some (.retiring purpose, vm)) :
    Stepped r (.retired id) ((r.vmAbsent id (vmIp vm.net)).setHand id
      (if purpose = .migrate then some (.migrating, vm) else none))
  | migrated {id : VmId} {back : Bool} {vm : RunningVm}
    (hhand : r.hands id = some (.migrating, vm)) :
    Stepped r (.migrated id back) (r.setHand id (if back then some (.arriving, vm) else none))

theorem stepped_of_step (h : r.step e = some r') : Stepped r e r' := by
  cases e <;> simp only [step] at h <;> split at h <;> cases h
  exacts [.booted ‹_›, .restored ‹_›, .registered ‹_›, .announced ‹_›, .welcomed ‹_›,
    .inserted ‹_›, .taken ‹_›, .notFound ‹_›, .retired ‹_›, .retired ‹_›, .migrated ‹_›]

/-- What is known of the VM of an id: whether one was made, whether it is in the map, whether a
request has it, and whether its `spawn` has yet to announce it. -/
@[ext]
structure View where
  /-- The VM. -/
  made : Option RunningVm
  /-- The entry of the map. -/
  vm : Option RunningVm
  /-- The request that has it. -/
  hand : Option (Hand × RunningVm)
  /-- The address its `spawn` has yet to announce. -/
  announcing : Option String

/-- The view of an id. -/
def view (id : VmId) (r : VmRegistry) : View :=
  { made := r.made id, vm := r.vms id, hand := r.hands id, announcing := r.announcing id }

section View

variable {id' : VmId} {vm : RunningVm} {entry : Option RunningVm}
  {hand : Option (Hand × RunningVm)} {ip : Option String} {addr : String}

@[simp]
theorem view_make_self : (r.make id vm).view id = { r.view id with made := some vm } := by
  simp [view, make]

@[simp]
theorem view_setVm_self : (r.setVm id entry).view id = { r.view id with vm := entry } := by
  simp [view, setVm]

@[simp]
theorem view_setHand_self : (r.setHand id hand).view id = { r.view id with hand := hand } := by
  simp [view, setHand]

@[simp]
theorem view_setAnnouncing_self :
    (r.setAnnouncing id ip).view id = { r.view id with announcing := ip } := by
  simp [view, setAnnouncing]

@[simp]
theorem view_make_of_ne (h : id' ≠ id) : (r.make id vm).view id' = r.view id' := by
  simp [view, make, h]

@[simp]
theorem view_setVm_of_ne (h : id' ≠ id) : (r.setVm id entry).view id' = r.view id' := by
  simp [view, setVm, h]

@[simp]
theorem view_setHand_of_ne (h : id' ≠ id) : (r.setHand id hand).view id' = r.view id' := by
  simp [view, setHand, h]

@[simp]
theorem view_setAnnouncing_of_ne (h : id' ≠ id) :
    (r.setAnnouncing id ip).view id' = r.view id' := by
  simp [view, setAnnouncing, h]

@[simp]
theorem view_vmPresent : (r.vmPresent id addr).view id' = r.view id' := rfl

@[simp]
theorem view_vmAbsent : (r.vmAbsent id addr).view id' = r.view id' := rfl

end View

/-- An event about one VM leaves the others alone. -/
theorem Stepped.view_of_ne (h : Stepped r e r') (hne : id ≠ e.about) : r'.view id = r.view id := by
  cases h <;> simp only [Event.about] at hne <;> simp [hne]

end VmRegistry

/-! ## What is known of one VM -/

section Calls

variable {id : VmId} {events : List Event} {e : Event}

theorem Event.gaugeCall_of_ne (h : id ≠ e.about) : e.gaugeCall id = none := by
  cases e <;> simp only [Event.about] at h <;> simp [Event.gaugeCall, Ne.symm h]

theorem gaugeCalls_concat :
    gaugeCalls id (events ++ [e]) = (e.gaugeCall id).toList ++ gaugeCalls id events := by
  cases h : e.gaugeCall id <;> simp [gaugeCalls, h]

end Calls

/-- The calls say that the VM is there, whether its `spawn` was before the last `insert` or after
it. -/
inductive Lit : List GaugeCall → Prop where
  | spawned : Lit [.spawned]
  | inserted {calls : List GaugeCall} : Lit (.inserted :: calls)
  | late {calls : List GaugeCall} : Lit (.spawned :: .inserted :: calls)

/-- The VM was taken out, and its `spawn` may have overtaken that. -/
inductive Dark : List GaugeCall → Prop where
  | absent {calls : List GaugeCall} : Dark (.absent :: calls)
  | overtaken {calls : List GaugeCall} : Dark (.spawned :: .absent :: calls)

/-- The address its `spawn` has yet to announce is that of the VM, and comes once. -/
def Pending (vm : RunningVm) (ip : Option String) (calls : List GaugeCall) : Prop :=
  ip = none ∨ ip = some (vmIp vm.net) ∧ .spawned ∉ calls

section Calls

variable {vm : RunningVm} {ip : Option String} {addr : String} {call : GaugeCall}
  {calls : List GaugeCall}

theorem Lit.announce (h : Lit calls) (hnew : .spawned ∉ calls) : Lit (.spawned :: calls) := by
  cases h with
  | inserted => exact .late
  | spawned | late => simp at hnew

theorem Dark.announce (h : Dark calls) (hnew : .spawned ∉ calls) : Dark (.spawned :: calls) := by
  cases h with
  | absent => exact .overtaken
  | overtaken => simp at hnew

theorem Pending.spawned (h : Pending vm ip calls) (hip : ip = some addr) : .spawned ∉ calls := by
  rcases h with rfl | ⟨-, hnew⟩
  · cases hip
  · exact hnew

theorem Pending.cons (h : Pending vm ip calls) (hcall : call ≠ .spawned) :
    Pending vm ip (call :: calls) := by
  rcases h with rfl | ⟨rfl, hnew⟩
  · exact .inl rfl
  · exact .inr ⟨rfl, by simp [hnew, hcall.symm]⟩

end Calls

/-- How the calls about a VM fit where it is. -/
inductive Known : List GaugeCall → VmRegistry.View → Prop where
  /-- No VM was made under this id. -/
  | unborn : Known [] ⟨none, none, none, none⟩
  /-- Its `spawn` has it. -/
  | registering {vm : RunningVm} : Known [] ⟨some vm, none, some (.registering, vm), none⟩
  /-- It is in the map, and its `spawn` is about to say so. -/
  | fresh {vm : RunningVm} : Known [] ⟨some vm, some vm, none, some (vmIp vm.net)⟩
  /-- It is in the map. -/
  | registered {calls : List GaugeCall} {vm : RunningVm} {ip : Option String} (hlit : Lit calls)
    (hip : Pending vm ip calls) :
    Known calls ⟨some vm, some vm, none, ip⟩
  /-- A request has it. -/
  | held {calls : List GaugeCall} {vm : RunningVm} {hand : Hand} {ip : Option String}
    (hhand : hand ≠ .registering) (hlit : hand = .inserting → Lit calls)
    (hdark : hand = .migrating → Dark calls)
    (hip : Pending vm ip calls) :
    Known calls ⟨some vm, none, some (hand, vm), ip⟩
  /-- It is gone. -/
  | gone {calls : List GaugeCall} {vm : RunningVm} {ip : Option String} (hdark : Dark calls)
    (hip : Pending vm ip calls) :
    Known calls ⟨some vm, none, none, ip⟩

section Known

open VmRegistry

variable {r r' : VmRegistry} {e : Event} {id : VmId} {calls : List GaugeCall}

/-- What is known of a VM that a request other than its `spawn` has. -/
theorem Known.of_hand {v : View} {hand : Hand} {vm : RunningVm} (h : Known calls v)
    (hhand : v.hand = some (hand, vm)) (hne : hand ≠ .registering) :
    ∃ ip, v = ⟨some vm, none, some (hand, vm), ip⟩ ∧ (hand = .inserting → Lit calls) ∧
      (hand = .migrating → Dark calls) ∧ Pending vm ip calls := by
  cases h with
  | registering =>
    cases hhand
    exact absurd rfl hne
  | held _ hlit hdark hip =>
    cases hhand
    exact ⟨_, rfl, hlit, hdark, hip⟩
  | _ => cases hhand

/-- What an event does to the VM it is about. -/
theorem Known.step (h : Known calls (r.view e.about)) (hstep : Stepped r e r') :
    Known ((e.gaugeCall e.about).toList ++ calls) (r'.view e.about) := by
  cases hstep
  all_goals
    simp only [Event.about] at h
    simp only [Event.about, Event.gaugeCall, if_true, Option.toList_none, Option.toList_some,
      List.nil_append, List.singleton_append, view_make_self, view_setVm_self, view_setHand_self,
      view_setAnnouncing_self, view_vmPresent, view_vmAbsent]
  case booted vm hmade =>
    change (r.view vm.id).made = none at hmade
    generalize r.view vm.id = v at h hmade ⊢
    cases h with
    | unborn => exact .registering
    | _ => cases hmade
  case restored vm hmade =>
    change (r.view vm.id).made = none at hmade
    generalize r.view vm.id = v at h hmade ⊢
    cases h with
    | unborn => exact .held (by simp) (by simp) (by simp) (.inl rfl)
    | _ => cases hmade
  case registered id vm hhand =>
    change (r.view id).hand = _ at hhand
    generalize r.view id = v at h hhand ⊢
    cases h with
    | registering =>
      cases hhand
      exact .fresh
    | held hne =>
      cases hhand
      exact absurd rfl hne
    | _ => cases hhand
  case announced id ip hip =>
    change (r.view id).announcing = _ at hip
    generalize r.view id = v at h hip ⊢
    -- Wherever the VM is by now, the calls say the same of it after this one.
    cases h with
    | fresh => exact .registered .spawned (.inl rfl)
    | registered hlit hnew => exact .registered (hlit.announce (hnew.spawned hip)) (.inl rfl)
    | held hne hlit hdark hnew =>
      exact .held hne (fun hhand => (hlit hhand).announce (hnew.spawned hip))
        (fun hhand => (hdark hhand).announce (hnew.spawned hip)) (.inl rfl)
    | gone hdark hnew => exact .gone (hdark.announce (hnew.spawned hip)) (.inl rfl)
    | _ => cases hip
  case welcomed id vm hhand =>
    obtain ⟨ip, hview, -, -, hnew⟩ := h.of_hand hhand (by simp)
    rw [hview]
    exact .held (by simp) (fun _ => .inserted) (by simp) (hnew.cons (by simp))
  case inserted id vm hhand =>
    obtain ⟨ip, hview, hlit, -, hnew⟩ := h.of_hand hhand (by simp)
    rw [hview]
    exact .registered (hlit rfl) hnew
  case taken id purpose vm hvm =>
    change (r.view id).vm = _ at hvm
    generalize r.view id = v at h hvm ⊢
    cases h with
    | fresh =>
      -- The VM is taken out before its `spawn` has announced it.
      cases hvm
      exact .held (by simp) (by simp) (by simp) (.inr ⟨rfl, by simp⟩)
    | registered _ hnew =>
      cases hvm
      exact .held (by simp) (by simp) (by simp) hnew
    | _ => cases hvm
  case notFound => exact h
  case retired id purpose vm hhand =>
    obtain ⟨ip, hview, -, -, hnew⟩ := h.of_hand hhand (by simp)
    rw [hview]
    cases purpose with
    | migrate => exact .held (by simp) (by simp) (fun _ => .absent) (hnew.cons (by simp))
    | remove => exact .gone .absent (hnew.cons (by simp))
  case migrated id back vm hhand =>
    obtain ⟨ip, hview, -, hdark, hnew⟩ := h.of_hand hhand (by simp)
    rw [hview]
    cases back with
    | true => exact .held (by simp) (by simp) (by simp) hnew
    | false => exact .gone (hdark rfl) hnew

theorem Known.made_of_hand {v : View} {hand : Hand} {vm : RunningVm} (h : Known calls v)
    (hhand : v.hand = some (hand, vm)) : v.made = some vm := by
  cases h with
  | registering | held =>
    cases hhand
    rfl
  | _ => cases hhand

theorem Known.made_of_announcing {v : View} {ip : String} (h : Known calls v)
    (hip : v.announcing = some ip) : ∃ vm, v.made = some vm ∧ vmIp vm.net = ip := by
  cases h with
  | fresh =>
    cases hip
    exact ⟨_, rfl, rfl⟩
  | registered _ hnew | held _ _ _ hnew | gone _ hnew =>
    rcases hnew with rfl | ⟨rfl, -⟩
    · cases hip
    · cases hip
      exact ⟨_, rfl, rfl⟩
  | _ => cases hip

theorem Known.calls_of_unmade {v : View} (h : Known calls v) (hmade : v.made = none) :
    calls = [] := by
  cases h with
  | unborn => rfl
  | _ => cases hmade

/-! ## What the gauge shows -/

/-- Every series of a VM made here, under its address, shows what the last call said. -/
def Shows (r : VmRegistry) (calls : VmId → List GaugeCall) : Prop :=
  ∀ s : Series, r.vmInfo s =
    if s.host = r.host ∧ (r.made s.vmId).map (fun vm => vmIp vm.net) = some s.ip then
      level (calls s.vmId)
    else none

/-- A call about a VM sets its series. -/
theorem Shows.set {calls calls' : VmId → List GaugeCall} {vm : RunningVm} {value : ℕ}
    (h : Shows r calls) (hhost : r'.host = r.host) (hmade : r'.made = r.made)
    (hvm : r.made id = some vm)
    (hinfo : r'.vmInfo = Function.update r.vmInfo ⟨id, r.host, vmIp vm.net⟩ (some value))
    (hvalue : level (calls' id) = some value) (hcalls : ∀ id' ≠ id, calls' id' = calls id') :
    Shows r' calls' := by
  intro s
  rw [hinfo, hhost, hmade]
  by_cases hs : s = ⟨id, r.host, vmIp vm.net⟩
  · subst hs
    simp [hvm, hvalue]
  · rw [Function.update_of_ne hs, h s]
    by_cases hid : s.vmId = id
    · -- A series of the same VM under another host or address shows nothing before and after.
      have hother :
          ¬(s.host = r.host ∧ (r.made s.vmId).map (fun vm => vmIp vm.net) = some s.ip) := by
        rintro ⟨hhost, hip⟩
        rw [hid, hvm] at hip
        exact hs (by cases s; simp_all)
      rw [if_neg hother, if_neg hother]
    · rw [hcalls s.vmId hid]

/-- Making a VM shows nothing yet. -/
theorem Shows.make {calls : VmId → List GaugeCall} {vm : RunningVm} (h : Shows r calls)
    (hcalls : calls id = []) : Shows (r.make id vm) calls := by
  intro s
  change r.vmInfo s = _
  rw [h s]
  by_cases hid : s.vmId = id
  · simp [hid, hcalls, level]
  · simp [VmRegistry.make, hid]

/-- An event keeps the gauge in step with the calls. -/
theorem Shows.step {calls : VmId → List GaugeCall} (h : Shows r calls)
    (hknown : Known (calls e.about) (r.view e.about)) (hstep : Stepped r e r') :
    Shows r' fun id => (e.gaugeCall id).toList ++ calls id := by
  cases hstep with
  | booted hmade | restored hmade => exact h.make (hknown.calls_of_unmade hmade)
  | @announced id ip hip =>
    obtain ⟨vm, hvm, rfl⟩ := hknown.made_of_announcing hip
    change r.made id = some vm at hvm
    refine h.set rfl rfl hvm rfl ?_ fun id' hne => ?_
    · simp [Event.gaugeCall, level]
    · simp [Event.gaugeCall, hne.symm]
  | @welcomed id vm hhand =>
    have hvm : r.made id = some vm := hknown.made_of_hand hhand
    refine h.set rfl rfl hvm rfl ?_ fun id' hne => ?_
    · simp [Event.gaugeCall, level]
    · simp [Event.gaugeCall, hne.symm]
  | @retired id purpose vm hhand =>
    have hvm : r.made id = some vm := hknown.made_of_hand hhand
    refine h.set rfl rfl hvm rfl ?_ fun id' hne => ?_
    · simp [Event.gaugeCall, level]
    · simp [Event.gaugeCall, hne.symm]
  | _ => exact h

/-! ## Runs -/

/-- After every run. -/
theorem known_of_run {host : HostId} {events : List Event} (hrun : run host events = some r) :
    (∀ id, Known (gaugeCalls id events) (r.view id)) ∧ Shows r fun id => gaugeCalls id events := by
  refine Runs.run_invariant
    (motive := fun events r => (∀ id, Known (gaugeCalls id events) (r.view id)) ∧
      Shows r fun id => gaugeCalls id events) ⟨fun _ => ?_, fun s => ?_⟩ ?_ hrun
  · exact .unborn
  · simp [new]
  · intro events r e r' _ ⟨hknown, hshows⟩ hstep
    have hstepped : Stepped r e r' := stepped_of_step hstep
    refine ⟨fun id => ?_, ?_⟩
    · rw [gaugeCalls_concat]
      by_cases hid : id = e.about
      · exact hid ▸ (hknown e.about).step hstepped
      · rw [Event.gaugeCall_of_ne hid, hstepped.view_of_ne hid]
        exact hknown id
    · simp only [gaugeCalls_concat]
      exact hshows.step (hknown e.about) hstepped

theorem Lit.level_eq (h : Lit calls) : level calls = some 1 := by cases h <;> rfl

/-- A VM of the map is the one made under its id. -/
theorem Known.made_of_vm {v : View} {vm : RunningVm} (h : Known calls v) (hvm : v.vm = some vm) :
    v.made = some vm := by
  cases h with
  | fresh | registered =>
    cases hvm
    rfl
  | _ => cases hvm

/-- When no request is under way, the gauge of a VM shows 1 if it is in the map or was overtaken. -/
theorem Known.level_eq_one_iff {v : View} (h : Known calls v) (hhand : v.hand = none)
    (hip : v.announcing = none) :
    level calls = some 1 ↔ v.vm ≠ none ∨ ∃ earlier, calls = .spawned :: .absent :: earlier := by
  cases h with
  | unborn => simp [level]
  | registered hlit => simp [hlit.level_eq]
  | gone hdark => cases hdark <;> simp [level]
  | fresh => cases hip
  | registering | held => cases hhand

/-- A VM that was overtaken was made here, and is not in the map. -/
theorem Known.overtaken {v : View} {earlier : List GaugeCall}
    (h : Known (.spawned :: .absent :: earlier) v) (hhand : v.hand = none) :
    (∃ vm, v.made = some vm) ∧ v.vm = none := by
  cases h with
  | registered hlit => cases hlit
  | held => cases hhand
  | gone => exact ⟨⟨_, rfl⟩, rfl⟩

/-- Once all requests have finished, the gauge agrees with the map if and only if no VM was
overtaken: if the `spawn` of a VM calls `vm_present` after the `vm_absent` of a request that took
the VM out, the VM has since been put back. -/
theorem agrees_iff {host : HostId} {events : List Event} (hrun : run host events = some r)
    (hfinished : r.Finished) : r.Agrees ↔ ∀ id, ¬Overtaken id events := by
  obtain ⟨hknown, hshows⟩ := known_of_run hrun
  constructor
  · -- The gauge of an overtaken VM was set last by its `spawn`, and the VM is not there.
    rintro hagrees id ⟨earlier, hcalls⟩
    have hknownId := hknown id
    rw [hcalls] at hknownId
    obtain ⟨⟨vm, hmade⟩, hvm⟩ := hknownId.overtaken (hfinished id).1
    change r.made id = some vm at hmade
    have hone : r.vmInfo ⟨id, r.host, vmIp vm.net⟩ = some 1 := by
      rw [hshows]
      simp [hmade, hcalls, level]
    obtain ⟨-, vm', hvm', -⟩ := (hagrees _).mp hone
    cases hvm.symm.trans hvm'
  · -- Without an overtaken VM the calls alone tell what is in the map.
    intro hnot s
    have hlevel : level (gaugeCalls s.vmId events) = some 1 ↔ r.vms s.vmId ≠ none := by
      rw [(hknown s.vmId).level_eq_one_iff (hfinished s.vmId).1 (hfinished s.vmId).2]
      exact or_iff_left (hnot s.vmId)
    rw [hshows s, Option.ite_none_right_eq_some, hlevel]
    constructor
    · rintro ⟨⟨hhost, hip⟩, hvm⟩
      obtain ⟨vm, hvm⟩ := Option.ne_none_iff_exists'.mp hvm
      have hmade : r.made s.vmId = some vm := (hknown s.vmId).made_of_vm hvm
      rw [hmade, Option.map_some, Option.some.injEq] at hip
      exact ⟨hhost, vm, hvm, hip⟩
    · rintro ⟨hhost, vm, hvm, hip⟩
      have hmade : r.made s.vmId = some vm := (hknown s.vmId).made_of_vm hvm
      refine ⟨⟨hhost, by rw [hmade, Option.map_some, hip]⟩, ?_⟩
      exact Option.ne_none_iff_exists'.mpr ⟨vm, hvm⟩

/-- No request has a VM that no event is about. -/
theorem view_of_run_of_ne {host : HostId} {events : List Event} (hrun : run host events = some r)
    (hne : ∀ e ∈ events, id ≠ e.about) : r.view id = ⟨none, none, none, none⟩ := by
  refine Runs.run_preserves (P := fun r => r.view id = ⟨none, none, none, none⟩) rfl ?_ hrun
  intro e he r r' hview hstep
  rw [(stepped_of_step hstep).view_of_ne (hne e he), hview]

theorem gaugeCalls_of_ne {events : List Event} (hne : ∀ e ∈ events, id ≠ e.about) :
    gaugeCalls id events = [] := by
  rw [gaugeCalls, List.reverse_eq_nil_iff, List.filterMap_eq_nil_iff]
  exact fun e he => Event.gaugeCall_of_ne (hne e he)

/-- A VM without a network. -/
def lone : RunningVm := { id := ⟨0⟩, proc := 0, vsockUds := "", net := none }

/-- A VM is announced while it is out for a migration that stands down. -/
def putBack : List Event :=
  [.booted lone, .registered lone.id, .taken lone.id .migrate, .retired lone.id,
    .announced lone.id, .migrated lone.id true, .welcomed lone.id, .inserted lone.id]

/-- A VM is removed before its `spawn` announces it. -/
def removedEarly : List Event :=
  [.booted lone, .registered lone.id, .taken lone.id .remove, .retired lone.id, .announced lone.id]

theorem agrees_putBack : ∃ r, run ⟨"a"⟩ putBack = some r ∧ r.Agrees := by
  have hrun : run ⟨"a"⟩ putBack = some _ := rfl
  have habout : ∀ e ∈ putBack, e.about = lone.id := by decide
  refine ⟨_, hrun, (agrees_iff hrun fun id => ?_).mpr ?_⟩
  · by_cases hid : id = lone.id
    · subst hid
      exact ⟨rfl, rfl⟩
    · have hview := view_of_run_of_ne hrun fun e he => habout e he ▸ hid
      exact ⟨congrArg View.hand hview, congrArg View.announcing hview⟩
  · rintro id ⟨earlier, hcalls⟩
    by_cases hid : id = lone.id
    · subst hid
      cases hcalls
    · rw [gaugeCalls_of_ne fun e he => habout e he ▸ hid] at hcalls
      cases hcalls

theorem shows_removedEarly :
    ∃ r, run ⟨"a"⟩ removedEarly = some r ∧ r.Finished ∧ r.vms lone.id = none ∧
      r.vmInfo ⟨lone.id, ⟨"a"⟩, "none"⟩ = some 1 ∧ ¬r.Agrees := by
  have hrun : run ⟨"a"⟩ removedEarly = some _ := rfl
  have habout : ∀ e ∈ removedEarly, e.about = lone.id := by decide
  refine ⟨_, hrun, fun id => ?_, rfl, rfl, fun h => ?_⟩
  · by_cases hid : id = lone.id
    · subst hid
      exact ⟨rfl, rfl⟩
    · have hview := view_of_run_of_ne hrun fun e he => habout e he ▸ hid
      exact ⟨congrArg View.hand hview, congrArg View.announcing hview⟩
  · obtain ⟨-, vm, hvm, -⟩ := (h ⟨lone.id, ⟨"a"⟩, "none"⟩).mp rfl
    cases hvm

end Known

end Sleepwalk.Hostd.Presence
