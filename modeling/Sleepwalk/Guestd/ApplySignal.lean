import Mathlib.Data.List.Infix
import Sleepwalk.Guestd.Guest
import Sleepwalk.Guestd.Wrap

/-!
# Wrap mode over a supervisor

`apply_signal` of `guestd::wrap`: the turn boundaries inferred from a child's stdout, applied to a
`Guest`. `TurnTracker.apply` is the other implementation of the same lenient rule, without a
supervisor. Both open a turn on a boundary that finds none open and ignore the rest.

They number their turns differently. The guest assigns ids from `0` on, and the tracker advances its
counter before it is first read, so its first turn is `1`.
-/

namespace Sleepwalk.Guestd

open Proto

section

variable {C : Type} [GuestChannel C]

/-- Apply an inferred boundary to the supervisor. A duplicate open and a stray close are ignored. -/
def applySignal (signal : TurnSignal) (now : Timestamp) : GuestM C Unit := do
  match signal with
  | .start =>
    if (← get).inFlight.isSome then pure ()
    else discard (Guest.beginObservedTurn now)
  | .stop =>
    if (← get).inFlight.isNone then pure ()
    else Guest.endTurn now

namespace Guest

/-- The supervisor after a list of boundaries, each with the guest's clock. -/
def applySignals (g : Guest C) (signals : List (TurnSignal × Timestamp)) : Guest C :=
  signals.foldl (fun g s => (exec (applySignal s.1 s.2) g).2) g

variable {g : Guest C} (now : Timestamp)

theorem applySignals_append_singleton (signals : List (TurnSignal × Timestamp))
    (s : TurnSignal × Timestamp) :
    g.applySignals (signals ++ [s]) = (exec (applySignal s.1 s.2) (g.applySignals signals)).2 := by
  simp [applySignals]

/-- A boundary that finds the turn as it would leave it is ignored. -/
theorem exec_applySignal_ignored {signal : TurnSignal}
    (h : g.inFlight.isSome = decide (signal = .start)) :
    exec (applySignal signal now) g = (.ok (), g) := by
  cases signal with
  | start => simp_all [applySignal]
  | stop => simp_all [applySignal]

/-- An open with no turn in flight assigns the next id, whatever becomes of the send. -/
theorem exec_applySignal_start (h : g.inFlight = none) :
    (exec (applySignal .start now) g).2 =
      { g with
        nextTurn := g.nextTurn.next
        inFlight := some g.nextTurn
        chan := (GuestChannel.send g.chan (.turnStarted g.nextTurn now)).2 } := by
  have hbegin : exec (beginObservedTurn now) g = exec (beginTurn now) g :=
    exec_refuseInFlight_idle h fun _ => beginTurn now
  simp only [applySignal, exec_bind, exec_get, h, Option.isSome_none, Bool.false_eq_true, if_false,
    exec_discard, hbegin, beginTurn, exec_modify, exec_send]
  -- An error of the send comes after the turn is marked in flight.
  cases (GuestChannel.send g.chan (.turnStarted g.nextTurn now)).1 <;> rfl

/-- A close with a turn in flight clears it if the send succeeds. -/
theorem exec_applySignal_stop {t : TurnId} (h : g.inFlight = some t)
    (hsend : (GuestChannel.send g.chan (.turnEnded t now)).1 = .ok ()) :
    exec (applySignal .stop now) g =
      (.ok (), { g with
        inFlight := none
        chan := (GuestChannel.send g.chan (.turnEnded t now)).2 }) := by
  simp only [applySignal, exec_bind, exec_get, h, Option.isNone_some, Bool.false_eq_true, if_false,
    endTurn, exec_send, hsend]
  rfl

end Guest

/-! ## The two trackers -/

/-- Every send over the channel succeeds from now on. -/
def Works (c : C) : Prop :=
  ∃ P : C → Prop, P c ∧ ∀ c msg, P c →
    (GuestChannel.send c msg).1 = .ok () ∧ P (GuestChannel.send c msg).2

theorem Works.send {c : C} (h : Works c) (msg : GuestToHost) :
    (GuestChannel.send c msg).1 = .ok () ∧ Works (GuestChannel.send c msg).2 := by
  obtain ⟨P, hc, hP⟩ := h
  exact ⟨(hP c msg hc).1, P, (hP c msg hc).2, hP⟩

/-- The tracker after a list of boundaries. -/
def trackSignals (signals : List (TurnSignal × Timestamp)) : TurnTracker :=
  (signals.map Prod.fst).foldl TurnTracker.apply .new

theorem trackSignals_append_singleton (signals : List (TurnSignal × Timestamp))
    (s : TurnSignal × Timestamp) :
    trackSignals (signals ++ [s]) = (trackSignals signals).apply s.1 := by
  simp [trackSignals]

/-- The tracker has the same turn open as the guest, under the guest's id plus one. -/
structure OneAhead (t : TurnTracker) (g : Guest C) : Prop where
  works : Works g.chan
  counter : t.lastId = g.nextTurn.get
  isOpen : t.inTurn = g.inFlight.isSome
  ahead : ∀ turn, g.inFlight = some turn → turn.get + 1 = t.lastId

omit [GuestChannel C] in
/-- A boundary that finds the turn as it would leave it is ignored by the tracker too. -/
theorem apply_ignored {t : TurnTracker} {signal : TurnSignal}
    (h : t.inTurn = decide (signal = .start)) : t.apply signal = t := by
  cases signal with
  | start => simp_all [TurnTracker.apply]
  | stop =>
    show { t with inTurn := false } = t
    rw [show false = t.inTurn from h.symm]

/-- One boundary keeps the tracker one ahead, as long as the guest's counter does not saturate. -/
theorem OneAhead.step {t : TurnTracker} {g : Guest C} (h : OneAhead t g)
    (hroom : t.lastId.toNat + 1 < 2 ^ 64) (signal : TurnSignal) (now : Timestamp) :
    OneAhead (t.apply signal) (Guest.exec (applySignal signal now) g).2 ∧
      (t.apply signal).lastId.toNat ≤ t.lastId.toNat + 1 := by
  by_cases hsame : t.inTurn = decide (signal = .start)
  · rw [apply_ignored hsame, Guest.exec_applySignal_ignored now (h.isOpen.symm.trans hsame)]
    exact ⟨h, by omega⟩
  · -- A genuine open advances both counters, and a genuine close neither.
    cases signal with
    | start =>
      have hclosed : t.inTurn = false := by simpa using hsame
      have hidle : g.inFlight = none := by
        rw [← Option.not_isSome_iff_eq_none, ← h.isOpen, hclosed]
        exact Bool.false_ne_true
      have hnext : g.nextTurn.next = ⟨t.lastId + 1⟩ := by
        have hne : g.nextTurn.get ≠ UInt64.ofNat (2 ^ 64 - 1) := by
          rw [← h.counter]
          rintro hmax
          rw [hmax] at hroom
          exact absurd hroom (by decide)
        rw [TurnId.next, if_neg hne, h.counter]
      have happly : t.apply .start = { inTurn := true, lastId := t.lastId + 1 } := by
        simp [TurnTracker.apply, hclosed]
      rw [Guest.exec_applySignal_start now hidle, happly]
      refine ⟨⟨(h.works.send _).2, ?_, rfl, ?_⟩, ?_⟩
      · show t.lastId + 1 = g.nextTurn.next.get
        rw [hnext]
      · intro turn hturn
        obtain rfl : g.nextTurn = turn := Option.some.inj hturn
        show g.nextTurn.get + 1 = t.lastId + 1
        rw [h.counter]
      · show (t.lastId + 1).toNat ≤ t.lastId.toNat + 1
        rw [UInt64.toNat_add, UInt64.toNat_one]
        exact Nat.mod_le _ _
    | stop =>
      have hopen : t.inTurn = true := by simpa using hsame
      obtain ⟨turn, hturn⟩ : ∃ turn, g.inFlight = some turn := by
        rw [← Option.isSome_iff_exists, ← h.isOpen, hopen]
      obtain ⟨hsend, hworks⟩ := h.works.send (.turnEnded turn now)
      rw [Guest.exec_applySignal_stop now hturn hsend]
      exact ⟨⟨hworks, h.counter, rfl, by simp⟩, by simp [TurnTracker.apply]⟩

/-- Over a working channel the tracker and the guest agree on whether a turn is open, and the
tracker's id is the guest's plus one. -/
theorem tracker_one_ahead (vmId : VmId) (version : GuestdVersion) {chan : C} (hworks : Works chan)
    (signals : List (TurnSignal × Timestamp)) (hlength : signals.length < 2 ^ 64) :
    OneAhead (trackSignals signals) ((Guest.new vmId version chan).applySignals signals) ∧
      (trackSignals signals).lastId.toNat ≤ signals.length := by
  induction signals using List.reverseRecOn with
  | nil =>
    have hidle : (Guest.new vmId version chan).inFlight = none := rfl
    exact ⟨⟨hworks, rfl, rfl, by simp [Guest.applySignals, hidle]⟩, Nat.le_refl 0⟩
  | append_singleton signals s ih =>
    rw [List.length_append, List.length_singleton] at hlength ⊢
    obtain ⟨hahead, hcount⟩ := ih (by omega)
    rw [trackSignals_append_singleton, Guest.applySignals_append_singleton]
    obtain ⟨hahead', hcount'⟩ := hahead.step (by omega) s.1 s.2
    exact ⟨hahead', by omega⟩

/-! ## Agreement -/

/-- Without an open both stay as they began. -/
theorem no_open (vmId : VmId) (version : GuestdVersion) (chan : C)
    (signals : List (TurnSignal × Timestamp)) (h : ∀ s ∈ signals, s.1 ≠ .start) :
    trackSignals signals = .new ∧
      (Guest.new vmId version chan).applySignals signals = .new vmId version chan := by
  induction signals using List.reverseRecOn with
  | nil => exact ⟨rfl, rfl⟩
  | append_singleton signals s ih =>
    obtain ⟨htracker, hguest⟩ := ih fun s' hs' => h s' (by simp [hs'])
    have hs : s.1 = .stop := by
      have hne := h s (by simp)
      cases hsig : s.1 with
      | start => exact absurd hsig hne
      | stop => rfl
    rw [trackSignals_append_singleton, Guest.applySignals_append_singleton, htracker, hguest, hs]
    exact ⟨apply_ignored rfl, congrArg Prod.snd (Guest.exec_applySignal_ignored s.2 rfl)⟩

/-- The tracker and the guest report the same turn in flight after every prefix of a sequence of
boundaries exactly when no boundary of it opens a turn. -/
theorem trackers_agree_iff (vmId : VmId) (version : GuestdVersion) (chan : C)
    (signals : List (TurnSignal × Timestamp)) :
    (∀ p, p <+: signals → (trackSignals p).inFlight =
        ((Guest.new vmId version chan).applySignals p).inFlight) ↔
      ∀ s ∈ signals, s.1 ≠ .start := by
  constructor
  · intro hagree
    by_contra hnone
    have hopen : ∃ s ∈ signals, s.1 = .start := by
      by_contra hall
      exact hnone fun s hs hstart => hall ⟨s, hs, hstart⟩
    -- At the first open the tracker reports turn `1` and the guest turn `0`.
    have hfirst : (signals.find? fun s => s.1 = .start).isSome := by
      simpa [List.find?_isSome] using hopen
    obtain ⟨s, hs⟩ := Option.isSome_iff_exists.mp hfirst
    obtain ⟨hstart, before, after, rfl, hbefore⟩ := List.find?_eq_some_iff_append.mp hs
    obtain ⟨htracker, hguest⟩ := no_open vmId version chan before
      fun s' hs' => by simpa using hbefore s' hs'
    have hboth := hagree (before ++ [s]) ⟨after, by simp⟩
    rw [trackSignals_append_singleton, Guest.applySignals_append_singleton, htracker, hguest,
      show s.1 = .start by simpa using hstart, Guest.exec_applySignal_start s.2 rfl] at hboth
    have hids : some (TurnId.mk 1) = some ⟨0⟩ := hboth
    exact absurd hids (by decide)
  · intro hnone p hp
    obtain ⟨htracker, hguest⟩ := no_open vmId version chan p
      fun s hs => hnone s (hp.subset hs)
    rw [htracker, hguest]
    rfl

end

/-- The first turn of a wrapped child: the tracker calls it `1`, the guest over a working channel
`0`. -/
theorem first_turn_differs :
    Works (FatedChannel.fresh [] fun _ => .delivered) ∧
    (trackSignals [(.start, ⟨1⟩)]).inFlight = some ⟨1⟩ ∧
    ((Guest.new ⟨0⟩ ⟨"0.1.0"⟩ (FatedChannel.fresh [] fun _ => .delivered)).applySignals
      [(.start, ⟨1⟩)]).inFlight = some ⟨0⟩ := by
  refine ⟨⟨fun c => c.WorksFromNow, fun _ _ => rfl, ?_⟩, rfl, rfl⟩
  intro c msg hc
  exact ⟨by rw [FatedChannel.send_eq, hc.nextFate]; rfl, hc.push msg⟩

end Sleepwalk.Guestd
