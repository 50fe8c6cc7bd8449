import Mathlib.Data.List.Nodup
import Sleepwalk.Harness.LoadGen
import Sleepwalk.Hostd.TurnDriver

/-!
# A load on a live guest

`bin/loadtest.rs` hands the turn driver of `guestload.rs` to `run_load`. The turn ids are the places
in the schedule, so no two calls share one, and what is known of the driver's calls holds of the
scheduled turns.
-/

namespace Sleepwalk.Hostd.TurnDriver

open Proto Harness

namespace VsockTurnDriver

variable {d d' : VsockTurnDriver} {id id' : TurnId} {events : List DriverEvent} {e : DriverEvent}

/-- A call is booked when it returns, and not before. -/
def BookedOnReturn (id : TurnId) (d : VsockTurnDriver) : Prop :=
  (d.calls id ≠ some .returned ∧ d.outcomes id = []) ∨
    (d.calls id = some .returned ∧ ∃ outcome, d.outcomes id = [outcome])

/-- A call that has returned stays so. -/
theorem returned_of_step (hstep : d.step e = some d') (h : d.calls id = some .returned) :
    d'.calls id = some .returned := by
  cases e with
  | closed =>
    obtain rfl := (step_closed_iff.mp hstep).2
    exact h
  | turn id' event =>
    have hturned := turned_of_turn hstep
    by_cases hid : id = id'
    · subst hid
      cases hturned with
      | routed =>
        rw [calls_route_self, h]
        simp [Call.wake]
      | called hcall | sent hcall | sendFailed hcall | completed hcall | expired hcall
      | gaveUpUnsent hcall | gaveUpExpired hcall =>
        rw [h] at hcall
        cases hcall
    · rwa [(hturned.frame hid).1]

theorem Call.wake_eq_returned_iff {call : Call} : call.wake = .returned ↔ call = .returned := by
  cases call with
  | sending rx | waiting rx => cases rx <;> simp [Call.wake]
  | _ => simp [Call.wake]

/-- A call that is under way has no booking yet. -/
theorem BookedOnReturn.outcomes_eq_nil (h : BookedOnReturn id d)
    (hne : d.calls id ≠ some .returned) :
    d.outcomes id = [] := by
  rcases h with ⟨-, hnil⟩ | ⟨hreturned, -⟩
  · exact hnil
  · exact absurd hreturned hne

theorem BookedOnReturn.turned {event : TurnEvent} (h : BookedOnReturn id d)
    (hturned : Turned id d event d') : BookedOnReturn id d' := by
  cases hturned with
  | called hcall => exact .inl ⟨by simp, by simpa using h.outcomes_eq_nil (by simp [hcall])⟩
  | sent hcall | sendFailed hcall | expired hcall =>
    exact .inl ⟨by simp, by simpa using h.outcomes_eq_nil (by simp [hcall])⟩
  | routed =>
    have hcalls : (d.route id).calls id = some .returned ↔ d.calls id = some .returned := by
      rw [calls_route_self]
      split
      · simp [Call.wake_eq_returned_iff]
      · rfl
    simpa only [BookedOnReturn, ne_eq, hcalls, outcomes_route] using h
  | completed hcall => exact .inr ⟨by simp, .ok, by simp [h.outcomes_eq_nil (by simp [hcall])]⟩
  | gaveUpUnsent hcall | gaveUpExpired hcall =>
    exact .inr ⟨by simp, .dropped, by simp [h.outcomes_eq_nil (by simp [hcall])]⟩

theorem bookedOnReturn_of_run (hrun : run events = some d) (id : TurnId) :
    d.BookedOnReturn id := by
  refine Runs.run_invariant (motive := fun _ d => BookedOnReturn id d) (.inl ⟨by simp [new], rfl⟩)
    ?_ hrun
  intro events d e d' _ ih hstep
  cases e with
  | closed =>
    obtain rfl := (step_closed_iff.mp hstep).2
    exact ih
  | turn id' event =>
    have hturned := turned_of_turn hstep
    by_cases hid : id = id'
    · subst hid
      exact ih.turned hturned
    · obtain ⟨hcalls, -, houtcomes⟩ := hturned.frame hid
      rwa [BookedOnReturn, hcalls, houtcomes]

/-- There is no call of a turn that was not called. -/
theorem called_of_calls (hrun : run events = some d) (h : d.calls id ≠ none) :
    .turn id .called ∈ events := by
  revert h
  refine Runs.run_invariant (motive := fun events d => d.calls id ≠ none →
    .turn id .called ∈ events) (by simp [new]) ?_ hrun
  intro events d e d' _ ih hstep h
  cases e with
  | closed =>
    obtain rfl := (step_closed_iff.mp hstep).2
    exact List.mem_append_left _ (ih h)
  | turn id' event =>
    have hturned := turned_of_turn hstep
    by_cases hid : id = id'
    · subst hid
      by_cases hcalled : event = .called
      · simp [hcalled]
      · refine List.mem_append_left _ (ih fun hnone => ?_)
        cases hturned with
        | called => exact hcalled rfl
        | routed =>
          rw [calls_route_self, hnone] at h
          simp at h
        | sent hcall | sendFailed hcall | completed hcall | expired hcall
        | gaveUpUnsent hcall | gaveUpExpired hcall =>
          rw [hnone] at hcall
          cases hcall
    · rw [(hturned.frame hid).1] at h
      exact List.mem_append_left _ (ih h)

end VsockTurnDriver

open VsockTurnDriver

/-! ## The load -/

/-- The turn driver as `run_load` uses it. -/
def vsockTurnDriver : Harness.TurnDriver VsockTurnDriver DriverEvent where
  start := .new
  step := VsockTurnDriver.step
  runTurn turn := .turn (.fromU64 turn) .called
  isRunTurn
    | .turn _ .called => true
    | _ => false
  returned d turn := d.calls (.fromU64 turn) = some .returned

/-- The id of the turn at a place of the schedule. -/
def turnId (turn : ℕ) : TurnId := .fromU64 (.ofNat turn)

theorem turnId_injective {turn turn' : ℕ} (h : turn < 2 ^ 64) (h' : turn' < 2 ^ 64)
    (heq : turnId turn = turnId turn') : turn = turn' := by
  have hget : UInt64.ofNat turn = UInt64.ofNat turn' := congrArg TurnId.get heq
  rw [← UInt64.toNat_ofNat_of_lt' h, ← UInt64.toNat_ofNat_of_lt' h', hget]

section Load

variable {H : Type} {h : Histogram H} {schedule : Schedule}
  {events : List (LoadEvent DriverEvent)} {s : Load VsockTurnDriver H}

/-- Each turn of the schedule is booked once, and no other turn is. -/
theorem outcomes_of_joined (hrun : Load.run h vsockTurnDriver schedule events = some s)
    (hjoined : s.Joined schedule) (id : TurnId) :
    (∃ outcome, s.driver.outcomes id = [outcome] ∧ ∃ turn < schedule.times.length, id = turnId turn)
      ∨ (s.driver.outcomes id = [] ∧ ∀ turn < schedule.times.length, id ≠ turnId turn) := by
  have hdriver : VsockTurnDriver.run _ = some s.driver := run_seen hrun
  by_cases hid : ∃ turn < schedule.times.length, id = turnId turn
  · obtain ⟨turn, hturn, rfl⟩ := hid
    have hreturned : vsockTurnDriver.returned s.driver (.ofNat turn) = true := by
      refine returned_of_recorded (fun d e d' turn hstep hd => ?_) hrun (hjoined turn hturn)
      exact decide_eq_true (returned_of_step hstep (of_decide_eq_true hd))
    rcases bookedOnReturn_of_run hdriver (turnId turn) with ⟨hne, -⟩ | ⟨-, outcome, hout⟩
    · exact absurd (of_decide_eq_true hreturned) hne
    · exact .inl ⟨outcome, hout, turn, hturn, rfl⟩
  · push Not at hid
    refine .inr ⟨?_, hid⟩
    rcases bookedOnReturn_of_run hdriver id with ⟨-, hnil⟩ | ⟨hcalls, -⟩
    · exact hnil
    · obtain ⟨turn, hturn, hcall⟩ := exists_turn_of_mem_seen hrun
        (called_of_calls hdriver (by rw [hcalls]; simp)) rfl
      simp only [vsockTurnDriver, DriverEvent.turn.injEq, and_true] at hcall
      exact absurd hcall (hid turn hturn)

theorem count_testTurns (d : VsockTurnDriver) (id : TurnId) :
    (d.testTurns.map Prod.fst).count id = (d.outcomes id).length := by
  rw [outcomes, List.length_map, List.count_eq_countP, List.countP_map,
    List.countP_eq_length_filter]
  rfl

/-- The turns booked as ok. -/
def okTurns (d : VsockTurnDriver) : ℕ := d.testTurns.countP fun t => t.2 = .ok

theorem okTurns_add_droppedTurns (d : VsockTurnDriver) :
    okTurns d + d.droppedTurns = d.testTurns.length := by
  rw [okTurns, droppedTurns, List.length_eq_countP_add_countP fun t : TurnId × Outcome => t.2 = .ok]
  congr 2
  funext t
  cases t.2 <;> rfl

/-- When `run_load` returns from a load on a guest, every scheduled turn has been booked exactly
once, as ok or as dropped, and the summary counts as many samples. If every request went out, those
booked as ok and those that the driver reports as dropped add up to that count. -/
theorem load_adds_up (hlaw : h.Lawful)
    (hrun : Load.run h vsockTurnDriver schedule events = some s) (hjoined : s.Joined schedule) :
    (s.driver.testTurns.map Prod.fst).Perm ((List.range schedule.times.length).map turnId) ∧
      (s.recorder.summary h).count = s.driver.testTurns.length ∧
      ((∀ id, .turn id .sendFailed ∉ vsockTurnDriver.seen events) →
        okTurns s.driver + s.driver.dropped.toNat = (s.recorder.summary h).count) := by
  have hnodup : ((List.range schedule.times.length).map turnId).Nodup := by
    refine List.Nodup.map_on (fun turn hturn turn' hturn' heq => ?_) List.nodup_range
    have hlt := schedule.length_lt
    rw [List.mem_range] at hturn hturn'
    exact turnId_injective (by omega) (by omega) heq
  have hperm : (s.driver.testTurns.map Prod.fst).Perm
      ((List.range schedule.times.length).map turnId) := by
    refine List.perm_iff_count.mpr fun id => ?_
    rw [count_testTurns]
    rcases outcomes_of_joined hrun hjoined id with ⟨outcome, hout, turn, hturn, rfl⟩ | ⟨hout, hid⟩
    · rw [hout, List.count_eq_one_of_mem hnodup]
      · rfl
      · exact List.mem_map_of_mem (List.mem_range.mpr hturn)
    · rw [hout, List.count_eq_zero_of_not_mem]
      · rfl
      · rintro hmem
        obtain ⟨turn, hturn, rfl⟩ := List.mem_map.mp hmem
        exact hid turn (List.mem_range.mp hturn) rfl
  have hlength : s.driver.testTurns.length = schedule.times.length := by
    simpa using hperm.length_eq
  obtain ⟨-, -, -, -, hcount, -⟩ := run_load_summary hlaw hrun hjoined
  refine ⟨hperm, hcount.trans hlength.symm, fun hsend => ?_⟩
  -- No more turns are dropped than there are, so the counter has not wrapped around.
  have hdropped : s.driver.dropped.toNat = s.driver.droppedTurns := by
    have hcounted : s.driver.Counted := counted_of_run (run_seen hrun) hsend
    have hle := okTurns_add_droppedTurns s.driver
    have hlt := schedule.length_lt
    rw [hcounted, UInt64.toNat_ofNat_of_lt' (show _ < 2 ^ 64 by omega)]
  rw [hdropped, okTurns_add_droppedTurns, hcount, hlength]

/-- The first turn completes, and the second runs into its deadline. -/
theorem load_adds_up_two_turns : ∃ s : Load VsockTurnDriver (List UInt64),
    Load.run keeping vsockTurnDriver twoTurns
        [.fired 0, .driven (.turn ⟨0⟩ .sent), .driven (.turn ⟨0⟩ .routed),
          .driven (.turn ⟨0⟩ .completed), .completed 0, .passed ⟨100000000⟩, .fired 1,
          .driven (.turn ⟨1⟩ .sent), .passed ⟨3000000000⟩, .driven (.turn ⟨1⟩ .expired),
          .driven (.turn ⟨1⟩ .gaveUp), .completed 1] = some s ∧
    okTurns s.driver + s.driver.dropped.toNat = (s.recorder.summary keeping).count ∧
      (s.recorder.summary keeping).count = 2 := by
  have hrun : Load.run keeping vsockTurnDriver twoTurns
      [.fired 0, .driven (.turn ⟨0⟩ .sent), .driven (.turn ⟨0⟩ .routed),
        .driven (.turn ⟨0⟩ .completed), .completed 0, .passed ⟨100000000⟩, .fired 1,
        .driven (.turn ⟨1⟩ .sent), .passed ⟨3000000000⟩, .driven (.turn ⟨1⟩ .expired),
        .driven (.turn ⟨1⟩ .gaveUp), .completed 1] = some _ := rfl
  obtain ⟨-, -, hsum⟩ := load_adds_up lawful_keeping hrun (by decide)
  exact ⟨_, hrun, hsum fun id => by simp [TurnDriver.seen, vsockTurnDriver], rfl⟩

end Load

end Sleepwalk.Hostd.TurnDriver
