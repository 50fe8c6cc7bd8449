import Sleepwalk.Hostd.Drain
import Sleepwalk.Lib.Window

/-!
# The verdict as a function of histories

A `DrainCoordinator` folds three interleaved streams: guest messages, infra ticks and storage
reports. Each stream reaches one layer only (`foldl_observe_eq`), so the verdict depends on the
three histories alone, and each layer has a declarative reading of its own history:

* `AppHistoryQuiet`: a drain was acked, and the last turn marker or ack leaves no turn in flight;
* `InfraHistoryQuiet`: the last `samples` ticks are below the threshold, and the queues are quiet;
* the storage layer is quiet iff the last report says so.

`verdict_of_histories` puts these together. The app layer clears its turn on any `TurnEnded`,
whatever id it carries; `verdict_holds_out_iff` says when a turn reported in flight is still the
hold-out.
-/

namespace Sleepwalk.Hostd

open Proto Guestd

/-! ## The histories of the layers -/

section Histories

variable {α : Type}

/-- The infra ticks among the signals of a drain attempt, in order. -/
def infraTicks (signals : List (Observation α)) : List (α × Bool) :=
  signals.filterMap fun
    | .infra cpuPct queuesQuiet => some (cpuPct, queuesQuiet)
    | _ => none

/-- The storage reports among the signals of a drain attempt, in order. -/
def storageReports (signals : List (Observation α)) : List Bool :=
  signals.filterMap fun
    | .storage caughtUp => some caughtUp
    | _ => none

/-- The infra layer of a fresh coordinator that has seen these ticks. -/
def infraView (infra : InfraThresholds α) (ticks : List (α × Bool)) : InfraLayer α :=
  ticks.foldl (fun l tick => l.record tick.1 tick.2) (.new infra)

/-- The storage layer of a fresh coordinator that has seen these reports. -/
def storageView (reports : List Bool) : StorageLayer :=
  reports.foldl StorageLayer.setCaughtUp .new

/-- Every layer sees its own signals only, in their order. -/
theorem foldl_observe_eq (infra : InfraThresholds α) (signals : List (Observation α)) :
    signals.foldl DrainCoordinator.observe (.new infra) =
      { detector :=
        { app := hostView (guestMessages signals)
          infra := infraView infra (infraTicks signals)
          storage := storageView (storageReports signals) } } := by
  induction signals using List.reverseRecOn with
  | nil => rfl
  | append_singleton signals s ih =>
    rw [List.foldl_append, List.foldl_cons, List.foldl_nil, ih]
    -- One more signal extends the history of its own layer by one.
    cases s with
    | guest msg =>
      simp [DrainCoordinator.observe, DrainCoordinator.observeGuest, guestMessages, infraTicks,
        storageReports, hostView]
    | infra cpuPct queuesQuiet =>
      simp [DrainCoordinator.observe, DrainCoordinator.observeInfra, guestMessages, infraTicks,
        storageReports, infraView]
    | storage caughtUp =>
      simp [DrainCoordinator.observe, DrainCoordinator.observeStorage, guestMessages, infraTicks,
        storageReports, storageView]

end Histories

/-! ## The app layer -/

/-- A turn marker or a drain ack: the messages that the app layer does not ignore. -/
def bearsOnApp : GuestToHost → Bool
  | .turnStarted _ _ | .turnEnded _ _ | .drainAck _ => true
  | .hello _ _ | .resumed _ | .ping | .pong => false

/-- The last turn marker or drain ack of a history. -/
def lastAppSignal (msgs : List GuestToHost) : Option GuestToHost :=
  (msgs.filter bearsOnApp).getLast?

/-- The turn that a turn marker or a drain ack reports in flight. -/
def reportedTurn : GuestToHost → Option TurnId
  | .turnStarted turnId _ => some turnId
  | .drainAck inFlight => inFlight
  | .turnEnded _ _ | .hello _ _ | .resumed _ | .ping | .pong => none

/-- The hold-out turn of a history: the one that the last turn marker or ack reports in flight. -/
def holdOutTurn (msgs : List GuestToHost) : Option TurnId := (lastAppSignal msgs).bind reportedTurn

/-- A history that shows the app layer quiet. -/
structure AppHistoryQuiet (msgs : List GuestToHost) : Prop where
  /-- The guest acked a drain. -/
  acked : ∃ inFlight, .drainAck inFlight ∈ msgs
  /-- The last turn marker or ack ends a turn, or says that none is in flight. -/
  lastEnds : ∃ last, lastAppSignal msgs = some last ∧
    ((∃ turnId ts, last = .turnEnded turnId ts) ∨ last = .drainAck none)

theorem lastAppSignal_append_singleton (msgs : List GuestToHost) (msg : GuestToHost) :
    lastAppSignal (msgs ++ [msg]) = if bearsOnApp msg then some msg else lastAppSignal msgs := by
  unfold lastAppSignal
  split <;> rename_i h <;> simp [h]

theorem lastAppSignal_eq_some {msgs : List GuestToHost} {msg : GuestToHost}
    (h : lastAppSignal msgs = some msg) : bearsOnApp msg = true :=
  (List.mem_filter.mp (List.mem_of_getLast? h)).2

theorem lastAppSignal_eq_none_iff (msgs : List GuestToHost) :
    lastAppSignal msgs = none ↔ ∀ msg ∈ msgs, bearsOnApp msg = false := by
  simp [lastAppSignal]

theorem hostView_append_singleton (msgs : List GuestToHost) (msg : GuestToHost) :
    hostView (msgs ++ [msg]) = (hostView msgs).observe msg := hostView_append msgs [msg]

/-- The gate is closed once an ack was read. -/
theorem hostView_gated_iff (msgs : List GuestToHost) :
    (hostView msgs).gated = true ↔ ∃ inFlight, .drainAck inFlight ∈ msgs := by
  induction msgs using List.reverseRecOn with
  | nil => simp [hostView, AppLayer.new]
  | append_singleton msgs msg ih =>
    rw [hostView_append_singleton]
    cases msg with
    | drainAck inFlight => simp [AppLayer.observe, AppLayer.drainAcked]
    | turnStarted turnId ts => simpa [AppLayer.observe, AppLayer.turnStarted] using ih
    | turnEnded turnId ts => simpa [AppLayer.observe, AppLayer.turnEnded] using ih
    | hello vmId version | resumed ts | ping | pong => simpa [AppLayer.observe] using ih

/-- The turn in flight is the one that the last turn marker or ack reports. -/
theorem hostView_inFlight (msgs : List GuestToHost) :
    (hostView msgs).inFlight = holdOutTurn msgs := by
  induction msgs using List.reverseRecOn with
  | nil => rfl
  | append_singleton msgs msg ih =>
    rw [hostView_append_singleton, holdOutTurn, lastAppSignal_append_singleton]
    cases msg with
    | drainAck _ | turnStarted _ _ | turnEnded _ _ => rfl
    | hello _ _ | resumed _ | ping | pong => exact ih

/-- The app layer is quiet exactly when its history shows it. -/
theorem hostView_isQuiet_iff (msgs : List GuestToHost) :
    (hostView msgs).isQuiet = true ↔ AppHistoryQuiet msgs := by
  rw [AppLayer.isQuiet, Bool.and_eq_true, hostView_gated_iff, hostView_inFlight, holdOutTurn,
    Option.isNone_iff_eq_none]
  constructor
  · rintro ⟨⟨inFlight, hack⟩, hturn⟩
    refine ⟨⟨inFlight, hack⟩, ?_⟩
    -- There is a last turn marker or ack, since there is an ack.
    obtain ⟨last, hlast⟩ : ∃ last, lastAppSignal msgs = some last := by
      by_contra hnone
      have hall := (lastAppSignal_eq_none_iff msgs).mp (Option.eq_none_iff_forall_ne_some.mpr
        fun last hlast => hnone ⟨last, hlast⟩)
      exact absurd (hall _ hack) (by simp [bearsOnApp])
    have hbears := lastAppSignal_eq_some hlast
    rw [hlast, Option.bind_some] at hturn
    refine ⟨last, hlast, ?_⟩
    cases last with
    | turnEnded turnId ts => exact Or.inl ⟨turnId, ts, rfl⟩
    | drainAck reported => exact Or.inr (congrArg _ hturn)
    | turnStarted _ _ => simp [reportedTurn] at hturn
    | hello _ _ | resumed _ | ping | pong => simp [bearsOnApp] at hbears
  · rintro ⟨hack, last, hlast, hover⟩
    refine ⟨hack, ?_⟩
    rw [hlast, Option.bind_some]
    rcases hover with ⟨turnId, ts, rfl⟩ | rfl <;> rfl

/-! ## The infra and storage layers -/

section Samples

variable {α : Type}

/-- The window of the infra layer slides over the utilizations, and the queues are as of the most
recent tick. -/
theorem infraView_eq (infra : InfraThresholds α) (ticks : List (α × Bool)) :
    infraView infra ticks =
      { thresholds := infra
        recent := Window.slide infra.samples (ticks.map Prod.fst)
        queuesQuiet := (ticks.getLast?.map Prod.snd).getD false } := by
  induction ticks using List.reverseRecOn with
  | nil => rfl
  | append_singleton ticks tick ih =>
    rw [infraView, List.foldl_append, ← infraView, ih, List.map_append, List.map_singleton,
      Window.slide_append_singleton]
    simp [InfraLayer.record, Window.push]

/-- A history that shows the infra layer quiet. -/
structure InfraHistoryQuiet [LT α] (infra : InfraThresholds α) (ticks : List (α × Bool)) :
    Prop where
  /-- Quiet samples are asked for at all. -/
  samples_pos : 0 < infra.samples
  /-- There are as many ticks as asked for. -/
  enough : infra.samples ≤ ticks.length
  /-- Each of the last `samples` ticks was below the threshold. -/
  below : ∀ tick ∈ ticks.rtake infra.samples, tick.1 < infra.cpuPct
  /-- The queues were quiet at the most recent tick. -/
  queues : ∃ tick, ticks.getLast? = some tick ∧ tick.2 = true

/-- The infra layer is quiet exactly when its history shows it. -/
theorem infraView_isQuiet_iff [LT α] [DecidableLT α] (infra : InfraThresholds α)
    (ticks : List (α × Bool)) :
    (infraView infra ticks).isQuiet = true ↔ InfraHistoryQuiet infra ticks := by
  rw [infraView_eq, InfraLayer.isQuiet]
  by_cases hn : 0 < infra.samples
  · have hbelow : (∀ cpuPct ∈ (ticks.map Prod.fst).rtake infra.samples, cpuPct < infra.cpuPct) ↔
        ∀ tick ∈ ticks.rtake infra.samples, tick.1 < infra.cpuPct := by
      rw [List.rtake, List.length_map, ← List.map_drop, List.forall_mem_map, List.rtake]
    have hqueues : (ticks.getLast?.map Prod.snd).getD false = true ↔
        ∃ tick, ticks.getLast? = some tick ∧ tick.2 = true := by
      cases ticks.getLast? with
      | none => simp
      | some tick => simp
    have hfull : ((ticks.map Prod.fst).rtake infra.samples).length = infra.samples ↔
        infra.samples ≤ ticks.length := by
      rw [← Window.slide_eq_rtake hn, Window.length_slide_eq_iff hn, List.length_map]
    simp only [Bool.and_eq_true, decide_eq_true_eq, List.all_eq_true, hfull,
      Window.slide_eq_rtake hn, hbelow, hqueues]
    constructor
    · rintro ⟨⟨⟨_, henough⟩, hquiet⟩, hall⟩
      exact ⟨hn, henough, hall, hquiet⟩
    · rintro ⟨_, henough, hall, hquiet⟩
      exact ⟨⟨⟨hn, henough⟩, hquiet⟩, hall⟩
  · -- With no samples asked for, the layer never counts as quiet.
    have hnever : ¬ InfraHistoryQuiet infra ticks := fun h => hn h.samples_pos
    simp [hn, hnever]

/-- The storage layer is quiet exactly when the last report says so. -/
theorem storageView_isQuiet_iff (reports : List Bool) :
    (storageView reports).isQuiet = true ↔ reports.getLast? = some true := by
  induction reports using List.reverseRecOn with
  | nil => simp [storageView, StorageLayer.new, StorageLayer.isQuiet]
  | append_singleton reports report _ =>
    simp [storageView, StorageLayer.setCaughtUp, StorageLayer.isQuiet]

/-! ## The infra window -/

/-- What the infra window is for: it holds the most recent `samples` readings in order, or all of
them while there are fewer, and never more than `samples` of them (or one). -/
structure HoldsRecent (infra : InfraThresholds α) (ticks : List (α × Bool)) : Prop where
  bounded : (infraView infra ticks).recent.length ≤ max infra.samples 1
  recent : (infraView infra ticks).recent =
    (ticks.map Prod.fst).rtake (min ticks.length infra.samples)

/-- Without samples nothing is ever dropped. -/
theorem recent_eq_of_no_samples {infra : InfraThresholds α} (hnone : infra.samples = 0)
    (ticks : List (α × Bool)) : (infraView infra ticks).recent = ticks.map Prod.fst := by
  rw [infraView_eq, hnone, Window.slide_zero]

theorem holdsRecent_of_samples {infra : InfraThresholds α} (hpos : 0 < infra.samples)
    (ticks : List (α × Bool)) : HoldsRecent infra ticks := by
  have hrecent : (infraView infra ticks).recent =
      (ticks.map Prod.fst).rtake (min ticks.length infra.samples) := by
    have hcount : ticks.length - infra.samples =
        ticks.length - min ticks.length infra.samples := by omega
    simp only [infraView_eq, Window.slide_eq_rtake hpos, List.rtake, List.length_map, hcount]
  refine ⟨?_, hrecent⟩
  rw [hrecent, List.rtake, List.length_drop, List.length_map]
  omega

/-- At all times during a drain the infra window holds the most recent readings and no others, if
and only if there are samples to hold or nothing is recorded. -/
theorem window_holds_recent_iff (infra : InfraThresholds α) (ticks : List (α × Bool)) :
    (∀ before, before <+: ticks → HoldsRecent infra before) ↔
      0 < infra.samples ∨ ticks = [] := by
  constructor
  · intro hall
    by_contra hnot
    push Not at hnot
    obtain ⟨hsamples, hticks⟩ := hnot
    have hnone : infra.samples = 0 := by omega
    -- The window has every reading, and should have none.
    have hrecent := (hall ticks List.prefix_rfl).recent
    rw [recent_eq_of_no_samples hnone, hnone, Nat.min_zero, List.rtake_zero] at hrecent
    exact hticks (List.map_eq_nil_iff.mp hrecent)
  · rintro (hpos | rfl) before hbefore
    · exact holdsRecent_of_samples hpos before
    · obtain rfl := List.prefix_nil.mp hbefore
      exact ⟨Nat.zero_le _, rfl⟩

/-- Two ticks on a layer without samples. -/
theorem window_grows_without_samples :
    ¬ ∀ before, before <+: [(1, true), (2, true)] →
      HoldsRecent { cpuPct := 5, samples := 0 } before := by
  intro hall
  have hbounded := (hall _ List.prefix_rfl).bounded
  exact absurd hbounded (by decide)

end Samples

/-! ## The verdict -/

section Verdict

variable {α : Type} [LT α] [DecidableLT α]

/-- The verdict after a list of signals, from the histories of the three layers. -/
theorem verdict_eq (infra : InfraThresholds α) (signals : List (Observation α)) :
    (signals.foldl DrainCoordinator.observe (.new infra)).verdict =
      if (hostView (guestMessages signals)).isQuiet &&
          (infraView infra (infraTicks signals)).isQuiet &&
          (storageView (storageReports signals)).isQuiet then .quiescent
      else .busy (holdOutTurn (guestMessages signals)) := by
  rw [foldl_observe_eq, ← hostView_inFlight]
  rfl

omit [LT α] [DecidableLT α] in
/-- Signals with the same histories leave a fresh coordinator in the same state. -/
theorem foldl_observe_congr (infra : InfraThresholds α) {signals signals' : List (Observation α)}
    (hguest : guestMessages signals' = guestMessages signals)
    (hinfra : infraTicks signals' = infraTicks signals)
    (hstorage : storageReports signals' = storageReports signals) :
    signals'.foldl DrainCoordinator.observe (.new infra) =
      signals.foldl DrainCoordinator.observe (.new infra) := by
  rw [foldl_observe_eq, foldl_observe_eq, hguest, hinfra, hstorage]

omit [LT α] [DecidableLT α] in
/-- A neutral message leaves no trace. -/
theorem foldl_observe_neutral (infra : InfraThresholds α) (before after : List (Observation α))
    {msg : GuestToHost} (h : Neutral msg) :
    (before ++ .guest msg :: after).foldl DrainCoordinator.observe (.new infra) =
      (before ++ after).foldl DrainCoordinator.observe (.new infra) := by
  have hmsg (c : DrainCoordinator α) : c.observe (.guest msg) = c := by
    cases msg <;> first | rfl | exact absurd h id
  rw [List.foldl_append, List.foldl_cons, hmsg, List.foldl_append]

/-- The drain verdict is a function of each layer's history. It is `quiescent` exactly when the
three histories show their layers quiet, and otherwise names the hold-out turn. Signals with the
same histories, in whatever interleaving, and signals with one neutral message fewer lead to the
same verdict. -/
theorem verdict_of_histories (infra : InfraThresholds α) (signals : List (Observation α)) :
    let verdict := (signals.foldl DrainCoordinator.observe (.new infra)).verdict
    (verdict = .quiescent ↔ AppHistoryQuiet (guestMessages signals) ∧
      InfraHistoryQuiet infra (infraTicks signals) ∧
      (storageReports signals).getLast? = some true) ∧
    (verdict ≠ .quiescent → verdict = .busy (holdOutTurn (guestMessages signals))) ∧
    (∀ signals', guestMessages signals' = guestMessages signals →
      infraTicks signals' = infraTicks signals →
      storageReports signals' = storageReports signals →
      (signals'.foldl DrainCoordinator.observe (.new infra)).verdict = verdict) ∧
    ∀ before msg after, signals = before ++ .guest msg :: after → Neutral msg →
      ((before ++ after).foldl DrainCoordinator.observe (.new infra)).verdict = verdict := by
  intro verdict
  -- Each layer is a function of its own history, and the verdict one of the three layers.
  have hquiet : verdict = .quiescent ↔ AppHistoryQuiet (guestMessages signals) ∧
      InfraHistoryQuiet infra (infraTicks signals) ∧
      (storageReports signals).getLast? = some true := by
    rw [← hostView_isQuiet_iff, ← infraView_isQuiet_iff, ← storageView_isQuiet_iff,
      show verdict = _ from verdict_eq infra signals]
    simp [and_assoc]
  refine ⟨hquiet, ?_, ?_, ?_⟩
  · intro hbusy
    rw [show verdict = _ from verdict_eq infra signals] at hbusy ⊢
    apply if_neg
    intro hall
    exact hbusy (if_pos hall)
  · intro signals' hguest hinfra hstorage
    rw [foldl_observe_congr infra hguest hinfra hstorage]
  · intro before msg after hsplit hneutral
    rw [← foldl_observe_neutral infra before after hneutral, ← hsplit]

/-! ## Whose end releases the app layer -/

/-- The last turn marker or ack of a history that goes on is the last one of what came later, if
there is one. -/
theorem lastAppSignal_append (l₁ l₂ : List GuestToHost) :
    lastAppSignal (l₁ ++ l₂) = (lastAppSignal l₂).or (lastAppSignal l₁) := by
  simp [lastAppSignal, List.getLast?_append]

/-- A turn marker or ack that reports no turn and is not an ack ends a turn. -/
theorem eq_turnEnded {msg : GuestToHost} (hbears : bearsOnApp msg = true)
    (hturn : reportedTurn msg = none) (hack : msg ≠ .drainAck none) :
    ∃ u ts, msg = .turnEnded u ts := by
  cases msg with
  | turnEnded u ts => exact ⟨u, ts, rfl⟩
  | turnStarted _ _ => simp [reportedTurn] at hturn
  | drainAck inFlight => exact absurd (congrArg _ hturn) hack
  | hello _ _ | resumed _ | ping | pong => simp [bearsOnApp] at hbears

/-- The last report of a turn in flight named `t`, and since then the guest has neither sent the
end of `t` nor acked a drain with no turn in flight. The verdict holds out for `t` exactly as long
as no other turn was reported ended since. -/
theorem verdict_holds_out_iff (infra : InfraThresholds α) (signals : List (Observation α))
    (before : List GuestToHost) (report : GuestToHost) (after : List GuestToHost) (t : TurnId)
    (hsplit : guestMessages signals = before ++ report :: after)
    (hreport : reportedTurn report = some t)
    (hlast : ∀ msg ∈ after, reportedTurn msg = none)
    (hend : ∀ ts, .turnEnded t ts ∉ after) (hack : .drainAck none ∉ after) :
    (signals.foldl DrainCoordinator.observe (.new infra)).verdict = .busy (some t) ↔
      ∀ u ts, u ≠ t → .turnEnded u ts ∉ after := by
  have hbears : bearsOnApp report = true := by
    cases report <;> first | rfl | simp [reportedTurn] at hreport
  have hturn : holdOutTurn (guestMessages signals) =
      ((lastAppSignal after).or (some report)).bind reportedTurn := by
    rw [hsplit, List.append_cons, holdOutTurn, lastAppSignal_append,
      lastAppSignal_append_singleton, if_pos hbears]
  cases hafter : lastAppSignal after with
  | none =>
    -- Nothing since the report bears on the app layer, which still has the turn in flight.
    have hneutral := (lastAppSignal_eq_none_iff after).mp hafter
    rw [hafter, Option.none_or, Option.bind_some, hreport] at hturn
    have hbusy : (hostView (guestMessages signals)).isQuiet = false := by
      rw [AppLayer.isQuiet, hostView_inFlight, hturn, Option.isNone_some, Bool.and_false]
    rw [verdict_eq, hbusy, hturn]
    refine iff_of_true rfl ?_
    intro u ts _ hmem
    exact absurd (hneutral _ hmem) (by simp [bearsOnApp])
  | some msg =>
    -- What came last can only be the end of some other turn, and the layer has let go of `t`.
    have hmem : msg ∈ after := List.mem_of_mem_filter (List.mem_of_getLast? hafter)
    have hnone := hlast msg hmem
    obtain ⟨u, ts, rfl⟩ := eq_turnEnded (lastAppSignal_eq_some hafter) hnone
      fun h => hack (h ▸ hmem)
    rw [hafter, Option.some_or, Option.bind_some, hnone] at hturn
    rw [verdict_eq, hturn]
    refine iff_of_false ?_ ?_
    · split <;> simp
    · intro h
      exact h u ts (fun hut => hend ts (hut ▸ hmem)) hmem

/-- The end of turn 7, which is not in flight, after an ack that names turn 3. -/
theorem verdict_holds_out_iff_stale_end :
    ([.infra 1 true, .storage true, .guest (.drainAck (some ⟨3⟩)),
        .guest (.turnEnded ⟨7⟩ ⟨0⟩)].foldl
      DrainCoordinator.observe (.new { cpuPct := 5, samples := 1 })).verdict = .busy (some ⟨3⟩) ↔
      ∀ u ts, u ≠ ⟨3⟩ → .turnEnded u ts ∉ [GuestToHost.turnEnded ⟨7⟩ ⟨0⟩] :=
  verdict_holds_out_iff (α := ℕ) _ _ [] (.drainAck (some ⟨3⟩)) _ ⟨3⟩ rfl rfl
    (by simp [reportedTurn]) (by simp) (by simp)

/-- That stale end releases the app layer: the verdict is `quiescent` while turn 3, as far as the
host was told, still runs. -/
theorem stale_end_releases :
    ¬ ∀ (infra : InfraThresholds ℕ) (signals : List (Observation ℕ)) (before : List GuestToHost)
      (report : GuestToHost) (after : List GuestToHost) (t : TurnId),
      guestMessages signals = before ++ report :: after → reportedTurn report = some t →
      (∀ msg ∈ after, reportedTurn msg = none) → (∀ ts, .turnEnded t ts ∉ after) →
      .drainAck none ∉ after →
      (signals.foldl DrainCoordinator.observe (.new infra)).verdict = .busy (some t) := by
  intro hclaim
  have hbusy := hclaim { cpuPct := 5, samples := 1 }
    [.infra 1 true, .storage true, .guest (.drainAck (some ⟨3⟩)), .guest (.turnEnded ⟨7⟩ ⟨0⟩)]
    [] (.drainAck (some ⟨3⟩)) [.turnEnded ⟨7⟩ ⟨0⟩] ⟨3⟩ rfl rfl
    (by simp [reportedTurn]) (by simp) (by simp)
  exact absurd hbusy (by decide)

end Verdict

end Sleepwalk.Hostd
