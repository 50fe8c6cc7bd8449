import Sleepwalk.Rebalancer.LiveRun

/-!
# The control loop against live daemons

The control loop knows a pass by the statuses it fetches and by the answers of its two calls. Where
these are the answers of the daemons (`Meets`), a pass of the loop moves or ends as the pass of the
daemons does, so the loop converges when they are balanced, or is out of steps (`live_main`).
-/

namespace Sleepwalk.Rebalancer.ControlPlane

open Exec Proto Descent

/-- The loop meets in a pass what the daemons answer. -/
structure Meets (net : Net) (codec : Codec) (cfg : Config) (env : PassEnv) (d : Daemons)
    (s : Surroundings) : Prop where
  fetchStatus : s.fetchStatus = fetchStatus net codec env.get fun at' => some (d.registry at')
  api : ∀ r, d.read net codec cfg env = .ok r →
    (Rebalancer.rebalanceOnce r cfg.highWatermark cfg.fleet s.api).mapError Stop.failed =
      (exec (rebalanceOnce net env.step r cfg.highWatermark cfg.fleet) d.plane).1

section Loop

variable {net : Net} {codec : Codec} {cfg : Config} {site : HostId → Site} {gauge : ℕ → F64}
  {env : PassEnv} {envs : ℕ → PassEnv} {d d' start : Daemons} {s : Surroundings}
  {loop : ℕ → Surroundings} {w : ℕ}

/-- The loop reads what the daemons show. -/
theorem Meets.poll (hmeets : Meets net codec cfg env d s) :
    cfg.poll (parseVm net) s = d.read net codec cfg env := by
  rw [Config.poll, hmeets.fetchStatus]
  rfl

/-- The loop returns from a step what the daemons make of it. -/
theorem Meets.once {r : Reading} {picked : Option Rebalance} (hmeets : Meets net codec cfg env d s)
    (hread : d.read net codec cfg env = .ok r)
    (hexec : (exec (rebalanceOnce net env.step r cfg.highWatermark cfg.fleet) d.plane).1 =
      .ok picked) :
    Rebalancer.rebalanceOnce r cfg.highWatermark cfg.fleet s.api = .ok picked := by
  have hsame := hmeets.api r hread
  rw [hexec] at hsame
  cases honce : Rebalancer.rebalanceOnce r cfg.highWatermark cfg.fleet s.api with
  | error e =>
    rw [honce] at hsame
    cases hsame
  | ok picked' =>
    rw [honce] at hsame
    exact congrArg Except.ok (Except.ok.inj hsame)

/-- A pass that moves has read the daemons and made a step. -/
theorem step_of_pass (hpass : d.pass net codec cfg site env = some d') :
    ∃ r mv, d.read net codec cfg env = .ok r ∧
      (exec (rebalanceOnce net env.step r cfg.highWatermark cfg.fleet) d.plane).1 =
        .ok (some mv) := by
  rw [Daemons.pass] at hpass
  cases hread : d.read net codec cfg env with
  | error e =>
    rw [hread] at hpass
    cases hpass
  | ok r =>
    rw [hread] at hpass
    dsimp only at hpass
    rcases hexec : exec (rebalanceOnce net env.step r cfg.highWatermark cfg.fleet) d.plane with
      ⟨result, plane⟩
    rw [hexec] at hpass
    rcases result with e | picked
    · cases hpass
    cases picked with
    | none => cases hpass
    | some mv =>
      refine ⟨r, mv, rfl, ?_⟩
      rw [hexec]

/-- Where the daemons move a VM, the loop goes on. -/
theorem Meets.moves (hmeets : Meets net codec cfg env d s)
    (hpass : d.pass net codec cfg site env = some d') : cfg.Moves (parseVm net) s := by
  obtain ⟨r, mv, hread, hexec⟩ := step_of_pass hpass
  exact ⟨r, mv, hmeets.poll.trans hread, hmeets.once hread hexec⟩

/-- Where they are balanced, it ends. -/
theorem Meets.idles (hmeets : Meets net codec cfg env d s)
    (hbalanced : Balanced net codec cfg env d) : cfg.Idles (parseVm net) s := by
  obtain ⟨r, hread, hexec⟩ := hbalanced
  exact ⟨r, hmeets.poll.trans hread, hmeets.once hread (congrArg Prod.fst hexec)⟩

/-- Daemons that answer can be met. -/
theorem exists_meets {r : Reading} {picked : Option Rebalance}
    (hread : d.read net codec cfg env = .ok r)
    (hexec : (exec (rebalanceOnce net env.step r cfg.highWatermark cfg.fleet) d.plane).1 =
      .ok picked) :
    ∃ s, Meets net codec cfg env d s := by
  have hreturns : (exec (rebalanceOnce net env.step r cfg.highWatermark cfg.fleet) d.plane).1 ≠
      .error .stuck := by
    rw [hexec]
    rintro ⟨⟩
  obtain ⟨api, hapi⟩ := exists_api hreturns
  refine ⟨⟨fetchStatus net codec env.get fun at' => some (d.registry at'), api⟩, rfl, ?_⟩
  intro r' hread'
  obtain rfl := Except.ok.inj (hread.symm.trans hread')
  exact hapi

/-- Daemons on which everything works answer. -/
theorem exists_meets_works (hworks : Works net codec cfg site gauge env d)
    (hapart : Apart cfg site) (hsettled : Settled cfg site d) :
    ∃ s, Meets net codec cfg env d s := by
  cases hpick : (counted cfg site gauge d hworks.live.nodup).pick (world (d.host site)) with
  | none =>
    obtain ⟨-, r, hread, hexec⟩ := pass_balanced hworks hpick
    exact exists_meets hread (congrArg Prod.fst hexec)
  | some mv =>
    obtain ⟨plane, listen, hpass, -⟩ := pass_moves hworks hapart hsettled hpick
    obtain ⟨r, mv', hread, hexec⟩ := step_of_pass hpass
    exact exists_meets hread hexec

/-! ## How the loop ends -/

/-- While every pass moves, the loop goes on until it is out of steps. -/
theorem maxReached_of_moves {left first : ℕ}
    (hmoves : ∀ k, first ≤ k → k < first + left → cfg.Moves (parseVm net) (loop k)) :
    cfg.rebalanceLoop (parseVm net) loop left first = .maxReached := by
  induction left generalizing first with
  | zero => rfl
  | succ left ih =>
    have hfirst := hmoves first le_rfl (by omega)
    rcases pass_cases left first with ⟨-, hloop⟩ | ⟨hidles, -⟩ | ⟨hstill, -⟩
    · rw [hloop]
      exact ih fun k hk hk' => hmoves k (by omega) (by omega)
    · exact absurd hidles (not_idles_of_moves hfirst)
    · exact absurd hfirst hstill

/-- Where the loop finds no eligible move, it has read a hot host. -/
theorem hot_of_noEligibleMove {left first step : ℕ}
    (h : cfg.rebalanceLoop (parseVm net) loop left first = .noEligibleMove step) :
    ∃ r, cfg.poll (parseVm net) (loop step) = .ok r ∧ cfg.hot r = true := by
  induction left generalizing first with
  | zero => cases h
  | succ left ih =>
    rw [Config.rebalanceLoop] at h
    cases hpoll : cfg.poll (parseVm net) (loop first) with
    | error e =>
      rw [hpoll] at h
      cases h
    | ok r =>
      rw [hpoll] at h
      dsimp only at h
      rcases honce : Rebalancer.rebalanceOnce r cfg.highWatermark cfg.fleet (loop first).api with
        e | picked
      · rw [honce] at h
        cases h
      · rw [honce] at h
        cases picked with
        | some mv => exact ih h
        | none =>
          dsimp only at h
          split_ifs at h with hhot
          · obtain rfl := Outcome.noEligibleMove.inj h
            exact ⟨r, hpoll, hhot⟩

/-- A pressure up to the watermark, as the step compares it, is not above the configured one, unless
that is negative. -/
theorem below_eq_false {limit : F64} {value : ℚ} (hlimit : limit.below 0 = false)
    (hle : value ≤ (Pressure.new limit).value) : limit.below value = false := by
  cases limit with
  | nan => rfl
  | infinite negative => exact hlimit
  | negZero => simpa [F64.below, Pressure.new] using hle
  | finite limit =>
    simp only [F64.below, decide_eq_false_iff_not, not_lt] at hlimit ⊢
    simp only [Pressure.new] at hle
    exact hle.trans (max_le hlimit (min_le_left _ _))

/-- The values of a map are those of its keys. -/
theorem exists_of_mem_values {m : Std.TreeMap HostId Pressure} {p : Pressure}
    (hmem : p ∈ m.values) : ∃ h : HostId, m[h]? = some p := by
  have hvalues : m.values = m.toList.map Prod.snd := by
    have hlist : m.toList = m.inner.inner.toListModel.map fun entry => (entry.1, entry.2) :=
      Std.DTreeMap.Internal.Impl.Const.toList_eq_toListModel_map
    rw [hlist, List.map_map]
    exact Std.DTreeMap.Internal.Impl.values_eq_map_snd
  rw [hvalues, List.mem_map] at hmem
  obtain ⟨⟨h, q⟩, hentry, rfl⟩ := hmem
  exact ⟨h, Std.TreeMap.mem_toList_iff_getElem?_eq_some.mp hentry⟩

/-- Without a VM above the watermark, no host is hot. -/
theorem not_hot {r : Reading} (hworks : Works net codec cfg site gauge env d)
    (hgauges : Gauges gauge cfg.highWatermark w (d.total cfg site))
    (hexcess : d.excess cfg site w = 0) (hwatermark : cfg.watermark.below 0 = false)
    (hread : d.read net codec cfg env = .ok r) : cfg.hot r = false := by
  rw [read_eq hworks] at hread
  obtain rfl := Except.ok.inj hread
  rw [Config.hot, List.any_eq_false]
  intro p hp
  obtain ⟨h, hp⟩ := exists_of_mem_values hp
  obtain ⟨hmem, rfl⟩ := Cluster.read_pressure_eq_some_iff.mp hp
  obtain ⟨a, ha, rfl⟩ := mem_hosts.mp hmem
  have hwithin := (hgauges.watermark _ (size_le_total ha)).mpr (size_le_of_excess hexcess a ha)
  rw [← length_world] at hwithin
  rw [Bool.not_eq_true]
  exact below_eq_false hwatermark hwithin

/-- The whole loop against daemons on which everything works, of compatible hosts with room for all
VMs, whose pressures tell their numbers of VMs: it converges in the pass after the last VM above the
watermark has moved, unless it is out of steps before. It never reports that there is no eligible
move. -/
theorem live_main (hapart : Apart cfg site) (hsettled : Settled cfg site start)
    (hgauges : Gauges gauge cfg.highWatermark w (start.total cfg site))
    (hroom : start.total cfg site ≤ cfg.hosts.length * w)
    (hwatermark : cfg.watermark.below 0 = false)
    (hworks : ∀ n d, iter (Daemons.next net codec cfg site envs) n (0, start) = some (n, d) →
      Works net codec cfg site gauge (envs n) d)
    (hmeets : ∀ n d, iter (Daemons.next net codec cfg site envs) n (0, start) = some (n, d) →
      Meets net codec cfg (envs n) d (loop (n + 1))) :
    cfg.main (parseVm net) loop = if start.excess cfg site w < cfg.maxSteps.toNat then
      .converged (start.excess cfg site w + 1) else .maxReached := by
  obtain ⟨final, hfinal, hbalanced, hexcess, htotal⟩ :=
    run_end hapart hsettled hgauges hroom hworks
  have hmoves : ∀ k, 1 ≤ k → k < 1 + start.excess cfg site w →
      cfg.Moves (parseVm net) (loop k) := by
    intro k hk hlt
    obtain ⟨n, rfl⟩ := Nat.exists_eq_add_of_le' hk
    -- The run is longer than the pass, so the pass has moved.
    cases hiter : iter (Daemons.next net codec cfg site envs) (n + 1) (0, start) with
    | none =>
      rw [iter_eq_none hiter (by omega)] at hfinal
      cases hfinal
    | some c =>
      obtain ⟨⟨i, d⟩, hd, hnext⟩ := iter_succ_eq_some_iff.mp hiter
      obtain ⟨rfl, -⟩ := run_kept hapart hsettled hgauges hroom hworks hd
      obtain ⟨d', hpass, -⟩ := Option.map_eq_some_iff.mp hnext
      exact (hmeets i d hd).moves hpass
  split_ifs with hsteps
  · have hstops : cfg.StopsAt (parseVm net) loop (start.excess cfg site w + 1) :=
      stopsAt_iff.mpr ⟨⟨by omega, by omega, fun k hk hlt => hmoves k hk (by omega)⟩,
        (hmeets _ final hfinal).idles hbalanced⟩
    rcases hstops with hconverged | hnomove
    · exact hconverged
    · obtain ⟨r, hpoll, hhot⟩ := hot_of_noEligibleMove hnomove
      rw [(hmeets _ final hfinal).poll] at hpoll
      rw [← htotal] at hgauges
      rw [not_hot (hworks _ final hfinal) hgauges hexcess hwatermark hpoll] at hhot
      cases hhot
  · exact maxReached_of_moves fun k hk hlt => hmoves k hk (by omega)

/-- There is such a loop. -/
theorem exists_loop (hapart : Apart cfg site) (hsettled : Settled cfg site start)
    (hgauges : Gauges gauge cfg.highWatermark w (start.total cfg site))
    (hroom : start.total cfg site ≤ cfg.hosts.length * w)
    (hworks : ∀ n d, iter (Daemons.next net codec cfg site envs) n (0, start) = some (n, d) →
      Works net codec cfg site gauge (envs n) d) :
    ∃ loop : ℕ → Surroundings, ∀ n d,
      iter (Daemons.next net codec cfg site envs) n (0, start) = some (n, d) →
        Meets net codec cfg (envs n) d (loop (n + 1)) := by
  have hpasses : ∀ n, ∃ s, ∀ d,
      iter (Daemons.next net codec cfg site envs) n (0, start) = some (n, d) →
        Meets net codec cfg (envs n) d s := by
    intro n
    by_cases hruns : ∃ d, iter (Daemons.next net codec cfg site envs) n (0, start) = some (n, d)
    · obtain ⟨d, hiter⟩ := hruns
      obtain ⟨-, hsettled', -⟩ := run_kept hapart hsettled hgauges hroom hworks hiter
      obtain ⟨s, hs⟩ := exists_meets_works (hworks n d hiter) hapart hsettled'
      refine ⟨s, fun d' hiter' => ?_⟩
      obtain rfl := (Prod.mk.inj (Option.some_inj.mp (hiter.symm.trans hiter'))).2
      exact hs
    · -- The loop does not come to this pass.
      exact ⟨⟨fun _ => .error "", fun _ _ => .ok (), fun _ _ _ => .ok ()⟩,
        fun d hiter => absurd ⟨d, hiter⟩ hruns⟩
  choose passes hmeets using hpasses
  exact ⟨fun step => passes (step - 1), hmeets⟩

end Loop

/-- One of two VMs moves, and the loop converges with its second pass. -/
theorem live_main_crowded : ∃ loop : ℕ → Surroundings,
    (∀ n d, iter (Daemons.next twoNodes crowdedCodec liveConfig liveSite crowdedEnv) n
        (0, crowdedStart) = some (n, d) →
      Meets twoNodes crowdedCodec liveConfig (crowdedEnv n) d (loop (n + 1))) ∧
    liveConfig.main (parseVm twoNodes) loop = .converged 2 := by
  obtain ⟨loop, hmeets⟩ :=
    exists_loop apart_live settled_crowded gauges_start room_start works_run
  have hmain := live_main apart_live settled_crowded gauges_start room_start (by decide +kernel)
    works_run hmeets
  rw [excess_crowded, if_pos (by decide)] at hmain
  exact ⟨loop, hmeets, hmain⟩

end Sleepwalk.Rebalancer.ControlPlane
