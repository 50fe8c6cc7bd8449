import Sleepwalk.Proto.Messages

/-!
# The layered quiescence detector

A VM is quiescent when the app, infra and storage layers are quiet at once (`hostd::quiesce`).
Every layer starts active, so quiescence needs positive evidence from each of them.

The vCPU utilization is a float in the source. It is only ever compared with a threshold, so the
layers are generic over its type `α` and its `<`.
-/

namespace Sleepwalk.Hostd

open Proto

/-- The app layer: new turns gated and none in flight. -/
structure AppLayer where
  gated : Bool
  inFlight : Option TurnId
deriving DecidableEq, Repr

namespace AppLayer

/-- A fresh layer: not gated, so not quiet. -/
def new : AppLayer := { gated := false, inFlight := none }

/-- A turn started: the workload is busy. -/
def turnStarted (a : AppLayer) (turn : TurnId) : AppLayer := { a with inFlight := some turn }

/-- A turn ended, whichever it was. -/
def turnEnded (a : AppLayer) : AppLayer := { a with inFlight := none }

/-- The guest acked a drain, which closes the gate. -/
def drainAcked (_ : AppLayer) (inFlight : Option TurnId) : AppLayer := { gated := true, inFlight }

/-- Quiet iff new turns are gated and none is in flight. -/
def isQuiet (a : AppLayer) : Bool := a.gated && a.inFlight.isNone

end AppLayer

/-- Thresholds for the infra layer. -/
structure InfraThresholds (α : Type) where
  /-- A sample is quiet if the utilization is below this percentage. -/
  cpuPct : α
  /-- How many consecutive quiet samples are required. -/
  samples : ℕ

/-- The infra layer: a sliding window of the most recent utilization samples. -/
structure InfraLayer (α : Type) where
  thresholds : InfraThresholds α
  recent : List α
  queuesQuiet : Bool

namespace InfraLayer

variable {α : Type}

/-- A fresh layer with no samples yet. -/
def new (thresholds : InfraThresholds α) : InfraLayer α :=
  { thresholds, recent := [], queuesQuiet := false }

/-- Record one sampling tick, dropping the oldest sample from a full window. -/
def record (l : InfraLayer α) (cpuPct : α) (queuesQuiet : Bool) : InfraLayer α :=
  let kept := if l.recent.length = l.thresholds.samples then l.recent.tail else l.recent
  { l with recent := kept ++ [cpuPct], queuesQuiet }

/-- Quiet iff the window is full, every sample is below the threshold and the queues are quiet. -/
def isQuiet [LT α] [DecidableLT α] (l : InfraLayer α) : Bool :=
  0 < l.thresholds.samples && l.recent.length = l.thresholds.samples && l.queuesQuiet &&
    l.recent.all fun c => c < l.thresholds.cpuPct

end InfraLayer

/-- The storage layer: workspace sync caught up to backing storage. -/
structure StorageLayer where
  caughtUp : Bool
deriving DecidableEq, Repr

namespace StorageLayer

/-- A fresh layer: not caught up, so not quiet. -/
def new : StorageLayer := { caughtUp := false }

/-- Report whether the sync watermark has caught up. -/
def setCaughtUp (_ : StorageLayer) (caughtUp : Bool) : StorageLayer := { caughtUp }

/-- Quiet iff the sync has caught up. -/
def isQuiet (l : StorageLayer) : Bool := l.caughtUp

end StorageLayer

/-- A per-layer report of quiescence. -/
structure QuiescenceReport where
  app : Bool
  infra : Bool
  storage : Bool
deriving DecidableEq, Repr

/-- Quiescent iff every layer is quiet. -/
def QuiescenceReport.isQuiescent (r : QuiescenceReport) : Bool := r.app && r.infra && r.storage

/-- Combines the three layers into one verdict. -/
structure QuiescenceDetector (α : Type) where
  app : AppLayer
  infra : InfraLayer α
  storage : StorageLayer

namespace QuiescenceDetector

variable {α : Type}

/-- A detector with the given thresholds, every layer active. -/
def new (infra : InfraThresholds α) : QuiescenceDetector α :=
  { app := .new, infra := .new infra, storage := .new }

/-- The per-layer report. -/
def report [LT α] [DecidableLT α] (d : QuiescenceDetector α) : QuiescenceReport :=
  { app := d.app.isQuiet, infra := d.infra.isQuiet, storage := d.storage.isQuiet }

/-- Whether all three layers are quiet right now. -/
def isQuiescent [LT α] [DecidableLT α] (d : QuiescenceDetector α) : Bool := d.report.isQuiescent

end QuiescenceDetector

end Sleepwalk.Hostd
