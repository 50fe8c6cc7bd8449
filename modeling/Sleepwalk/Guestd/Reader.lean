import Sleepwalk.Guestd.Wrap
import Sleepwalk.Lib.Lines
import Sleepwalk.Lib.Switch

/-!
# The reader of the wrapped child

`spawn_reader` of `guestd`'s binary: a task that reads the stdout of the wrapped child line by line,
hands boundaries to the `TurnTracker` and prints every other line. It stops when the stdout is
closed or a line cannot be read, and a line that is not UTF-8 cannot.

`InTurn` says of the lines themselves whether the child is in a turn. `reader_truthful_iff`: the
tracker agrees after every line of a child exactly if no line after the first one that is not UTF-8
opens or closes a turn.
-/

namespace Sleepwalk.Guestd

open Bytes Lines

/-! ## The task -/

/-- What `next_line` returns. -/
inductive NextLine where
  /-- One more line. -/
  | line (l : String)
  /-- The end of the stream. -/
  | closed
  /-- An error. -/
  | failed (e : String)
deriving DecidableEq, Repr

/-- A line without the carriage return at its end. -/
def stripCR (l : String) : String :=
  if l.toList.getLast? = some (Char.ofNat 13) then .ofList l.toList.dropLast else l

/-- What `next_line` returns for the bytes of a line. -/
def nextLine (line : List UInt8) : NextLine :=
  match toText line with
  | some l => .line (stripCR l)
  | none => .failed "stream did not contain valid UTF-8"

/-- The reader task. -/
structure Reader where
  tracker : TurnTracker
  /-- The loop has not ended. -/
  running : Bool
  /-- What it printed on stdout. -/
  stdout : List String
  /-- What it printed on stderr. -/
  stderr : List String
deriving DecidableEq, Repr

namespace Reader

/-- The task at its start. -/
def start (tracker : TurnTracker) : Reader :=
  { tracker, running := true, stdout := [], stderr := [] }

/-- One turn of the loop. -/
def step (cfg : WrapConfig) (r : Reader) (next : NextLine) : Reader :=
  if r.running then
    match next with
    | .line l =>
      match cfg.classify l with
      | some sig => { r with tracker := r.tracker.apply sig }
      | none => { r with stdout := r.stdout ++ [l] }
    | .closed =>
      { r with running := false, stdout := r.stdout ++ ["guestd: wrapped child closed stdout"] }
    | .failed e =>
      { r with running := false, stderr := r.stderr ++ ["guestd: child stdout: " ++ e] }
  else r

end Reader

/-- Drain the lines of the wrapped child's stdout. -/
def spawnReader (cfg : WrapConfig) (tracker : TurnTracker) (lines : List (List UInt8)) : Reader :=
  lines.foldl (fun r line => r.step cfg (nextLine line)) (Reader.start tracker)

/-! ## Turns of the child -/

/-- A line that is a marker between whitespace, in UTF-8. -/
def IsMarker (marker : String) (line : List UInt8) : Prop :=
  ∃ pre post : List Char, (∀ c ∈ pre, Text.isWhitespace c = true) ∧
    (∀ c ∈ post, Text.isWhitespace c = true) ∧
    line = ofText (.ofList (pre ++ marker.toList ++ post))

/-- There is a marker line, and the last one is the start marker. -/
def InTurn (cfg : WrapConfig) (lines : List (List UInt8)) : Prop :=
  Switch.On (IsMarker cfg.startMarker) (IsMarker cfg.endMarker) lines

/-- How many start markers opened a turn, and did not repeat that there is one. -/
noncomputable def genuineOpens (cfg : WrapConfig) (lines : List (List UInt8)) : ℕ :=
  Switch.opens (IsMarker cfg.startMarker) (IsMarker cfg.endMarker) lines

/-- A line that ends a turn which some lines opened, or opens one after they opened none. -/
def TurnsOver (cfg : WrapConfig) (lines : List (List UInt8)) (line : List UInt8) : Prop :=
  Switch.Toggles (IsMarker cfg.startMarker) (IsMarker cfg.endMarker) lines line

/-- A tracker that says of some lines what they mean. -/
structure Truthful (cfg : WrapConfig) (lines : List (List UInt8)) (t : TurnTracker) : Prop where
  /-- A turn is in flight exactly if the last marker line opened it. -/
  inFlight : t.inFlight.isSome = true ↔ InTurn cfg lines
  /-- The id has advanced once for each turn. -/
  lastId : t.lastId = .ofNat (genuineOpens cfg lines)
  /-- A null ack is given between turns only. -/
  ack : ∀ deadline, wrapReply t (.drainRequest deadline) = some (.drainAck none) →
    ¬ InTurn cfg lines

/-- Two markers that can be told apart, and that trimming leaves alone. -/
structure Markers (cfg : WrapConfig) : Prop where
  distinct : cfg.startMarker ≠ cfg.endMarker
  startMarker : Text.trim cfg.startMarker = cfg.startMarker
  endMarker : Text.trim cfg.endMarker = cfg.endMarker

section Classify

variable {cfg : WrapConfig} {marker l : String} {line : List UInt8}

theorem trim_stripCR (l : String) : Text.trim (stripCR l) = Text.trim l := by
  rw [stripCR]
  split
  case isTrue hlast =>
    -- What is stripped is white space at the end.
    obtain ⟨cs, hcs⟩ := List.getLast?_eq_some_iff.mp hlast
    have hCR : ∀ c ∈ [Char.ofNat 13], Text.isWhitespace c = true := by
      intro c hc
      rw [List.mem_singleton.mp hc]
      rfl
    rw [← String.toList_inj, Text.toList_trim, Text.toList_trim, String.toList_ofList, hcs,
      List.dropLast_concat, Text.trimList_append_right hCR]
  case isFalse => rfl

/-- A line is a marker if it is that of a text that trimming leaves the marker of. -/
theorem isMarker_iff (h : Text.trim marker = marker) (hl : toText line = some l) :
    IsMarker marker line ↔ Text.trim (stripCR l) = marker := by
  have hline := toText_eq_some_iff.mp hl
  rw [trim_stripCR, Text.trim_eq_iff h, IsMarker]
  constructor
  · rintro ⟨pre, post, hpre, hpost, htext⟩
    have hread := toText_eq_some_iff.mpr htext
    exact ⟨pre, post, hpre, hpost, Option.some_inj.mp (hl.symm.trans hread)⟩
  · rintro ⟨pre, post, hpre, hpost, rfl⟩
    exact ⟨pre, post, hpre, hpost, hline⟩

/-- A line that is not UTF-8 is no marker. -/
theorem not_isMarker_of_toText (hl : toText line = none) : ¬ IsMarker marker line := by
  rintro ⟨pre, post, -, -, htext⟩
  rw [toText_eq_some_iff.mpr htext] at hl
  cases hl

theorem Markers.exclusive (h : Markers cfg) (line : List UInt8)
    (hstart : IsMarker cfg.startMarker line) : ¬ IsMarker cfg.endMarker line := by
  intro hend
  obtain ⟨pre, post, -, -, htext⟩ := id hstart
  have hl := toText_eq_some_iff.mpr htext
  exact h.distinct (((isMarker_iff h.startMarker hl).mp hstart).symm.trans
    ((isMarker_iff h.endMarker hl).mp hend))

end Classify

/-! ## The tracker -/

section Track

variable {cfg : WrapConfig} {lines : List (List UInt8)} {line : List UInt8} {r : Reader}
  {t : TurnTracker}

theorem spawnReader_append_singleton (t : TurnTracker) :
    spawnReader cfg t (lines ++ [line]) = (spawnReader cfg t lines).step cfg (nextLine line) := by
  simp [spawnReader, List.foldl_append]

/-- The flag and the id say everything. -/
theorem truthful_iff :
    Truthful cfg lines t ↔
      (t.inTurn = true ↔ InTurn cfg lines) ∧ t.lastId = .ofNat (genuineOpens cfg lines) := by
  have hsome : t.inFlight.isSome = true ↔ t.inTurn = true := by
    rw [← not_iff_not, Bool.not_eq_true, Option.isSome_eq_false_iff, Option.isNone_iff_eq_none,
      TurnTracker.inFlight_eq_none_iff, Bool.not_eq_true]
  constructor
  · rintro ⟨hin, hid, -⟩
    exact ⟨hsome.symm.trans hin, hid⟩
  · rintro ⟨hin, hid⟩
    refine ⟨hsome.trans hin, hid, fun deadline hack hturn => ?_⟩
    have hnull : t.inFlight = none := by simpa [wrapReply] using hack
    rw [TurnTracker.inFlight_eq_none_iff, ← Bool.not_eq_true] at hnull
    exact hnull (hin.mpr hturn)

/-- One line that is text keeps the tracker of a running task truthful. -/
theorem Truthful.step (h : Markers cfg) (hr : Truthful cfg lines r.tracker)
    (hrunning : r.running = true) {l : String} (hl : toText line = some l) :
    Truthful cfg (lines ++ [line]) (r.step cfg (nextLine line)).tracker := by
  have hstart := isMarker_iff h.startMarker hl
  have hend := isMarker_iff h.endMarker hl
  rw [truthful_iff] at hr ⊢
  obtain ⟨hin, hid⟩ := hr
  rw [InTurn, genuineOpens, Switch.on_append_singleton, Switch.opens_append_singleton, hstart, hend]
  rw [nextLine, hl, Reader.step, if_pos hrunning]
  simp only [WrapConfig.classify]
  by_cases hs : Text.trim (stripCR l) = cfg.startMarker
  · -- The line opens a turn, or repeats that one is open.
    rw [if_pos hs]
    by_cases hturn : r.tracker.inTurn = true
    · have hon : InTurn cfg lines := hin.mp hturn
      rw [InTurn] at hon
      simp [TurnTracker.apply, hturn, hs, hon, hid, genuineOpens]
    · have hoff : ¬ InTurn cfg lines := fun hon => hturn (hin.mpr hon)
      rw [InTurn] at hoff
      simp [TurnTracker.apply, hturn, hs, hoff, hid, genuineOpens]
  · rw [if_neg hs]
    by_cases he : Text.trim (stripCR l) = cfg.endMarker
    · rw [if_pos he]
      simp [TurnTracker.apply, he, h.distinct.symm, hid, genuineOpens]
    · rw [if_neg he]
      simp only [InTurn] at hin
      simp [hs, he, hin, hid, genuineOpens]

/-- As long as every line is text, the task runs and its tracker is truthful. -/
theorem truthful_of_text (h : Markers cfg) (htext : ∀ line ∈ lines, (toText line).isSome = true) :
    (spawnReader cfg .new lines).running = true ∧
      Truthful cfg lines (spawnReader cfg .new lines).tracker := by
  induction lines using List.reverseRecOn with
  | nil =>
    refine ⟨rfl, truthful_iff.mpr ?_⟩
    simp [spawnReader, Reader.start, TurnTracker.new, InTurn, genuineOpens]
  | append_singleton lines line ih =>
    obtain ⟨hrunning, htruthful⟩ := ih fun l hl => htext l (List.mem_append_left _ hl)
    obtain ⟨l, hl⟩ := Option.isSome_iff_exists.mp (htext line (by simp))
    rw [spawnReader_append_singleton]
    refine ⟨?_, htruthful.step h hrunning hl⟩
    rw [nextLine, hl, Reader.step, if_pos hrunning]
    cases hsig : cfg.classify (stripCR l) with
    | none => simp only [hrunning]
    | some sig => simp only [hrunning]

/-- A line that is not text ends the task, and nothing after it reaches the tracker. -/
theorem tracker_after_bad (t : TurnTracker) (before after : List (List UInt8)) {bad : List UInt8}
    (hbad : toText bad = none) :
    (spawnReader cfg t (before ++ bad :: after)).tracker = (spawnReader cfg t before).tracker := by
  have hstopped : ∀ r : Reader, r.running = false →
      after.foldl (fun r line => r.step cfg (nextLine line)) r = r := by
    intro r hr
    induction after with
    | nil => rfl
    | cons line after ih =>
      have hsame : r.step cfg (nextLine line) = r := if_neg (by simp [hr])
      rw [List.foldl_cons, hsame, ih]
  have hsplit : spawnReader cfg t (before ++ bad :: after) =
      after.foldl (fun r line => r.step cfg (nextLine line))
        ((spawnReader cfg t before).step cfg (nextLine bad)) := by
    simp [spawnReader, List.foldl_append]
  rw [hsplit, nextLine, hbad, Reader.step]
  split
  case isTrue hrunning => rw [hstopped _ rfl]
  case isFalse hrunning => rw [hstopped _ (Bool.not_eq_true _ ▸ hrunning)]

end Track

/-! ## Truth for every output -/

/-- For every output of a child and every two markers: after every number of complete lines the
tracker is truthful, if and only if no line after the first that is not UTF-8 opens or closes a
turn. -/
theorem reader_truthful_iff (cfg : WrapConfig) (output : List UInt8) (h : Markers cfg) :
    (∀ n, Truthful cfg ((completeLines output).take n)
        (spawnReader cfg .new ((completeLines output).take n)).tracker) ↔
      ∀ before bad after, completeLines output = before ++ bad :: after →
        (∀ line ∈ before, (toText line).isSome = true) → toText bad = none →
          ∀ line ∈ after, ¬ TurnsOver cfg before line := by
  constructor
  · intro htruthful before bad after hlines htext hbad line hline
    -- The tracker stays as it is from the line that is no text on, so the turn state has to.
    refine (Switch.forall_on_iff_iff h.exclusive).mp ?_ line (List.mem_cons_of_mem bad hline)
    rintro l ⟨rest, hrest⟩
    have hsame : (spawnReader cfg .new (before ++ l)).tracker =
        (spawnReader cfg .new before).tracker := by
      cases l with
      | nil => rw [List.append_nil]
      | cons b l =>
        obtain ⟨rfl, -⟩ := List.cons.inj hrest
        exact tracker_after_bad .new before l hbad
    have htake : (completeLines output).take (before ++ l).length = before ++ l := by
      rw [hlines, ← hrest, ← List.append_assoc, List.take_left]
    have hthere := htruthful (before ++ l).length
    rw [htake, hsame] at hthere
    have hhere := (truthful_of_text h htext).2
    exact hthere.inFlight.symm.trans hhere.inFlight
  · intro hquiet n
    -- The lines are text up to `n`, or up to a first one that is not.
    cases hfind : ((completeLines output).take n).find? fun line => (toText line).isNone with
    | none =>
      refine (truthful_of_text h fun line hline => ?_).2
      simpa [Option.isSome_iff_ne_none] using List.find?_eq_none.mp hfind line hline
    | some bad =>
      obtain ⟨hbad, before, after, hsplit, hbefore⟩ := List.find?_eq_some_iff_append.mp hfind
      have hbad : toText bad = none := by simpa using hbad
      have htext : ∀ line ∈ before, (toText line).isSome = true := by simpa using hbefore
      have hlines : completeLines output =
          before ++ bad :: (after ++ (completeLines output).drop n) := by
        rw [← List.cons_append, ← List.append_assoc, ← hsplit, List.take_append_drop]
      have hstays : ∀ line ∈ bad :: after, ¬ TurnsOver cfg before line := by
        intro line hline
        rcases List.mem_cons.mp hline with rfl | hline
        · rintro (⟨-, hmarker⟩ | ⟨-, hmarker⟩)
          · exact not_isMarker_of_toText hbad hmarker
          · exact not_isMarker_of_toText hbad hmarker
        · exact hquiet before bad _ hlines htext hbad line (List.mem_append_left _ hline)
      obtain ⟨hon, hopens⟩ := Switch.on_append_of_not_toggles hstays
      obtain ⟨hin, hid⟩ := truthful_iff.mp (truthful_of_text h htext).2
      rw [hsplit, tracker_after_bad .new before after hbad, truthful_iff]
      exact ⟨hin.trans hon.symm, hid.trans (congrArg UInt64.ofNat hopens.symm)⟩

/-- The markers that are used when none are given. -/
theorem markers_default : Markers {} := ⟨by decide, by decide, by decide⟩

/-- A child starts a turn, prints a line that is not UTF-8, and then one that is no marker. -/
theorem reader_truthful_in_turn :
    let lines := completeLines (ofText " @@TURN_START@@\n" ++ [0xFF, LF] ++ ofText "done\n")
    ∀ n, Truthful {} (lines.take n) (spawnReader {} .new (lines.take n)).tracker := by
  intro lines
  refine (reader_truthful_iff {} _ markers_default).mpr ?_
  intro before bad after hlines htext hbad line hline
  have heq : completeLines (ofText " @@TURN_START@@\n" ++ [0xFF, LF] ++ ofText "done\n") =
      [ofText " @@TURN_START@@", [0xFF], ofText "done"] := by decide +kernel
  rw [heq] at hlines
  have hdone : ∀ marker, Text.trim marker = marker → marker ≠ "done" →
      ¬ IsMarker marker (ofText "done") := by
    intro marker htrim hne hmarker
    have hread : Text.trim (stripCR "done") = "done" := by decide
    exact hne (((isMarker_iff htrim (toText_eq_some_iff.mpr rfl)).mp hmarker).symm.trans hread)
  rcases before with _ | ⟨l₁, _ | ⟨l₂, before⟩⟩
  · obtain ⟨rfl, -⟩ := List.cons.inj hlines
    rw [toText_eq_some_iff.mpr rfl] at hbad
    cases hbad
  · obtain ⟨-, hrest⟩ := List.cons.inj hlines
    obtain ⟨-, rfl⟩ := List.cons.inj hrest
    obtain rfl := List.mem_singleton.mp hline
    rintro (⟨-, hmarker⟩ | ⟨-, hmarker⟩)
    · exact hdone _ markers_default.endMarker (by decide) hmarker
    · exact hdone _ markers_default.startMarker (by decide) hmarker
  · obtain ⟨-, hrest⟩ := List.cons.inj hlines
    obtain ⟨rfl, -⟩ := List.cons.inj hrest
    have hnone : toText [0xFF] = none := by decide +kernel
    have hsome := htext [0xFF] (by simp)
    rw [hnone] at hsome
    cases hsome

/-- A child prints a line that is not UTF-8 and starts a turn: in the middle of it the ack is
null. -/
theorem null_ack_in_turn :
    let lines := completeLines ([0xFF, LF] ++ ofText "@@TURN_START@@\n")
    InTurn {} lines ∧
      wrapReply (spawnReader {} .new lines).tracker (.drainRequest ⟨5000⟩) =
        some (.drainAck none) ∧
      ¬ ∀ n, Truthful {} (lines.take n) (spawnReader {} .new (lines.take n)).tracker := by
  intro lines
  have heq : lines = [[0xFF], ofText "@@TURN_START@@"] := by decide +kernel
  have hturn : InTurn {} lines := by
    rw [heq]
    exact ⟨[[0xFF]], _, [], rfl, ⟨[], [], by simp, by simp, by decide +kernel⟩, by simp⟩
  have hack : wrapReply (spawnReader {} .new lines).tracker (.drainRequest ⟨5000⟩) =
      some (.drainAck none) := by
    rw [heq]
    decide +kernel
  refine ⟨hturn, hack, fun h => ?_⟩
  have hall := h 2
  rw [List.take_of_length_le (by rw [heq]; rfl)] at hall
  exact hall.ack _ hack hturn

end Sleepwalk.Guestd
