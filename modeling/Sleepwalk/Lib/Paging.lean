import Mathlib.Data.List.Basic
import Mathlib.Data.List.Nodup
import Mathlib.Logic.Function.Basic
import Mathlib.Tactic.Common

/-!
# Demand paging

A memory that is filled page by page from an image, as its pages are touched. A page is installed
once: another attempt is refused and changes nothing, and so is one at a page that the image does
not have.

What such a memory holds depends on which pages were touched and not on the order
(`touchAll_apply`). A server that stops at the first refusal serves all of a list exactly if no page
of it comes twice (`serveAll_eq_ok_iff`).
-/

namespace Paging

variable {P C : Type} [DecidableEq P]

/-- Why a page is not installed. -/
inductive Refusal (P : Type) where
  /-- The image has no such page. -/
  | unmapped (p : P)
  /-- It is there already. -/
  | present (p : P)
deriving DecidableEq, Repr

/-- Install a page of the image. -/
def touch (image : P → Option C) (p : P) (m : P → Option C) :
    Except (Refusal P) Unit × (P → Option C) :=
  match image p with
  | none => (.error (.unmapped p), m)
  | some c =>
    if (m p).isSome then (.error (.present p), m) else (.ok (), Function.update m p (some c))

/-- Touch one page after the other, whatever comes of it. -/
def touchAll (image : P → Option C) (ps : List P) (m : P → Option C) : P → Option C :=
  ps.foldl (fun m p => (touch image p m).2) m

/-- Touch one page after the other up to the first refusal. -/
def serveAll (image : P → Option C) :
    List P → (P → Option C) → Except (Refusal P) Unit × (P → Option C)
  | [], m => (.ok (), m)
  | p :: ps, m =>
    match touch image p m with
    | (.ok (), m') => serveAll image ps m'
    | (.error e, m') => (.error e, m')

variable {image m : P → Option C} {p q : P} {ps : List P}

/-- What one touch does: a page that is absent becomes that of the image. -/
theorem touch_apply : (touch image p m).2 q = if q = p then (m p).or (image p) else m q := by
  rcases himage : image p with _ | c
  · by_cases hq : q = p
    · subst hq
      simp [touch, himage]
    · simp [touch, himage, hq]
  · rcases hm : m p with _ | c'
    · by_cases hq : q = p
      · subst hq
        simp [touch, himage, hm]
      · simp [touch, himage, hm, hq]
    · by_cases hq : q = p
      · subst hq
        simp [touch, himage, hm]
      · simp [touch, himage, hm, hq]

theorem touch_eq_ok_iff {m' : P → Option C} :
    touch image p m = (.ok (), m') ↔
      m p = none ∧ ∃ c, image p = some c ∧ m' = Function.update m p (some c) := by
  rcases himage : image p with _ | c
  · simp [touch, himage]
  · rcases hm : m p with _ | c'
    · simp [touch, himage, hm, eq_comm]
    · simp [touch, himage, hm]

/-- What touching pages does, in whatever order. -/
theorem touchAll_apply : touchAll image ps m q = (m q).or (if q ∈ ps then image q else none) := by
  induction ps generalizing m with
  | nil => simp [touchAll]
  | cons p ps ih =>
    have hcons : touchAll image (p :: ps) m = touchAll image ps (touch image p m).2 := rfl
    rw [hcons, ih, touch_apply]
    by_cases hq : q = p
    · subst hq
      by_cases hmem : q ∈ ps
      · simp [hmem, Option.or_assoc]
      · simp [hmem]
    · simp [hq]

theorem touchAll_perm {ps' : List P} (h : ps.Perm ps') :
    touchAll image ps m = touchAll image ps' m := by
  funext q
  rw [touchAll_apply, touchAll_apply]
  simp only [h.mem_iff]

/-- A page that was not touched stays absent. -/
theorem touchAll_eq_none (hm : m q = none) (hq : q ∉ ps) : touchAll image ps m q = none := by
  simp [touchAll_apply, hm, hq]

theorem serveAll_append (ps qs : List P) (m : P → Option C) :
    serveAll image (ps ++ qs) m =
      match serveAll image ps m with
      | (.ok (), m') => serveAll image qs m'
      | (.error e, m') => (.error e, m') := by
  induction ps generalizing m with
  | nil => rfl
  | cons p ps ih =>
    rw [List.cons_append, serveAll, serveAll]
    rcases touch image p m with ⟨_ | _, m'⟩
    · rfl
    · exact ih m'

/-- A server that stops at the first refusal does the same as long as there is none. -/
theorem serveAll_eq_touchAll (h : (serveAll image ps m).1 = .ok ()) :
    serveAll image ps m = (.ok (), touchAll image ps m) := by
  induction ps generalizing m with
  | nil => rfl
  | cons p ps ih =>
    rw [serveAll] at h ⊢
    rcases htouch : touch image p m with ⟨_ | _, m'⟩
    · rw [htouch] at h
      cases h
    · rw [htouch] at h
      have hm' : m' = (touch image p m).2 := by rw [htouch]
      simp only [ih h]
      rw [hm']
      rfl

/-- All of a list is served exactly if the image has every page of it, none is there already, and
none comes twice. -/
theorem serveAll_eq_ok_iff :
    (serveAll image ps m).1 = .ok () ↔
      ps.Nodup ∧ ∀ p ∈ ps, m p = none ∧ (image p).isSome := by
  induction ps generalizing m with
  | nil => simp [serveAll]
  | cons p ps ih =>
    rw [serveAll, List.nodup_cons]
    rcases htouch : touch image p m with ⟨e | _, m'⟩
    · -- The first page is refused.
      have hnot : ¬ ∃ m', touch image p m = (.ok (), m') := by simp [htouch]
      simp only [touch_eq_ok_iff] at hnot
      simp only [reduceCtorEq, List.mem_cons, forall_eq_or_imp, false_iff]
      rintro ⟨-, ⟨habsent, hmapped⟩, -⟩
      obtain ⟨c, hc⟩ := Option.isSome_iff_exists.mp hmapped
      exact hnot ⟨_, habsent, c, hc, rfl⟩
    · obtain ⟨habsent, c, hc, rfl⟩ := touch_eq_ok_iff.mp htouch
      simp only [ih, List.mem_cons, forall_eq_or_imp, habsent, hc, Option.isSome_some, and_self,
        true_and]
      -- From now on the page is there, so it may not come again.
      constructor
      · rintro ⟨hnodup, hrest⟩
        have hnew : p ∉ ps := by
          intro hmem
          have hpresent := (hrest p hmem).1
          simp at hpresent
        refine ⟨⟨hnew, hnodup⟩, fun q hq => ?_⟩
        have hne : q ≠ p := by
          rintro rfl
          exact hnew hq
        simpa [Function.update_of_ne hne] using hrest q hq
      · rintro ⟨⟨hnew, hnodup⟩, hrest⟩
        refine ⟨hnodup, fun q hq => ?_⟩
        have hne : q ≠ p := by
          rintro rfl
          exact hnew hq
        simpa [Function.update_of_ne hne] using hrest q hq

end Paging
