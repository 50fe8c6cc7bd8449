import Mathlib.Data.List.Induction
import Mathlib.Data.List.Infix
import Mathlib.Tactic.Common

/-!
# Switches

A log over an arbitrary type, some of whose entries turn a switch on and some of which turn it off.
`On` and `opens` say what the whole log means for the switch; each has a lemma for one more entry.
Entries leave the switch where it is exactly as long as none of them toggles it
(`forall_on_iff_iff`).
-/

namespace Switch

variable {α : Type*} (on off : α → Prop)

/-- The last entry that the switch obeys is there, and turned it on. -/
def On (log : List α) : Prop :=
  ∃ before a after, log = before ++ a :: after ∧ on a ∧ ∀ b ∈ after, ¬ on b ∧ ¬ off b

/-- The last entry of a log turned the switch on, and it was off before. -/
def Opens (log : List α) : Prop := ∃ before a, log = before ++ [a] ∧ on a ∧ ¬ On on off before

open Classical in
/-- How often the switch went from off to on. -/
noncomputable def opens (log : List α) : ℕ := log.inits.countP fun l => decide (Opens on off l)

/-- An entry turns the switch to the side on which it is not after a log. -/
def Toggles (log : List α) (a : α) : Prop :=
  (On on off log ∧ off a) ∨ (¬ On on off log ∧ on a)

variable {on off} {log rest : List α} {a : α}

@[simp]
theorem not_on_nil : ¬ On on off [] := by
  rintro ⟨before, a, after, h, -⟩
  simp at h

theorem on_append_singleton : On on off (log ++ [a]) ↔ on a ∨ (On on off log ∧ ¬ off a) := by
  constructor
  · rintro ⟨before, b, after, h, hon, hafter⟩
    -- The new entry turned the switch on, or an earlier one did and this one is not obeyed.
    rcases List.eq_nil_or_concat after with rfl | ⟨after', c, rfl⟩
    · obtain ⟨-, rfl⟩ := List.append_inj' h rfl |>.imp_right List.singleton_inj.mp
      exact Or.inl hon
    · rw [List.concat_eq_append, ← List.cons_append, ← List.append_assoc] at h
      obtain ⟨rfl, hac⟩ := List.append_inj' h rfl
      obtain rfl := List.singleton_inj.mp hac
      refine Or.inr ⟨⟨before, b, after', rfl, hon, fun d hd => hafter d (by simp [hd])⟩, ?_⟩
      exact (hafter a (by simp)).2
  · rintro (hon | ⟨⟨before, b, after, rfl, hon, hafter⟩, hoff⟩)
    · exact ⟨log, a, [], rfl, hon, by simp⟩
    · by_cases ha : on a
      · exact ⟨before ++ b :: after, a, [], rfl, ha, by simp⟩
      · refine ⟨before, b, after ++ [a], by simp, hon, fun d hd => ?_⟩
        rcases List.mem_append.mp hd with hd | hd
        · exact hafter d hd
        · rw [List.mem_singleton.mp hd]
          exact ⟨ha, hoff⟩

@[simp]
theorem opens_nil : opens on off [] = 0 := by simp [opens, Opens]

open Classical in
theorem opens_append_singleton :
    opens on off (log ++ [a]) =
      opens on off log + if on a ∧ ¬ On on off log then 1 else 0 := by
  have hlast : Opens on off (log ++ [a]) ↔ on a ∧ ¬ On on off log := by
    constructor
    · rintro ⟨before, b, h, hopens⟩
      obtain ⟨rfl, hab⟩ := List.append_inj' h rfl
      obtain rfl := List.singleton_inj.mp hab
      exact hopens
    · exact fun h => ⟨log, a, rfl, h⟩
  simp [opens, List.inits_append, hlast]

/-- An entry that does not toggle the switch leaves it where it is. -/
theorem on_append_singleton_of_not_toggles (h : ¬ Toggles on off log a) :
    On on off (log ++ [a]) ↔ On on off log := by
  rw [Toggles, not_or, not_and, not_and] at h
  obtain ⟨hoff, hon⟩ := h
  rw [on_append_singleton]
  constructor
  · rintro (ha | ⟨hlog, -⟩)
    · by_contra hlog
      exact hon hlog ha
    · exact hlog
  · exact fun hlog => Or.inr ⟨hlog, hoff hlog⟩

/-- And it is not counted. -/
theorem opens_append_singleton_of_not_toggles (h : ¬ Toggles on off log a) :
    opens on off (log ++ [a]) = opens on off log := by
  have hnot : ¬ (on a ∧ ¬ On on off log) := fun ⟨ha, hlog⟩ => h (Or.inr ⟨hlog, ha⟩)
  rw [opens_append_singleton, if_neg hnot, Nat.add_zero]

/-- If nothing in a continuation toggles the switch, it stays where it was. -/
theorem on_append_of_not_toggles (h : ∀ a ∈ rest, ¬ Toggles on off log a) :
    (On on off (log ++ rest) ↔ On on off log) ∧
      opens on off (log ++ rest) = opens on off log := by
  induction rest using List.reverseRecOn with
  | nil => simp
  | append_singleton rest a ih =>
    obtain ⟨hon, hopens⟩ := ih fun b hb => h b (List.mem_append_left _ hb)
    have hnot : ¬ Toggles on off (log ++ rest) a := by
      rw [Toggles, hon]
      exact h a (by simp)
    rw [← List.append_assoc, on_append_singleton_of_not_toggles hnot,
      opens_append_singleton_of_not_toggles hnot]
    exact ⟨hon, hopens⟩

/-- The switch stays where it was through a continuation exactly if nothing there toggles it. -/
theorem forall_on_iff_iff (hexclusive : ∀ a, on a → ¬ off a) :
    (∀ l, l <+: rest → (On on off (log ++ l) ↔ On on off log)) ↔
      ∀ a ∈ rest, ¬ Toggles on off log a := by
  constructor
  · intro h a ha htoggles
    obtain ⟨before, after, rfl⟩ := List.append_of_mem ha
    -- Right before and right after the entry the switch would have to be on the same side.
    have hbefore := h before (List.prefix_append _ _)
    have hafter := h (before ++ [a]) ⟨after, by simp⟩
    rw [← List.append_assoc, on_append_singleton, hbefore] at hafter
    rcases htoggles with ⟨hlog, hoff⟩ | ⟨hlog, hon⟩
    · rcases hafter.mpr hlog with hon | ⟨-, hnot⟩
      · exact hexclusive a hon hoff
      · exact hnot hoff
    · exact hlog (hafter.mp (Or.inl hon))
  · rintro h l ⟨after, rfl⟩
    exact (on_append_of_not_toggles fun a ha => h a (List.mem_append_left _ ha)).1

end Switch
