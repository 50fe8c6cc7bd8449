import Mathlib.Data.Set.Card
import Mathlib.Tactic.Ring

/-!
# Handing over

Things are held at places, some for good and some on their way. One that is handed over leaves its
place and gets on its way, and one that arrives gets a place again: no more are held than before
(`encard_sent_le`, `encard_arrived_le`), and none is lost if each goes where none was
(`encard_sent`, `encard_arrived`).
-/

namespace Handover

variable {α β : Type*} {s s' : Set α} {t t' : Set β} {a b : α} {k : β}

/-- One that comes back, to whatever place, is held as before. -/
theorem encard_back_le (ha : a ∈ s) (h : s' ⊆ insert b (s \ {a})) : s'.encard ≤ s.encard := by
  calc s'.encard ≤ (insert b (s \ {a})).encard := Set.encard_le_encard h
    _ ≤ (s \ {a}).encard + 1 := Set.encard_insert_le ..
    _ = s.encard := Set.encard_sdiff_singleton_add_one ha

/-- One that gets on its way, if it does, has left its place. -/
theorem encard_sent_le (ha : a ∈ s) (hs : s' ⊆ s \ {a}) (ht : t' ⊆ insert k t) :
    s'.encard + t'.encard ≤ s.encard + t.encard := by
  calc s'.encard + t'.encard
      ≤ (s \ {a}).encard + (insert k t).encard :=
        add_le_add (Set.encard_le_encard hs) (Set.encard_le_encard ht)
    _ ≤ (s \ {a}).encard + (t.encard + 1) := by
        gcongr
        exact Set.encard_insert_le ..
    _ = s.encard + t.encard := by
        rw [← Set.encard_sdiff_singleton_add_one ha]
        ring

/-- None is lost if it gets on a way of its own. -/
theorem encard_sent (ha : a ∈ s) (hk : k ∉ t) :
    (s \ {a}).encard + (insert k t).encard = s.encard + t.encard := by
  rw [Set.encard_insert_of_notMem hk, ← Set.encard_sdiff_singleton_add_one ha]
  ring

/-- One that arrives, if it does, was on its way. -/
theorem encard_arrived_le (hk : k ∈ t) (hs : s' ⊆ insert a s) :
    s'.encard + (t \ {k}).encard ≤ s.encard + t.encard := by
  calc s'.encard + (t \ {k}).encard
      ≤ (s.encard + 1) + (t \ {k}).encard := by
        gcongr
        exact (Set.encard_le_encard hs).trans (Set.encard_insert_le ..)
    _ = s.encard + t.encard := by
        rw [← Set.encard_sdiff_singleton_add_one hk]
        ring

/-- None is lost if it arrives where none was. -/
theorem encard_arrived (ha : a ∉ s) (hk : k ∈ t) :
    (insert a s).encard + (t \ {k}).encard = s.encard + t.encard := by
  rw [Set.encard_insert_of_notMem ha, ← Set.encard_sdiff_singleton_add_one hk]
  ring

end Handover
