import Mathlib.Data.List.TakeWhile

/-!
# Query strings

Reading parameters from `k=v&k2=v2`: the text is split at every `&`, each part at its first `=`, and
the first part with the key has the value. Nothing is unescaped, so a value with a `&` in it is cut
short there (`param_last`).
-/

namespace Query

/-- Split a text at every separator. -/
def split (sep : Char) : List Char → List (List Char)
  | [] => [[]]
  | c :: cs =>
    if c = sep then [] :: split sep cs
    else
      match split sep cs with
      | [] => [[c]]
      | part :: parts => (c :: part) :: parts

/-- Split a text at its first separator. -/
def splitOnce (sep : Char) : List Char → Option (List Char × List Char)
  | [] => none
  | c :: cs =>
    if c = sep then some ([], cs) else (splitOnce sep cs).map fun (k, v) => (c :: k, v)

/-- The value of a part with the key. -/
def valueOf (key part : List Char) : Option (List Char) := do
  let (k, v) ← splitOnce '=' part
  if k = key then some v else none

/-- The value of the first part with the key. -/
def param (query key : List Char) : Option (List Char) := (split '&' query).findSome? (valueOf key)

/-- A text up to its first `&`. -/
def cut (cs : List Char) : List Char := cs.takeWhile (· ≠ '&')

variable {sep : Char} {cs k v key rest : List Char}

theorem split_append (h : sep ∉ cs) (rest : List Char) :
    split sep (cs ++ sep :: rest) = cs :: split sep rest := by
  induction cs with
  | nil => simp [split]
  | cons c cs ih =>
    obtain ⟨hc, hcs⟩ : sep ≠ c ∧ sep ∉ cs := by simpa using h
    rw [List.cons_append, split, if_neg hc.symm, ih hcs]

/-- The first part goes as far as the first separator. -/
theorem exists_split_append (h : '&' ∉ cs) (v : List Char) :
    ∃ parts, split '&' (cs ++ v) = (cs ++ cut v) :: parts := by
  have hv : ∃ parts, split '&' v = cut v :: parts := by
    induction v with
    | nil => exact ⟨[], rfl⟩
    | cons c v ih =>
      obtain ⟨parts, hparts⟩ := ih
      by_cases hc : c = '&'
      · exact ⟨split '&' v, by simp [split, cut, hc]⟩
      · refine ⟨parts, ?_⟩
        rw [split, if_neg hc, hparts]
        simp [cut, hc]
  induction cs with
  | nil => exact hv
  | cons c cs ih =>
    obtain ⟨hc, hcs⟩ : '&' ≠ c ∧ '&' ∉ cs := by simpa using h
    obtain ⟨parts, hparts⟩ := ih hcs
    exact ⟨parts, by rw [List.cons_append, split, if_neg hc.symm, hparts]; rfl⟩

theorem splitOnce_append (h : sep ∉ k) (v : List Char) :
    splitOnce sep (k ++ sep :: v) = some (k, v) := by
  induction k with
  | nil => simp [splitOnce]
  | cons c k ih =>
    obtain ⟨hc, hk⟩ : sep ≠ c ∧ sep ∉ k := by simpa using h
    rw [List.cons_append, splitOnce, if_neg hc.symm, ih hk]
    rfl

theorem valueOf_pair (h : '=' ∉ k) (v : List Char) :
    valueOf key (k ++ '=' :: v) = if k = key then some v else none := by
  rw [valueOf, splitOnce_append h]
  rfl

/-- A parameter in front of others. -/
theorem param_cons (hkey : '=' ∉ k) (hamp : '&' ∉ k ++ '=' :: v) :
    param (k ++ '=' :: v ++ '&' :: rest) key = if k = key then some v else param rest key := by
  rw [param, split_append hamp, List.findSome?_cons, valueOf_pair hkey]
  split
  · rename_i w hw
    split_ifs at hw with hk
    · rw [if_pos hk, hw]
  · rename_i hw
    split_ifs at hw with hk
    rw [if_neg hk, param]

/-- The value that is read is cut at its first `&`. -/
theorem param_last (hkey : '=' ∉ k) (hamp : '&' ∉ k) (v : List Char) :
    param (k ++ '=' :: v) k = some (cut v) := by
  have hpart : '&' ∉ k ++ ['='] := by simp [hamp]
  obtain ⟨parts, hparts⟩ := exists_split_append hpart v
  have hsplit : split '&' (k ++ '=' :: v) = (k ++ '=' :: cut v) :: parts := by simpa using hparts
  rw [param, hsplit, List.findSome?_cons, valueOf_pair hkey, if_pos rfl]

/-- Nothing is cut off exactly if there is no `&`. -/
theorem cut_eq_self_iff : cut v = v ↔ '&' ∉ v := by
  rw [cut, List.takeWhile_eq_self_iff]
  constructor
  · intro h hmem
    simpa using h '&' hmem
  · intro h c hc
    have hne : c ≠ '&' := by
      rintro rfl
      exact h hc
    simpa using hne

end Query
