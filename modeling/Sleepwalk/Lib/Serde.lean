import Mathlib.Data.Nat.Notation
import Mathlib.Order.Lattice

/-!
# Derived deserialization of internally tagged enums

What serde's derive accepts for an internally tagged enum over JSON values. The tag is split off
first (`tagged`), and the rest is read as the fields of the variant it names:

* an object keeps its remaining entries, in any order; unknown entries are ignored, a repeated
  field is an error, and a missing field is an error unless its type has a default for that case,
  as an optional type has;
* an array keeps its remaining items, which are the fields by position, all of them present and
  none left over.

Error texts are not modelled: `none` is a value that is rejected.
-/

namespace Serde

/-- A JSON value. The entries of an object keep their order and may repeat a key. -/
inductive Json where
  | null
  | bool (b : Bool)
  /-- A nonnegative integer that fits 64 bits. -/
  | uint (n : UInt64)
  /-- Any other number, as written. -/
  | number (text : String)
  | string (s : String)
  | array (items : List Json)
  | object (entries : List (String × Json))

/-- What is left of a value once its tag is split off. -/
inductive Content where
  | map (entries : List (String × Json))
  | seq (items : List Json)

/-- Split off the tag: the one entry of an object under the tag's key, or the first item of an
array. It must be a string. -/
def tagged (tag : String) : Json → Option (String × Content)
  | .object entries =>
    match entries.filter fun e => e.1 = tag with
    | [(_, .string name)] => some (name, .map (entries.filter fun e => e.1 ≠ tag))
    | _ => none
  | .array (.string name :: items) => some (name, .seq items)
  | _ => none

/-- A field of a struct variant. -/
structure Field (α : Type) where
  name : String
  /-- How its value is read. -/
  decode : Json → Option α
  /-- The value it takes when an object has no entry for it. -/
  absent : Option α

namespace Field

variable {α : Type}

/-- A field of a type without a default. -/
def required (name : String) (decode : Json → Option α) : Field α :=
  { name, decode, absent := none }

/-- A field of an optional type: JSON null is `none`, and so is a missing entry. -/
def optional (name : String) (decode : Json → Option α) : Field (Option α) where
  name := name
  decode
    | .null => some none
    | value => (decode value).map some
  absent := some none

/-- The field's value in an object with these entries. -/
def fromMap (f : Field α) (entries : List (String × Json)) : Option α :=
  match entries.filter fun e => e.1 = f.name with
  | [] => f.absent
  | [(_, value)] => f.decode value
  | _ => none

end Field

namespace Content

variable {α β : Type}

/-- The content of a unit variant: an object may carry anything else, an array must be used up. -/
def unit : Content → Option Unit
  | map _ => some ()
  | seq [] => some ()
  | seq _ => none

/-- The content of a variant with one field. -/
def struct1 (f : Field α) : Content → Option α
  | map entries => f.fromMap entries
  | seq [a] => f.decode a
  | seq _ => none

/-- The content of a variant with two fields. -/
def struct2 (f : Field α) (g : Field β) : Content → Option (α × β)
  | map entries => do return (← f.fromMap entries, ← g.fromMap entries)
  | seq [a, b] => do return (← f.decode a, ← g.decode b)
  | seq _ => none

end Content

/-! ## What a tag accepts -/

/-- An object is tagged exactly if it has one entry under the tag's key, and that is a string. -/
theorem tagged_object_iff {tag name : String} {entries : List (String × Json)}
    {content : Content} :
    tagged tag (.object entries) = some (name, content) ↔
      (entries.filter fun e => e.1 = tag) = [(tag, .string name)] ∧
        content = .map (entries.filter fun e => e.1 ≠ tag) := by
  have hmem : ∀ e ∈ entries.filter fun e => e.1 = tag, e.1 = tag := by
    intro e he
    simpa using (List.mem_filter.mp he).2
  rw [tagged]
  generalize (entries.filter fun e => e.1 = tag) = found at hmem
  rcases found with _ | ⟨⟨key, value⟩, _ | ⟨e, rest⟩⟩
  · simp
  · have hkey : key = tag := hmem _ (List.mem_singleton.mpr rfl)
    cases value <;> simp [hkey, eq_comm]
  · simp

/-- An object with one good entry under the tag's key is rejected only for having another. -/
theorem tagged_object_eq_none {tag name : String} {entries : List (String × Json)}
    (hmem : (tag, .string name) ∈ entries)
    (hmore : (entries.filter fun e => e.1 = tag) ≠ [(tag, .string name)]) :
    tagged tag (.object entries) = none := by
  rw [Option.eq_none_iff_forall_ne_some]
  rintro ⟨name', content⟩ htag
  obtain ⟨hone, -⟩ := tagged_object_iff.mp htag
  have hentry : (tag, .string name) ∈ entries.filter fun e => e.1 = tag :=
    List.mem_filter.mpr ⟨hmem, by simp⟩
  rw [hone, List.mem_singleton] at hentry
  exact hmore (hentry ▸ hone)

/-- An array is tagged exactly if its first item is a string. -/
theorem tagged_array_iff {tag name : String} {items : List Json} {content : Content} :
    tagged tag (.array items) = some (name, content) ↔
      ∃ rest, items = .string name :: rest ∧ content = .seq rest := by
  rcases items with _ | ⟨first, rest⟩
  · simp [tagged]
  · cases first <;> simp [tagged, eq_comm, and_assoc]

/-- Nothing else is tagged. -/
theorem eq_object_or_array_of_tagged {tag : String} {value : Json} {t : String × Content}
    (h : tagged tag value = some t) :
    (∃ entries, value = .object entries) ∨ ∃ items, value = .array items := by
  cases value with
  | object entries => exact Or.inl ⟨entries, rfl⟩
  | array items => exact Or.inr ⟨items, rfl⟩
  | _ => simp [tagged] at h

/-! ## What an optional field accepts -/

section Optional

variable {α : Type}

/-- A value reads as `none` only if it is null. -/
theorem optional_decode_eq_none {name : String} {decode : Json → Option α} {value : Json}
    (h : (Field.optional name decode).decode value = some none) : value = .null := by
  cases value <;> simp [Field.optional] at h ⊢

/-- An optional field of an object is `none` exactly if the object has no entry for it or just one,
which is null. -/
theorem optional_fromMap_eq_none_iff {name : String} {decode : Json → Option α}
    {entries : List (String × Json)} :
    (Field.optional name decode).fromMap entries = some none ↔
      (∀ e ∈ entries, e.1 ≠ name) ∨
        (entries.filter fun e => e.1 = name) = [(name, .null)] := by
  have hname : (Field.optional name decode).name = name := rfl
  have hmem : ∀ e ∈ entries.filter fun e => e.1 = name, e.1 = name := by
    intro e he
    simpa using (List.mem_filter.mp he).2
  have hnone : (∀ e ∈ entries, e.1 ≠ name) ↔ (entries.filter fun e => e.1 = name) = [] := by
    rw [List.filter_eq_nil_iff]
    simp
  rw [hnone, Field.fromMap, hname]
  generalize (entries.filter fun e => e.1 = name) = found at hmem
  -- No entry, one entry, or a duplicate, which is an error.
  rcases found with _ | ⟨⟨key, value⟩, _ | ⟨e, rest⟩⟩
  · simp [Field.optional]
  · have hkey : key = name := hmem _ (List.mem_singleton.mpr rfl)
    constructor
    · intro h
      rw [optional_decode_eq_none h, hkey]
      exact Or.inr rfl
    · rintro (h | h)
      · simp at h
      · obtain rfl : value = .null := by simpa [hkey] using h
        rfl
  · simp

end Optional

/-! ## Ordered maps -/

section OrderedMap

variable {κ β : Type} [LinearOrder κ]

/-- Insert into an ordered map given by its entries, replacing the value under an old key. -/
def insertEntry (entries : List (κ × β)) (key : κ) (value : β) : List (κ × β) :=
  match entries with
  | [] => [(key, value)]
  | (k, v) :: entries =>
    if key < k then (key, value) :: (k, v) :: entries
    else if key = k then (key, value) :: entries
    else (k, v) :: insertEntry entries key value

/-- The ordered map of some entries, the later ones replacing the earlier. -/
def orderedMap (entries : List (κ × β)) : List (κ × β) :=
  entries.foldl (fun m e => insertEntry m e.1 e.2) []

/-- Entries in the strict order of their keys. -/
def Ordered (entries : List (κ × β)) : Prop := entries.Pairwise fun e f => e.1 < f.1

theorem insertEntry_eq_append {entries : List (κ × β)} {key : κ} {value : β}
    (h : ∀ e ∈ entries, e.1 < key) : insertEntry entries key value = entries ++ [(key, value)] := by
  induction entries with
  | nil => rfl
  | cons e entries ih =>
    have hless := h e List.mem_cons_self
    rw [insertEntry, if_neg (lt_asymm hless), if_neg (ne_of_gt hless),
      ih fun f hf => h f (List.mem_cons_of_mem _ hf), List.cons_append]

/-- The entries of an ordered map are read back as that map. -/
theorem orderedMap_eq_self {entries : List (κ × β)} (h : Ordered entries) :
    orderedMap entries = entries := by
  have hgrow : ∀ (done entries : List (κ × β)), Ordered (done ++ entries) →
      entries.foldl (fun m e => insertEntry m e.1 e.2) done = done ++ entries := by
    intro done entries hordered
    induction entries generalizing done with
    | nil => simp
    | cons e entries ih =>
      have hlast : ∀ f ∈ done, f.1 < e.1 :=
        fun f hf => (List.pairwise_append.mp hordered).2.2 f hf e List.mem_cons_self
      rw [List.foldl_cons, insertEntry_eq_append hlast, ih, List.append_assoc]
      · rfl
      · rwa [List.append_assoc]
  exact hgrow [] entries h

end OrderedMap

end Serde
