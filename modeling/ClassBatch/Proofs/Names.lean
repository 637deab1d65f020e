import ClassBatch.Names
import Mathlib.Data.List.Induction
import Mathlib.Data.List.Sort
import Mathlib.Data.String.Basic

/-! Sets of names and tables over names are determined by their members, since they are kept in
strict order. -/

namespace ClassBatch.Names

variable {α : Type}

def Ordered (names : List String) : Prop :=
  names.Pairwise (· < ·)

lemma Ordered.nodup {names : List String} (h : Ordered names) : names.Nodup :=
  List.Pairwise.imp ne_of_lt h

lemma Ordered.sublist {names others : List String} (h : Ordered others)
    (hs : names.Sublist others) : Ordered names :=
  List.Pairwise.sublist hs h

lemma Ordered.eq_of_mem_iff {names others : List String} (h : Ordered names) (h' : Ordered others)
    (hm : ∀ x, x ∈ names ↔ x ∈ others) : names = others :=
  List.Pairwise.eq_of_mem_iff h h' hm

lemma insert_ordered {set : List String} (name : String) (h : Ordered set) :
    Ordered (insert name set) := by
  induction set with
  | nil => exact List.pairwise_singleton _ _
  | cons other rest ih =>
    obtain ⟨hlt, hrest⟩ := List.pairwise_cons.mp h
    simp only [insert]
    split
    · rename_i hn
      refine List.pairwise_cons.mpr ⟨?_, h⟩
      intro x hx
      rcases List.mem_cons.mp hx with rfl | hx
      · exact hn
      · exact hn.trans (hlt x hx)
    · rename_i hn
      split
      · exact h
      · rename_i hne
        refine List.pairwise_cons.mpr ⟨?_, ih hrest⟩
        intro x hx
        rcases mem_insert.mp hx with rfl | hx
        · exact lt_of_le_of_ne (not_lt.mp hn) (Ne.symm hne)
        · exact hlt x hx

lemma sorted_concat (names : List String) (name : String) :
    sorted (names ++ [name]) = insert name (sorted names) := by
  simp only [sorted, List.foldl_append, List.foldl_cons, List.foldl_nil]

lemma sorted_ordered (names : List String) : Ordered (sorted names) := by
  induction names using List.reverseRecOn with
  | nil => exact List.Pairwise.nil
  | append_singleton names name ih => exact sorted_concat names name ▸ insert_ordered name ih

lemma mem_sorted {x : String} {names : List String} : x ∈ sorted names ↔ x ∈ names := by
  induction names using List.reverseRecOn with
  | nil => rfl
  | append_singleton names name ih =>
    rw [sorted_concat, mem_insert, ih, List.mem_append, List.mem_singleton, or_comm]

lemma Ordered.sorted_eq {names : List String} (h : Ordered names) : sorted names = names :=
  (sorted_ordered names).eq_of_mem_iff h fun _ => mem_sorted

lemma mem_keys {x : String} {table : List (String × α)} :
    x ∈ keys table ↔ ∃ value, (x, value) ∈ table := by
  simp only [keys, List.mem_map, Prod.exists, exists_and_right, exists_eq_right]

lemma mem_keys_filter {x : String} {table : List (String × α)} (p : α → Bool) :
    x ∈ keys (table.filter fun entry => p entry.2) ↔ ∃ value, (x, value) ∈ table ∧ p value := by
  simp only [mem_keys, List.mem_filter]

lemma Ordered.filter {table : List (String × α)} (h : Ordered (keys table))
    (p : String × α → Bool) : Ordered (keys (table.filter p)) :=
  h.sublist (List.filter_sublist.map _)

lemma Ordered.eq_of_perm {table other : List (String × α)} (h : Ordered (keys table))
    (h' : Ordered (keys other)) (hp : table.Perm other) : table = other := by
  refine hp.eq_of_pairwise ?_ (List.pairwise_map.mp h) (List.pairwise_map.mp h')
  intro entry entry' _ _ hlt hgt
  exact absurd hgt (lt_asymm hlt)

lemma put_perm {name : String} (value : α) {table : List (String × α)} (h : name ∉ keys table) :
    (put name value table).Perm ((name, value) :: table) := by
  induction table with
  | nil => exact List.Perm.refl _
  | cons entry rest ih =>
    obtain ⟨other, kept⟩ := entry
    simp only [keys, List.map_cons, List.mem_cons, not_or] at h
    simp only [put]
    split
    · exact List.Perm.refl _
    · rw [if_neg h.1]
      exact ((ih h.2).cons _).trans (List.Perm.swap _ _ _)

lemma mem_put {name : String} {value : α} {table : List (String × α)} {entry : String × α}
    (h : name ∉ keys table) :
    entry ∈ put name value table ↔ entry = (name, value) ∨ entry ∈ table := by
  rw [(put_perm value h).mem_iff, List.mem_cons]

lemma keys_filter_put {name : String} (value : α) {table : List (String × α)} (p : α → Bool)
    (ho : Ordered (keys table)) (h : name ∉ keys table) :
    keys ((put name value table).filter fun entry => p entry.2) =
      if p value then insert name (keys (table.filter fun entry => p entry.2))
      else keys (table.filter fun entry => p entry.2) := by
  have hchosen := ho.filter fun entry => p entry.2
  have hput : Ordered (keys (put name value table)) := by
    rw [keys_put]
    exact insert_ordered name ho
  apply (hput.filter fun entry => p entry.2).eq_of_mem_iff
  · split
    · exact insert_ordered name hchosen
    · exact hchosen
  · intro x
    rw [mem_keys_filter]
    constructor
    · rintro ⟨kept, hx, hp⟩
      rcases (mem_put h).mp hx with he | hx
      · obtain ⟨rfl, rfl⟩ := Prod.mk.inj he
        rw [if_pos hp]
        exact mem_insert.mpr (Or.inl rfl)
      · have hm := (mem_keys_filter p).mpr ⟨kept, hx, hp⟩
        split
        · exact mem_insert.mpr (Or.inr hm)
        · exact hm
    · intro hx
      split at hx
      · rename_i hp
        rcases mem_insert.mp hx with rfl | hx
        · exact ⟨value, (mem_put h).mpr (Or.inl rfl), hp⟩
        · obtain ⟨kept, hm, hk⟩ := (mem_keys_filter p).mp hx
          exact ⟨kept, (mem_put h).mpr (Or.inr hm), hk⟩
      · obtain ⟨kept, hm, hk⟩ := (mem_keys_filter p).mp hx
        exact ⟨kept, (mem_put h).mpr (Or.inr hm), hk⟩

lemma lookup_of_mem {table : List (String × α)} {name : String} {value : α}
    (h : (keys table).Nodup) (hmem : (name, value) ∈ table) : table.lookup name = some value := by
  induction table with
  | nil => cases hmem
  | cons entry rest ih =>
    obtain ⟨other, kept⟩ := entry
    obtain ⟨hother, hrest⟩ := List.nodup_cons.mp h
    rw [List.lookup_cons]
    rcases List.mem_cons.mp hmem with heq | hkept
    · cases heq
      rw [beq_self_eq_true]
    · have hne : name ≠ other := by
        rintro rfl
        exact hother (List.mem_map.mpr ⟨(name, value), hkept, rfl⟩)
      rw [beq_eq_false_iff_ne.mpr hne]
      exact ih hrest hkept

end ClassBatch.Names
