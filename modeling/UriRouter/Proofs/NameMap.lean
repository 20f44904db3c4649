import Mathlib.Data.String.Basic
import UriRouter.NameMap

/-!
# Dictionaries in order

* `NameMap.Ascending` : the names of a dictionary ascend, so that none stands there twice;
* `NameMap.mem_entries` : then a name's entry is what a look-up finds.
-/

set_option autoImplicit false

namespace UriRouter.NameMap

variable {α : Type}

/-- The names ascend. -/
def Ascending (m : NameMap α) : Prop := m.names.Pairwise (· < ·)

theorem ascending_empty : Ascending ({} : NameMap α) := List.Pairwise.nil

theorem mem_names_insertEntry {name other : String} {a : α} {entries : List (String × α)} :
    other ∈ (insertEntry name a entries).map (·.1) ↔
      other = name ∨ other ∈ entries.map (·.1) := by
  induction entries with
  | nil => simp [insertEntry]
  | cons e rest ih =>
    obtain ⟨n, b⟩ := e
    unfold insertEntry
    split
    · rename_i hn
      simp [hn]
    · split
      · simp
      · rw [List.map_cons, List.mem_cons, ih, List.map_cons, List.mem_cons]
        tauto

/-- Adding an entry brings no other one in. -/
theorem mem_of_mem_insertEntry {name : String} {a : α} {e : String × α}
    {entries : List (String × α)} (h : e ∈ insertEntry name a entries) :
    e = (name, a) ∨ e ∈ entries := by
  induction entries with
  | nil => exact .inl (List.mem_singleton.1 h)
  | cons d rest ih =>
    obtain ⟨n, b⟩ := d
    unfold insertEntry at h
    split at h
    · rcases List.mem_cons.1 h with h | h
      · exact .inl h
      · exact .inr (List.mem_cons_of_mem _ h)
    · split at h
      · exact List.mem_cons.1 h
      · rcases List.mem_cons.1 h with rfl | h
        · exact .inr List.mem_cons_self
        · exact (ih h).imp_right (List.mem_cons_of_mem _)

theorem mem_names_insert {m : NameMap α} {name other : String} {a : α} :
    other ∈ (m.insert name a).names ↔ other = name ∨ other ∈ m.names :=
  mem_names_insertEntry

theorem pairwise_insertEntry {name : String} {a : α} {entries : List (String × α)}
    (h : (entries.map (·.1)).Pairwise (· < ·)) :
    ((insertEntry name a entries).map (·.1)).Pairwise (· < ·) := by
  induction entries with
  | nil => exact List.pairwise_singleton _ _
  | cons e rest ih =>
    obtain ⟨n, b⟩ := e
    obtain ⟨hn, hr⟩ := List.pairwise_cons.1 h
    unfold insertEntry
    split
    · rename_i he
      rw [List.map_cons, he]
      exact h
    · rename_i he
      split
      · rename_i hl
        refine List.pairwise_cons.2 ⟨fun x hx => ?_, h⟩
        rcases List.mem_cons.1 hx with rfl | hx
        · exact hl
        · exact lt_trans hl (hn x hx)
      · rename_i hl
        have hg : n < name := lt_of_le_of_ne (not_lt.1 hl) (Ne.symm he)
        refine List.pairwise_cons.2 ⟨fun x hx => ?_, ih hr⟩
        rcases mem_names_insertEntry.1 hx with rfl | hx
        · exact hg
        · exact hn x hx

theorem Ascending.insert {m : NameMap α} (h : m.Ascending) (name : String) (a : α) :
    (m.insert name a).Ascending :=
  pairwise_insertEntry h

theorem mem_of_findEntry {name : String} {a : α} {entries : List (String × α)}
    (h : findEntry name entries = some a) : (name, a) ∈ entries := by
  induction entries with
  | nil => cases h
  | cons e rest ih =>
    obtain ⟨n, b⟩ := e
    rw [findEntry] at h
    split at h
    · rename_i hn
      cases h
      rw [hn]
      exact List.mem_cons_self
    · exact List.mem_cons_of_mem _ (ih h)

theorem findEntry_of_mem {name : String} {a : α} {entries : List (String × α)}
    (hs : (entries.map (·.1)).Pairwise (· < ·)) (h : (name, a) ∈ entries) :
    findEntry name entries = some a := by
  induction entries with
  | nil => cases h
  | cons e rest ih =>
    obtain ⟨n, b⟩ := e
    obtain ⟨hn, hr⟩ := List.pairwise_cons.1 hs
    rw [findEntry]
    rcases List.mem_cons.1 h with he | hm
    · cases he
      rw [if_pos rfl]
    · have hl : n < name := hn name (List.mem_map.2 ⟨_, hm, rfl⟩)
      rw [if_neg (ne_of_gt hl), ih hr hm]

/-- What stands under a name is what a look-up finds. -/
theorem mem_entries {m : NameMap α} (h : m.Ascending) {name : String} {a : α} :
    (name, a) ∈ m.entries ↔ m.get? name = some a :=
  ⟨findEntry_of_mem h, mem_of_findEntry⟩

theorem mem_names {m : NameMap α} (h : m.Ascending) {name : String} :
    name ∈ m.names ↔ ∃ a, m.get? name = some a := by
  constructor
  · intro hm
    obtain ⟨⟨n, a⟩, he, rfl⟩ := List.mem_map.1 hm
    exact ⟨a, (mem_entries h).1 he⟩
  · rintro ⟨a, ha⟩
    exact List.mem_map.2 ⟨_, (mem_entries h).2 ha, rfl⟩

end UriRouter.NameMap
