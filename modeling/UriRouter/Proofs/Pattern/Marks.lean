import UriRouter.Proofs.Pattern.Parts

/-!
# Bindings and the marks they come from

A placeholder is bound to the text between the marks of its group. So the bindings of names in a
row depend on no marks but those of their own groups.

* `textOf?_append_left`, `textOf?_append_right` : marks of other groups change nothing;
* `bindingsFrom_append` : names in a row, each with marks of their own.
-/

set_option autoImplicit false

namespace UriRouter.Pattern

open UriRouter.Regex

/-! ## The text of a group -/

theorem lastMark?_append_left {name : String} {begins : Bool} (m : List Mark) {m' : List Mark}
    (h : ∀ mark ∈ m', mark.name ≠ name) :
    lastMark? name begins (m ++ m') = lastMark? name begins m := by
  have hf : (m'.filter fun m => m.begins == begins && m.name == name) = [] := by
    rw [List.filter_eq_nil_iff]
    intro mark hm
    simp [h mark hm]
  rw [lastMark?, lastMark?, List.filter_append, hf, List.append_nil]

theorem lastMark?_append_right {name : String} {begins : Bool} {m : List Mark} (m' : List Mark)
    (h : ∀ mark ∈ m, mark.name ≠ name) :
    lastMark? name begins (m ++ m') = lastMark? name begins m' := by
  have hf : (m.filter fun m => m.begins == begins && m.name == name) = [] := by
    rw [List.filter_eq_nil_iff]
    intro mark hm
    simp [h mark hm]
  rw [lastMark?, lastMark?, List.filter_append, hf, List.nil_append]

theorem textOf?_append_left {name : String} (m : List Mark) {m' : List Mark}
    (h : ∀ mark ∈ m', mark.name ≠ name) : textOf? name (m ++ m') = textOf? name m := by
  rw [textOf?, textOf?, lastMark?_append_left m h, lastMark?_append_left m h]

theorem textOf?_append_right {name : String} {m : List Mark} (m' : List Mark)
    (h : ∀ mark ∈ m, mark.name ≠ name) : textOf? name (m ++ m') = textOf? name m' := by
  rw [textOf?, textOf?, lastMark?_append_right m' h, lastMark?_append_right m' h]

/-- A group without marks took no part. -/
theorem textOf?_eq_none {name : String} {m : List Mark} (h : ∀ mark ∈ m, mark.name ≠ name) :
    textOf? name m = none := by
  have ht := textOf?_append_right [] h
  rwa [List.append_nil] at ht

/-- A group that took part once consumed what lies between its marks. -/
theorem textOf?_group {name : String} {m : List Mark} (h : ∀ mark ∈ m, mark.name ≠ name)
    (value rest : List Char) :
    textOf? name (⟨name, true, value ++ rest⟩ :: m ++ [⟨name, false, rest⟩]) = some value := by
  have hf : ∀ begins, (m.filter fun m => m.begins == begins && m.name == name) = [] := by
    intro begins
    rw [List.filter_eq_nil_iff]
    intro mark hm
    simp [h mark hm]
  simp only [textOf?, lastMark?, List.cons_append, List.filter_cons, List.filter_append, hf]
  simp

/-! ## Bindings -/

theorem bindingsFrom_congr {m m' : List Mark} {names : List String} :
    ∀ {index : Nat}, (∀ i, index ≤ i → i < index + names.length →
        textOf? (groupName i) m = textOf? (groupName i) m') →
      bindingsFrom m index names = bindingsFrom m' index names := by
  induction names with
  | nil => intros; rfl
  | cons name rest ih =>
    intro index h
    simp only [List.length_cons] at h
    rw [bindingsFrom, bindingsFrom, h index (by omega) (by omega),
      ih fun i h₁ h₂ => h i (by omega) (by omega)]

theorem bindingsFrom_names_append (m : List Mark) (names names' : List String) (index : Nat) :
    bindingsFrom m index (names ++ names') =
      bindingsFrom m index names ++ bindingsFrom m (index + names.length) names' := by
  induction names generalizing index with
  | nil => simp [bindingsFrom]
  | cons name rest ih =>
    simp only [List.cons_append, bindingsFrom, ih, List.length_cons, Nat.add_comm, Nat.add_left_comm]
    cases textOf? (groupName index) m <;> rfl

theorem bindingsFrom_nil (index : Nat) (names : List String) : bindingsFrom [] index names = [] := by
  induction names generalizing index with
  | nil => rfl
  | cons name rest ih => exact ih _

/-- Marks that belong to none of the groups for `count` placeholders from `index` on. -/
def MarksAside (index count : Nat) (m : List Mark) : Prop :=
  ∀ mark ∈ m, mark.name ∉ groupNames index count

theorem mem_groupNames {i index count : Nat} (h₁ : index ≤ i) (h₂ : i < index + count) :
    groupName i ∈ groupNames index count :=
  List.mem_map.2 ⟨i, List.mem_range'_1.2 ⟨h₁, h₂⟩, rfl⟩

theorem notMem_groupNames {i index count : Nat} (h : i < index ∨ index + count ≤ i) :
    groupName i ∉ groupNames index count := by
  intro hm
  obtain ⟨j, hj, he⟩ := List.mem_map.1 hm
  have := List.mem_range'_1.1 hj
  have := groupName_injective he
  omega

/-- The bindings of names in a row come from two stretches of marks, if neither holds marks of the
other's groups. -/
theorem bindingsFrom_append {m m' : List Mark} {index : Nat} {names names' : List String}
    (h : MarksAside (index + names.length) names'.length m)
    (h' : MarksAside index names.length m') :
    bindingsFrom (m ++ m') index (names ++ names') =
      bindingsFrom m index names ++ bindingsFrom m' (index + names.length) names' := by
  rw [bindingsFrom_names_append]
  congr 1
  · refine bindingsFrom_congr fun i h₁ h₂ => textOf?_append_left m fun mark hm he => ?_
    exact h' mark hm (he ▸ mem_groupNames h₁ h₂)
  · refine bindingsFrom_congr fun i h₁ h₂ => textOf?_append_right m' fun mark hm he => ?_
    exact h mark hm (he ▸ mem_groupNames h₁ h₂)

/-- The binding of a name whose group took part once. -/
theorem bindingsFrom_group {index : Nat} {m : List Mark} (h : MarksAside index 1 m) (name : String)
    (value rest : List Char) :
    bindingsFrom (⟨groupName index, true, value ++ rest⟩ :: m ++ [⟨groupName index, false, rest⟩])
      index [name] = [(name, String.ofList value)] := by
  have hm : ∀ mark ∈ m, mark.name ≠ groupName index := fun mark hm he =>
    h mark hm (he ▸ mem_groupNames (Nat.le_refl _) (by omega))
  rw [bindingsFrom, textOf?_group hm]
  rfl

end UriRouter.Pattern
