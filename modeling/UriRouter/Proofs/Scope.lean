import Mathlib.Data.String.Basic
import UriRouter.Action
import UriRouter.Scope

/-!
# Nested scopes

Entering one group after the other is the same as putting each group's own prefix before the
pattern, the innermost first, and qualifying a target's name with each group's own namespace. The
prefix that a group adds is empty, or it begins with `/` and goes on after that, and this is why
the patterns of the root vanish once at most.

* `Scope.nest_prefix`, `Scope.nest_nameSpace` : what a group adds to a scope;
* `Scope.apply_nest`, `Scope.apply_foldl_nest` : patterns under nested groups;
* `Scope.nameSpace_foldl_nest`, `Action.inNamespace_foldl_nest` : targets under nested groups.
-/

set_option autoImplicit false

namespace UriRouter

variable {ρ : Type}

namespace Scope

/-! ## What a group adds -/

theorem getLast?_trimSlashes (s : String) : (trimSlashes s).toList.getLast? ≠ some '/' := by
  rw [trimSlashes, String.toList_ofList, List.getLast?_reverse]
  have h := List.head?_dropWhile_not (· == '/') s.toList.reverse
  intro hl
  rw [hl] at h
  cases h

theorem trimSlashes_of_getLast? {s : String} (h : s.toList.getLast? ≠ some '/') :
    trimSlashes s = s := by
  rw [← List.head?_reverse] at h
  have hdrop : s.toList.reverse.dropWhile (· == '/') = s.toList.reverse := by
    cases hr : s.toList.reverse with
    | nil => rfl
    | cons c rest =>
      rw [hr] at h
      have hc : (c == '/') = false := beq_false_of_ne fun he => h (congrArg some he)
      rw [List.dropWhile_cons, hc]
      rfl
  rw [trimSlashes, hdrop, List.reverse_reverse, String.ofList_toList]

/-- What a group adds to a prefix does not hang on the prefix. -/
theorem joinPrefix_eq_append (base added : String) :
    joinPrefix base added = base ++ joinPrefix "" added := by
  unfold joinPrefix
  simp only
  split
  · rw [String.append_empty]
  · rw [String.empty_append]
  · rw [String.empty_append, String.append_assoc]

/-- A group adds nothing, or a `/` and something after it. -/
theorem joinPrefix_cases (added : String) :
    joinPrefix "" added = "" ∨ ∃ c rest, (joinPrefix "" added).toList = '/' :: c :: rest := by
  have hlast := getLast?_trimSlashes added
  unfold joinPrefix
  simp only
  split
  · exact .inl rfl
  · rename_i rest htrim
    refine .inr ?_
    rw [String.empty_append, htrim]
    cases rest with
    | nil =>
      rw [htrim] at hlast
      exact absurd rfl hlast
    | cons c rest => exact ⟨c, rest, rfl⟩
  · rename_i hne _
    refine .inr ?_
    rw [String.empty_append, String.toList_append]
    cases htrim : (trimSlashes added).toList with
    | nil => exact absurd htrim hne
    | cons c rest => exact ⟨c, rest, rfl⟩

theorem joinPrefix_of_head? {added : String} (hl : added.toList.getLast? ≠ some '/')
    (hh : added.toList.head? = some '/') : joinPrefix "" added = added := by
  unfold joinPrefix
  simp only [trimSlashes_of_getLast? hl]
  split
  · rename_i hnil
    rw [hnil] at hh
    cases hh
  · rw [String.empty_append]
  · rename_i hne
    obtain ⟨rest, hrest⟩ := List.head?_eq_some_iff.1 hh
    exact absurd hrest (hne rest)

theorem joinPrefix_of_head?_ne {added : String} (hl : added.toList.getLast? ≠ some '/')
    (hne : added ≠ "") (hh : added.toList.head? ≠ some '/') :
    joinPrefix "" added = "/" ++ added := by
  unfold joinPrefix
  simp only [trimSlashes_of_getLast? hl]
  split
  · rename_i hnil
    exact absurd (String.toList_eq_nil_iff.1 hnil) hne
  · rename_i hslash
    rw [hslash] at hh
    exact absurd rfl hh
  · rw [String.empty_append]

/-- The prefix of a group's scope is that of the scope around it, with what the group adds. -/
theorem nest_prefix (s : Scope) (g : Group) :
    (s.nest g).pathPrefix = s.pathPrefix ++ (root.nest g).pathPrefix := by
  unfold nest
  cases g.pathPrefix with
  | none => simp only [root, String.append_empty]
  | some p =>
    simp only [root]
    rw [← joinPrefix_eq_append]

theorem nest_root_cases (g : Group) :
    (root.nest g).pathPrefix = "" ∨ ∃ c rest, (root.nest g).pathPrefix.toList = '/' :: c :: rest := by
  unfold nest
  cases g.pathPrefix with
  | none => exact .inl rfl
  | some p =>
    simp only [root]
    exact joinPrefix_cases p

/-! ## Patterns -/

/-- What a pattern adds to a prefix that is not empty does not hang on the prefix. -/
theorem exists_apply (pattern : String) :
    ∃ added, ∀ s : Scope, s.pathPrefix ≠ "" → s.apply pattern = s.pathPrefix ++ added := by
  cases hp : pattern.toList with
  | nil => exact ⟨"", fun s h => by simp [apply, hp, h]⟩
  | cons c rest =>
    by_cases hslash : c = '/'
    · cases rest with
      | nil => exact ⟨"", fun s h => by simp [apply, hp, hslash, h]⟩
      | cons d rest => exact ⟨pattern, fun s h => by simp [apply, hp, hslash, h]⟩
    · by_cases hsection : c = '['
      · exact ⟨pattern, fun s h => by simp [apply, hp, hsection, h]⟩
      · exact ⟨"/" ++ pattern, fun s h => by
          simp [apply, hp, hslash, hsection, h, String.append_assoc]⟩

theorem apply_of_eq {s : Scope} (h : s.pathPrefix = "") (pattern : String) :
    s.apply pattern = pattern := by
  rw [apply, if_pos (String.isEmpty_iff.2 h)]

/-- A pattern that begins with `/` and goes on after it is put after the prefix of a scope. -/
theorem apply_of_toList {s : Scope} {pattern : String} {c : Char} {rest : List Char}
    (h : pattern.toList = '/' :: c :: rest) : s.apply pattern = s.pathPrefix ++ pattern := by
  unfold apply
  split
  · rename_i hempty
    rw [String.isEmpty_iff.1 hempty, String.empty_append]
  · rw [h]
    rfl

/-- Under a group a pattern is what it is under the scope around it with the group's own prefix
before it. -/
theorem apply_nest (s : Scope) (g : Group) (pattern : String) :
    (s.nest g).apply pattern = s.apply ((root.nest g).apply pattern) := by
  have hnested := nest_prefix s g
  rcases nest_root_cases g with hroot | ⟨c, rest, hroot⟩
  · rw [hroot, String.append_empty] at hnested
    rw [apply_of_eq hroot, apply, apply, hnested]
  · have hne : (root.nest g).pathPrefix ≠ "" := by
      intro he
      rw [he] at hroot
      cases hroot
    have hne' : (s.nest g).pathPrefix ≠ "" := by
      rw [hnested]
      exact fun he => hne (String.append_eq_empty_iff.1 he).2
    obtain ⟨added, hadded⟩ := exists_apply pattern
    have htext : ((root.nest g).pathPrefix ++ added).toList =
        '/' :: c :: (rest ++ added.toList) := by
      rw [String.toList_append, hroot]
      rfl
    rw [hadded _ hne, hadded _ hne', hnested, apply_of_toList htext, String.append_assoc]

/-- A pattern with the own prefix of each of some groups put before it, the innermost first. -/
def underGroups (gs : List Group) (pattern : String) : String :=
  gs.foldr (fun g p => (root.nest g).apply p) pattern

theorem apply_foldl_nest (s : Scope) (gs : List Group) (pattern : String) :
    (gs.foldl nest s).apply pattern = s.apply (underGroups gs pattern) := by
  induction gs generalizing s with
  | nil => rfl
  | cons g gs ih => rw [List.foldl_cons, ih, apply_nest, underGroups, underGroups, List.foldr_cons]

/-! ## Namespaces -/

/-- Namespaces that are not empty, joined from the outermost to the innermost. -/
def joinNamespaces (spaces : List String) : String := "::".intercalate (spaces.filter (· ≠ ""))

theorem joinNamespaces_cons_cons (outer inner : String) (rest : List String) :
    joinNamespaces (outer :: inner :: rest) =
      joinNamespaces (joinNamespace outer inner :: rest) := by
  unfold joinNamespace
  by_cases hi : inner = ""
  · simp [joinNamespaces, List.filter_cons, hi]
  · by_cases ho : outer = ""
    · simp [joinNamespaces, ho, hi]
    · have hne : outer ++ "::" ++ inner ≠ "" := fun he => hi (String.append_eq_empty_iff.1 he).2
      simp [joinNamespaces, ho, hi, hne]

/-- The namespace of nested groups is the join of theirs, those that are empty left out. -/
theorem nameSpace_foldl_nest (s : Scope) (gs : List Group) :
    (gs.foldl nest s).nameSpace =
      joinNamespaces (s.nameSpace :: gs.map fun g => g.nameSpace.getD "") := by
  induction gs generalizing s with
  | nil =>
    by_cases h : s.nameSpace = ""
    · simp [joinNamespaces, h]
    · simp [joinNamespaces, h]
  | cons g gs ih =>
    rw [List.foldl_cons, ih, List.map_cons, joinNamespaces_cons_cons]
    rfl

/-- A name qualified with an inner namespace and then with an outer one. -/
theorem qualify_joinNamespace (outer inner name : String) :
    qualify (joinNamespace outer inner) name = qualify outer (qualify inner name) := by
  unfold joinNamespace qualify
  by_cases hi : inner = ""
  · simp [hi]
  · by_cases ho : outer = ""
    · simp [ho, hi]
    · simp [ho, hi, String.append_assoc]

end Scope

namespace Action

/-- The action with its target's name qualified with the own namespace of each of some groups, the
innermost first. -/
def underGroups (gs : List Group) (action : Action ρ) : Action ρ :=
  gs.foldr (fun g a => a.inNamespace (g.nameSpace.getD "")) action

theorem inNamespace_joinNamespace (outer inner : String) (action : Action ρ) :
    action.inNamespace (Scope.joinNamespace outer inner) =
      (action.inNamespace inner).inNamespace outer := by
  cases action with
  | handler h => rfl
  | member target name =>
    cases target with
    | bound c => rfl
    | named t => exact congrArg (fun n => member (.named n) name) (Scope.qualify_joinNamespace _ _ t)

theorem inNamespace_foldl_nest (s : Scope) (gs : List Group) (action : Action ρ) :
    action.inNamespace (gs.foldl Scope.nest s).nameSpace =
      (action.underGroups gs).inNamespace s.nameSpace := by
  induction gs generalizing s with
  | nil => rfl
  | cons g gs ih =>
    rw [List.foldl_cons, ih, underGroups, underGroups, List.foldr_cons]
    exact inNamespace_joinNamespace s.nameSpace (g.nameSpace.getD "") _

theorem inNamespace_named (space name member : String) :
    (Action.member (.named name) member : Action ρ).inNamespace space =
      .member (.named (if space = "" then name else space ++ "::" ++ name)) member := by
  simp only [inNamespace, TargetRef.inNamespace, qualify, String.isEmpty_iff]

theorem inNamespace_of_ne {action : Action ρ}
    (h : ∀ name member, action ≠ .member (.named name) member) (space : String) :
    action.inNamespace space = action := by
  cases action with
  | handler handler => rfl
  | member target member =>
    cases target with
    | bound c => rfl
    | named name => exact absurd rfl (h name member)

theorem inNamespace_empty (action : Action ρ) : action.inNamespace "" = action := by
  cases action with
  | handler h => rfl
  | member target name => cases target <;> rfl

end Action

end UriRouter
