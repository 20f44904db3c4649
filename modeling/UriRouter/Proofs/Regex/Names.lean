import Mathlib.Data.List.Nodup
import Mathlib.Data.List.Flatten
import Mathlib.Data.List.Perm.Subperm
import UriRouter.Proofs.Regex.Reading

/-!
# Names of groups

An expression that was read bears no group name twice: the reader refuses a name that is taken, and
what it does to simplify an expression drops parts or moves them, but copies none.

* `Expr.names` : the names of the groups in an expression;
* `names_choice`, `names_repeated` : the simplifications copy no group;
* `nodup_names_of_read?` : no name stands twice in an expression that was read.
-/

set_option autoImplicit false

namespace UriRouter.Regex

namespace Expr

/-- The names of the groups in an expression, from left to right. -/
def names : Expr → List String
  | .empty => []
  | .chars _ => []
  | .assertion _ => []
  | .concat a b => a.names ++ b.names
  | .alternative a b => a.names ++ b.names
  | .group name e => name.toList ++ e.names
  | .repetition _ _ _ e => e.names

/-- The names of the groups in expressions, from left to right. -/
abbrev namesOf (es : List Expr) : List String := es.flatMap names

/-! ## Sequences -/

theorem namesOf_members (e : Expr) : namesOf e.members = e.names := by
  induction e with
  | concat a b iha ihb =>
    rw [members, namesOf, List.flatMap_append]
    exact congrArg₂ (· ++ ·) iha ihb
  | empty => rfl
  | chars | assertion | alternative | group | repetition => exact List.append_nil _

theorem names_ofMembers (es : List Expr) : (ofMembers es).names = namesOf es := by
  induction es with
  | nil => rfl
  | cons e rest ih =>
    cases rest with
    | nil => exact (List.append_nil _).symm
    | cons d rest =>
      rw [ofMembers, names, ih]
      · rfl
      · simp

theorem names_sequence (es : List Expr) : (sequence es).names = namesOf es := by
  rw [sequence, names_ofMembers, namesOf, List.flatMap_assoc]
  exact List.flatMap_congr fun e _ => namesOf_members e

/-! ## Choices -/

theorem namesOf_branches (e : Expr) : namesOf e.branches = e.names := by
  induction e with
  | alternative a b iha ihb =>
    rw [branches, namesOf, List.flatMap_append]
    exact congrArg₂ (· ++ ·) iha ihb
  | empty => rfl
  | chars | assertion | concat | group | repetition => exact List.append_nil _

theorem names_ofBranches (es : List Expr) : (ofBranches es).names = namesOf es := by
  induction es with
  | nil => rfl
  | cons e rest ih =>
    cases rest with
    | nil => exact (List.append_nil _).symm
    | cons d rest =>
      rw [ofBranches, names, ih]
      · rfl
      · simp

theorem namesOf_of_setOfBranches? {es : List Expr} : ∀ {set : CharSet},
    setOfBranches? es = some set → namesOf es = [] := by
  induction es with
  | nil => intros; rfl
  | cons e rest ih =>
    intro set h
    cases e with
    | chars s =>
      obtain ⟨x, hx, -⟩ := Option.map_eq_some_iff.1 h
      exact ih hx
    | _ => cases h

theorem names_choiceOfBranches (es : List Expr) : (choiceOfBranches es).names = namesOf es := by
  unfold choiceOfBranches
  split
  · exact (List.append_nil _).symm
  · split
    · rename_i set hs
      rw [namesOf_of_setOfBranches? hs]
      rfl
    · exact names_ofBranches es

theorem names_of_hasGroup {e : Expr} (h : e.hasGroup = false) : e.names = [] := by
  induction e with
  | empty | chars | assertion => rfl
  | concat a b iha ihb | alternative a b iha ihb =>
    simp only [hasGroup, Bool.or_eq_false_iff] at h
    rw [names, iha h.1, ihb h.2, List.append_nil]
  | group => cases h
  | repetition min max greedy e ih => exact ih h

theorem namesOf_of_mem_commonStart {ps qs : List (List Expr)} :
    ∀ p ∈ commonStart ps qs, namesOf p = [] := by
  induction ps generalizing qs with
  | nil =>
    intro p hp
    cases hp
  | cons p' ps ih =>
    intro p hp
    cases qs with
    | nil => cases hp
    | cons q qs =>
      rw [commonStart] at hp
      split at hp
      · rename_i hc
        rcases List.mem_cons.1 hp with rfl | hp
        · simp only [Bool.and_eq_true, Bool.not_eq_true', List.any_eq_false] at hc
          rw [namesOf, List.flatMap_eq_nil_iff]
          exact fun e he => names_of_hasGroup (by simpa using hc.2 e he)
        · exact ih p hp
      · cases hp

/-- What two or more branches begin with in common has no groups. -/
theorem namesOf_commonStartOfAll {pss : List (List (List Expr))} (h : 2 ≤ pss.length) :
    namesOf (commonStartOfAll pss).flatten = [] := by
  have hall : ∀ p ∈ commonStartOfAll pss, namesOf p = [] := by
    match pss, h with
    | ps :: qs :: rest, _ =>
      unfold commonStartOfAll
      split
      · intro p hp
        cases hp
      · exact namesOf_of_mem_commonStart
  rw [namesOf, List.flatMap_eq_nil_iff]
  intro e he
  obtain ⟨p, hp, hep⟩ := List.mem_flatten.1 he
  exact (List.flatMap_eq_nil_iff.1 (hall p hp)) e hep

/-- A choice has no more groups than the expressions it is made of. -/
theorem names_choice (es : List Expr) : (choice es).names.Sublist (namesOf es) := by
  have hb : namesOf (es.flatMap branches) = namesOf es := by
    rw [namesOf, List.flatMap_assoc]
    exact List.flatMap_congr fun e _ => namesOf_branches e
  unfold choice
  simp only
  split
  · rw [names_choiceOfBranches, hb]
  · rename_i hlen
    simp only [Bool.or_eq_true, decide_eq_true_eq, not_or] at hlen
    split
    · rw [names_choiceOfBranches, hb]
    · have hstart : namesOf (commonStartOfAll
          ((es.flatMap branches).map fun e => pieces e.members)).flatten = [] :=
        namesOf_commonStartOfAll (by rw [List.length_map]; omega)
      generalize (commonStartOfAll
        ((es.flatMap branches).map fun e => pieces e.members)).flatten = start at hstart
      -- of each branch only a beginning is dropped
      have hdrop : ∀ e : Expr, (ofMembers (e.members.drop start.length)).names.Sublist e.names := by
        intro e
        rw [names_ofMembers, ← namesOf_members e]
        exact (List.drop_sublist _ _).flatMap names
      rw [names_sequence, namesOf, List.flatMap_append, ← namesOf, hstart, List.nil_append,
        List.flatMap_singleton, names_choiceOfBranches, namesOf, List.flatMap_assoc,
        List.flatMap_map, ← hb]
      refine List.Sublist.flatMap_right _ fun e _ => ?_
      rw [← namesOf, namesOf_branches]
      exact hdrop e

/-- A repetition has no more groups than what it repeats. -/
theorem names_repeated (min : Nat) (max : Option Nat) (greedy : Bool) (e : Expr) :
    (repeated min max greedy e).names.Sublist e.names := by
  unfold repeated
  split
  rename_i min' max' _
  by_cases h₀ : max' = some 0
  · rw [if_pos h₀]
    exact List.nil_sublist _
  · rw [if_neg h₀]
    by_cases h₁ : (min' = 1 && max' = some 1) = true
    · rw [if_pos h₁]
    · rw [if_neg h₁]
      exact List.Sublist.refl _

end Expr

/-! ## The reader -/

/-- The name that a group notes under. -/
def GroupKind.names : GroupKind → List String
  | .plain => []
  | .noting name => name.toList

theorem GroupKind.names_wrap (kind : GroupKind) (e : Expr) :
    (kind.wrap e).names = kind.names ++ e.names := by
  cases kind <;> rfl

/-- The names of the groups in parts. -/
def Part.namesOf (parts : List Part) : List String := Expr.namesOf (parts.map (·.expr))

theorem Part.namesOf_cons (p : Part) (parts : List Part) :
    namesOf (p :: parts) = p.expr.names ++ namesOf parts := by
  simp [namesOf]

theorem Part.namesOf_reverse (parts : List Part) :
    (namesOf parts.reverse).Perm (namesOf parts) := by
  rw [namesOf, namesOf, List.map_reverse]
  exact (List.reverse_perm _).flatMap_right _

theorem Part.names_sequence (parts : List Part) : (sequence parts).expr.names = namesOf parts :=
  Expr.names_sequence _

/-- The names of a group that is open, and of the groups beside it. -/
def OpenGroup.names (group : OpenGroup) : List String :=
  group.kind.names ++ (Part.namesOf group.items ++ Part.namesOf group.branches)

namespace ReaderState

variable {st st₁ : ReaderState} {sh : Shorthands}

/-- The names in what has been read and not been dropped. -/
def held (st : ReaderState) : List String :=
  Part.namesOf st.items ++ Part.namesOf st.branches ++ st.outer.flatMap OpenGroup.names

/-- No name was given twice, and none stands twice in what is held. -/
structure NamedOnce (st : ReaderState) : Prop where
  nodup : st.names.Nodup
  held : st.held.Subperm st.names

/-- A turn of the reader gives no name twice: it holds no more than before, or one new name. -/
def Gives (st st₁ : ReaderState) : Prop :=
  (st₁.names = st.names ∧ st₁.held.Subperm st.held) ∨
    ∃ name, name ∉ st.names ∧ st₁.names = name :: st.names ∧ st₁.held.Perm (name :: st.held)

theorem NamedOnce.of_gives (h : NamedOnce st) (hg : Gives st st₁) : NamedOnce st₁ := by
  rcases hg with ⟨hn, hh⟩ | ⟨name, hnot, hn, hh⟩
  · exact ⟨hn ▸ h.nodup, hn ▸ hh.trans h.held⟩
  · refine ⟨hn ▸ List.nodup_cons.2 ⟨hnot, h.nodup⟩, ?_⟩
    rw [hn]
    exact hh.subperm.trans ((List.subperm_cons name).2 h.held)

theorem gives_push {p : Part} (hp : p.expr.names = []) : Gives st (st.push p) := by
  refine .inl ⟨rfl, ?_⟩
  simp only [held, push, Part.namesOf_cons, hp, List.nil_append]
  exact List.Subperm.refl _

theorem gives_pushAtom (a : Atom) : Gives st (st.pushAtom a) := by
  cases a <;> exact gives_push rfl

/-- The group that is open holds what its branches hold. -/
theorem names_content (st : ReaderState) :
    st.content.expr.names.Subperm (Part.namesOf st.items ++ Part.namesOf st.branches) := by
  have h : st.content.expr.names.Sublist
      (Part.namesOf (.sequence st.items.reverse :: st.branches).reverse) := Expr.names_choice _
  refine h.subperm.trans ((Part.namesOf_reverse _).subperm.trans ?_)
  rw [Part.namesOf_cons, Part.names_sequence]
  exact ((Part.namesOf_reverse _).append_right _).subperm

theorem gives_nextBranch (st : ReaderState) : Gives st st.nextBranch := by
  refine .inl ⟨rfl, ?_⟩
  simp only [held, nextBranch, Part.namesOf_cons, Part.names_sequence]
  exact (((Part.namesOf_reverse _).append_right _).append_right _).subperm

theorem held_openGroup (st : ReaderState) (kind : GroupKind) (flags : Flags) :
    (st.openGroup kind flags).held = kind.names ++ st.held := by
  simp [held, openGroup, OpenGroup.names, Part.namesOf]

theorem gives_openGroup {kind : GroupKind} (hk : kind.names = []) (flags : Flags) :
    Gives st (st.openGroup kind flags) := by
  refine .inl ⟨rfl, ?_⟩
  rw [held_openGroup, hk]
  exact List.Subperm.refl _

theorem gives_closeGroup? (h : st.closeGroup? = some st₁) : Gives st st₁ := by
  unfold closeGroup? at h
  split at h
  · cases h
  · rename_i group outer hout
    cases h
    refine .inl ⟨rfl, ?_⟩
    have hc : st.content.expr.names.Subperm (Part.namesOf st.items ++ Part.namesOf st.branches) :=
      names_content st
    -- the name of the group moves before its content
    have hg : (group.kind.names ++ st.content.expr.names).Subperm
        (Part.namesOf st.items ++ Part.namesOf st.branches ++ group.kind.names) :=
      ((List.subperm_append_left _).2 hc).trans List.perm_append_comm.subperm
    simp only [held, hout, Part.namesOf_cons, GroupKind.names_wrap, List.flatMap_cons,
      OpenGroup.names]
    have hrest := (List.subperm_append_right (Part.namesOf group.items ++
      (Part.namesOf group.branches ++ outer.flatMap OpenGroup.names))).2 hg
    simpa only [List.append_assoc] using hrest

theorem gives_repeatLast? {min : Nat} {max : Option Nat} {greedy : Bool}
    (h : st.repeatLast? min max greedy = some st₁) : Gives st st₁ := by
  unfold repeatLast? at h
  split at h
  · cases h
  · rename_i p items hi
    split at h
    · cases h
      refine .inl ⟨rfl, ?_⟩
      simp only [held, hi, Part.namesOf_cons, List.append_assoc]
      exact (List.subperm_append_right _).2 (Expr.names_repeated _ _ _ _).subperm
    · cases h

theorem gives_stepRepeat {min : Nat} {max : Option Nat} {s t : List Char}
    (h : st.stepRepeat min max s = some (st₁, t)) : Gives st st₁ := by
  unfold stepRepeat at h
  split at h <;>
  · obtain ⟨st₂, hr, he⟩ := Option.map_eq_some_iff.1 h
    cases he
    exact gives_repeatLast? hr

theorem gives_openNamed? {s t : List Char} (h : st.openNamed? s = some (st₁, t)) :
    Gives st st₁ := by
  unfold openNamed? at h
  split at h
  · cases h
  · rename_i name rest _
    split at h
    · cases h
    · rename_i hn
      simp only [Bool.or_eq_true, List.contains_iff_mem, not_or] at hn
      cases h
      refine .inr ⟨_, hn.2, rfl, ?_⟩
      exact .of_eq (held_openGroup st (.noting (some (String.ofList name))) st.flags)

/-- Flags that are set leave something empty that cannot be repeated. -/
theorem gives_flags (st : ReaderState) (flags : Flags) :
    Gives st { st with flags := flags, items := ⟨.empty, 0, false⟩ :: st.items } := by
  refine .inl ⟨rfl, ?_⟩
  simp only [held, Part.namesOf_cons, Expr.names, List.nil_append]
  exact List.Subperm.refl _

theorem gives_stepOpen {s t : List Char} (h : st.stepOpen s = some (st₁, t)) : Gives st st₁ := by
  unfold stepOpen at h
  split at h
  · exact gives_openNamed? h
  · exact gives_openNamed? h
  · split at h
    · cases h
    · split at h
      · cases h
      · cases h
        exact gives_flags st _
    · cases h
      exact gives_openGroup rfl _
  · cases h
    exact gives_openGroup rfl _

theorem namedOnce_empty : NamedOnce {} := ⟨List.nodup_nil, List.Subperm.refl _⟩

/-- The part that has been read holds no names but those that were given. -/
theorem NamedOnce.content (h : NamedOnce st) : st.content.expr.names.Subperm st.names :=
  (names_content st).trans ((List.sublist_append_left _ _).subperm.trans h.held)

variable [PropertyTable]

theorem gives_step {c : Char} {s t : List Char} (h : st.step sh c s = some (st₁, t)) :
    Gives st st₁ := by
  unfold step at h
  split at h
  · exact gives_stepOpen h
  · obtain ⟨st₂, hc, he⟩ := Option.map_eq_some_iff.1 h
    cases he
    exact gives_closeGroup? hc
  · cases h
    exact gives_nextBranch st
  · obtain ⟨x, -, he⟩ := Option.map_eq_some_iff.1 h
    cases he
    exact gives_push rfl
  · exact gives_stepRepeat h
  · exact gives_stepRepeat h
  · exact gives_stepRepeat h
  · split at h
    · exact gives_stepRepeat h
    · cases h
  · obtain ⟨x, -, he⟩ := Option.map_eq_some_iff.1 h
    cases he
    exact gives_pushAtom _
  · cases h
    exact gives_push rfl
  · cases h
    exact gives_pushAtom _
  · cases h
    exact gives_pushAtom _
  · cases h
    exact gives_pushAtom _

/-- However far the text is read, no name is given twice. -/
theorem NamedOnce.of_readFrom {n : Nat} {s : List Char} {final : ReaderState}
    (h : NamedOnce st) (hr : readFrom sh n st s = some final) : NamedOnce final := by
  induction n generalizing st s with
  | zero =>
    rcases readFrom_cases hr with ⟨-, rfl⟩ | ⟨m, st₁, s₁, hm, -⟩
    · exact h
    · cases hm
  | succ n ih =>
    rcases readFrom_cases hr with ⟨-, rfl⟩ | ⟨m, st₁, s₁, hm, ha, hr⟩
    · exact h
    · obtain rfl : n = m := by omega
      unfold advance at ha
      split at ha
      · cases ha
      · exact ih (h.of_gives (gives_step ha)) hr

end ReaderState

/-- **No name stands twice in an expression that was read.** -/
theorem nodup_names_of_read? [PropertyTable] {s : List Char} {e : Expr} (h : read? s = some e) :
    e.names.Nodup := by
  unfold read? readWith? at h
  split at h
  · cases h
  · rename_i part hp
    split at h
    · cases h
      obtain ⟨final, hr, hfin⟩ := Option.bind_eq_some_iff.1 hp
      have hn : ReaderState.NamedOnce final := ReaderState.namedOnce_empty.of_readFrom hr
      unfold ReaderState.finish? at hfin
      split at hfin
      · cases hfin
        obtain ⟨l, hperm, hl⟩ := hn.content
        exact hperm.nodup_iff.1 (hl.nodup hn.nodup)
      · cases hfin
    · cases h

end UriRouter.Regex
