import Mathlib.Data.List.Induction
import UriRouter.Proofs.Derive.Chain

/-!
# Optional parameters at the end of a signature

Placeholders are derived from left to right, and each optional parameter opens a section that is
closed only at the end. The number of sections that are open is the number of optional parameters so
far; a required parameter that comes where it is not zero is refused.

* `suffixFrom_append` : what has been derived, and how many sections are open, after some parameters;
* `IsFirstMisplaced` : the parameter that is refused;
* `nestingsOf_chain` : in how many sections each placeholder lies;
* `derivesSuffix` : what is derived from a signature, or why nothing is.
-/

set_option autoImplicit false

namespace UriRouter

open UriRouter.Pattern

/-! ## Parameters in their order -/

/-- The placeholder of a parameter, with the section that it opens if it is optional. -/
def Parameter.opened (p : Parameter) : List Char :=
  if p.isOptional then '[' :: p.piece else p.piece

namespace Signature

/-- The placeholders of the parameters, one after the other, and at the end a `]` for each that is
optional. -/
def suffixText (sig : Signature) : List Char :=
  sig.flatMap Parameter.opened ++ List.replicate (sig.countP (·.isOptional)) ']'

/-- How many parameters are optional up to a place, the one at the place included. -/
def optionalsTo (sig : Signature) (i : Nat) : Nat := (sig.take (i + 1)).countP (·.isOptional)

/-- A required parameter that comes after an optional one, and before which there is no other. -/
def IsFirstMisplaced (sig : Signature) (q : Parameter) : Prop :=
  ∃ before after, sig = before ++ q :: after ∧ q.isOptional = false ∧
    (∃ p ∈ before, p.isOptional = true) ∧ before.RequiredFirst

theorem IsFirstMisplaced.not_requiredFirst {sig : Signature} {q : Parameter}
    (h : sig.IsFirstMisplaced q) : ¬ sig.RequiredFirst := by
  obtain ⟨before, after, rfl, hq, ⟨p, hp, hopt⟩, -⟩ := h
  intro hf
  have hpq := (List.pairwise_append.1 hf).2.2 p hp q List.mem_cons_self hopt
  rw [hq] at hpq
  cases hpq

/-- Either no parameter is misplaced, or one is the first. -/
theorem requiredFirst_or_isFirstMisplaced (sig : Signature) :
    sig.RequiredFirst ∨ ∃ q, sig.IsFirstMisplaced q := by
  induction sig using List.reverseRecOn with
  | nil => exact .inl .nil
  | append_singleton sig q ih =>
    rcases ih with hf | ⟨p, before, after, rfl, hp⟩
    · by_cases hmis : q.isOptional = false ∧ ∃ p ∈ sig, p.isOptional = true
      · exact .inr ⟨q, sig, [], rfl, hmis.1, hmis.2, hf⟩
      · refine .inl (List.pairwise_append.2 ⟨hf, List.pairwise_singleton _ _, ?_⟩)
        intro p hp r hr hopt
        obtain rfl := List.mem_singleton.1 hr
        by_contra hreq
        exact hmis ⟨Bool.eq_false_iff.2 hreq, p, hp, hopt⟩
    · exact .inr ⟨p, before, after ++ [q], by simp, hp⟩

/-- Where no parameter is misplaced, a parameter has an optional one before it, or is one, exactly if
it and all after it are optional. -/
theorem RequiredFirst.optionalsTo_pos_iff {sig : Signature} (h : sig.RequiredFirst) {i : Nat}
    (hi : i < sig.length) :
    0 < sig.optionalsTo i ↔ ∀ q ∈ sig.drop i, q.isOptional = true := by
  have hdrop : sig.drop i = sig[i] :: sig.drop (i + 1) := List.drop_eq_getElem_cons hi
  have htake : sig.take (i + 1) = sig.take i ++ [sig[i]] := by
    rw [List.take_add_one, List.getElem?_eq_getElem hi]
    rfl
  have hsplit : RequiredFirst (sig.take i ++ sig.drop i) := by rwa [List.take_append_drop]
  obtain ⟨-, hlast, hacross⟩ := List.pairwise_append.1 hsplit
  rw [optionalsTo, htake, List.countP_pos_iff]
  constructor
  · rintro ⟨p, hp, hopt⟩ q hq
    rcases List.mem_append.1 hp with hp | hp
    · exact hacross p hp q hq hopt
    · obtain rfl := List.mem_singleton.1 hp
      rw [hdrop] at hq hlast
      rcases List.mem_cons.1 hq with rfl | hq
      · exact hopt
      · exact (List.pairwise_cons.1 hlast).1 q hq hopt
  · intro hall
    refine ⟨sig[i], List.mem_append_right _ List.mem_cons_self, hall _ ?_⟩
    rw [hdrop]
    exact List.mem_cons_self

end Signature

/-! ## From left to right -/

/-- Parameters none of which is misplaced are derived one after the other. The number of sections
that are open after them is the number of those that are optional. -/
theorem suffixFrom_append {operation : String} {before : Signature} (hf : before.RequiredFirst)
    {depth : Nat} (hd : depth ≠ 0 → ∀ p ∈ before, p.isOptional = true) (rest : Signature) :
    suffixFrom operation depth (before ++ rest) =
      (before.flatMap Parameter.opened ++ ·) <$>
        suffixFrom operation (depth + before.countP (·.isOptional)) rest := by
  induction before generalizing depth with
  | nil => exact (id_map _).symm
  | cons p before ih =>
    obtain ⟨hafter, hbefore⟩ := List.pairwise_cons.1 hf
    rw [List.cons_append, suffixFrom]
    cases hp : p.isOptional with
    | true =>
      have hopen : p.opened = '[' :: p.piece := if_pos hp
      rw [if_pos rfl, ih hbefore fun _ q hq => hafter q hq hp, Functor.map_map,
        List.countP_cons_of_pos hp, List.flatMap_cons, hopen, Nat.add_right_comm, Nat.add_assoc]
      simp
    | false =>
      -- where a section is open, `hd` has this parameter optional
      have hzero : depth = 0 := by
        by_contra hne
        rw [hd hne p List.mem_cons_self] at hp
        cases hp
      have hopen : p.opened = p.piece := if_neg (by simp [hp])
      rw [if_neg (by simp), if_pos hzero, ih hbefore fun hne => absurd hzero hne, Functor.map_map,
        List.countP_cons_of_neg (by simp [hp]), List.flatMap_cons, hopen]
      simp

section

variable {op : Operation}

theorem deriveSuffix_of_requiredFirst (h : op.signature.RequiredFirst) :
    deriveSuffix op = .ok (String.ofList op.signature.suffixText) := by
  have happend : suffixFrom op.name 0 (op.signature ++ []) = _ :=
    suffixFrom_append h (fun hne => absurd rfl hne) []
  rw [List.append_nil, Nat.zero_add, suffixFrom] at happend
  rw [deriveSuffix, happend]
  rfl

theorem deriveSuffix_of_isFirstMisplaced {q : Parameter} (h : op.signature.IsFirstMisplaced q) :
    deriveSuffix op = .error (.requiredAfterOptional op.name q.name) := by
  obtain ⟨before, after, hsig, hq, hsome, hf⟩ := h
  have hopen : 0 + before.countP (·.isOptional) ≠ 0 := by
    rw [Nat.zero_add]
    exact Nat.pos_iff_ne_zero.1 (List.countP_pos_iff.2 hsome)
  rw [deriveSuffix, hsig, suffixFrom_append hf fun hne => absurd rfl hne, suffixFrom,
    if_neg (by simp [hq]), if_neg hopen]
  rfl

theorem deriveSuffix_eq_ok_iff {s : String} :
    deriveSuffix op = .ok s ↔ op.signature.RequiredFirst ∧ s.toList = op.signature.suffixText := by
  rcases op.signature.requiredFirst_or_isFirstMisplaced with hf | ⟨q, hq⟩
  · rw [deriveSuffix_of_requiredFirst hf]
    constructor
    · intro h
      cases h
      exact ⟨hf, by rw [String.toList_ofList]⟩
    · rintro ⟨-, hs⟩
      rw [← hs, String.ofList_toList]
  · rw [deriveSuffix_of_isFirstMisplaced hq]
    refine iff_of_false (fun h => nomatch h) ?_
    rintro ⟨hf, -⟩
    exact hq.not_requiredFirst hf

/-- A default makes a parameter as optional as one that may have no value. -/
example : (deriveSuffix ⟨"get_user", [⟨"id", .required, some "\\d+"⟩, ⟨"name", .value "", none⟩,
    ⟨"extra", .absent, none⟩]⟩).toOption =
      some "/\x7bid:\\d+\x7d[/\x7bname\x7d[/\x7bextra\x7d]]" := by
  decide +kernel

theorem deriveSuffix_eq_error_iff {e : UsageError} :
    deriveSuffix op = .error e ↔
      ∃ q, op.signature.IsFirstMisplaced q ∧ e = .requiredAfterOptional op.name q.name := by
  constructor
  · intro h
    rcases op.signature.requiredFirst_or_isFirstMisplaced with hf | ⟨q, hq⟩
    · rw [deriveSuffix_of_requiredFirst hf] at h
      cases h
    · rw [deriveSuffix_of_isFirstMisplaced hq] at h
      exact ⟨q, hq, (Except.error.inj h).symm⟩
  · rintro ⟨q, hq, rfl⟩
    exact deriveSuffix_of_isFirstMisplaced hq

end

/-! ## Sections inside sections -/

namespace Pattern

mutual

/-- The placeholders of a part that lies inside `depth` sections, each with the number of sections
that it lies in. -/
def Item.nestings (depth : Nat) : Item → List (String × Option String × Nat)
  | .literal _ => []
  | .placeholder name constraint => [(name, constraint, depth)]
  | .optional items => nestingsOf (depth + 1) items

/-- The same for a sequence of parts, from left to right. -/
def nestingsOf (depth : Nat) : List Item → List (String × Option String × Nat)
  | [] => []
  | item :: rest => item.nestings depth ++ nestingsOf depth rest

end

end Pattern

namespace Signature

/-- An optional parameter puts its placeholder, and all that follow, one section deeper. -/
theorem nestingsOf_chain_cons (depth : Nat) (p : Parameter) (rest : Signature) :
    nestingsOf depth (chain (p :: rest)) =
      (p.name, p.constraint, depth + if p.isOptional then 1 else 0) ::
        nestingsOf (depth + if p.isOptional then 1 else 0) (chain rest) := by
  rw [chain]
  split
  · rw [nestingsOf, Item.nestings, nestingsOf, List.append_nil]
    rfl
  · rfl

/-- A placeholder lies in a section for each parameter up to its own that is optional. -/
theorem nestingsOf_chain (depth : Nat) (sig : Signature) :
    nestingsOf depth sig.chain =
      sig.mapIdx fun i p => (p.name, p.constraint, depth + sig.optionalsTo i) := by
  induction sig generalizing depth with
  | nil => rfl
  | cons p rest ih =>
    have hfirst : optionalsTo (p :: rest) 0 = if p.isOptional then 1 else 0 := by
      rw [optionalsTo, List.take_succ_cons, List.countP_cons]
      simp
    have hlater : ∀ i, optionalsTo (p :: rest) (i + 1) =
        optionalsTo rest i + if p.isOptional then 1 else 0 := fun i => by
      rw [optionalsTo, List.take_succ_cons, List.countP_cons]
      rfl
    rw [nestingsOf_chain_cons, ih, List.mapIdx_cons, hfirst]
    congr 2
    funext i q
    rw [hlater, Nat.add_assoc, Nat.add_comm (optionalsTo rest i)]

end Signature

/-! ## What is derived -/

/-- What is derived from the signature of an operation. -/
structure DerivesSuffix (op : Operation) : Prop where
  /-- Nothing is derived exactly if a required parameter comes after an optional one. -/
  fails_iff : (∃ e, deriveSuffix op = .error e) ↔ ¬ op.signature.RequiredFirst
  /-- The error names the operation and the first such parameter. -/
  eq_error_iff : ∀ e, deriveSuffix op = .error e ↔
    ∃ q, op.signature.IsFirstMisplaced q ∧ e = .requiredAfterOptional op.name q.name
  /-- Otherwise the placeholders are derived in their order, those of the optional parameters after a
  `[` each, and as many signs `]` follow. -/
  eq_ok_iff : ∀ s, deriveSuffix op = .ok s ↔
    op.signature.RequiredFirst ∧ s.toList =
      op.signature.flatMap (fun p => if p.isOptional then '[' :: p.piece else p.piece) ++
        List.replicate (op.signature.countP (·.isOptional)) ']'
  /-- This is the text of sections inside each other, in which a placeholder lies as deep as there
  are optional parameters up to its own. -/
  nestings : ∀ s, deriveSuffix op = .ok s → s.toList = renderAll op.signature.chain ∧
    nestingsOf 0 op.signature.chain =
      op.signature.mapIdx fun i p => (p.name, p.constraint, op.signature.optionalsTo i)
  /-- So it lies in a section exactly if its parameter and all after it are optional. -/
  inside_iff : ∀ s, deriveSuffix op = .ok s → ∀ i < op.signature.length,
    (0 < op.signature.optionalsTo i ↔ ∀ q ∈ op.signature.drop i, q.isOptional = true)

/-- **Optional parameters have to come last**, and then they nest. -/
theorem derivesSuffix (op : Operation) : DerivesSuffix op where
  fails_iff := by
    constructor
    · rintro ⟨e, he⟩
      obtain ⟨q, hq, -⟩ := deriveSuffix_eq_error_iff.1 he
      exact hq.not_requiredFirst
    · intro hf
      obtain hrequired | ⟨q, hq⟩ := op.signature.requiredFirst_or_isFirstMisplaced
      · exact absurd hrequired hf
      · exact ⟨_, deriveSuffix_of_isFirstMisplaced hq⟩
  eq_error_iff _ := deriveSuffix_eq_error_iff
  eq_ok_iff _ := deriveSuffix_eq_ok_iff
  nestings s h := by
    refine ⟨(deriveSuffix_eq_ok h).1, ?_⟩
    have hchain := Signature.nestingsOf_chain 0 op.signature
    simp only [Nat.zero_add] at hchain
    exact hchain
  inside_iff s h i hi := (deriveSuffix_eq_ok_iff.1 h).1.optionalsTo_pos_iff hi

end UriRouter
