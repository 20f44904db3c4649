import UriRouter.Derive.Suffix
import UriRouter.Proofs.Pattern.DirectReading

/-!
# Chains of placeholders

The placeholders that are derived from a signature form a chain: those of the optional parameters
open one section after the other, each of which holds all that comes after it. A path that goes
through the chain gives values to the first parameters and to no others.

* `Signature.chain`, `suffixFrom_eq_ok` : the parts of the chain, and their text;
* `Signature.find?_readings_chain` : how a path with so many values reads along the chain;
* `Pattern.captures?_chain` : what it binds in a pattern that ends with the chain.
-/

set_option autoImplicit false

namespace UriRouter

open UriRouter.Pattern

/-! ## Signatures and values -/

namespace Signature

/-- No required parameter comes after an optional one. -/
def RequiredFirst (sig : Signature) : Prop :=
  sig.Pairwise fun p q => p.isOptional = true → q.isOptional = true

/-- No parameter is constrained, and the parameters have valid names, each its own. -/
structure IsPlain (sig : Signature) : Prop where
  unconstrained : ∀ p ∈ sig, p.constraint = none
  valid : ∀ p ∈ sig, isValidName p.name.toList = true
  distinct : (sig.map (·.name)).Nodup

/-- Values for the first parameters, at least for those that are required. Each is a piece of a
path. -/
structure Takes (sig : Signature) (values : List String) : Prop where
  enough : sig.countP (fun p => !p.isOptional) ≤ values.length
  notMore : values.length ≤ sig.length
  pieces : ∀ v ∈ values, v ≠ "" ∧ '/' ∉ v.toList

/-- The names of the first parameters with their values. -/
def bind (sig : Signature) (values : List String) : Bindings :=
  List.zipWith (fun p v => (p.name, v)) sig values

theorem IsPlain.tail {p : Parameter} {rest : Signature} (h : IsPlain (p :: rest)) :
    IsPlain rest where
  unconstrained q hq := h.unconstrained q (List.mem_cons_of_mem _ hq)
  valid q hq := h.valid q (List.mem_cons_of_mem _ hq)
  distinct := (List.nodup_cons.1 h.distinct).2

/-- Where an optional parameter comes first, no parameter is required. -/
theorem RequiredFirst.countP_eq_zero {p : Parameter} {rest : Signature}
    (h : RequiredFirst (p :: rest)) (hp : p.isOptional = true) :
    rest.countP (fun q => !q.isOptional) = 0 := by
  rw [List.countP_eq_zero]
  intro q hq
  have hopt := (List.pairwise_cons.1 h).1 q hq hp
  simp [hopt]

/-- The values after the first are for the parameters after the first. -/
theorem Takes.tail {p : Parameter} {rest : Signature} {v : String} {values : List String}
    (h : Takes (p :: rest) (v :: values)) (hf : RequiredFirst (p :: rest)) : Takes rest values := by
  refine ⟨?_, Nat.le_of_succ_le_succ h.notMore, fun w hw => h.pieces w (List.mem_cons_of_mem _ hw)⟩
  cases hp : p.isOptional with
  | true =>
    rw [hf.countP_eq_zero hp]
    exact Nat.zero_le _
  | false =>
    have henough := h.enough
    rw [List.countP_cons_of_pos (by simp [hp])] at henough
    exact Nat.le_of_succ_le_succ henough

/-- Where there is no value, no parameter is required. -/
theorem Takes.isOptional {sig : Signature} (h : sig.Takes []) :
    ∀ p ∈ sig, p.isOptional = true := by
  intro p hp
  have hzero := List.countP_eq_zero.1 (Nat.le_zero.1 h.enough) p hp
  simpa using hzero

/-! ## The chain -/

/-- The placeholder for a parameter, after a `/`, and the parts that follow it. -/
def link (p : Parameter) (rest : List Item) : List Item :=
  .literal '/' :: .placeholder p.name p.constraint :: rest

/-- The parts that the placeholders of a signature form. -/
def chain : Signature → List Item
  | [] => []
  | p :: rest =>
    if p.isOptional then [.optional (link p (chain rest))] else link p (chain rest)

theorem renderAll_link (p : Parameter) (rest : List Item) :
    renderAll (link p rest) = p.piece ++ renderAll rest := by
  rw [link, renderAll_cons, renderAll_cons, Item.render, Parameter.piece]
  rfl

theorem IsPlain.constraintsOf_chain {sig : Signature} (h : sig.IsPlain) :
    constraintsOf sig.chain = [] := by
  induction sig with
  | nil => rfl
  | cons p rest ih =>
    have hlink : constraintsOf (link p (chain rest)) = [] := by
      rw [link, constraintsOf, constraintsOf, Item.constraints, Item.constraints,
        h.unconstrained p List.mem_cons_self, ih h.tail]
      rfl
    rw [chain]
    split
    · rw [constraintsOf, constraintsOf, Item.constraints, hlink]
      rfl
    · exact hlink

theorem IsPlain.areWellFormed_chain {sig : Signature} (h : sig.IsPlain) :
    areWellFormed sig.chain = true := by
  induction sig with
  | nil => rfl
  | cons p rest ih =>
    have hlink : areWellFormed (link p (chain rest)) = true := by
      rw [link, areWellFormed, areWellFormed, Item.isWellFormed, Item.isWellFormed,
        h.unconstrained p List.mem_cons_self, h.valid p List.mem_cons_self, ih h.tail]
      rfl
    rw [chain]
    split
    · rw [areWellFormed, areWellFormed, Item.isWellFormed, hlink]
      rfl
    · exact hlink

end Signature

/-! ## The text of the chain -/

theorem map_eq_ok_iff {ε α β : Type} {f : α → β} {x : Except ε α} {b : β} :
    f <$> x = .ok b ↔ ∃ a, x = .ok a ∧ f a = b := by
  cases x with
  | error e =>
    constructor
    · intro h
      cases h
    · rintro ⟨a, ha, -⟩
      cases ha
  | ok a =>
    constructor
    · intro h
      exact ⟨a, rfl, Except.ok.inj h⟩
    · rintro ⟨a', ha, rfl⟩
      cases ha
      rfl

/-- The two ways in which a parameter's placeholder can be derived. -/
theorem suffixFrom_cons_eq_ok {operation : String} {depth : Nat} {p : Parameter}
    {rest : Signature} {s : List Char} (h : suffixFrom operation depth (p :: rest) = .ok s) :
    (p.isOptional = true ∧
      ∃ t, suffixFrom operation (depth + 1) rest = .ok t ∧ '[' :: p.piece ++ t = s) ∨
    (p.isOptional = false ∧ depth = 0 ∧
      ∃ t, suffixFrom operation 0 rest = .ok t ∧ p.piece ++ t = s) := by
  rw [suffixFrom] at h
  split at h
  · rename_i hp
    exact .inl ⟨hp, map_eq_ok_iff.1 h⟩
  · rename_i hp
    split at h
    · rename_i hd
      subst hd
      exact .inr ⟨Bool.eq_false_iff.2 hp, rfl, map_eq_ok_iff.1 h⟩
    · cases h

/-- The text of derived placeholders is that of the chain, which closes its own sections. -/
theorem suffixFrom_eq_ok {operation : String} {depth : Nat} {sig : Signature} {s : List Char}
    (h : suffixFrom operation depth sig = .ok s) :
    s = renderAll sig.chain ++ List.replicate depth ']' := by
  induction sig generalizing depth s with
  | nil =>
    cases h
    rfl
  | cons p rest ih =>
    rcases suffixFrom_cons_eq_ok h with ⟨hp, t, ht, rfl⟩ | ⟨hp, rfl, t, ht, rfl⟩
    · rw [ih ht, Signature.chain, if_pos hp, renderAll_cons, renderAll_nil, Item.render,
        Signature.renderAll_link]
      simp [List.replicate_succ]
    · rw [ih ht, Signature.chain, if_neg (by simp [hp]), Signature.renderAll_link,
        List.append_assoc]

/-- Placeholders are derived only where the required parameters come first. -/
theorem requiredFirst_of_suffixFrom {operation : String} {depth : Nat} {sig : Signature}
    {s : List Char} (h : suffixFrom operation depth sig = .ok s) :
    sig.RequiredFirst ∧ (depth ≠ 0 → ∀ p ∈ sig, p.isOptional = true) := by
  induction sig generalizing depth s with
  | nil => exact ⟨.nil, fun _ p hp => nomatch hp⟩
  | cons p rest ih =>
    rcases suffixFrom_cons_eq_ok h with ⟨hp, t, ht, -⟩ | ⟨hp, rfl, t, ht, -⟩
    · obtain ⟨hrest, hall⟩ := ih ht
      have hopt := hall (Nat.succ_ne_zero depth)
      refine ⟨List.pairwise_cons.2 ⟨fun q hq _ => hopt q hq, hrest⟩, fun _ q hq => ?_⟩
      rcases List.mem_cons.1 hq with rfl | hq
      · exact hp
      · exact hopt q hq
    · obtain ⟨hrest, -⟩ := ih ht
      refine ⟨List.pairwise_cons.2 ⟨fun q _ ht => ?_, hrest⟩, fun hne => absurd rfl hne⟩
      rw [hp] at ht
      cases ht

theorem deriveSuffix_eq_ok {op : Operation} {s : String} (h : deriveSuffix op = .ok s) :
    s.toList = renderAll op.signature.chain ∧ op.signature.RequiredFirst := by
  obtain ⟨t, ht, rfl⟩ := map_eq_ok_iff.1 h
  rw [String.toList_ofList, suffixFrom_eq_ok ht, List.replicate_zero, List.append_nil]
  exact ⟨rfl, (requiredFirst_of_suffixFrom ht).1⟩

/-! ## Reading along the chain -/

namespace Pattern

/-- The longest run at the beginning of a text comes first among its runs. -/
theorem runs_append_of_all {p : Char → Bool} {v t : List Char} (hv : v ≠ []) (hp : ∀ c ∈ v, p c = true)
    (ht : ∀ c ∈ t.head?, p c = false) : ∃ shorter, runs p (v ++ t) = (v, t) :: shorter := by
  induction v with
  | nil => exact absurd rfl hv
  | cons c v ih =>
    rw [List.cons_append, runs, if_pos (hp c List.mem_cons_self)]
    cases v with
    | nil =>
      have hnone : runs p t = [] := by
        cases t with
        | nil => rfl
        | cons d t => rw [runs, if_neg (by simp [ht d rfl])]
      rw [List.nil_append, hnone]
      exact ⟨[], rfl⟩
    | cons d v =>
      obtain ⟨shorter, hs⟩ := ih (List.cons_ne_nil _ _) fun e he => hp e (List.mem_cons_of_mem _ he)
      rw [hs]
      exact ⟨_, rfl⟩

theorem readingsOf_literal (c : Char) (items : List Item) (s : List Char) :
    readingsOf (.literal c :: items) (c :: s) = readingsOf items s := by
  rw [readingsOf, Item.readings, if_pos rfl]
  simp

theorem readingsOf_literal_of_ne {c : Char} {items : List Item} {s : List Char}
    (h : ∀ d ∈ s.head?, d ≠ c) : readingsOf (.literal c :: items) s = [] := by
  rw [readingsOf]
  cases s with
  | nil => rfl
  | cons d s =>
    rw [Item.readings, if_neg (h d rfl)]
    rfl

/-- Literal parts are read off the beginning of a text. -/
theorem readingsOf_literals_append (base : List Char) (items : List Item) (s : List Char) :
    readingsOf (literals base ++ items) (base ++ s) = readingsOf items s := by
  induction base with
  | nil => rfl
  | cons c base ih =>
    rw [literals, List.map_cons, List.cons_append, List.cons_append, readingsOf_literal]
    exact ih

/-- A section at the end is read first, and only then is it left out. -/
theorem readingsOf_section (items : List Item) (s : List Char) :
    readingsOf [.optional items] s = readingsOf items s ++ [([], s)] := by
  have hnil : ∀ t, readingsOf [] t = [([], t)] := fun t => by rw [readingsOf]
  rw [readingsOf, Item.readings]
  simp [hnil]

end Pattern

/-- The path that consists of values, with a `/` before each. -/
def piecesOf (values : List String) : List Char := values.flatMap fun v => '/' :: v.toList

theorem piecesOf_cons (v : String) (values : List String) :
    piecesOf (v :: values) = '/' :: v.toList ++ piecesOf values := rfl

namespace Signature

theorem head?_piecesOf (values : List String) : ∀ c ∈ (piecesOf values).head?, c = '/' := by
  intro c hc
  cases values with
  | nil => cases hc
  | cons v values => exact (Option.some.inj hc).symm

/-- A placeholder whose value is followed by what the other parts read. -/
theorem find?_readings_placeholder {name : String} {items : List Item} {v : String} {s : List Char}
    {b : Bindings} (hv : v ≠ "" ∧ '/' ∉ v.toList) (hs : ∀ c ∈ s.head?, c = '/')
    (h : (readingsOf items s).find? (·.2.isEmpty) = some (b, [])) :
    (readingsOf (.placeholder name none :: items) (v.toList ++ s)).find? (·.2.isEmpty) =
      some ((name, v) :: b, []) := by
  -- the longest value is tried first, and it ends where the text goes on with `/` or ends
  obtain ⟨shorter, hruns⟩ : ∃ shorter,
      runs (admits none) (v.toList ++ s) = (v.toList, s) :: shorter := by
    refine runs_append_of_all (fun hnil => hv.1 (String.toList_eq_nil_iff.1 hnil)) (fun c hmem => ?_)
      fun c hmem => ?_
    · exact bne_iff_ne.2 fun he => hv.2 (he ▸ hmem)
    · rw [hs c hmem]
      rfl
  rw [readingsOf, Item.readings, hruns, List.map_cons, List.flatMap_cons, List.find?_append,
    List.find?_map]
  show (Option.map _ ((readingsOf items s).find? (·.2.isEmpty))).or _ = _
  rw [h, String.ofList_toList]
  rfl

/-- A link whose value is followed by what the rest of the chain reads. -/
theorem find?_readings_link {p : Parameter} {items : List Item} {v : String} {s : List Char}
    {b : Bindings} (hc : p.constraint = none) (hv : v ≠ "" ∧ '/' ∉ v.toList)
    (hs : ∀ c ∈ s.head?, c = '/')
    (h : (readingsOf items s).find? (·.2.isEmpty) = some (b, [])) :
    (readingsOf (link p items) ('/' :: v.toList ++ s)).find? (·.2.isEmpty) =
      some ((p.name, v) :: b, []) := by
  rw [link, List.cons_append, readingsOf_literal, hc]
  exact find?_readings_placeholder hv hs h

/-- **How values read along the chain.** -/
theorem find?_readings_chain {sig : Signature} {values : List String} (hp : sig.IsPlain)
    (hf : sig.RequiredFirst) (ht : sig.Takes values) :
    (readingsOf sig.chain (piecesOf values)).find? (·.2.isEmpty) =
      some (sig.bind values, []) := by
  induction sig generalizing values with
  | nil =>
    obtain rfl : values = [] := List.length_eq_zero_iff.1 (Nat.le_zero.1 ht.notMore)
    rfl
  | cons p rest ih =>
    cases values with
    | nil =>
      have hopt := ht.isOptional p List.mem_cons_self
      have hlink : readingsOf (link p (chain rest)) (piecesOf []) = [] :=
        readingsOf_literal_of_ne fun d hd => nomatch hd
      rw [chain, if_pos hopt, readingsOf_section, hlink]
      rfl
    | cons v values =>
      have hrest := ih hp.tail (List.pairwise_cons.1 hf).2 (ht.tail hf)
      have hlink := find?_readings_link (hp.unconstrained p List.mem_cons_self)
        (ht.pieces v List.mem_cons_self) (head?_piecesOf values) hrest
      rw [chain, piecesOf_cons]
      split
      · -- a section is read before it is left out, so what reads it comes first
        rw [readingsOf_section, List.find?_append, hlink]
        rfl
      · exact hlink

/-- Where the chain begins with a section, a text that does not begin with `/` is read by leaving
the section out. -/
theorem readingsOf_chain_of_ne {sig : Signature} {s : List Char}
    (hopt : sig.head?.any (·.isOptional) = true) (hs : ∀ c ∈ s.head?, c ≠ '/') :
    readingsOf sig.chain s = [([], s)] := by
  cases sig with
  | nil => cases hopt
  | cons p rest =>
    have hlink : readingsOf (link p (chain rest)) s = [] := readingsOf_literal_of_ne hs
    have hp : p.isOptional = true := hopt
    rw [chain, if_pos hp, readingsOf_section, hlink]
    rfl

end Signature

/-! ## Patterns that end with a chain -/

namespace Pattern

variable {raw base suffix : String} {sig : Signature} {p : Pattern}

theorem areWellFormed_append (xs ys : List Item) :
    areWellFormed (xs ++ ys) = (areWellFormed xs && areWellFormed ys) := by
  induction xs with
  | nil => rfl
  | cons x xs ih => rw [List.cons_append, areWellFormed, areWellFormed, ih, Bool.and_assoc]

theorem constraintsOf_literals_append (s : List Char) (items : List Item) :
    constraintsOf (literals s ++ items) = constraintsOf items := by
  induction s with
  | nil => rfl
  | cons c s ih => exact ih

/-- Literal text is well formed if none of its characters delimits anything. -/
theorem areWellFormed_literals {s : List Char} :
    areWellFormed (literals s) = true ↔ ∀ c ∈ s, c ∉ delimiters := by
  induction s with
  | nil => exact iff_of_true rfl (List.forall_mem_nil _)
  | cons c s ih =>
    rw [literals, List.map_cons, areWellFormed, Item.isWellFormed, Bool.and_eq_true,
      List.forall_mem_cons, ← literals, ih, Bool.not_eq_true', Bool.eq_false_iff, ne_eq,
      List.contains_iff_mem]

theorem renderAll_literals (s : List Char) : renderAll (literals s) = s := by
  induction s with
  | nil => rfl
  | cons c s ih =>
    rw [literals, List.map_cons, renderAll_cons, Item.render]
    exact congrArg _ ih

variable [Regex.PropertyTable]

/-- A pattern that is literal text and a chain is read part by part. -/
theorem captures?_literals_chain (hraw : Path.normalizePattern raw = base ++ suffix)
    (hsuffix : suffix.toList = renderAll sig.chain) (hbase : ∀ c ∈ base.toList, c ∉ delimiters)
    (hsig : sig.IsPlain) (h : compile raw = .ok p) (path : String) :
    p.captures? path = directCaptures? (literals base.toList ++ sig.chain) path := by
  have hs : Path.normalizePattern raw =
      String.ofList (renderAll (literals base.toList ++ sig.chain)) := by
    rw [renderAll_append, renderAll_literals, ← hsuffix, String.ofList_append,
      String.ofList_toList, String.ofList_toList, hraw]
  have hw : areWellFormed (literals base.toList ++ sig.chain) = true := by
    rw [areWellFormed_append, areWellFormed_literals.2 hbase, hsig.areWellFormed_chain]
    rfl
  have hc : constraintsOf (literals base.toList ++ sig.chain) = [] := by
    rw [constraintsOf_literals_append, hsig.constraintsOf_chain]
  exact captures?_of_kind (compile_of_runs hs hw (by simp [hc]) h) path

/-- **A pattern that ends with a chain** binds the values of a path that goes through it. -/
theorem captures?_chain (hraw : Path.normalizePattern raw = base ++ suffix)
    (hsuffix : suffix.toList = renderAll sig.chain) (hbase : ∀ c ∈ base.toList, c ∉ delimiters)
    (hsig : sig.IsPlain) (hfirst : sig.RequiredFirst) (h : compile raw = .ok p)
    {values : List String} (ht : sig.Takes values) :
    p.captures? (base ++ String.ofList (piecesOf values)) = some (sig.bind values) := by
  rw [captures?_literals_chain hraw hsuffix hbase hsig h, directCaptures?, String.toList_append,
    String.toList_ofList, readingsOf_literals_append,
    Signature.find?_readings_chain hsig hfirst ht]
  rfl

/-- A pattern whose chain begins with a section does not match a path that goes on after the
literal text without a `/`. -/
theorem captures?_chain_of_ne (hraw : Path.normalizePattern raw = base ++ suffix)
    (hsuffix : suffix.toList = renderAll sig.chain) (hbase : ∀ c ∈ base.toList, c ∉ delimiters)
    (hsig : sig.IsPlain) (hopt : sig.head?.any (·.isOptional) = true) (h : compile raw = .ok p)
    {s : List Char} (hne : s ≠ []) (hs : ∀ c ∈ s.head?, c ≠ '/') :
    p.captures? (base ++ String.ofList s) = none := by
  rw [captures?_literals_chain hraw hsuffix hbase hsig h, directCaptures?, String.toList_append,
    String.toList_ofList, readingsOf_literals_append, Signature.readingsOf_chain_of_ne hopt hs]
  cases s with
  | nil => exact absurd rfl hne
  | cons c s => rfl

end Pattern

end UriRouter
