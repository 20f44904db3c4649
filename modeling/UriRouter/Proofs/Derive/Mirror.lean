import UriRouter.Proofs.Build.RootOperations
import UriRouter.Proofs.Pattern.Grammar

/-!
# Signatures and the patterns derived from them

The constraints of a signature are written into the derived pattern as they are, and reading the
pattern looks for the brace that closes each placeholder. It finds the braces that were written
exactly where the braces inside the constraints balance.

* `Signature.placeholders` : the placeholders that a signature declares, with their constraints;
* `Pattern.Mirrors` : a pattern has the placeholders that a signature declares;
* `bodiesIn_renderAll_append`, `bodiesIn_chain_append` : where the placeholders of a tree and those
  of a signature stand in a text;
* `Pattern.mirrors_iff` : when a derived pattern has the placeholders of its signature.
-/

set_option autoImplicit false

namespace UriRouter

open UriRouter.Text UriRouter.Pattern

/-! ## What a signature declares -/

/-- The names and constraints that a signature declares. -/
def Signature.placeholders (sig : Signature) : List (String × Option String) :=
  sig.map fun q => (q.name, q.constraint)

namespace Pattern

/-- A pattern has the parameters of a signature, in their order, and its text is read to
placeholders with their names and constraints, and to no others. -/
structure Mirrors [Regex.PropertyTable] (p : Pattern) (sig : Signature) : Prop where
  parameters : p.parameters = sig.map (·.name)
  placeholders : ∃ items, readItems (Path.normalizePattern p.raw).toList = .ok items ∧
    placeholdersOf items = sig.placeholders

/-! ## Placeholders and what stands between their braces -/

/-- The name and the constraint that a body gives a placeholder. -/
def splitBody (body : List Char) : String × Option String :=
  (String.ofList (body.takeWhile (· != ':')), (constraintOf? body).map String.ofList)

/-- A body is taken apart into what it was written from: a valid name has no `:` in it. -/
theorem splitBody_bodyOf {name : String} (hv : isValidName name.toList = true)
    (constraint : Option String) : splitBody (bodyOf name constraint) = (name, constraint) := by
  obtain ⟨htake, hdrop⟩ := takeWhile_bodyOf (all_of_isValidName hv) constraint
  rw [splitBody, constraintOf?, htake, hdrop, String.ofList_toList]
  cases constraint with
  | none => rfl
  | some c => simp

theorem map_splitBody {qs : List (String × Option String)}
    (hv : ∀ q ∈ qs, isValidName q.1.toList = true) :
    (qs.map fun q => bodyOf q.1 q.2).map splitBody = qs := by
  rw [List.map_map]
  exact (List.map_congr_left fun q hq => splitBody_bodyOf (hv q hq) q.2).trans (List.map_id qs)

/-- A placeholder in whose body braces balance is found as it was written. -/
theorem bodiesIn_placeholder_append {name : String} {constraint : Option String}
    (hb : bracesBalance 0 false (bodyOf name constraint) = true) (tail : List Char) :
    bodiesIn ((Item.placeholder name constraint).render ++ tail) =
      bodyOf name constraint :: bodiesIn tail := by
  rw [render_placeholder, List.cons_append, List.cons_append, List.append_assoc]
  exact bodiesIn_brace (untilBrace_of_bracesBalance tail hb)

theorem ne_brace_of_notMem_delimiters {c : Char} (h : c ∉ delimiters) : c ≠ '\x7b' := by
  rintro rfl
  exact h (by decide)

mutual

theorem bodiesIn_render_append : ∀ (item : Item) (tail : List Char), item.isWellFormed = true →
    bodiesIn (item.render ++ tail) =
      (item.placeholders.map fun q => bodyOf q.1 q.2) ++ bodiesIn tail
  | .literal c, tail, hw => by
    have hc : c ∉ delimiters := by simpa [Item.isWellFormed] using hw
    rw [Item.render]
    exact bodiesIn_cons (ne_brace_of_notMem_delimiters hc) tail
  | .placeholder _ _, tail, hw => bodiesIn_placeholder_append (bracesBalance_bodyOf hw) tail
  | .optional items, tail, hw => by
    rw [Item.isWellFormed, Bool.and_eq_true] at hw
    rw [Item.render, List.cons_append, List.cons_append, List.append_assoc,
      bodiesIn_cons (by decide), bodiesIn_renderAll_append items _ hw.2]
    exact congrArg _ (bodiesIn_cons (by decide) tail)

theorem bodiesIn_renderAll_append : ∀ (items : List Item) (tail : List Char),
    areWellFormed items = true →
    bodiesIn (renderAll items ++ tail) =
      ((placeholdersOf items).map fun q => bodyOf q.1 q.2) ++ bodiesIn tail
  | [], tail, _ => by rw [renderAll_nil]; rfl
  | item :: rest, tail, hw => by
    rw [areWellFormed, Bool.and_eq_true] at hw
    rw [renderAll_cons, List.append_assoc, bodiesIn_render_append item _ hw.1,
      bodiesIn_renderAll_append rest tail hw.2, placeholdersOf, List.map_append, List.append_assoc]

end

/-- What a text is read to is told by the bodies in it. -/
theorem IsTreeOf.placeholders [Regex.PropertyTable] {items : List Item} {s : List Char}
    (h : IsTreeOf items s) :
    placeholdersOf items = (bodiesIn s).map splitBody := by
  have hbodies := bodiesIn_renderAll_append items [] h.wellFormed
  rw [List.append_nil, h.render, bodiesIn, List.append_nil] at hbodies
  rw [hbodies, map_splitBody]
  intro q hq
  have hw := isWellFormed_of_mem_placeholdersOf items h.wellFormed q hq
  rw [Item.isWellFormed, Bool.and_eq_true] at hw
  exact hw.1

end Pattern

/-! ## The placeholders of a signature -/

namespace Signature

/-- The parameters have valid names, and inside their constraints braces balance. -/
structure IsBalanced (sig : Signature) : Prop where
  valid : ∀ q ∈ sig, isValidName q.name.toList = true
  balanced : ∀ q ∈ sig, ∀ c ∈ q.constraint, bracesBalance 0 false c.toList = true

theorem IsBalanced.tail {q : Parameter} {rest : Signature} (h : IsBalanced (q :: rest)) :
    IsBalanced rest where
  valid r hr := h.valid r (List.mem_cons_of_mem _ hr)
  balanced r hr := h.balanced r (List.mem_cons_of_mem _ hr)

theorem IsBalanced.bracesBalance_bodyOf {q : Parameter} {rest : Signature}
    (h : IsBalanced (q :: rest)) : bracesBalance 0 false (bodyOf q.name q.constraint) = true := by
  have hn := all_of_isValidName (h.valid q List.mem_cons_self)
  cases hc : q.constraint with
  | none =>
    rw [bodyOf, ← List.append_nil q.name.toList, bracesBalance_append_of_word hn]
    rfl
  | some c =>
    rw [bodyOf, bracesBalance_append_of_word hn]
    exact h.balanced q List.mem_cons_self c hc

/-- Where braces balance, the placeholders of a chain are found as they were written, be their
constraints expressions or not. -/
theorem IsBalanced.bodiesIn_chain_append {sig : Signature} (h : sig.IsBalanced) (tail : List Char) :
    bodiesIn (renderAll sig.chain ++ tail) =
      (sig.placeholders.map fun q => bodyOf q.1 q.2) ++ bodiesIn tail := by
  induction sig generalizing tail with
  | nil => rw [chain, renderAll_nil]; rfl
  | cons q rest ih =>
    have hlink : ∀ tail, bodiesIn (renderAll (link q (chain rest)) ++ tail) =
        bodyOf q.name q.constraint ::
          ((placeholders rest).map (fun q => bodyOf q.1 q.2) ++ bodiesIn tail) := by
      intro tail
      rw [renderAll_link, Parameter.piece, List.append_assoc, List.cons_append,
        bodiesIn_cons (by decide), bodiesIn_placeholder_append h.bracesBalance_bodyOf,
        ih h.tail tail]
    rw [chain]
    split
    · rw [renderAll_cons, renderAll_nil, List.append_nil, Item.render, List.cons_append,
        List.cons_append, List.append_assoc, bodiesIn_cons (by decide), hlink]
      exact congrArg _ (congrArg _ (bodiesIn_cons (by decide) tail))
    · exact hlink tail

end Signature

/-! ## Derived patterns -/

/-- The text of a derived pattern is literal up to its placeholders. -/
theorem exists_literal_derivePattern {op : Operation} {rest suffix : String}
    (hrest : ∀ d ∈ rest.toList, isAsciiWordChar d = true) (hs : deriveSuffix op = .ok suffix) :
    ∃ base : String, (∀ d ∈ base.toList, d ∉ delimiters) ∧
      Path.normalizePattern (derivePattern (derivePath rest) suffix) = base ++ suffix := by
  by_cases hpath : derivePath rest = ""
  · refine ⟨rootBase op.signature, notMem_delimiters_rootBase _, ?_⟩
    rw [hpath, normalizePattern_derivePattern_root, derivePattern_root hs]
  · have hliteral := notMem_delimiters_derivePath hrest
    refine ⟨Path.normalize (derivePath rest), ?_, ?_⟩
    · obtain ⟨c, path, htext⟩ := toList_derivePath hpath
      rw [Path.normalize_of_toList htext]
      exact hliteral
    · have hempty : ¬ (derivePath rest).isEmpty = true := by
        rwa [String.isEmpty_iff]
      rw [derivePattern, if_neg hempty, Path.normalizePattern_append hpath hliteral]

theorem bodiesIn_literal_append {base : List Char} (h : ∀ d ∈ base, d ∉ delimiters)
    (tail : List Char) : bodiesIn (base ++ tail) = bodiesIn tail := by
  induction base with
  | nil => rfl
  | cons d base ih =>
    obtain ⟨hd, hbase⟩ := List.forall_mem_cons.1 h
    rw [List.cons_append, bodiesIn_cons (ne_brace_of_notMem_delimiters hd), ih hbase]

/-- Where braces balance, the bodies in a derived pattern are those of the signature. -/
theorem Signature.IsBalanced.bodiesIn_derivePattern {op : Operation} {rest suffix : String}
    (h : op.signature.IsBalanced) (hrest : ∀ d ∈ rest.toList, isAsciiWordChar d = true)
    (hs : deriveSuffix op = .ok suffix) :
    bodiesIn (Path.normalizePattern (derivePattern (derivePath rest) suffix)).toList =
      op.signature.placeholders.map fun q => bodyOf q.1 q.2 := by
  obtain ⟨base, hbase, hraw⟩ := exists_literal_derivePattern hrest hs
  have hchain := h.bodiesIn_chain_append []
  rw [List.append_nil, bodiesIn, List.append_nil] at hchain
  rw [hraw, String.toList_append, bodiesIn_literal_append hbase, (deriveSuffix_eq_ok hs).1, hchain]

namespace Pattern

/-- **When a derived pattern has the placeholders of its signature.** It is the case exactly if the
braces inside each declared constraint balance. Whether they do is not looked at where the pattern
is derived. -/
theorem mirrors_iff [Regex.PropertyTable] {op : Operation} {rest suffix : String} {p : Pattern}
    (hrest : ∀ d ∈ rest.toList, isAsciiWordChar d = true)
    (hvalid : ∀ q ∈ op.signature, isValidName q.name.toList = true)
    (hs : deriveSuffix op = .ok suffix)
    (hp : compile (derivePattern (derivePath rest) suffix) = .ok p) :
    p.Mirrors op.signature ↔
      ∀ q ∈ op.signature, ∀ c ∈ q.constraint, bracesBalance 0 false c.toList = true := by
  have hraw := raw_of_compile hp
  obtain ⟨items, hread, -, hparams⟩ := compile_eq_ok hp
  have htree := isTreeOf_of_readItems hread
  constructor
  · rintro ⟨-, items', hread', hsame⟩ q hq c hc
    rw [hraw] at hread'
    obtain rfl : items' = items := Except.ok.inj (hread'.symm.trans hread)
    have hmem : (q.name, q.constraint) ∈ placeholdersOf items' := by
      rw [hsame]
      exact List.mem_map_of_mem hq
    -- a placeholder that was read is well formed, so the braces in its constraint balance
    have hw := isWellFormed_of_mem_placeholdersOf items' htree.wellFormed _ hmem
    rw [Option.mem_def.1 hc, Item.isWellFormed, Bool.and_eq_true, Option.all_some,
      isConstraintText, Bool.and_eq_true] at hw
    exact hw.2.2
  · intro hbalanced
    have hsig : op.signature.IsBalanced := ⟨hvalid, hbalanced⟩
    have hdeclared : ∀ q ∈ op.signature.placeholders, isValidName q.1.toList = true :=
      List.forall_mem_map.2 hvalid
    have hsame : placeholdersOf items = op.signature.placeholders := by
      rw [htree.placeholders, hsig.bodiesIn_derivePattern hrest hs, map_splitBody hdeclared]
    refine ⟨?_, items, hraw ▸ hread, hsame⟩
    rw [hparams, ← map_fst_placeholdersOf, hsame, Signature.placeholders, List.map_map]
    rfl

/-- An operation with a brace in each of its constraints: a pair, and one that is escaped. -/
def entryOperation : Operation :=
  ⟨"get_entry", [⟨"year", .required, some "\\d\x7b4\x7d"⟩, ⟨"tag", .absent, some "[\\\x7da-z]+"⟩]⟩

/-- The placeholders of that operation. -/
def entrySuffix : String := "/\x7byear:\\d\x7b4\x7d\x7d[/\x7btag:[\\\x7da-z]+\x7d]"

theorem mirrors_entryOperation :
    deriveSuffix entryOperation = .ok entrySuffix ∧
    ∃ p, compile (derivePattern (derivePath "_entry") entrySuffix) = .ok p ∧
      p.Mirrors entryOperation.signature := by
  have hs : deriveSuffix entryOperation = .ok entrySuffix := by decide +kernel
  have hrest : ∀ d ∈ "_entry".toList, isAsciiWordChar d = true :=
    List.all_eq_true.1 (by decide +kernel)
  have hok : (compile (derivePattern (derivePath "_entry") entrySuffix)).isOk = true := by
    decide +kernel
  refine ⟨hs, ?_⟩
  cases hp : compile (derivePattern (derivePath "_entry") entrySuffix) with
  | error e =>
    rw [hp] at hok
    cases hok
  | ok p =>
    exact ⟨p, rfl, (mirrors_iff hrest (by decide) hs hp).2 (by decide)⟩

/-- An operation with one parameter, whose constraint is an expression with a brace that nothing
opens. -/
def splitOperation : Operation := ⟨"get_x", [⟨"a", .required, some "b\x7d\\\x7bc"⟩]⟩

/-- The placeholders of that operation. -/
def splitSuffix : String := "/\x7ba:b\x7d\\\x7bc\x7d"

/-- The constraint is taken for two placeholders: it ends where the first brace in it stands, and
what is written after that brace becomes a name. -/
theorem not_mirrors_splitOperation :
    (splitOperation.signature.map (·.name)).Nodup ∧
    (∀ q ∈ splitOperation.signature, isValidName q.name.toList = true) ∧
    (∀ q ∈ splitOperation.signature, ∀ c ∈ q.constraint, (Regex.read? c.toList).isSome = true) ∧
    deriveSuffix splitOperation = .ok splitSuffix ∧
    ∃ p, compile (derivePattern (derivePath "_x") splitSuffix) = .ok p ∧
      p.parameters = ["a", "c"] ∧ ¬ p.Mirrors splitOperation.signature := by
  have hparams : (compile (derivePattern (derivePath "_x") splitSuffix)).toOption.map
      (·.parameters) = some ["a", "c"] := by decide +kernel
  refine ⟨by decide, by decide, by decide +kernel, by decide +kernel, ?_⟩
  cases hp : compile (derivePattern (derivePath "_x") splitSuffix) with
  | error e =>
    rw [hp] at hparams
    cases hparams
  | ok p =>
    rw [hp] at hparams
    have hnames : p.parameters = ["a", "c"] := Option.some.inj hparams
    refine ⟨p, rfl, hnames, fun h => ?_⟩
    have hsame := hnames.symm.trans h.parameters
    cases hsame

end Pattern

end UriRouter
