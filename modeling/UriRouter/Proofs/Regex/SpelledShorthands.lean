import UriRouter.Proofs.Regex.Shorthands
import UriRouter.Proofs.Regex.Unions

/-!
# Shorthands with their ranges written out

A shorthand for ASCII characters may be written out as its ranges, in a bracket of its own or among
the parts of another. What the brackets hold stays the same; but the letters that are written out
have case relatives, so that no word character may be written out where case is disregarded.

* `unionSet_spelledParts`, `set_spelledBracket` : what the ranges of one shorthand hold;
* `HoldSame` : two brackets that hold the same;
* `BracketRelation.sets` : they do if shorthands are written out in one of them.
-/

set_option autoImplicit false

namespace UriRouter.Regex

/-! ## The ranges of a shorthand -/

theorem eq_of_asciiIf {ignoreCase : Bool} {c : Char} {set : CharSet}
    (hc : c = 'd' ∨ c = 'w') (h : Shorthands.asciiIf ignoreCase c = some set) :
    c = 'd' ∧ set = .asciiDigits ∨ c = 'w' ∧ ignoreCase = false ∧ set = .asciiWord := by
  rcases hc with rfl | rfl
  · rw [Shorthands.asciiIf, if_neg (by simp)] at h
    cases h
    exact .inl ⟨rfl, rfl⟩
  · cases ignoreCase with
    | true => cases h
    | false =>
      cases h
      exact .inr ⟨rfl, rfl, rfl⟩

section

variable {ignoreCase : Bool} {c : Char} {set : CharSet} {text : List Char}

/-- Among the parts of a bracket the ranges hold what the shorthand stands for. -/
theorem unionSet_spelledParts (h : Shorthands.asciiIf ignoreCase c = some set)
    (hm : text ∈ standIns c) (more : List ClassPart) :
    ClassPart.unionSet (spelledParts c ++ more) = ClassPart.unionSet (.plain set :: more) := by
  rcases eq_of_asciiIf (mem_standIns hm).1 h with ⟨rfl, rfl⟩ | ⟨rfl, -, rfl⟩
  · rfl
  · exact (ClassPart.unionSet_asciiWord more).symm

theorem foldl_push (ps : List ClassPart) (bracket : OpenBracket) :
    ps.foldl OpenBracket.push bracket = { bracket with parts := ps.reverse ++ bracket.parts } := by
  induction ps generalizing bracket with
  | nil => rfl
  | cons p ps ih =>
    rw [List.foldl_cons, ih, List.reverse_cons, List.append_assoc]
    rfl

theorem set_sideBySide (ps : List ClassPart) :
    (ClassPart.sideBySide ps).set = ClassPart.unionSet ps := by
  match ps with
  | [] => rfl
  | [_] => rfl
  | _ :: _ :: _ => rfl

/-- A bracket of its own holds what the shorthand stands for. No digit has a case. -/
theorem set_spelledBracket (h : Shorthands.asciiIf ignoreCase c = some set)
    (hm : text ∈ standIns c) : (spelledBracket ignoreCase c).set = set := by
  have hunion := unionSet_spelledParts h hm []
  have hset : (spelledBracket ignoreCase c).set = CharSet.foldIf ignoreCase set := by
    rw [List.append_nil] at hunion
    rw [spelledBracket, foldl_push, OpenBracket.close, ClassPart.bracketed, OpenBracket.content,
      set_sideBySide, List.append_nil, List.reverse_reverse, hunion]
    rfl
  rw [hset]
  rcases eq_of_asciiIf (mem_standIns hm).1 h with ⟨rfl, rfl⟩ | ⟨rfl, rfl, rfl⟩
  · cases ignoreCase with
    | true => exact CharSet.fold_asciiDigits
    | false => rfl
  · rfl

end

/-! ## Brackets that hold the same -/

/-- Two brackets hold the same, however their parts are put together. -/
structure HoldSame (b b' : OpenBracket) : Prop where
  negated : b'.negated = b.negated
  left : b'.left.map (fun x => (x.1, x.2.set)) = b.left.map (fun x => (x.1, x.2.set))
  right : ∀ more, ClassPart.unionSet (b'.parts.reverse ++ more) =
    ClassPart.unionSet (b.parts.reverse ++ more)

section

variable {b b' : OpenBracket}

theorem HoldSame.push (h : HoldSame b b') {p p' : ClassPart} (hp : p'.set = p.set) :
    HoldSame (b.push p) (b'.push p') where
  negated := h.negated
  left := h.left
  right more := by
    simp only [OpenBracket.push, List.reverse_cons, List.append_assoc, List.singleton_append]
    rw [h.right]
    exact ClassPart.unionSet_congr (by simp [hp])

theorem HoldSame.content (h : HoldSame b b') (ignoreCase : Bool) :
    (b'.content ignoreCase).set = (b.content ignoreCase).set := by
  have hright := h.right []
  rw [List.append_nil, List.append_nil, ← set_sideBySide, ← set_sideBySide] at hright
  have hleft := h.left
  unfold OpenBracket.content
  cases hb : b.left with
  | none =>
    cases hb' : b'.left with
    | none => exact hright
    | some x => simp [hb, hb'] at hleft
  | some x =>
    cases hb' : b'.left with
    | none => simp [hb, hb'] at hleft
    | some x' =>
      rw [hb, hb', Option.map_some, Option.map_some, Option.some.injEq, Prod.mk.injEq] at hleft
      simp only [ClassPart.join]
      rw [hleft.1, hleft.2, hright]

theorem HoldSame.operator (h : HoldSame b b') (ignoreCase : Bool) (op : SetOperator) :
    HoldSame (b.operator ignoreCase op) (b'.operator ignoreCase op) where
  negated := h.negated
  left := congrArg (fun set => some (op, set)) (h.content ignoreCase)
  right _ := rfl

theorem HoldSame.close (h : HoldSame b b') (ignoreCase : Bool) :
    (b'.close ignoreCase).set = (b.close ignoreCase).set := by
  simp only [OpenBracket.close, ClassPart.bracketed]
  rw [h.negated, h.content]

/-- A shorthand may be written out in one of the brackets. -/
theorem HoldSame.spell (h : HoldSame b b') {ignoreCase : Bool} {c : Char} {set : CharSet}
    {text : List Char} (hset : Shorthands.asciiIf ignoreCase c = some set)
    (hm : text ∈ standIns c) :
    HoldSame (b.push (.plain set)) (b'.spell ignoreCase c text) := by
  unfold OpenBracket.spell
  split
  · exact h.push (set_spelledBracket hset hm)
  · rw [foldl_push]
    refine ⟨h.negated, h.left, fun more => ?_⟩
    simp only [OpenBracket.push, List.reverse_append, List.reverse_reverse, List.append_assoc,
      List.reverse_cons, List.singleton_append]
    rw [h.right]
    exact ClassPart.unionSet_append_congr (by simp [spelledParts]; split <;> simp) (by simp)
      (unionSet_spelledParts hset hm more) _

end

/-- What holds the same goes together. -/
def BracketRelation.sets (ignoreCase : Bool) : BracketRelation (.asciiIf ignoreCase) ignoreCase where
  brackets := HoldSame
  parts p p' := p'.set = p.set
  refl _ := ⟨rfl, rfl, fun _ => rfl⟩
  plain _ := rfl
  push h hp := h.push hp
  operator op h := h.operator ignoreCase op
  close h := h.close ignoreCase
  spell h hm hset := h.spell hset hm

end UriRouter.Regex
