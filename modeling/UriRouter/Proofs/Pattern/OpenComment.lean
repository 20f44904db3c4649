import UriRouter.Proofs.Pattern.Marks
import UriRouter.Proofs.Pattern.Shape
import UriRouter.Proofs.Pattern.TreeOfText
import UriRouter.Proofs.Regex.Names
import UriRouter.Proofs.Regex.Runs

/-!
# Constraints that end inside a comment

A comment that a constraint leaves open takes along what follows the constraint, up to the end of
the line. For every such constraint there is a pattern that loses a placeholder by it.

* `losingItems` : the pattern;
* `shape_of_comment` : the expression that it is compiled to;
* `loses_of_endsInComment` : a path that it matches without binding its second placeholder.
-/

set_option autoImplicit false

namespace UriRouter.Pattern

open UriRouter.Regex UriRouter.Text

/-! ## Choices that ask for nothing -/

/-- A choice whose last branch is empty. -/
inductive AsksNothing : Expr → Prop
  | empty : AsksNothing .empty
  | alternative (a : Expr) {b : Expr} (h : AsksNothing b) : AsksNothing (.alternative a b)

theorem asksNothing_ofBranches (es : List Expr) : AsksNothing (.ofBranches (es ++ [.empty])) := by
  induction es with
  | nil => exact .empty
  | cons e es ih =>
    cases hs : es ++ [.empty] with
    | nil => exact absurd hs (by simp)
    | cons d ds =>
      rw [hs] at ih
      rw [List.cons_append, hs]
      exact .alternative e ih

theorem setOfBranches?_append_empty (es : List Expr) :
    Expr.setOfBranches? (es ++ [.empty]) = none := by
  induction es with
  | nil => rfl
  | cons e es ih =>
    cases e with
    | chars set => rw [List.cons_append, Expr.setOfBranches?, ih, Option.map_none]
    | _ => rfl

theorem commonStartOfAll_append_nil (pss : List (List (List Expr))) :
    Expr.commonStartOfAll (pss ++ [[]]) = [] := by
  induction pss with
  | nil => rfl
  | cons ps pss ih =>
    cases hs : pss ++ [[]] with
    | nil => exact absurd hs (by simp)
    | cons qs qss =>
      rw [hs] at ih
      rw [List.cons_append, hs, Expr.commonStartOfAll, ih]
      · split
        · rfl
        · cases ps <;> rfl
      · simp

/-- An empty branch has nothing in common with the others, and so it stays a branch. -/
theorem asksNothing_choice (es : List Expr) : AsksNothing (.choice (es ++ [.empty])) := by
  have hb : (es ++ [Expr.empty]).flatMap Expr.branches = es.flatMap Expr.branches ++ [Expr.empty] := by
    rw [List.flatMap_append]
    rfl
  have hc : Expr.choiceOfBranches (es.flatMap Expr.branches ++ [.empty]) =
      .ofBranches (es.flatMap Expr.branches ++ [.empty]) := by
    unfold Expr.choiceOfBranches
    split
    · rename_i e he
      rw [he]
      rfl
    · rw [setOfBranches?_append_empty]
  unfold Expr.choice
  simp only [hb, List.map_append, List.map_cons, List.map_nil]
  rw [show Expr.pieces (Expr.members Expr.empty) = [] from rfl, commonStartOfAll_append_nil]
  split
  · exact hc ▸ asksNothing_ofBranches _
  · exact hc ▸ asksNothing_ofBranches _

theorem isSome_answer_of_asksNothing {e : Expr} (h : AsksNothing e) (p : Place) {k : Answer}
    (hk : k.isSome = true) (ahead : Ahead e) : (e.atPlace p ahead k).answer.isSome = true := by
  induction h with
  | empty => exact hk
  | alternative a _ ih =>
    rw [Expr.atPlace, Option.isSome_or, ih, Bool.or_true]

theorem isSome_noting (name : Option String) (begins : Bool) (p : Place) (a : Answer) :
    (a.noting name begins p).isSome = a.isSome := by
  cases name <;> simp [Answer.noting]

theorem asksNothing_content (st : ReaderState) : AsksNothing st.nextBranch.content.expr := by
  have h : st.nextBranch.content.expr =
      .choice (st.nextBranch.branches.reverse.map (·.expr) ++ [.empty]) := by
    simp only [ReaderState.content, Part.choice, List.reverse_cons, List.map_append, List.map_cons,
      List.map_nil]
    rfl
  rw [h]
  exact asksNothing_choice _

/-! ## The pattern -/

/-- The pattern that loses its second placeholder if the constraint of the first one ends inside a
comment. The comment takes the group of the second placeholder along, and what is left of that is a
branch that asks for nothing. -/
def losingItems (constraint : String) : List Item :=
  [.literal '/', .placeholder "a" (some constraint), .placeholder "b" (some "\n|")]

/-- The expression of a `/` and one group that holds `body`, from the beginning of the text to its
end. This is what the pattern comes to: the last branch of the group is empty then, and the second
placeholder has no group. -/
def anchored (body : Expr) : Expr :=
  .concat (.assertion .textStart) (.concat (.chars (.single '/'))
    (.concat (.group (some (groupName 0)) body) (.assertion .textEnd)))

theorem isSome_findIn {body : Expr} (h : AsksNothing body) :
    ((anchored body).findIn ['/']).isSome = true := by
  have hslash : Place.isBefore ⟨none, ['/']⟩ (.single '/') = true := by
    rw [Place.isBefore, List.head?_cons, Option.any_some, mem_single]
    rfl
  simp only [Expr.findIn, anchored, List.reverse_cons, List.reverse_nil, List.nil_append,
    Expr.findFrom, Expr.atPlace, hslash, Assertion.holds, Option.isNone_none, ↓reduceIte,
    Option.isSome_or, isSome_noting]
  exact (Bool.or_eq_true _ _).mpr (.inl (isSome_answer_of_asksNothing h _ rfl _))

theorem matcherText_losingItems (c : String) :
    matcherText (losingItems c) = '^' :: '/' :: ("(?P<".toList ++ (groupName 0).toList ++
      '>' :: (constraintText (some c) ++ ')' :: "(?P<__sy1>\n|)$".toList)) := by
  have hslash : escapeChar '/' = ['/'] := by decide
  have hsecond : "(?P<".toList ++ (groupName 1).toList ++
      '>' :: constraintText (some "\n|") ++ [')'] ++ ['$'] = "(?P<__sy1>\n|)$".toList := by decide
  rw [← hsecond]
  simp [matcherText, losingItems, regexTextOf, regexText_literal, regexText_placeholder, hslash,
    Item.names]

/-- The expression of the pattern, and what its groups may be named. -/
theorem shape_of_comment [PropertyTable] {c : String} {e : Expr}
    (hs : (read? c.toList).isSome = true) (hc : ReaderState.endsInComment c.toList = true)
    (h : read? (matcherText (losingItems c)) = some e) :
    ∃ body, AsksNothing body ∧ e = anchored body ∧
      ∀ name ∈ e.names, name ∈ ReaderState.namesIn c.toList ∨ name = groupName 0 := by
  obtain ⟨d, hd⟩ := Option.isSome_iff_exists.1 hs
  obtain ⟨final, hr, -, rfl⟩ := ReaderState.readFrom_of_read? h
  have hnamed := ReaderState.namedOnce_empty.of_readFrom hr
  have hends : ReaderState.Ends {} (matcherText (losingItems c)) final := ⟨_, hr⟩
  rw [matcherText_losingItems, constraintText_some] at hends
  -- the beginning of the text, and the group of the first placeholder
  have hgroup := ends_openNamed rfl ((hends.of_reaches (.one rfl)).of_reaches (.one rfl))
  obtain ⟨st₁, t', he, hout, hnames, hrem⟩ :=
    ReaderState.Ends.of_comment hd hc (spliced_asciiShorthands _ _ _) rfl rfl hgroup
  have hskip : skipBlanksFrom true (')' :: "(?P<__sy1>\n|)$".toList) = ['|', ')', '$'] := by decide
  obtain rfl : t' = ['|', ')', '$'] := (hrem.2 (by rw [hskip]; simp)).trans hskip
  have hbranch : st₁.advance .unicode ['|', ')', '$'] = some (st₁.nextBranch, [')', '$']) := by
    cases hv : st₁.flags.verbose <;> simp [ReaderState.advance, hv] <;> rfl
  -- the `)` of the second placeholder closes the group of the first one
  obtain ⟨st₂, hclose, he⟩ := (he.of_reaches (.one hbranch)).closeGroup
  rw [ReaderState.closeGroup?, show st₁.nextBranch.outer = _ from hout] at hclose
  cases hclose
  have hfinal : final = {
      items := [⟨.assertion .textEnd, 0, true⟩,
        ⟨.group (some (groupName 0)) st₁.nextBranch.content.expr,
          1 + st₁.nextBranch.content.depth, true⟩,
        ⟨.chars (.single '/'), 0, true⟩, ⟨.assertion .textStart, 0, true⟩]
      names := st₁.names } := (he.of_reaches (.one rfl)).of_nil
  have hcontent : final.content.expr = anchored st₁.nextBranch.content.expr := by
    rw [hfinal, content_of_standsAlone rfl]
    · rfl
    · simp [StandsAlone, Expr.members, Expr.branches]
  refine ⟨_, asksNothing_content st₁, hcontent, fun name hm => ?_⟩
  have hmem : name ∈ st₁.names := by
    have := hnamed.content.subset hm
    rwa [hfinal] at this
  rw [hnames] at hmem
  simpa [ReaderState.openGroup, ReaderState.pushAtom, ReaderState.push] using hmem

/-- **A comment that a constraint leaves open makes a pattern lose a placeholder.** The pattern
matches, and whatever it matches, the placeholder is not bound. -/
theorem loses_of_endsInComment [PropertyTable] {raw c : String} {p : Pattern}
    (hread : readItems (Path.normalizePattern raw).toList = .ok (losingItems c))
    (h : compile raw = .ok p) (hc : ReaderState.endsInComment c.toList = true)
    (hn : groupName 1 ∉ ReaderState.namesIn c.toList) :
    (p.captures? "/").isSome = true ∧
      ∀ path ps, p.captures? path = some ps → "b" ∉ ps.map (·.1) := by
  obtain ⟨items, hread', hkind, hparams⟩ := compile_eq_ok h
  obtain rfl : losingItems c = items := Except.ok.inj (hread.symm.trans hread')
  have hs := (isTreeOf_of_readItems hread).constraints c (by simp [losingItems, constraintsOf,
    Item.constraints])
  unfold kindOf at hkind
  split at hkind
  · rename_i hl
    exact absurd hl (by simp [losingItems, Item.isLiteral])
  · split at hkind
    · rename_i e he
      obtain ⟨body, hbody, rfl, hnames⟩ := shape_of_comment hs hc he
      have hcaptures (path : String) : p.captures? path =
          ((anchored body).findIn path.toList).map (bindingsFrom · 0 ["a", "b"]) := by
        rw [captures?, ← Except.ok.inj hkind, hparams]
        rfl
      refine ⟨?_, fun path ps hm => ?_⟩
      · rw [hcaptures, Option.isSome_map]
        exact isSome_findIn hbody
      · rw [hcaptures] at hm
        obtain ⟨m, hfind, rfl⟩ := Option.map_eq_some_iff.1 hm
        obtain ⟨q, q', -, hruns⟩ := isMatch_of_findIn hfind
        have htext : textOf? (groupName 1) m = none := by
          refine textOf?_eq_none fun mark hmark he => ?_
          rcases hnames _ (hruns.name_mem mark hmark) with hin | hin
          · exact hn (he ▸ hin)
          · exact absurd (groupName_injective (he.symm.trans hin)) (by decide)
        simp only [bindingsFrom, htext]
        split <;> simp
    · cases hkind

end UriRouter.Pattern
