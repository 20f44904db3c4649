import UriRouter.Proofs.Pattern.Containment
import UriRouter.Proofs.Pattern.EscapePairs
import UriRouter.Proofs.Regex.Beginning
import UriRouter.Proofs.Regex.SpelledShorthands

/-!
# Shorthands in constraints

The shorthands `\d` and `\w` of a constraint are for ASCII characters. The rewriting that sees to
this knows no grammar: it only counts brackets. It does what it should where no bracket is open for
it unless one is open for the reader too, and where no `\w` is read while case is disregarded.

* `openBrackets`, `rewritingOf` : which text the rewriting puts in the place of an escape;
* `keepsApart` : whether the rewriting does what it should in a constraint;
* `captures?_of_keepsApart` : what a pattern with such a constraint matches.
-/

set_option autoImplicit false

namespace UriRouter.Pattern

open UriRouter.Regex UriRouter.Text

/-! ## What the rewriting writes -/

/-- How many brackets the rewriting takes to be open after a text, if there were `depth` before. -/
def openBrackets (depth : Nat) : List Char → Nat
  | [] => depth
  | '\\' :: _ :: rest => openBrackets depth rest
  | c :: rest => openBrackets (afterBracket depth c) rest

theorem openBrackets_cons (depth : Nat) {c : Char} (hc : c ≠ '\\') (s : List Char) :
    openBrackets depth (c :: s) = openBrackets (afterBracket depth c) s := by
  rw [openBrackets]
  rintro _ _ rfl
  exact absurd rfl hc

theorem openBrackets_append {p : List Char} (h : Whole p) (depth : Nat) (s : List Char) :
    openBrackets depth (p ++ s) = openBrackets (openBrackets depth p) s := by
  induction h generalizing depth with
  | nil => rfl
  | char hc _ ih => rw [List.cons_append, openBrackets_cons depth hc, openBrackets_cons depth hc, ih]
  | pair _ ih => exact ih depth

/-- The rewriting of a whole text: which text it puts in the place of an escape that a rest of the
text begins with. -/
def rewritingOf (whole : List Char) : Writing := fun u text =>
  ∃ p c v, whole = p ++ u ∧ u = '\\' :: c :: v ∧ text = escapeText (openBrackets 0 p) c

theorem mem_standIns_of_escapeText (depth : Nat) {c : Char} (h : c = 'd' ∨ c = 'w') :
    escapeText depth c ∈ standIns c := by
  rcases h with rfl | rfl
  all_goals cases depth <;> simp [escapeText, standIns]

/-- The text with which a constraint goes into an expression. -/
theorem spliced_rewriting (whole rest : List Char) : ∀ {p s : List Char}, Whole p →
    whole = p ++ s →
    Spliced (rewritingOf whole) rest s (asciiShorthands (openBrackets 0 p) s ++ ')' :: rest)
  | _, [], _, _ => .done
  | p, c :: s, hp, hs => by
    by_cases hc : c = '\\'
    · subst hc
      cases s with
      | nil => exact .lone
      | cons c s =>
        have hw : rewritingOf whole ('\\' :: c :: s) (escapeText (openBrackets 0 p) c) :=
          ⟨p, c, s, hs, rfl, rfl⟩
        have hpair : Whole (p ++ ['\\', c]) := hp.append (.pair .nil)
        have ih := spliced_rewriting whole rest (s := s) hpair (by simp [hs])
        rw [openBrackets_append hp] at ih
        rw [asciiShorthands_pair, List.append_assoc]
        by_cases hc : c = 'd' ∨ c = 'w'
        · exact .standIn hw (mem_standIns_of_escapeText _ hc) ih
        · rw [not_or] at hc
          have htext : escapeText (openBrackets 0 p) c = ['\\', c] := by
            rw [escapeText, if_neg hc.1, if_neg hc.2]
          rw [htext] at hw ⊢
          exact .pair hw ih
    · have ih := spliced_rewriting whole rest (s := s) (hp.append (.char hc .nil)) (by simp [hs])
      rw [openBrackets_append hp, openBrackets_cons _ hc] at ih
      rw [asciiShorthands_cons _ hc]
      exact .char hc ih
termination_by _ s => s.length

/-- Only shorthands that have no other meaning are kept. -/
theorem keeps_rewriting (whole : List Char) (ignoreCase : Bool) :
    Keeps (.asciiIf ignoreCase) (rewritingOf whole) := by
  rintro c s set ⟨p, c', v, -, he, htext⟩ hset
  cases he
  have hc : ¬(c = 'd' ∨ c = 'w') := fun hc => by
    obtain ⟨-, -, d, _, hd, hbracket⟩ := mem_standIns (htext ▸ mem_standIns_of_escapeText _ hc)
    cases hd
    rcases hbracket with h | h <;> exact absurd h (by decide)
  rw [not_or] at hc
  have hascii := ascii_of_asciiIf hset
  rwa [Shorthands.ascii, if_neg hc.1, if_neg hc.2] at hascii

/-! ## A pattern with one placeholder -/

/-- A `/` and one placeholder with a constraint. -/
def constrainedItems (name constraint : String) : List Item :=
  [.literal '/', .placeholder name (some constraint)]

theorem matcherText_constrainedItems (name c : String) :
    matcherText (constrainedItems name c) = '^' :: '/' :: ("(?P<".toList ++
      (groupName 0).toList ++ '>' :: (asciiShorthands 0 c.toList ++ ')' :: ['$'])) := by
  have hslash : escapeChar '/' = ['/'] := by decide
  simp [matcherText, constrainedItems, regexTextOf, regexText_literal, regexText_placeholder, hslash,
    constraintText_some, Item.names]

/-! ## Whole constraints -/

open ReaderState

/-- No bracket is open for the rewriting at a shorthand. The text `u` is a rest of `whole`. -/
def standsApart (whole u : List Char) : Bool :=
  match u with
  | '\\' :: c :: _ => (standIns c).isEmpty || openBrackets 0 (whole.take (whole.length - u.length)) == 0
  | _ => true

theorem standsApart_of_rewriting {whole u text : List Char} {c : Char}
    (h : standsApart whole ('\\' :: c :: u) = true) (hm : text ∈ standIns c)
    (hw : rewritingOf whole ('\\' :: c :: u) text) : text.head? = some '[' := by
  obtain ⟨p, c', v, hwhole, he, rfl⟩ := hw
  cases he
  have hp : whole.take (whole.length - ('\\' :: c :: u).length) = p := by
    rw [hwhole, List.length_append, Nat.add_sub_cancel, List.take_left]
  have hne : (standIns c).isEmpty = false := List.isEmpty_eq_false_iff.2 (List.ne_nil_of_mem hm)
  rw [standsApart, hp, hne, Bool.false_or, beq_iff_eq] at h
  rw [h]
  rcases (mem_standIns hm).1 with rfl | rfl <;> rfl

section

variable [PropertyTable]

/-- Whether the rewriting does what it should in what is left of a text: where the reader comes to a
shorthand outside all brackets, none is open for the rewriting, and no `\w` is read while case is
disregarded. -/
def keepsApartFrom (whole : List Char) : Nat → ReaderState → List Char → Bool
  | fuel, st, s =>
    match fuel, skipBlanks st.flags.verbose s with
    | _, [] => true
    | 0, _ => false
    | fuel + 1, c :: rest =>
      standsApart whole (c :: rest) &&
        match st.step (.asciiIf st.flags.ignoreCase) c rest with
        | none => false
        | some (st, rest) => keepsApartFrom whole fuel st rest

/-- Whether the rewriting does what it should in a constraint. -/
def keepsApart (constraint : String) : Bool :=
  keepsApartFrom constraint.toList constraint.toList.length {} constraint.toList

/-- A turn in a constraint is one in the expression that it goes into. -/
theorem turns_of_step {whole s rest s₁ : List Char} {st st₁ : ReaderState} {c : Char}
    (hs : skipBlanks st.flags.verbose s = c :: rest) (happart : standsApart whole (c :: rest) = true)
    (h : st.step (.asciiIf st.flags.ignoreCase) c rest = some (st₁, s₁))
    (hend : s₁ = [] → st₁.outer = []) :
    Turns (.seen .expr) (rewritingOf whole) st st₁ s s₁ := by
  have hk := keeps_rewriting whole st.flags.ignoreCase
  by_cases hc : c = '\\'
  · subst hc
    obtain ⟨⟨a, s₂⟩, ha, he⟩ := Option.map_eq_some_iff.1 h
    cases he
    cases rest with
    | nil => cases ha
    | cons c rest =>
      refine turns_of_escape hk hs ha fun {set text base st'} t hset hw hm hsees => ?_
      have hopen := standsApart_of_rewriting happart hm hw
      refine ⟨1, _, ?_, reaches_spelled hm hopen st' t, ?_⟩
      · cases text with
        | nil => cases hopen
        | cons => simp
      · rw [(Sees.alike hsees).flags]
        exact Sees.push hsees (by rw [set_spelledBracket hset hm]; rfl)
  · by_cases hbracket : c = '['
    · subst hbracket
      obtain ⟨⟨x, s₂⟩, hx, he⟩ := Option.map_eq_some_iff.1 h
      cases he
      exact turns_of_bracket (.sets st.flags.ignoreCase) hk hs hx fun hsees hset =>
        Sees.push hsees (congrArg (fun set => (Expr.chars set, true)) hset)
    · exact turns_of_goes hs hc fun b hb =>
        goes_step hb hc hbracket (skipBlanks_ne_nil_of_stepOpen hend h) h

/-- A constraint that the rewriting does right by is read in the expression as it is by itself with
the ASCII shorthands. -/
theorem embeds_of_keepsApart {whole : List Char} {n : Nat} {st final : ReaderState} {s : List Char}
    (happart : keepsApartFrom whole n st s = true) (h : readFrom .ascii n st s = some final)
    (hf : final.outer = []) : ∃ b, Embeds (.seen .expr) (rewritingOf whole) b st final s := by
  induction n generalizing st s with
  | zero =>
    rcases readFrom_cases h with ⟨hs, rfl⟩ | ⟨m, st₁, s₁, hm, -⟩
    · exact embeds_of_blank hs
    · cases hm
  | succ n ih =>
    rcases readFrom_cases h with ⟨hs, rfl⟩ | ⟨m, st₁, s₁, hm, ha, hr⟩
    · exact embeds_of_blank hs
    · obtain rfl : n = m := by omega
      have hend : s₁ = [] → final = st₁ := by
        rintro rfl
        exact eq_of_readFrom_nil hr
      unfold advance at ha
      split at ha
      · cases ha
      · rename_i c rest hs
        unfold keepsApartFrom at happart
        simp only [hs, Bool.and_eq_true] at happart
        obtain ⟨hstands, hgo⟩ := happart
        cases hstep : st.step (.asciiIf st.flags.ignoreCase) c rest with
        | none => simp [hstep] at hgo
        | some x =>
          obtain rfl : x = (st₁, s₁) := Option.some.inj ((step_of_asciiIf hstep).symm.trans ha)
          rw [hstep] at hgo
          refine embeds_of_turns (turns_of_step hs hstands hstep fun hs₁ => ?_) hend (ih hgo hr)
          rw [← hend hs₁]
          exact hf

/-- A group whose constraint the rewriting does right by holds the constraint as it is read by itself
with the ASCII shorthands, unless a comment takes along what closes the group. -/
theorem ends_constraint {c : String} {base final : ReaderState} {rest : List Char}
    (hs : (read? c.toList).isSome = true) (happart : keepsApart c = true) (hf : base.flags = {})
    (hi : base.items = []) (hb : base.branches = [])
    (h : Ends base (asciiShorthands 0 c.toList ++ ')' :: rest) final) :
    ∃ st₁, st₁.outer = base.outer ∧
      ((∃ t, Ends st₁ t final ∧ t <:+ skipBlanksFrom true (')' :: rest)) ∨
        Ends st₁ (')' :: rest) final ∧ readWith? .ascii c.toList = some st₁.content.expr) := by
  obtain ⟨inner, hinner, hout, hbody⟩ := readWith?_ascii_of_read? hs
  obtain ⟨b, hembeds⟩ := embeds_of_keepsApart happart hinner hout
  rcases hembeds rest _ base base (spliced_rewriting c.toList rest .nil rfl)
    (sees_base .expr hf hi hb) with hclash | ⟨st₁, t, hleads, hafter, hleft⟩
  · exact absurd h (hclash.2 final)
  · refine ⟨st₁, (StateRelation.after_alike hafter).outer_of_nil hout, ?_⟩
    have he := hleads.ends_iff.1 h
    cases b with
    | true => exact .inl ⟨t, he, hleft.2.1⟩
    | false =>
      obtain rfl := Spliced.nil hleft
      have hcontent : st₁.content.expr = inner.content.expr :=
        congrArg Prod.fst (Sees.content hafter)
      exact .inr ⟨he, hcontent ▸ hbody⟩

/-! ## What such a pattern reads -/

/-- The expression of the pattern holds the constraint as it is read by itself with the ASCII
shorthands. -/
theorem read?_constrainedItems {name c : String} {e : Expr} (hs : (read? c.toList).isSome = true)
    (happart : keepsApart c = true) (h : read? (matcherText (constrainedItems name c)) = some e) :
    ∃ body, readWith? .ascii c.toList = some body ∧ e = anchored body := by
  obtain ⟨final, hr, hclosed, rfl⟩ := readFrom_of_read? h
  have hends : Ends {} (matcherText (constrainedItems name c)) final := ⟨_, hr⟩
  rw [matcherText_constrainedItems] at hends
  -- the beginning of the text, and the group of the placeholder
  have hgroup := ends_openNamed rfl ((hends.of_reaches (.one rfl)).of_reaches (.one rfl))
  obtain ⟨st₁, hout, ⟨t, he, ht⟩ | ⟨he, hbody⟩⟩ := ends_constraint hs happart rfl rfl rfl hgroup
  · -- a comment would leave the group open
    obtain rfl : t = [] := List.suffix_nil.1 ht
    rw [he.of_nil, hout] at hclosed
    cases hclosed
  · obtain ⟨st₂, hclose, he⟩ := he.closeGroup
    rw [closeGroup?, hout] at hclose
    cases hclose
    have hfinal : final = {
        items := [⟨.assertion .textEnd, 0, true⟩,
          ⟨.group (some (groupName 0)) st₁.content.expr, 1 + st₁.content.depth, true⟩,
          ⟨.chars (.single '/'), 0, true⟩, ⟨.assertion .textStart, 0, true⟩]
        names := st₁.names } := (he.of_reaches (.one rfl)).of_nil
    refine ⟨_, hbody, ?_⟩
    rw [hfinal, content_of_standsAlone rfl]
    · rfl
    · simp [StandsAlone, Expr.members, Expr.branches]

/-- **In a constraint `\d` and `\w` are for ASCII characters, and nothing else changes**, if the
rewriting does right by it. The pattern of a `/` and a placeholder then matches a path, with the same
value, as the anchored expression does that holds the constraint as it is written, read by itself
with the ASCII shorthands. -/
theorem captures?_of_keepsApart {raw name c : String} {p : Pattern}
    (hread : readItems (Path.normalizePattern raw).toList = .ok (constrainedItems name c))
    (h : compile raw = .ok p) (happart : keepsApart c = true) :
    (∃ body, readWith? .ascii c.toList = some body ∧ ∀ path, p.captures? path =
      ((anchored body).findIn path.toList).map (bindingsFrom · 0 [name])) ∧
    ∀ x, x = 'd' ∨ x = 'w' →
      ∃ set, Shorthands.ascii x = some set ∧ ∀ y, set.mem y = true → isAscii y = true := by
  refine ⟨?_, fun x => isAscii_of_mem_ascii⟩
  obtain ⟨items, hread', hkind, hparams⟩ := compile_eq_ok h
  obtain rfl : constrainedItems name c = items := Except.ok.inj (hread.symm.trans hread')
  have hs := (isTreeOf_of_readItems hread).constraints c (by simp [constrainedItems, constraintsOf,
    Item.constraints])
  unfold kindOf at hkind
  split at hkind
  · rename_i hl
    exact absurd hl (by simp [constrainedItems, Item.isLiteral])
  · split at hkind
    · rename_i e he
      obtain ⟨body, hbody, rfl⟩ := read?_constrainedItems hs happart he
      refine ⟨body, hbody, fun path => ?_⟩
      rw [captures?, ← Except.ok.inj hkind, hparams]
      rfl
    · cases hkind

end

/-- Where case is disregarded, a letter that is written out matches its relatives too. Digits have
none. -/
example : keepsApart "(?i)\\w" = false ∧ keepsApart "(?i)\\d" = true := by decide +kernel

/-- A constraint with groups, classes and a comment. -/
def mixedConstraint : String := "(?x:(\\d\x7b2\x7d|[\\w&&[^_]]) # digits, or a letter\n)"

theorem captures?_mixedConstraint : ∃ p body,
    compile "/\x7bx:(?x:(\\d\x7b2\x7d|[\\w&&[^_]]) # digits, or a letter\n)\x7d" = .ok p ∧
    readWith? .ascii mixedConstraint.toList = some body ∧
    (∀ path, p.captures? path =
      ((anchored body).findIn path.toList).map (bindingsFrom · 0 ["x"])) ∧
    p.captures? "/42" = some [("x", "42")] := by
  have hs : Path.normalizePattern
      "/\x7bx:(?x:(\\d\x7b2\x7d|[\\w&&[^_]]) # digits, or a letter\n)\x7d" =
      String.ofList (renderAll (constrainedItems "x" mixedConstraint)) := by decide +kernel
  have hw : areWellFormed (constrainedItems "x" mixedConstraint) = true := by decide +kernel
  obtain ⟨p, hok, hread, -, hm⟩ := exists_compiled hs hw (by decide +kernel :
    ((compile _).toOption.filter (!·.isFixed)).bind (·.captures? "/42") = some [("x", "42")])
  obtain ⟨⟨body, hbody, hcaptures⟩, -⟩ := captures?_of_keepsApart hread hok (by decide +kernel)
  exact ⟨p, body, hok, hbody, hcaptures, hm⟩

/-- A bracket in the name of a group is one for the rewriting, but not for the reader. -/
def bracketInName : String := "(?P<a[>\\d)"

/-- The digits are written out as plain text there, and no digit matches. -/
theorem not_captures?_bracketInName : ∃ p body,
    compile "/\x7bx:(?P<a[>\\d)\x7d" = .ok p ∧
    readItems (Path.normalizePattern "/\x7bx:(?P<a[>\\d)\x7d").toList =
      .ok (constrainedItems "x" bracketInName) ∧
    readWith? .ascii bracketInName.toList = some body ∧
    ((anchored body).findIn "/5".toList).map (bindingsFrom · 0 ["x"]) = some [("x", "5")] ∧
    p.captures? "/5" = none ∧ p.captures? "/0-9" = some [("x", "0-9")] := by
  have hs : Path.normalizePattern "/\x7bx:(?P<a[>\\d)\x7d" =
      String.ofList (renderAll (constrainedItems "x" bracketInName)) := by decide +kernel
  have hw : areWellFormed (constrainedItems "x" bracketInName) = true := by decide +kernel
  have hread5 : (readWith? .ascii bracketInName.toList).bind (fun body =>
      ((anchored body).findIn "/5".toList).map (bindingsFrom · 0 ["x"])) = some [("x", "5")] := by
    decide +kernel
  have hnone : (compile "/\x7bx:(?P<a[>\\d)\x7d").toOption.bind (·.captures? "/5") = none := by
    decide +kernel
  obtain ⟨p, hok, hread, -, hm⟩ := exists_compiled hs hw (by decide +kernel :
    ((compile _).toOption.filter (!·.isFixed)).bind (·.captures? "/0-9") = some [("x", "0-9")])
  obtain ⟨body, hbody, hdigit⟩ := Option.bind_eq_some_iff.1 hread5
  rw [hok] at hnone
  exact ⟨p, body, hok, hread, hbody, hdigit, hnone, hm⟩

end UriRouter.Pattern
