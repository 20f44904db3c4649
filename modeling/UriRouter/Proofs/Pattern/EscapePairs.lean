import UriRouter.Pattern.Item

/-!
# The pieces of a constraint

The rewriting of the shorthands `\d` and `\w` goes through a constraint piece by piece, where a `\`
and the character after it are one piece. The only other thing it knows is how many brackets are
open.

* `pieces` : a constraint cut up, from left to right;
* `rewritePieces` : the pieces with the ranges in the place of the shorthands;
* `pieces_asciiShorthands` : what is rewritten falls into just these pieces when it is cut up again;
* `asciiConstraint_eq` : to leave alone what mentions no shorthand comes to the same.
-/

set_option autoImplicit false

namespace UriRouter.Pattern

/-! ## One step -/

/-- How many brackets the rewriting takes to be open after a character. -/
def afterBracket (depth : Nat) (c : Char) : Nat :=
  if c = '[' then depth + 1 else if c = ']' then depth - 1 else depth

/-- What the rewriting makes of an escape where it takes `depth` brackets to be open. -/
def escapeText (depth : Nat) (c : Char) : List Char :=
  if c = 'd' then (if depth = 0 then "[0-9]" else "0-9").toList
  else if c = 'w' then (if depth = 0 then "[0-9A-Za-z_]" else "0-9A-Za-z_").toList
  else ['\\', c]

theorem asciiShorthands_cons (depth : Nat) {c : Char} (hc : c ≠ '\\') (s : List Char) :
    asciiShorthands depth (c :: s) = c :: asciiShorthands (afterBracket depth c) s := by
  by_cases hopen : c = '['
  · subst hopen
    rfl
  · by_cases hclose : c = ']'
    · subst hclose
      rfl
    · rw [asciiShorthands, afterBracket, if_neg hopen, if_neg hclose]
      all_goals simp [hc, hopen, hclose]

theorem asciiShorthands_pair (depth : Nat) (c : Char) (s : List Char) :
    asciiShorthands depth ('\\' :: c :: s) = escapeText depth c ++ asciiShorthands depth s := by
  unfold escapeText
  by_cases hd : c = 'd'
  · subst hd
    rfl
  · by_cases hw : c = 'w'
    · subst hw
      rfl
    · rw [if_neg hd, if_neg hw, asciiShorthands]
      · rfl
      all_goals simp [hd, hw]

/-! ## Cutting up -/

/-- A piece of a constraint. -/
inductive Piece where
  /-- A character by itself. A `\` is one only at the end of the constraint. -/
  | char (c : Char)
  /-- A `\` and the character after it. -/
  | escape (c : Char)

/-- The text of a piece. -/
def Piece.text : Piece → List Char
  | .char c => [c]
  | .escape c => ['\\', c]

/-- Whether a piece is one of `\d` and `\w`. -/
def Piece.IsShorthand (p : Piece) : Prop := p = .escape 'd' ∨ p = .escape 'w'

/-- The pieces of a text, from left to right. -/
def pieces : List Char → List Piece
  | [] => []
  | '\\' :: c :: rest => .escape c :: pieces rest
  | c :: rest => .char c :: pieces rest

theorem pieces_cons {c : Char} (hc : c ≠ '\\') (s : List Char) :
    pieces (c :: s) = .char c :: pieces s := by
  rw [pieces]
  rintro _ _ rfl
  exact absurd rfl hc

theorem flatMap_text_pieces (s : List Char) : (pieces s).flatMap Piece.text = s := by
  fun_induction pieces s with
  | case1 => rfl
  | case2 c rest ih => rw [List.flatMap_cons, ih]; rfl
  | case3 c rest _ ih => rw [List.flatMap_cons, ih]; rfl

theorem pieces_append_of_plain {t : List Char} (ht : '\\' ∉ t) (s : List Char) :
    pieces (t ++ s) = t.map .char ++ pieces s := by
  induction t with
  | nil => rfl
  | cons c t ih =>
    rw [List.mem_cons, not_or] at ht
    rw [List.cons_append, pieces_cons (Ne.symm ht.1), ih ht.2]
    rfl

/-! ## The pieces of what is rewritten -/

namespace Piece

/-- How many brackets the rewriting takes to be open after a piece. -/
def depthAfter (depth : Nat) : Piece → Nat
  | .char c => afterBracket depth c
  | .escape _ => depth

/-- What the rewriting puts in the place of a piece: the characters of a range for a shorthand, and
the piece itself for all others. -/
def rewritten (depth : Nat) : Piece → List Piece
  | .char c => [.char c]
  | .escape c => if c = 'd' ∨ c = 'w' then (escapeText depth c).map .char else [.escape c]

theorem rewritten_of_not_isShorthand (depth : Nat) {p : Piece} (h : ¬p.IsShorthand) :
    p.rewritten depth = [p] := by
  cases p with
  | char c => rfl
  | escape c =>
    rw [rewritten, if_neg]
    rintro (rfl | rfl)
    · exact h (.inl rfl)
    · exact h (.inr rfl)

theorem not_isShorthand_of_mem_rewritten {depth : Nat} {p q : Piece} (h : q ∈ p.rewritten depth) :
    ¬q.IsShorthand := by
  have hchar : ∀ c, ¬(Piece.char c).IsShorthand := by simp [IsShorthand]
  cases p with
  | char c =>
    obtain rfl := List.mem_singleton.1 h
    exact hchar c
  | escape c =>
    by_cases hc : c = 'd' ∨ c = 'w'
    · rw [rewritten, if_pos hc] at h
      obtain ⟨d, -, rfl⟩ := List.mem_map.1 h
      exact hchar d
    · rw [rewritten, if_neg hc] at h
      obtain rfl := List.mem_singleton.1 h
      simpa [IsShorthand] using hc

end Piece

/-- The pieces after the rewriting, if `depth` brackets are taken to be open before them. -/
def rewritePieces (depth : Nat) : List Piece → List Piece
  | [] => []
  | p :: ps => p.rewritten depth ++ rewritePieces (p.depthAfter depth) ps

theorem not_isShorthand_of_mem_rewritePieces {depth : Nat} {ps : List Piece} {q : Piece}
    (h : q ∈ rewritePieces depth ps) : ¬q.IsShorthand := by
  induction ps generalizing depth with
  | nil => cases h
  | cons p ps ih =>
    rcases List.mem_append.1 h with h | h
    · exact Piece.not_isShorthand_of_mem_rewritten h
    · exact ih h

theorem rewritePieces_of_not_isShorthand {ps : List Piece} (h : ∀ p ∈ ps, ¬p.IsShorthand)
    (depth : Nat) : rewritePieces depth ps = ps := by
  induction ps generalizing depth with
  | nil => rfl
  | cons p ps ih =>
    obtain ⟨hp, hps⟩ := List.forall_mem_cons.1 h
    rw [rewritePieces, Piece.rewritten_of_not_isShorthand depth hp, ih hps]
    rfl

theorem not_mem_escapeText (depth : Nat) {c : Char} (h : c = 'd' ∨ c = 'w') :
    '\\' ∉ escapeText depth c := by
  rcases h with rfl | rfl
  all_goals cases depth <;> simp [escapeText]

/-- What is rewritten falls into the rewritten pieces when it is cut up again: the text of a range
ends no escape and begins none. -/
theorem pieces_asciiShorthands (depth : Nat) : ∀ s : List Char,
    pieces (asciiShorthands depth s) = rewritePieces depth (pieces s)
  | [] => rfl
  | c :: s => by
    -- an escape takes two characters at once, so that the recursion is on the length
    by_cases hc : c = '\\'
    · subst hc
      cases s with
      | nil => rfl
      | cons c s =>
        have ih := pieces_asciiShorthands depth s
        rw [asciiShorthands_pair, pieces, rewritePieces, Piece.depthAfter, ← ih, Piece.rewritten]
        split
        · rename_i hc
          exact pieces_append_of_plain (not_mem_escapeText depth hc) _
        · rename_i hc
          rw [not_or] at hc
          rw [escapeText, if_neg hc.1, if_neg hc.2]
          rfl
    · rw [asciiShorthands_cons depth hc, pieces_cons hc, pieces_cons hc,
        pieces_asciiShorthands (afterBracket depth c) s]
      rfl
termination_by s => s.length

theorem asciiShorthands_eq (depth : Nat) (s : List Char) :
    asciiShorthands depth s = (rewritePieces depth (pieces s)).flatMap Piece.text := by
  rw [← pieces_asciiShorthands, flatMap_text_pieces]

theorem asciiShorthands_of_not_isShorthand {s : List Char} (h : ∀ p ∈ pieces s, ¬p.IsShorthand)
    (depth : Nat) : asciiShorthands depth s = s := by
  rw [asciiShorthands_eq, rewritePieces_of_not_isShorthand h, flatMap_text_pieces]

/-! ## Constraints that mention no shorthand -/

theorem mentionsShorthand_iff (s : List Char) :
    mentionsShorthand s = true ↔ ['\\', 'd'] <:+: s ∨ ['\\', 'w'] <:+: s := by
  fun_induction mentionsShorthand s with
  | case1 => simp
  | case2 c rest ih =>
    have hstands : ∀ x, ['\\', x] <:+: '\\' :: c :: rest ↔ c = x ∨ ['\\', x] <:+: c :: rest := by
      simp [List.infix_cons_iff (a := '\\'), List.cons_prefix_cons, eq_comm]
    rw [hstands, hstands, Bool.or_eq_true, Bool.or_eq_true, beq_iff_eq, beq_iff_eq, ih]
    exact or_or_or_comm
  | case3 c rest hne ih =>
    have hstands : ∀ x, ['\\', x] <:+: c :: rest ↔ ['\\', x] <:+: rest := fun x => by
      rw [List.infix_cons_iff, or_iff_right]
      intro hp
      obtain ⟨rfl, t, rfl⟩ := List.cons_prefix_cons.1 hp
      exact hne x t rfl rfl
    rw [hstands, hstands, ih]

/-- A shorthand that is a piece stands in the text. What stands there need not be one: the second `\`
of `\\d` is escaped. -/
theorem mentionsShorthand_of_mem_pieces {s : List Char} {p : Piece} (hp : p ∈ pieces s)
    (h : p.IsShorthand) : mentionsShorthand s = true := by
  have hinfix : p.text <:+: s := by
    have := List.infix_of_mem_flatten (List.mem_map_of_mem (f := Piece.text) hp)
    rwa [← List.flatMap_def, flatMap_text_pieces] at this
  rw [mentionsShorthand_iff]
  rcases h with rfl | rfl
  · exact .inl hinfix
  · exact .inr hinfix

theorem asciiShorthands_of_not_mentionsShorthand {s : List Char} (h : mentionsShorthand s = false)
    (depth : Nat) : asciiShorthands depth s = s :=
  asciiShorthands_of_not_isShorthand (fun _ hp hshort =>
    absurd (mentionsShorthand_of_mem_pieces hp hshort) (by simp [h])) depth

/-- A constraint that mentions no shorthand need not be gone through. -/
theorem asciiConstraint_eq (s : List Char) : asciiConstraint s = asciiShorthands 0 s := by
  unfold asciiConstraint
  split
  · rfl
  · rename_i h
    exact (asciiShorthands_of_not_mentionsShorthand (by simpa using h) 0).symm

theorem constraintText_some (c : String) :
    constraintText (some c) = asciiShorthands 0 c.toList :=
  asciiConstraint_eq c.toList

/-! ## The rewriting of a constraint -/

/-- What the rewriting of a constraint comes to. -/
structure RewritesPiecewise (s : List Char) : Prop where
  /-- Where neither shorthand stands in the text, going through it changes nothing. -/
  unchanged : ¬['\\', 'd'] <:+: s → ¬['\\', 'w'] <:+: s → asciiShorthands 0 s = s
  /-- So it does not matter whether it is gone through. -/
  agrees : asciiConstraint s = asciiShorthands 0 s
  /-- Cutting up loses nothing. -/
  whole : (pieces s).flatMap Piece.text = s
  /-- Of the pieces only `\d` and `\w` are replaced. All others are kept, in their order. -/
  piecewise : asciiConstraint s = (rewritePieces 0 (pieces s)).flatMap Piece.text
  /-- The pieces stay pieces. -/
  recut : pieces (asciiConstraint s) = rewritePieces 0 (pieces s)
  /-- No shorthand is left. -/
  gone : ∀ p ∈ pieces (asciiConstraint s), ¬p.IsShorthand
  /-- To do it again changes nothing. -/
  again : asciiConstraint (asciiConstraint s) = asciiConstraint s

/-- **Every constraint is rewritten piece by piece, once and for all.** -/
theorem rewritesPiecewise (s : List Char) : RewritesPiecewise s := by
  have hpieces : pieces (asciiConstraint s) = rewritePieces 0 (pieces s) := by
    rw [asciiConstraint_eq, pieces_asciiShorthands]
  have hgone : ∀ p ∈ pieces (asciiConstraint s), ¬p.IsShorthand := by
    rw [hpieces]
    exact fun p => not_isShorthand_of_mem_rewritePieces
  refine {
    unchanged := fun hd hw => asciiShorthands_of_not_mentionsShorthand ?_ 0
    agrees := asciiConstraint_eq s
    whole := flatMap_text_pieces s
    piecewise := by rw [asciiConstraint_eq, asciiShorthands_eq]
    recut := hpieces
    gone := hgone
    again := by
      rw [asciiConstraint_eq (asciiConstraint s), asciiShorthands_of_not_isShorthand hgone] }
  rw [Bool.eq_false_iff, Ne, mentionsShorthand_iff]
  exact fun h => h.elim hd hw

/-- What is mentioned need not be a shorthand. The `\` of this one is escaped. -/
example : mentionsShorthand "\\\\d".toList = true ∧
    asciiConstraint "\\\\d".toList = "\\\\d".toList := by decide

end UriRouter.Pattern
