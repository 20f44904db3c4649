import Mathlib.Data.List.Forall2
import UriRouter.Regex.Matching

/-!
# Expressions that are matched by trying one way after the other

The ways of an expression through a text form a list, in the order of preference. For each
construct that patterns are made of, matching comes to the first way in the list that what follows
lets through.

* `Ways` : such lists, and how they are put together;
* `Follows` : matching an expression comes to trying the ways of a list;
* `findIn_of_follows` : the best match of an expression that is bound to the start of the text.
-/

set_option autoImplicit false

namespace UriRouter.Regex

/-- The ways through the beginning of a text, the preferred one first. Each comes with the marks it
leaves and with the text after it. -/
abbrev Ways := List Char → List (List Mark × List Char)

namespace Ways

/-- The answer of the first way that has one, where `k` gives the answers after it. -/
def answer (w : Ways) (k : List Char → Answer) : List Char → Answer := fun s =>
  (w s).findSome? fun way => (k way.2).map (way.1 ++ ·)

/-- The one way that consumes nothing. -/
def done : Ways := fun s => [([], s)]

/-- The ways that consume one character of a class. -/
def one (p : Char → Bool) : Ways
  | [] => []
  | c :: rest => if p c then [([], rest)] else []

/-- The ways that consume some characters of a class, the longest first. -/
def run (p : Char → Bool) : Ways
  | [] => []
  | c :: rest => if p c then run p rest ++ [([], rest)] else []

/-- The one way that is open at the end of the text. -/
def atEnd : Ways := fun s => if s.isEmpty then [([], s)] else []

/-- The ways that first take a way of `v` and then one of `w`. -/
def andThen (v w : Ways) : Ways := fun s =>
  (v s).flatMap fun x => (w x.2).map fun y => (x.1 ++ y.1, y.2)

/-- The ways of `w`, and then the one that consumes nothing. -/
def orNone (w : Ways) : Ways := fun s => w s ++ [([], s)]

/-- The ways of `w` with marks where they begin and where they end. -/
def noting (name : String) (w : Ways) : Ways := fun s =>
  (w s).map fun x => (⟨name, true, s⟩ :: x.1 ++ [⟨name, false, x.2⟩], x.2)

theorem andThen_done (w : Ways) : w.andThen done = w := by
  funext s
  simp [andThen, done]

theorem answer_done (k : List Char → Answer) : done.answer k = k := by
  funext s
  simp [answer, done]

theorem findSome?_flatMap {α β γ : Type} (l : List α) (f : α → List β) (g : β → Option γ) :
    (l.flatMap f).findSome? g = l.findSome? fun x => (f x).findSome? g := by
  induction l with
  | nil => rfl
  | cons x rest ih =>
    rw [List.flatMap_cons, List.findSome?_append, ih, List.findSome?_cons]
    cases (f x).findSome? g <;> rfl

/-- What follows two ways in a row follows the second, which follows the first. -/
theorem answer_andThen (v w : Ways) (k : List Char → Answer) :
    (v.andThen w).answer k = v.answer (w.answer k) := by
  funext s
  simp only [answer, andThen, findSome?_flatMap, List.findSome?_map, List.map_findSome?]
  congr 1
  funext x
  congr 1
  funext y
  simp [Function.comp_def]

theorem answer_orNone (w : Ways) (k : List Char → Answer) (s : List Char) :
    w.orNone.answer k s = (w.answer k s).or (k s) := by
  simp [answer, orNone, List.findSome?_append]

theorem answer_noting (name : String) (w : Ways) (k : List Char → Answer) (s : List Char) :
    (w.noting name).answer k s =
      (w.answer (fun t => (k t).map (⟨name, false, t⟩ :: ·)) s).map (⟨name, true, s⟩ :: ·) := by
  simp [answer, noting, List.findSome?_map, List.map_findSome?, Function.comp_def]

theorem answer_run_cons (p : Char → Bool) (k : List Char → Answer) (c : Char) (rest : List Char) :
    (run p).answer k (c :: rest) =
      if p c then ((run p).answer k rest).or (k rest) else none := by
  unfold answer
  rw [run]
  split
  · simp [List.findSome?_append]
  · rfl

end Ways

/-! ## Matching by trying ways -/

/-- What is known about the text at a place, from what `known` tells about each rest of it. -/
def aheadOf {e : Expr} (known : List Char → Ahead e) : List Char → Ahead e
  | [] => .dead e
  | _ :: rest => known rest

/-- Matching an expression comes to trying the ways of a list in their order, whatever answers
follow. -/
def Follows (e : Expr) (w : Ways) : Prop :=
  ∀ k : List Char → Answer, ∃ known : List Char → Ahead e, ∀ (before : Option Char) (s : List Char),
    e.atPlace ⟨before, s⟩ (aheadOf known s) (k s) = ⟨w.answer k s, fun _ => known s⟩

theorem follows_empty : Follows .empty .done := fun k =>
  ⟨fun _ => (), fun before s => by rw [Ways.answer_done]; rfl⟩

theorem follows_chars {set : CharSet} {p : Char → Bool} (h : ∀ c, set.mem c = p c) :
    Follows (.chars set) (.one p) := by
  intro k
  refine ⟨k, fun before s => ?_⟩
  cases s with
  | nil => rfl
  | cons c rest =>
    simp only [Expr.atPlace, Place.isBefore, List.head?_cons, Option.any_some, h, aheadOf,
      Ways.answer, Ways.one]
    cases p c <;> simp

theorem follows_textEnd : Follows (.assertion .textEnd) .atEnd := by
  intro k
  refine ⟨fun _ => (), fun before s => ?_⟩
  cases s with
  | nil => simp [Expr.atPlace, Assertion.holds, Ways.answer, Ways.atEnd]; rfl
  | cons c rest => rfl

theorem follows_concat {a b : Expr} {v w : Ways} (ha : Follows a v) (hb : Follows b w) :
    Follows (.concat a b) (v.andThen w) := by
  intro k
  obtain ⟨knownB, hB⟩ := hb k
  obtain ⟨knownA, hA⟩ := ha (w.answer k)
  refine ⟨fun s => (knownA s, knownB s), fun before s => ?_⟩
  have hs : aheadOf (e := .concat a b) (fun s => (knownA s, knownB s)) s =
      (aheadOf knownA s, aheadOf knownB s) := by cases s <;> rfl
  rw [hs]
  simp only [Expr.atPlace, hB, hA, Ways.answer_andThen]

theorem follows_group {e : Expr} {w : Ways} (name : String) (h : Follows e w) :
    Follows (.group (some name) e) (w.noting name) := by
  intro k
  obtain ⟨known, hk⟩ := h fun t => (k t).map (⟨name, false, t⟩ :: ·)
  refine ⟨known, fun before s => ?_⟩
  have hs : aheadOf (e := .group (some name) e) known s = aheadOf known s := by cases s <;> rfl
  simp only [Expr.atPlace, Answer.noting, hs, Ways.answer_noting]
  rw [hk]

theorem follows_section {e : Expr} {w : Ways} (h : Follows e w) :
    Follows (.repetition 0 (some 1) true e) w.orNone := by
  intro k
  obtain ⟨known, hk⟩ := h k
  refine ⟨fun s => [known s], fun before s => ?_⟩
  have hs : aheadOf (e := .repetition 0 (some 1) true e) (fun s => [known s]) s =
      [aheadOf known s] := by cases s <;> rfl
  rw [hs, Ways.answer_orNone]
  simp only [Expr.atPlace, copiesAt, hk]
  rfl

theorem follows_run {set : CharSet} {p : Char → Bool} (hne : set.isEmpty = false)
    (h : ∀ c, set.mem c = p c) : Follows (.repetition 1 none true (.chars set)) (.run p) := by
  intro k
  -- after a character of the set one more may come, and if none does, what follows comes
  let again : List Char → Answer := fun s => ((Ways.run p).answer k s).or (k s)
  refine ⟨fun s => [again s], fun before s => ?_⟩
  have hc : (Expr.chars set).alwaysConsumes = true := by
    simp [Expr.alwaysConsumes, Expr.minLength?, hne]
  have hs : aheadOf (e := .repetition 1 none true (.chars set)) (fun s => [again s]) s =
      [aheadOf (e := .chars set) again s] := by cases s <;> rfl
  have honce : (if Place.isBefore ⟨before, s⟩ set then aheadOf (e := .chars set) again s else none) =
      (Ways.run p).answer k s := by
    cases s with
    | nil => rfl
    | cons c rest =>
      simp only [Place.isBefore, List.head?_cons, Option.any_some, h, aheadOf,
        Ways.answer_run_cons, again]
      rfl
  rw [hs]
  simp only [Expr.atPlace, hc, ↓reduceIte, loopAt, copiesAt]
  exact congrArg (fun once => Finding.mk once fun _ => [Answer.prefer true once (k s)]) honce

theorem follows_ofMembers {es : List Expr} {ws : List Ways} (h : List.Forall₂ Follows es ws) :
    Follows (.ofMembers es) (ws.foldr .andThen .done) := by
  induction h with
  | nil => exact follows_empty
  | @cons e w es ws he hes ih =>
    cases hes with
    | nil =>
      simp only [List.foldr_cons, List.foldr_nil, Ways.andThen_done]
      exact he
    | cons _ _ => exact follows_concat he ih

/-! ## Finding the best match -/

/-- Looking for a match from the end of the text to its start ends with what is found at the start,
if nothing is found elsewhere. -/
theorem findFrom_of_bound {e : Expr} {answer : List Char → Answer} {known : List Char → Ahead e}
    (hk : ∀ (before : Option Char) (s : List Char),
      e.atPlace ⟨before, s⟩ (aheadOf known s) (some []) =
        ⟨if before.isNone then answer s else none, fun _ => known s⟩) :
    ∀ (before rest : List Char),
      e.findFrom rest (aheadOf known rest) none before = answer (before.reverse ++ rest)
  | [], rest => by
    rw [Expr.findFrom, hk]
    simp
  | x :: before, rest => by
    have ih := findFrom_of_bound hk before (x :: rest)
    rw [Expr.findFrom, hk]
    simpa [aheadOf] using ih

/-- An expression that is bound to the start of the text matches by its first way, if it has one. -/
theorem findIn_of_follows {e : Expr} {w : Ways} (h : Follows e w) (text : List Char) :
    Expr.findIn (.concat (.assertion .textStart) e) text = ((w text).head?).map (·.1) := by
  obtain ⟨known, hk⟩ := h fun _ => some []
  let bound : List Char → Ahead (.concat (.assertion .textStart) e) := fun s => ((), known s)
  have hbound : ∀ (before : Option Char) (s : List Char),
      Expr.atPlace ⟨before, s⟩ (.concat (.assertion .textStart) e) (aheadOf bound s) (some []) =
        ⟨if before.isNone then w.answer (fun _ => some []) s else none, fun _ => bound s⟩ := by
    intro before s
    have hs : aheadOf bound s = ((), aheadOf known s) := by cases s <;> rfl
    rw [hs]
    simp only [Expr.atPlace, hk, Assertion.holds, bound]
  have hf := findFrom_of_bound hbound text.reverse []
  rw [List.reverse_reverse, List.append_nil] at hf
  refine Eq.trans hf ?_
  cases hw : w text with
  | nil => simp [Ways.answer, hw]
  | cons x rest => simp [Ways.answer, hw]

end UriRouter.Regex
