import UriRouter.Regex.Matching
import UriRouter.Proofs.Regex.Names

/-!
# What a match goes through

A match is a way through the expression: it consumes what the sets on it allow, passes assertions
that hold, and notes where groups begin and end. How many copies a repetition asks for at least is
left aside here, and so is which of several ways is preferred.

* `Runs` : a way through an expression from one place to another, with the marks it leaves;
* `Knows` : what is known further ahead speaks of such ways only;
* `search_sound`, `atPlace_sound` : so does what is found at a place;
* `isMatch_of_findIn` : what is found in a text is a way through the expression.
-/

set_option autoImplicit false

namespace UriRouter.Regex

/-- The place after the next character. -/
def Place.next? (p : Place) : Option Place :=
  match p.rest with
  | [] => none
  | x :: rest => some ⟨some x, rest⟩

/-- The mark where a group begins or ends, if it has a name. -/
def marksAt (name : Option String) (begins : Bool) (p : Place) : List Mark :=
  match name with
  | none => []
  | some n => [⟨n, begins, p.rest⟩]

/-- A way through an expression from one place to another, and the marks on it. -/
inductive Runs : Expr → Place → List Mark → Place → Prop where
  | empty (p : Place) : Runs .empty p [] p
  | chars {set : CharSet} {p q : Place} (hs : p.isBefore set) (hq : p.next? = some q) :
      Runs (.chars set) p [] q
  | assertion {a : Assertion} {p : Place} (ha : a.holds p) : Runs (.assertion a) p [] p
  | concat {a b : Expr} {p q r : Place} {m m' : List Mark} (ha : Runs a p m q)
      (hb : Runs b q m' r) : Runs (.concat a b) p (m ++ m') r
  | left {a b : Expr} {p q : Place} {m : List Mark} (ha : Runs a p m q) :
      Runs (.alternative a b) p m q
  | right {a b : Expr} {p q : Place} {m : List Mark} (hb : Runs b p m q) :
      Runs (.alternative a b) p m q
  | group {name : Option String} {e : Expr} {p q : Place} {m : List Mark} (he : Runs e p m q) :
      Runs (.group name e) p (marksAt name true p ++ m ++ marksAt name false q) q
  | leave (min : Nat) (max : Option Nat) (greedy : Bool) (e : Expr) (p : Place) :
      Runs (.repetition min max greedy e) p [] p
  | copy {min n : Nat} {greedy : Bool} {e : Expr} {p q r : Place} {m m' : List Mark}
      (he : Runs e p m q) (hr : Runs (.repetition min (some n) greedy e) q m' r) :
      Runs (.repetition min (some (n + 1)) greedy e) p (m ++ m') r
  | again {min : Nat} {greedy : Bool} {e : Expr} {p q r : Place} {m m' : List Mark}
      (he : Runs e p m q) (hr : Runs (.repetition min none greedy e) q m' r) :
      Runs (.repetition min none greedy e) p (m ++ m') r

namespace Runs

variable {e : Expr} {p q : Place} {m : List Mark}

/-- A way consumes a piece of the text. -/
theorem rest_eq (h : Runs e p m q) : ∃ s, p.rest = s ++ q.rest := by
  induction h with
  | empty | assertion | leave => exact ⟨[], rfl⟩
  | @chars set p q hs hq =>
    unfold Place.next? at hq
    split at hq
    · cases hq
    · rename_i x rest hr
      cases hq
      exact ⟨[x], hr⟩
  | concat _ _ iha ihb | copy _ _ iha ihb | again _ _ iha ihb =>
    obtain ⟨s, hs⟩ := iha
    obtain ⟨t, ht⟩ := ihb
    exact ⟨s ++ t, by rw [hs, ht, List.append_assoc]⟩
  | left _ ih | right _ ih | group _ ih => exact ih

theorem mem_marksAt {name : Option String} {begins : Bool} {p : Place} {mark : Mark}
    (h : mark ∈ marksAt name begins p) : mark.name ∈ name.toList := by
  cases name with
  | none => cases h
  | some n =>
    obtain rfl := List.mem_singleton.1 h
    simp

/-- The marks on a way are those of groups in the expression. -/
theorem name_mem (h : Runs e p m q) : ∀ mark ∈ m, mark.name ∈ e.names := by
  induction h with
  | empty | chars | assertion | leave =>
    intro mark hm
    cases hm
  | concat _ _ iha ihb =>
    intro mark hm
    rcases List.mem_append.1 hm with hm | hm
    · exact List.mem_append_left _ (iha mark hm)
    · exact List.mem_append_right _ (ihb mark hm)
  | left _ ih => exact fun mark hm => List.mem_append_left _ (ih mark hm)
  | right _ ih => exact fun mark hm => List.mem_append_right _ (ih mark hm)
  | group _ ih =>
    intro mark hm
    rcases List.mem_append.1 hm with hm | hm
    · rcases List.mem_append.1 hm with hm | hm
      · exact List.mem_append_left _ (mem_marksAt hm)
      · exact List.mem_append_right _ (ih mark hm)
    · exact List.mem_append_left _ (mem_marksAt hm)
  | copy _ _ ihe ihr | again _ _ ihe ihr =>
    intro mark hm
    rcases List.mem_append.1 hm with hm | hm
    · exact ihe mark hm
    · exact ihr mark hm

end Runs

/-! ## Answers that speak of ways -/

/-- What may follow at a place: the marks that are left from there on. -/
abbrev Onward := Place → List Mark → Prop

/-- A way through an expression and then on. -/
def Onward.through (e : Expr) (k : Onward) : Onward := fun p m =>
  ∃ m₁ m₂ q, Runs e p m₁ q ∧ k q m₂ ∧ m = m₁ ++ m₂

/-- The end of a group and then on. -/
def Onward.ending (name : Option String) (k : Onward) : Onward := fun p m =>
  ∃ m', k p m' ∧ m = marksAt name false p ++ m'

/-- An answer at a place speaks of what follows there. -/
def Answer.Tells (k : Onward) (p : Place) (answer : Answer) : Prop := ∀ m, answer = some m → k p m

namespace Answer.Tells

variable {k k' : Onward} {p : Place} {a b : Answer}

theorem none (k : Onward) (p : Place) : Answer.Tells k p none := fun _ h => by cases h

theorem imp (h : Answer.Tells k p a) (hk : ∀ m, k p m → k' p m) : Answer.Tells k' p a :=
  fun m hm => hk m (h m hm)

theorem or (ha : Answer.Tells k p a) (hb : Answer.Tells k p b) : Answer.Tells k p (a.or b) := by
  intro m hm
  rcases Option.or_eq_some_iff.1 hm with hm | ⟨-, hm⟩
  · exact ha m hm
  · exact hb m hm

theorem prefer (first : Bool) (ha : Answer.Tells k p a) (hb : Answer.Tells k p b) :
    Answer.Tells k p (.prefer first a b) := by
  cases first
  · exact hb.or ha
  · exact ha.or hb

theorem ite (c : Prop) [Decidable c] (ha : c → Answer.Tells k p a) (hb : Answer.Tells k p b) :
    Answer.Tells k p (if c then a else b) := by
  split
  · rename_i hc
    exact ha hc
  · exact hb

theorem noting (name : Option String) (begins : Bool) (h : Answer.Tells k p a)
    (hk : ∀ m, k p m → k' p (marksAt name begins p ++ m)) :
    Answer.Tells k' p (a.noting name begins p) := by
  intro m hm
  cases name with
  | none => exact hk m (h m hm)
  | some n =>
    obtain ⟨m', hm', rfl⟩ := Option.map_eq_some_iff.1 hm
    exact hk m' (h m' hm')

end Answer.Tells

/-! ## What is known further ahead -/

/-- What copies know, where `k n` may follow a copy that `n` more come after. -/
def KnowsCopies {α : Type} (knows : Onward → α → Prop) (k : Nat → Onward) : List α → Prop
  | [] => True
  | c :: cs => knows (k cs.length) c ∧ KnowsCopies knows k cs

/-- What may follow copies of which at most `n` more come, or any number where there is no
bound. -/
def Onward.copies (min : Nat) (max : Option Nat) (greedy : Bool) (e : Expr) (k : Onward) (n : Nat) :
    Onward :=
  .through (.repetition min (max.map fun _ => n) greedy e) k

/-- What is known after each set of an expression speaks of the ways on from there, where `k` may
follow the expression. The place is the one after the next character; where there is none, nothing
is known. -/
def Knows (p : Option Place) : (e : Expr) → Onward → Ahead e → Prop
  | .empty, _, _ => True
  | .chars _, k, c => ∀ m : List Mark, c = some m → ∃ q, p = some q ∧ k q m
  | .assertion _, _, _ => True
  | .concat a b, k, c => Knows p a (.through b k) c.1 ∧ Knows p b k c.2
  | .alternative a b, k, c => Knows p a k c.1 ∧ Knows p b k c.2
  | .group name e, k, c => Knows p e (.ending name k) c
  | .repetition min max greedy e, k, c =>
    (∀ n, max = some n → List.length c = n) ∧
      KnowsCopies (Knows p e) (.copies min max greedy e k) c

variable {p : Place} {e : Expr} {k : Onward} {min : Nat} {max : Option Nat} {greedy : Bool}

/-- Copies may be left at any time. -/
theorem Onward.copies_of_leave {m : List Mark} (n : Nat) (h : k p m) :
    Onward.copies min max greedy e k n p m :=
  ⟨[], m, p, .leave _ _ _ _ _, h, rfl⟩

/-- After a copy there is one copy less to come. -/
theorem Onward.copies_succ {m : List Mark} {n : Nat}
    (h : Onward.through e (.copies min max greedy e k n) p m) :
    Onward.copies min max greedy e k (n + 1) p m := by
  obtain ⟨m₁, m', q, hr, ⟨m₂, m₃, q', hr', hk, rfl⟩, rfl⟩ := h
  refine ⟨m₁ ++ m₂, m₃, q', ?_, hk, (List.append_assoc _ _ _).symm⟩
  cases max with
  | none => exact .again hr hr'
  | some => exact .copy hr hr'

/-- At the end of the text nothing is known. -/
theorem knows_dead (e : Expr) (k : Onward) : Knows none e k (.dead e) := by
  induction e generalizing k with
  | empty | assertion => exact trivial
  | chars =>
    intro m hm
    cases hm
  | concat a b iha ihb => exact ⟨iha _, ihb _⟩
  | alternative a b iha ihb => exact ⟨iha _, ihb _⟩
  | group name e ih => exact ih _
  | repetition min max greedy e ih =>
    refine ⟨?_, ?_⟩
    · rintro n rfl
      exact List.length_replicate
    · show KnowsCopies (Knows none e) _ (List.replicate (copies min max) (.dead e))
      generalize copies min max = n
      induction n with
      | zero => exact trivial
      | succ n ihn => exact ⟨ih _, ihn⟩

/-! ## Searches -/

/-- Whatever points were passed, a search at a place speaks of what follows there. -/
def Search.Tells (k : Onward) (p : Place) (s : Search) : Prop :=
  ∀ passed, Answer.Tells k p (s passed).1

namespace Search.Tells

variable {k' : Onward} {s t : Search}

theorem found {a : Answer} (h : a.Tells k p) : (Search.found a).Tells k p := fun _ => h

theorem dead (k : Onward) (p : Place) : Search.dead.Tells k p := found (.none k p)

theorem imp (h : s.Tells k p) (hk : ∀ m, k p m → k' p m) : s.Tells k' p :=
  fun passed => (h passed).imp hk

theorem pass (point : Nat) (h : s.Tells k p) : (s.pass point).Tells k p := by
  intro passed
  unfold Search.pass
  split
  · exact .none k p
  · exact h _

theorem orElse (hs : s.Tells k p) (ht : t.Tells k p) : (s.orElse t).Tells k p := by
  intro passed m hm
  unfold Search.orElse at hm
  split at hm
  · rename_i marks passed' hp
    exact hs passed m (by rw [hp]; exact hm)
  · exact ht _ m hm

theorem prefer (first : Bool) (hs : s.Tells k p) (ht : t.Tells k p) :
    (Search.prefer first s t).Tells k p := by
  cases first
  · exact ht.orElse hs
  · exact hs.orElse ht

theorem given (c : Bool) (h : c = true → s.Tells k p) : (Search.given c s).Tells k p := by
  cases c
  · exact dead k p
  · exact h rfl

theorem noting (name : Option String) (begins : Bool) (h : s.Tells k p)
    (hk : ∀ m, k p m → k' p (marksAt name begins p ++ m)) :
    (s.noting name begins p).Tells k' p :=
  fun passed => (h passed).noting name begins hk

end Search.Tells

section

variable {α : Type} {knows knows' : Onward → α → Prop} {k : Nat → Onward}
  {body : α → Nat → Search → Search} {leave : Search}

theorem searchCopies_tells (greedy : Bool)
    (hbody : ∀ k' c point s, knows k' c → s.Tells k' p → (body c point s).Tells (.through e k') p)
    (hstep : ∀ n m, Onward.through e (k n) p m → k (n + 1) p m) (hleave : ∀ n, leave.Tells (k n) p)
    (size : Nat) (cs : List α) (hcs : KnowsCopies knows k cs) (min point : Nat) :
    (searchCopies body greedy size leave min cs point).Tells (k cs.length) p := by
  induction cs generalizing min point with
  | nil =>
    rw [searchCopies]
    exact hleave 0
  | cons c cs ih =>
    obtain ⟨hc, hcs⟩ := hcs
    have hcopy : ∀ min point', (body c point
        (searchCopies body greedy size leave min cs point')).Tells (k (cs.length + 1)) p :=
      fun min point' => (hbody _ c point _ hc (ih hcs min point')).imp (hstep _)
    cases min with
    | zero => exact .prefer greedy (hcopy 0 _) (hleave _)
    | succ min => exact hcopy min _

theorem length_lookBackCopies (lookBack : α → Nat → Search → α) (size : Nat) (cs : List α)
    (min point : Nat) :
    (lookBackCopies body lookBack greedy size leave min cs point).length = cs.length := by
  induction cs generalizing min point with
  | nil => rfl
  | cons c cs ih => exact congrArg (· + 1) (ih _ _)

theorem lookBackCopies_knows {lookBack : α → Nat → Search → α} (greedy : Bool)
    (hbody : ∀ k' c point s, knows k' c → s.Tells k' p → (body c point s).Tells (.through e k') p)
    (hlook : ∀ k' c point s, knows k' c → s.Tells k' p → knows' k' (lookBack c point s))
    (hstep : ∀ n m, Onward.through e (k n) p m → k (n + 1) p m) (hleave : ∀ n, leave.Tells (k n) p)
    (size : Nat) (cs : List α) (hcs : KnowsCopies knows k cs) (min point : Nat) :
    KnowsCopies knows' k (lookBackCopies body lookBack greedy size leave min cs point) := by
  induction cs generalizing min point with
  | nil => exact trivial
  | cons c cs ih =>
    obtain ⟨hc, hcs⟩ := hcs
    refine ⟨?_, ih hcs _ _⟩
    rw [length_lookBackCopies]
    exact hlook _ c point _ hc (searchCopies_tells greedy hbody hstep hleave size cs hcs _ _)

end

section

variable {body : Search → Search} {k' : Onward} {s : Search}

/-- The searches of a loop, where `k'` is what may follow its body: another run, or the way on. -/
theorem endOfBody_tells (consumes greedy : Bool) (min point : Nat)
    (hbody : ∀ s, s.Tells k' p → (body s).Tells k' p) (hs : s.Tells k' p) :
    (endOfBody consumes greedy min point body s).Tells k' p := by
  unfold endOfBody leaveLoop
  have hdead := hbody _ (.dead k' p)
  split
  · exact (hdead.prefer greedy hs).pass point
  · refine ((hdead.pass point).prefer greedy ?_).pass (point + 1)
    split
    · exact hs.pass _
    · exact hs

theorem searchLoop_tells (consumes greedy : Bool) (min point : Nat)
    (hbody : ∀ s, s.Tells k' p → (body s).Tells k' p) (hs : s.Tells k' p) :
    (searchLoop consumes greedy min point body s).Tells k' p := by
  have hagain := endOfBody_tells consumes greedy min point hbody hs
  unfold searchLoop leaveLoop
  split
  · split
    · exact hagain
    · exact hbody _ (.dead k' p)
  · have honce := (hbody _ hagain).pass point
    simp only
    split
    · refine honce.prefer greedy ?_
      split
      · exact hs.pass _
      · exact hs
    · exact honce

end

/-- One character of a set, and then what is known after it. -/
theorem tells_chars {set : CharSet} {c : Answer} (hc : Knows p.next? (.chars set) k c)
    (hs : p.isBefore set = true) : c.Tells (.through (.chars set) k) p := by
  intro m hm
  obtain ⟨q, hq, hk⟩ := hc m hm
  exact ⟨[], m, q, .chars hs hq, hk, rfl⟩

theorem through_group {name : Option String} {m : List Mark}
    (h : Onward.through e (.ending name k) p m) :
    Onward.through (.group name e) k p (marksAt name true p ++ m) := by
  obtain ⟨m₁, m₂, q, hr, ⟨m₃, hk, rfl⟩, rfl⟩ := h
  exact ⟨_, m₃, q, .group hr, hk, by simp only [List.append_assoc]⟩

theorem through_concat {a b : Expr} {m : List Mark} (h : Onward.through a (.through b k) p m) :
    Onward.through (.concat a b) k p m := by
  obtain ⟨m₁, m', q, ha, ⟨m₂, m₃, r, hb, hk, rfl⟩, rfl⟩ := h
  exact ⟨_, m₃, r, .concat ha hb, hk, (List.append_assoc _ _ _).symm⟩

theorem through_left {a b : Expr} {m : List Mark} (h : Onward.through a k p m) :
    Onward.through (.alternative a b) k p m := by
  obtain ⟨m₁, m₂, q, ha, hk, rfl⟩ := h
  exact ⟨m₁, m₂, q, .left ha, hk, rfl⟩

theorem through_right {a b : Expr} {m : List Mark} (h : Onward.through b k p m) :
    Onward.through (.alternative a b) k p m := by
  obtain ⟨m₁, m₂, q, hb, hk, rfl⟩ := h
  exact ⟨m₁, m₂, q, .right hb, hk, rfl⟩

/-- What comes to the same continues where nothing is consumed. -/
theorem through_of_runs {m : List Mark} (hr : Runs e p [] p) (h : k p m) :
    Onward.through e k p m := ⟨[], m, p, hr, h, rfl⟩

/-- **A search speaks of ways through the expression.** -/
theorem search_tells (e : Expr) (c : Ahead e) (point : Nat) (s : Search) (k : Onward)
    (hc : Knows p.next? e k c) (hs : s.Tells k p) : (e.search p c point s).Tells (.through e k) p := by
  induction e generalizing point s k with
  | empty => exact hs.imp fun m => through_of_runs (.empty p)
  | chars set => exact .given _ fun hb => .found (tells_chars hc hb)
  | assertion a => exact .given _ fun ha => hs.imp fun m => through_of_runs (.assertion ha)
  | concat a b iha ihb =>
    exact (iha _ _ _ _ hc.1 (ihb _ _ _ _ hc.2 hs)).imp fun m => through_concat
  | alternative a b iha ihb =>
    exact ((iha _ _ _ _ hc.1 (hs.pass _)).imp fun m => through_left).orElse
      ((ihb _ _ _ _ hc.2 (hs.pass _)).imp fun m => through_right)
  | group name e ih =>
    refine (ih _ _ _ _ hc (hs.noting name false fun m hm => ⟨m, hm, rfl⟩)).noting name true ?_
    exact fun m => through_group
  | repetition min max greedy e ih =>
    obtain ⟨hlen, hcs⟩ := hc
    have hbody : ∀ k' c point s, Knows p.next? e k' c → s.Tells k' p →
        (e.search p c point s).Tells (.through e k') p :=
      fun k' c point s => ih c point s k'
    have hstep : ∀ n m, Onward.through e (.copies min max greedy e k n) p m →
        Onward.copies min max greedy e k (n + 1) p m := fun n m => Onward.copies_succ
    have hleave : ∀ n, s.Tells (.copies min max greedy e k n) p :=
      fun n => hs.imp fun m => Onward.copies_of_leave n
    cases max with
    | some max =>
      have h := searchCopies_tells greedy hbody hstep (fun n => (hleave n).pass point)
        e.points c hcs min (point + 1)
      rw [hlen max rfl] at h
      exact h
    | none =>
      match (c : List (Ahead e)), hcs with
      | [], _ => exact .dead _ _
      | c :: cs, ⟨hc, hcs⟩ =>
        exact searchCopies_tells greedy hbody hstep (fun n => searchLoop_tells _ _ _ _
          (fun s hs => (hbody _ c _ s hc hs).imp (hstep n)) (hleave n)) e.points cs hcs _ _

/-- What is known after each set, seen from the place before, speaks of the ways on from there. -/
theorem lookBack_knows (e : Expr) (c : Ahead e) (point : Nat) (s : Search) (k : Onward)
    (hc : Knows p.next? e k c) (hs : s.Tells k p) : Knows (some p) e k (e.lookBack p c point s) := by
  induction e generalizing point s k with
  | empty | assertion => exact trivial
  | chars set => exact fun m hm => ⟨p, rfl, hs 0 m hm⟩
  | concat a b iha ihb =>
    exact ⟨iha _ _ _ _ hc.1 (search_tells b _ _ _ _ hc.2 hs), ihb _ _ _ _ hc.2 hs⟩
  | alternative a b iha ihb =>
    exact ⟨iha _ _ _ _ hc.1 (hs.pass _), ihb _ _ _ _ hc.2 (hs.pass _)⟩
  | group name e ih => exact ih _ _ _ _ hc (hs.noting name false fun m hm => ⟨m, hm, rfl⟩)
  | repetition min max greedy e ih =>
    obtain ⟨hlen, hcs⟩ := hc
    have hbody : ∀ k' c point s, Knows p.next? e k' c → s.Tells k' p →
        (e.search p c point s).Tells (.through e k') p :=
      fun k' c point s => search_tells e c point s k'
    have hlook : ∀ k' c point s, Knows p.next? e k' c → s.Tells k' p →
        Knows (some p) e k' (e.lookBack p c point s) :=
      fun k' c point s => ih c point s k'
    have hstep : ∀ n m, Onward.through e (.copies min max greedy e k n) p m →
        Onward.copies min max greedy e k (n + 1) p m := fun n m => Onward.copies_succ
    have hleave : ∀ n, s.Tells (.copies min max greedy e k n) p :=
      fun n => hs.imp fun m => Onward.copies_of_leave n
    cases max with
    | some max =>
      refine ⟨fun n hn => ?_, lookBackCopies_knows greedy hbody hlook hstep
        (fun n => (hleave n).pass point) e.points c hcs min (point + 1)⟩
      rw [← hlen n hn]
      exact length_lookBackCopies _ _ _ _ _
    | none =>
      refine ⟨(fun n hn => by cases hn), ?_⟩
      match (c : List (Ahead e)), hcs with
      | [], _ => exact trivial
      | c :: cs, ⟨hc, hcs⟩ =>
        have hrun : ∀ n s, s.Tells (.copies min none greedy e k n) p →
            (e.search p c (point + 3) s).Tells (.copies min none greedy e k n) p :=
          fun n s hs => (hbody _ c _ s hc hs).imp (hstep n)
        refine ⟨hlook _ c _ _ hc (endOfBody_tells _ _ _ _ (hrun _) (hleave _)), ?_⟩
        exact lookBackCopies_knows greedy hbody hlook hstep
          (fun n => searchLoop_tells _ _ _ _ (hrun n) (hleave n)) e.points cs hcs _ _

/-! ## What is found at a place -/

/-- What is found at a place speaks of ways through the expression, and what it tells about the
place before does so too. -/
structure Finding.Tells {α : Type} (knows : Onward → α → Prop) (k k' : Onward) (p : Place)
    (f : Finding α) : Prop where
  answer : f.answer.Tells k' p
  ahead : knows k (f.ahead ())

theorem Finding.Tells.ite {α : Type} {knows : Onward → α → Prop} {k k' : Onward} {f g : Finding α}
    (c : Prop) [Decidable c] (hf : f.Tells knows k k' p) (hg : g.Tells knows k k' p) :
    (if c then f else g).Tells knows k k' p := by
  split
  · exact hf
  · exact hg

section

variable {α : Type} {knows knows' : Onward → α → Prop} {k : Nat → Onward}
  {body : α → Answer → Finding α} {a : Answer}

theorem copiesAt_tells (greedy : Bool)
    (hbody : ∀ k' c a, knows k' c → a.Tells k' p → (body c a).Tells knows' k' (.through e k') p)
    (hstep : ∀ n m, Onward.through e (k n) p m → k (n + 1) p m) (hleave : ∀ n, a.Tells (k n) p)
    (min : Nat) (cs : List α) (hcs : KnowsCopies knows k cs) :
    (copiesAt body greedy a min cs).answer.Tells (k cs.length) p ∧
      KnowsCopies knows' k ((copiesAt body greedy a min cs).ahead ()) ∧
      ((copiesAt body greedy a min cs).ahead ()).length = cs.length := by
  induction cs generalizing min with
  | nil =>
    rw [copiesAt]
    exact ⟨hleave 0, trivial, rfl⟩
  | cons c cs ih =>
    obtain ⟨hc, hcs⟩ := hcs
    obtain ⟨hrest, hknows, hlen⟩ := ih (min - 1) hcs
    have hcopy := hbody _ c _ hc hrest
    have hanswer := hcopy.answer.imp (hstep _)
    refine ⟨?_, ⟨?_, hknows⟩, congrArg (· + 1) hlen⟩
    · exact .ite _ (fun _ => hanswer.prefer greedy (hleave _)) hanswer
    · rw [hlen]
      exact hcopy.ahead

end

section

variable {α : Type} {knows knows' : Onward → α → Prop} {k' : Onward}
  {body : α → Answer → Finding α} {a : Answer}

/-- The same of a loop, where `k'` is what may follow its body: another run, or the way on. -/
theorem loopAt_tells (greedy : Bool)
    (hbody : ∀ k' c a, knows k' c → a.Tells k' p → (body c a).Tells knows' k' (.through e k') p)
    (hstep : ∀ m, Onward.through e k' p m → k' p m) (hleave : a.Tells k' p) (min : Nat)
    (cs : List α) (hcs : KnowsCopies knows (fun _ => k') cs) :
    (loopAt body greedy a min cs).answer.Tells k' p ∧
      KnowsCopies knows' (fun _ => k') ((loopAt body greedy a min cs).ahead ()) := by
  cases cs with
  | nil => exact ⟨.none _ _, trivial⟩
  | cons c cs =>
    obtain ⟨hc, hcs⟩ := hcs
    have honce := (hbody _ c _ hc (.none k' p)).answer.imp hstep
    have hagain := honce.prefer greedy hleave
    obtain ⟨hbefore, hknows, -⟩ := copiesAt_tells greedy hbody
      (fun _ => hstep) (fun _ => .ite (min = 0) (fun _ => hagain) honce) (min - 1) cs hcs
    exact ⟨hbefore, (hbody _ c _ hc hagain).ahead, hknows⟩

end

/-- **What is found at a place speaks of ways through the expression.** -/
theorem atPlace_tells (e : Expr) (c : Ahead e) (a : Answer) (k : Onward)
    (hc : Knows p.next? e k c) (ha : a.Tells k p) :
    (e.atPlace p c a).Tells (Knows (some p) e) k (.through e k) p := by
  induction e generalizing a k with
  | empty => exact ⟨ha.imp fun m => through_of_runs (.empty p), trivial⟩
  | chars set => exact ⟨.ite _ (tells_chars hc) (.none _ _), fun m hm => ⟨p, rfl, ha m hm⟩⟩
  | assertion b =>
    exact ⟨.ite _ (fun hb => ha.imp fun m => through_of_runs (.assertion hb)) (.none _ _), trivial⟩
  | concat a b iha ihb =>
    have hsecond := ihb _ _ _ hc.2 ha
    have hfirst := iha _ _ _ hc.1 hsecond.answer
    exact ⟨hfirst.answer.imp fun m => through_concat, hfirst.ahead, hsecond.ahead⟩
  | alternative a b iha ihb =>
    have hfirst := iha _ _ _ hc.1 ha
    have hsecond := ihb _ _ _ hc.2 ha
    exact ⟨(hfirst.answer.imp fun m => through_left).or (hsecond.answer.imp fun m => through_right),
      hfirst.ahead, hsecond.ahead⟩
  | group name e ih =>
    have hinner := ih _ _ _ hc (ha.noting name false fun m hm => ⟨m, hm, rfl⟩)
    exact ⟨hinner.answer.noting name true fun m => through_group, hinner.ahead⟩
  | repetition min max greedy e ih =>
    have hbody : ∀ k' c a, Knows p.next? e k' c → Answer.Tells k' p a →
        (e.atPlace p c a).Tells (Knows (some p) e) k' (.through e k') p :=
      fun k' c a => ih c a k'
    have hstep : ∀ n m, Onward.through e (.copies min max greedy e k n) p m →
        Onward.copies min max greedy e k (n + 1) p m := fun n m => Onward.copies_succ
    have hleave : ∀ n, Answer.Tells (.copies min max greedy e k n) p a :=
      fun n => ha.imp fun m => Onward.copies_of_leave n
    cases max with
    | some max =>
      obtain ⟨hanswer, hknows, hlen⟩ :=
        copiesAt_tells greedy hbody hstep hleave min c hc.2
      rw [hc.1 max rfl] at hanswer hlen
      refine ⟨hanswer, fun n hn => ?_, hknows⟩
      cases hn
      exact hlen
    | none =>
      refine .ite (e.alwaysConsumes = true) ?_ ?_
      · obtain ⟨hanswer, hknows⟩ := loopAt_tells greedy hbody (hstep 0) (hleave 0) min c hc.2
        exact ⟨hanswer, (fun n hn => by cases hn), hknows⟩
      · exact ⟨search_tells _ c 0 _ k hc (.found ha) 0, lookBack_knows _ c 0 _ k hc (.found ha)⟩

/-! ## Matches -/

/-- Nothing follows a match. -/
def Onward.done : Onward := fun _ m => m = []

/-- At a place nothing but a match is looked for. -/
theorem atPlace_tells_done {ahead : Ahead e} (ha : Knows p.next? e .done ahead) :
    (e.atPlace p ahead (some [])).Tells (Knows (some p) e) .done (.through e .done) p :=
  atPlace_tells e ahead _ _ ha fun _ hm => (Option.some.inj hm).symm

theorem runs_of_atPlace {ahead : Ahead e} {m : List Mark} (ha : Knows p.next? e .done ahead)
    (h : (e.atPlace p ahead (some [])).answer = some m) : ∃ q, Runs e p m q := by
  obtain ⟨m₁, m₂, q, hr, hk, rfl⟩ := (atPlace_tells_done ha).answer m h
  obtain rfl : m₂ = [] := hk
  rw [List.append_nil]
  exact ⟨q, hr⟩

/-- A match of an expression in a text. Where it begins at the start, the whole text is ahead. -/
def IsMatch (e : Expr) (text : List Char) (m : List Mark) : Prop :=
  ∃ p q, (p.before = none → p.rest = text) ∧ Runs e p m q

theorem isMatch_of_findFrom {before rest : List Char} {ahead : Ahead e} {best : Answer}
    {m : List Mark} (ha : ∀ b, Knows (Place.next? ⟨b, rest⟩) e .done ahead)
    (hb : ∀ m, best = some m → IsMatch e (before.reverse ++ rest) m)
    (h : e.findFrom rest ahead best before = some m) : IsMatch e (before.reverse ++ rest) m := by
  induction before generalizing rest ahead best with
  | nil =>
    rw [Expr.findFrom] at h
    rcases Option.or_eq_some_iff.1 h with h | ⟨-, h⟩
    · obtain ⟨q, hr⟩ := runs_of_atPlace (ha none) h
      exact ⟨_, q, fun _ => rfl, hr⟩
    · exact hb m h
  | cons x before ih =>
    have ht : (x :: before).reverse ++ rest = before.reverse ++ x :: rest := by simp
    rw [Expr.findFrom] at h
    rw [ht] at hb ⊢
    refine ih (fun b => (atPlace_tells_done (ha (some x))).ahead) (fun m hm => ?_) h
    rcases Option.or_eq_some_iff.1 hm with hm | ⟨-, hm⟩
    · obtain ⟨q, hr⟩ := runs_of_atPlace (ha (some x)) hm
      exact ⟨_, q, (fun hx => by cases hx), hr⟩
    · exact hb m hm

/-- **What is found in a text is a match.** -/
theorem isMatch_of_findIn {text : List Char} {m : List Mark} (h : e.findIn text = some m) :
    IsMatch e text m := by
  have hd : ∀ b, Knows (Place.next? ⟨b, []⟩) e .done (.dead e) := fun _ => knows_dead e _
  have hm := isMatch_of_findFrom hd (fun m hm => by cases hm) h
  rwa [List.reverse_reverse, List.append_nil] at hm

end UriRouter.Regex
