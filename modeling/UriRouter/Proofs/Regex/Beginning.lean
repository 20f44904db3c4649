import UriRouter.Proofs.Regex.SplicedReader

/-!
# Texts with a common beginning

Two texts begin alike and go on with different tails. A tail begins with a sign that carries no
construct on and does not end a comment. What the reader makes of the common beginning is then the
same before every tail, if it gets through it before one of them.

* `IsTail` : what may follow the beginning;
* `Passes` : what a reader leaves of the beginning, whatever the tail is;
* `ReaderState.leads_of_readFrom` : where the reader stands when it comes to the tail.
-/

set_option autoImplicit false

namespace UriRouter.Regex

open UriRouter.Text

/-! ## Beginnings and tails -/

/-- A text that may follow the beginning. -/
structure IsTail (t : List Char) : Prop where
  head : ∃ c u, t = c :: u ∧ (c = '/' ∨ c = '$')
  line : '\n' ∉ t

/-- No backslash stands at the end without the character that it escapes. -/
inductive Whole : List Char → Prop
  | nil : Whole []
  | char {c : Char} {v : List Char} : c ≠ '\\' → Whole v → Whole (c :: v)
  | pair {c : Char} {v : List Char} : Whole v → Whole ('\\' :: c :: v)

theorem Whole.append {s t : List Char} (hs : Whole s) (ht : Whole t) : Whole (s ++ t) := by
  induction hs with
  | nil => exact ht
  | char hc _ ih => exact .char hc ih
  | pair _ ih => exact .pair ih

/-- A sign that is no backslash leaves no backslash alone before it. -/
theorem whole_append_char {c : Char} (hc : c ≠ '\\') : ∀ s : List Char, Whole (s ++ [c])
  | [] => .char hc .nil
  | ['\\'] => .pair .nil
  | '\\' :: d :: s => .pair (whole_append_char hc s)
  | d :: s => by
    by_cases hd : d = '\\'
    · subst hd
      cases s with
      | nil => exact .pair .nil
      | cons e s => exact .pair (whole_append_char hc s)
    · exact .char hd (whole_append_char hc s)

/-- What is left of a text with a tail: some of the beginning, and the tail; or nothing, if a
comment has taken all along. -/
def onward (k : Option (List Char)) (t : List Char) : List Char :=
  match k with
  | some v => v ++ t
  | none => []

/-- Before every tail, `P` leads from what `k` leaves of the text to what `k'` leaves of it. -/
structure Passes (k k' : Option (List Char)) (P : List Char → List Char → Prop) : Prop where
  whole : ∀ v ∈ k', Whole v
  passes : ∀ t, IsTail t → P (onward k t) (onward k' t)
  suffix : ∀ t, onward k' t <:+ onward k t

section

variable {k k₁ k₂ : Option (List Char)} {P Q : List Char → List Char → Prop} {t r v : List Char}

theorem Whole.of_cons {c : Char} (h : Whole (c :: v)) (hc : c ≠ '\\') : Whole v := by
  cases h with
  | char _ h => exact h
  | pair => exact absurd rfl hc

theorem Passes.refl (h : ∀ v ∈ k, Whole v) : Passes k k Eq :=
  ⟨h, fun _ _ => rfl, fun _ => List.suffix_refl _⟩

theorem Passes.trans (h : Passes k k₁ P) (h' : Passes k₁ k₂ Q) :
    Passes k k₂ fun s s₂ => ∃ s₁, P s s₁ ∧ Q s₁ s₂ :=
  ⟨h'.whole, fun t ht => ⟨_, h.passes t ht, h'.passes t ht⟩,
    fun t => (h'.suffix t).trans (h.suffix t)⟩

theorem Passes.imp (h : Passes k k₁ P) (hQ : ∀ s s', P s s' → Q s s') : Passes k k₁ Q :=
  ⟨h.whole, fun t ht => hQ _ _ (h.passes t ht), h.suffix⟩

/-- A reader that gets through the beginning leaves the same before each tail. -/
theorem Passes.eq_onward {α : Type} {f : List Char → Option (α × List Char)} {x x' : α}
    (h : Passes k k₁ fun s s' => f s = some (x, s')) (ht : IsTail t)
    (hf : f (onward k t) = some (x', r)) : r = onward k₁ t := by
  rw [h.passes t ht] at hf
  cases hf
  rfl

theorem IsTail.ne_cons (ht : IsTail t) {c : Char} (hc : c ≠ '/' ∧ c ≠ '$') (u : List Char) :
    t ≠ c :: u := by
  obtain ⟨d, w, rfl, hd⟩ := ht.head
  intro he
  cases he
  rcases hd with rfl | rfl
  · exact hc.1 rfl
  · exact hc.2 rfl

theorem IsTail.ne_nil (ht : IsTail t) : t ≠ [] := by
  obtain ⟨c, u, rfl, -⟩ := ht.head
  exact List.cons_ne_nil c u

/-- Any sign but those that begin a tail is one of the beginning. -/
theorem onward_eq_cons (ht : IsTail t) {c : Char} (hc : c ≠ '/' ∧ c ≠ '$')
    (h : onward k t = c :: r) : ∃ v, k = some (c :: v) ∧ r = v ++ t := by
  cases k with
  | none => cases h
  | some v =>
    cases v with
    | nil => exact absurd h (ht.ne_cons hc r)
    | cons d v =>
      cases h
      exact ⟨v, rfl, rfl⟩

theorem passes_char {c : Char} (h : Whole (c :: v)) (hc : c ≠ '\\') :
    Passes (some (c :: v)) (some v) fun s s' => s = c :: s' where
  whole := by
    rintro _ ⟨⟩
    exact h.of_cons hc
  passes _ _ := rfl
  suffix _ := List.suffix_cons _ _

/-- A reader that sees a sign which is not the beginning of a tail goes on after it. -/
theorem passes_of_onward_eq_cons (hk : ∀ v ∈ k, Whole v) (ht : IsTail t) {c : Char}
    (hc : c ≠ '/' ∧ c ≠ '$' ∧ c ≠ '\\') (h : onward k t = c :: r) :
    ∃ k₁, r = onward k₁ t ∧ Passes k k₁ fun s s' => s = c :: s' := by
  obtain ⟨v, rfl, rfl⟩ := onward_eq_cons ht ⟨hc.1, hc.2.1⟩ h
  exact ⟨some v, rfl, passes_char (hk _ rfl) hc.2.2⟩

/-- Before one tail the text goes on with such a sign just where it does before another. -/
theorem onward_ne_cons {c : Char} (hc : c ≠ '/' ∧ c ≠ '$')
    (h : ∀ u, onward k t ≠ c :: u) {t' : List Char} (ht' : IsTail t') (u : List Char) :
    onward k t' ≠ c :: u := by
  intro he
  obtain ⟨v, rfl, -⟩ := onward_eq_cons ht' hc he
  exact h _ rfl

/-! ## Blanks, and characters that are read through a filter -/

theorem passes_skipBlanksFrom (h : Whole v) : ∀ inComment : Bool,
    ∃ k₁, Passes (some v) k₁ fun s s' => skipBlanksFrom inComment s = s' := by
  induction h with
  | nil =>
    intro inComment
    cases inComment with
    | true =>
      refine ⟨none, (by simp), fun t ht => ?_, fun t => List.nil_suffix⟩
      have hskip := skipBlanksFrom_comment ht.line []
      rwa [List.append_nil] at hskip
    | false =>
      refine ⟨some [], fun v hv => by cases hv; exact .nil, fun t ht => ?_, fun t => List.suffix_refl _⟩
      obtain ⟨c, u, rfl, rfl | rfl⟩ := ht.head <;> rfl
  | @char c v hc h ih =>
    intro inComment
    have hchar := passes_char (.char hc h) hc
    by_cases hi : inComment
    · obtain ⟨k₁, hk₁⟩ := ih (c != '\n')
      refine ⟨k₁, (hchar.trans hk₁).imp ?_⟩
      rintro s s' ⟨u, rfl, hu⟩
      rw [skipBlanksFrom, if_pos hi, hu]
    · by_cases hb : isBlank c
      · obtain ⟨k₁, hk₁⟩ := ih false
        refine ⟨k₁, (hchar.trans hk₁).imp ?_⟩
        rintro s s' ⟨u, rfl, hu⟩
        rw [skipBlanksFrom, if_neg hi, if_pos hb, hu]
      · by_cases hm : c == '#'
        · obtain ⟨k₁, hk₁⟩ := ih true
          refine ⟨k₁, (hchar.trans hk₁).imp ?_⟩
          rintro s s' ⟨u, rfl, hu⟩
          rw [skipBlanksFrom, if_neg hi, if_neg hb, if_pos hm, hu]
        · refine ⟨some (c :: v), ?_, fun t _ => ?_, fun t => List.suffix_refl _⟩
          · rintro _ ⟨⟩
            exact .char hc h
          · rw [onward, List.cons_append, skipBlanksFrom, if_neg hi, if_neg hb, if_neg hm]
  | @pair c v h ih =>
    intro inComment
    cases inComment with
    | true =>
      obtain ⟨k₁, hk₁⟩ := ih (c != '\n')
      exact ⟨k₁, hk₁.whole, hk₁.passes, fun t => (hk₁.suffix t).trans
        ((List.suffix_cons c _).trans (List.suffix_cons '\\' _))⟩
    | false =>
      refine ⟨some ('\\' :: c :: v), ?_, fun t _ => rfl, fun t => List.suffix_refl _⟩
      rintro _ ⟨⟩
      exact .pair h

theorem passes_skipBlanks (hk : ∀ v ∈ k, Whole v) (verbose : Bool) :
    ∃ k₁, Passes k k₁ fun s s' => skipBlanks verbose s = s' := by
  cases verbose with
  | false => exact ⟨k, .refl hk⟩
  | true =>
    cases k with
    | none => exact ⟨none, hk, fun _ _ => rfl, fun _ => List.suffix_refl _⟩
    | some v => exact passes_skipBlanksFrom (hk v rfl) false

theorem passes_dropBlanks (hk : ∀ v ∈ k, Whole v) :
    ∃ k₁, Passes k k₁ fun s s' => s.dropWhile isBlank = s' := by
  cases k with
  | none => exact ⟨none, hk, fun _ _ => rfl, fun _ => List.suffix_refl _⟩
  | some v =>
    have hv := hk v rfl
    clear hk
    induction v with
    | nil =>
      refine ⟨some [], fun _ h => by cases h; exact .nil, fun t ht => ?_, fun _ => List.suffix_refl _⟩
      obtain ⟨c, u, rfl, rfl | rfl⟩ := ht.head <;> rfl
    | cons c v ih =>
      by_cases hb : isBlank c
      · have hc : c ≠ '\\' := by
          rintro rfl
          exact absurd hb (by decide)
        obtain ⟨k₁, hk₁⟩ := ih (hv.of_cons hc)
        refine ⟨k₁, ((passes_char hv hc).trans hk₁).imp ?_⟩
        rintro s s' ⟨u, rfl, hu⟩
        rw [List.dropWhile_cons, if_pos hb, hu]
      · refine ⟨some (c :: v), fun _ h => by cases h; exact hv, fun t _ => ?_,
          fun _ => List.suffix_refl _⟩
        rw [onward, List.cons_append, List.dropWhile_cons, if_neg hb]

/-- A filter that lets neither a backslash through nor the signs that begin a tail stops before
the tail at the latest. -/
def IsFilter (wanted : Char → Bool) : Prop :=
  wanted '\\' = false ∧ wanted '/' = false ∧ wanted '$' = false

/-- Whether the next sign is let through is the same before every tail. -/
theorem IsFilter.next {wanted : Char → Bool} (hw : IsFilter wanted) (ht : IsTail t) {c : Char}
    (h : onward k t = c :: r) {t' : List Char} (ht' : IsTail t') :
    ∃ c' r', onward k t' = c' :: r' ∧ wanted c' = wanted c := by
  have htail {t : List Char} (ht : IsTail t) : ∃ c r, t = c :: r ∧ wanted c = false := by
    obtain ⟨c, r, rfl, rfl | rfl⟩ := ht.head
    · exact ⟨_, r, rfl, hw.2.1⟩
    · exact ⟨_, r, rfl, hw.2.2⟩
  cases k with
  | none => cases h
  | some v =>
    cases v with
    | nil =>
      obtain ⟨d, u, rfl, hd⟩ := htail ht
      cases h
      obtain ⟨d', u', rfl, hd'⟩ := htail ht'
      exact ⟨d', u', rfl, hd'.trans hd.symm⟩
    | cons d v =>
      cases h
      exact ⟨c, v ++ t', rfl, rfl⟩

theorem passes_readFiltered (verbose : Bool) {wanted : Char → Bool} (hw : IsFilter wanted)
    (hk : ∀ v ∈ k, Whole v) (inComment : Bool) :
    ∃ run k₁, Passes k k₁ fun s s' => readFiltered verbose wanted inComment s = (run, s') := by
  cases k with
  | none => exact ⟨[], none, hk, fun _ _ => rfl, fun _ => List.suffix_refl _⟩
  | some v =>
    have hv := hk v rfl
    clear hk
    induction hv generalizing inComment with
    | nil =>
      cases inComment with
      | true =>
        refine ⟨[], none, (by simp), fun t ht => ?_, fun t => List.nil_suffix⟩
        have hread : readFiltered verbose wanted true (t ++ []) = ([], []) :=
          readFiltered_comment ht.line []
        rwa [List.append_nil] at hread
      | false =>
        refine ⟨[], some [], fun v hv => by cases hv; exact .nil, fun t ht => ?_,
          fun t => List.suffix_refl _⟩
        obtain ⟨c, u, rfl, rfl | rfl⟩ := ht.head
        · exact readFiltered_stop hw.2.1 (by decide) (by decide) u
        · exact readFiltered_stop hw.2.2 (by decide) (by decide) u
    | @char c v hc h ih =>
      rcases readFiltered_cons verbose wanted inComment c with ⟨next, f, hcons⟩ | hend
      · obtain ⟨run, k₁, hk₁⟩ := ih next
        refine ⟨f run, k₁, ((passes_char (.char hc h) hc).trans hk₁).imp ?_⟩
        rintro s s' ⟨u, rfl, hu⟩
        rw [hcons, hu]
      · refine ⟨[], some (c :: v), ?_, fun t _ => hend _, fun _ => List.suffix_refl _⟩
        rintro _ ⟨⟩
        exact .char hc h
    | @pair c v h ih =>
      cases inComment with
      | true =>
        obtain ⟨run, k₁, hk₁⟩ := ih (c != '\n')
        exact ⟨run, k₁, hk₁.whole, hk₁.passes, fun t => (hk₁.suffix t).trans
          ((List.suffix_cons c _).trans (List.suffix_cons '\\' _))⟩
      | false =>
        refine ⟨[], some ('\\' :: c :: v), ?_, fun t _ => ?_, fun t => List.suffix_refl _⟩
        · rintro _ ⟨⟩
          exact .pair h
        · exact readFiltered_stop hw.1 (by decide) (by decide) _

/-! ## Escapes -/

theorem passes_hexDigits {verbose : Bool} {c : Char} : ∀ (n value : Nat)
    {k : Option (List Char)} {t r : List Char}, (∀ v ∈ k, Whole v) → IsTail t →
    readHexChar.go verbose n value (onward k t) = some (c, r) →
    ∃ k₁, Passes k k₁ fun s s' => readHexChar.go verbose n value s = some (c, s')
  | 0, value, k, t, r, hk, ht, h => by
    rw [readHexChar.go] at h
    obtain ⟨x, hx, he⟩ := Option.map_eq_some_iff.1 h
    obtain ⟨rfl, -⟩ := Prod.mk.inj he
    refine ⟨k, (Passes.refl hk).imp ?_⟩
    rintro s s' rfl
    rw [readHexChar.go, hx]
    rfl
  | n + 1, value, k, t, r, hk, ht, h => by
    cases hs : onward k t with
    | nil =>
      rw [hs, readHexChar.go] at h
      cases h
    | cons d rest =>
      rw [hs, readHexChar.go] at h
      split at h
      · rename_i x hx
        have hd : d ≠ '/' ∧ d ≠ '$' ∧ d ≠ '\\' := by
          refine ⟨?_, ?_, ?_⟩ <;> · rintro rfl; cases hx
        obtain ⟨k₁, rfl, h₁⟩ := passes_of_onward_eq_cons hk ht hd hs
        obtain ⟨k₂, h₂⟩ := passes_skipBlanks h₁.whole verbose
        rw [h₂.passes t ht] at h
        obtain ⟨k₃, h₃⟩ := passes_hexDigits n _ h₂.whole ht h
        refine ⟨k₃, ((h₁.trans h₂).trans h₃).imp ?_⟩
        rintro s s' ⟨_, ⟨u, rfl, rfl⟩, hu⟩
        rw [readHexChar.go, hx]
        exact hu
      · cases h

theorem passes_readHexChar {verbose : Bool} {n : Nat} {c : Char} (hk : ∀ v ∈ k, Whole v)
    (ht : IsTail t) (h : readHexChar verbose (n + 1) (onward k t) = some (c, r)) :
    ∃ k₁, Passes k k₁ fun s s' => readHexChar verbose (n + 1) s = some (c, s') := by
  obtain ⟨k₁, h₁⟩ := passes_skipBlanks hk verbose
  unfold readHexChar at h
  rw [h₁.passes t ht] at h
  split at h
  · rename_i s₁ hs
    obtain ⟨k₂, rfl, h₂⟩ := passes_of_onward_eq_cons h₁.whole ht (by decide) hs
    obtain ⟨k₃, h₃⟩ := passes_skipBlanks h₂.whole verbose
    have hfilter : IsFilter fun c => (hexDigit? c).isSome := ⟨by decide, by decide, by decide⟩
    obtain ⟨run, k₄, h₄⟩ := passes_readFiltered verbose hfilter h₃.whole false
    rw [h₃.passes t ht, h₄.passes t ht] at h
    split at h
    · cases h
    · rename_i digits s₂ hrun he
      obtain ⟨rfl, hs₂⟩ := Prod.mk.inj he
      obtain ⟨x, hx, he⟩ := Option.map_eq_some_iff.1 h
      obtain ⟨rfl, -⟩ := Prod.mk.inj he
      obtain ⟨k₅, -, h₅⟩ := passes_of_onward_eq_cons h₄.whole ht (by decide) hs₂
      obtain ⟨k₆, h₆⟩ := passes_skipBlanks h₅.whole verbose
      refine ⟨k₆, (((((h₁.trans h₂).trans h₃).trans h₄).trans h₅).trans h₆).imp ?_⟩
      rintro s s' ⟨_, ⟨_, ⟨_, ⟨_, ⟨_, hs, rfl⟩, rfl⟩, hu⟩, rfl⟩, rfl⟩
      unfold readHexChar
      simp only [hs, hu, hx]
      rfl
    · cases h
  · rename_i hs
    obtain ⟨k₂, h₂⟩ := passes_hexDigits (n + 1) 0 h₁.whole ht h
    refine ⟨k₂, h₂.whole, fun t' ht' => ?_, fun t' => (h₂.suffix t').trans (h₁.suffix t')⟩
    have hno := onward_ne_cons (c := '\x7b') (by decide) hs ht'
    unfold readHexChar
    rw [h₁.passes t' ht']
    split
    · rename_i he
      exact absurd he (hno _)
    · exact h₂.passes t' ht'

theorem passes_readBoundary {verbose : Bool} {a : Atom} (hk : ∀ v ∈ k, Whole v)
    (ht : IsTail t) (h : readBoundary verbose (onward k t) = some (a, r)) :
    ∃ k₁, Passes k k₁ fun s s' => readBoundary verbose s = some (a, s') := by
  unfold readBoundary at h
  split at h
  · rename_i s₁ hs
    obtain ⟨k₁, rfl, h₁⟩ := passes_of_onward_eq_cons hk ht (by decide) hs
    obtain ⟨k₂, h₂⟩ := passes_skipBlanks h₁.whole verbose
    have h₁₂ := h₁.trans h₂
    rw [h₂.passes t ht] at h
    have hfilter : IsFilter readBoundary.isNameChar := ⟨by decide, by decide, by decide⟩
    split at h
    · cases h
    · rename_i c inside hc
      split at h
      · rename_i hn
        obtain ⟨run, k₃, h₃⟩ := passes_readFiltered verbose hfilter h₂.whole false
        rw [← hc, h₃.passes t ht] at h
        split at h
        · rename_i name s₂ he
          obtain ⟨rfl, hs₂⟩ := Prod.mk.inj he
          obtain ⟨x, hx, he⟩ := Option.map_eq_some_iff.1 h
          obtain ⟨rfl, -⟩ := Prod.mk.inj he
          obtain ⟨k₄, -, h₄⟩ := passes_of_onward_eq_cons h₃.whole ht (by decide) hs₂
          have hall := (h₁₂.trans h₃).trans h₄
          refine ⟨k₄, hall.whole, fun t' ht' => ?_, hall.suffix⟩
          obtain ⟨c', inside', hc', hn'⟩ := hfilter.next ht hc ht'
          rw [hn] at hn'
          unfold readBoundary
          rw [h₁.passes t' ht']
          simp only [h₂.passes t' ht', hc', hn']
          simp only [← hc', h₃.passes t' ht', h₄.passes t' ht', hx]
          rfl
        · cases h
      · rename_i hn
        obtain ⟨rfl, -⟩ := Prod.mk.inj (Option.some.inj h)
        -- braces of another kind are left where they are
        refine ⟨k, hk, fun t' ht' => ?_, fun _ => List.suffix_refl _⟩
        obtain ⟨c', inside', hc', hn'⟩ := hfilter.next ht hc ht'
        rw [Bool.eq_false_iff.2 hn] at hn'
        unfold readBoundary
        rw [h₁.passes t' ht']
        simp only [h₂.passes t' ht', hc', hn']
        rfl
  · rename_i hs
    obtain ⟨rfl, -⟩ := Prod.mk.inj (Option.some.inj h)
    refine ⟨k, hk, fun t' ht' => ?_, fun _ => List.suffix_refl _⟩
    have hno := onward_ne_cons (c := '\x7b') (by decide) hs ht'
    unfold readBoundary
    split
    · rename_i he
      exact absurd he (hno _)
    · rfl

/-- The name of a property ends before the tail. -/
theorem passes_readProperty [PropertyTable] {verbose ignoreCase negated : Bool} {a : Atom}
    (hk : ∀ v ∈ k, Whole v) (ht : IsTail t)
    (h : readProperty verbose ignoreCase negated (onward k t) = some (a, r)) :
    ∃ k₁, Passes k k₁ fun s s' => readProperty verbose ignoreCase negated s = some (a, s') := by
  obtain ⟨k₁, h₁⟩ := passes_skipBlanks hk verbose
  unfold readProperty at h
  rw [h₁.passes t ht] at h
  split at h
  · cases h
  · rename_i s₁ hs
    obtain ⟨k₂, rfl, h₂⟩ := passes_of_onward_eq_cons h₁.whole ht (by decide) hs
    have hfilter : IsFilter (isPropertyChar verbose) := by
      cases verbose <;> exact ⟨by decide, by decide, by decide⟩
    obtain ⟨run, k₃, h₃⟩ := passes_readFiltered verbose hfilter h₂.whole false
    rw [h₃.passes t ht] at h
    split at h
    · rename_i name s₂ he
      obtain ⟨rfl, hs₂⟩ := Prod.mk.inj he
      obtain ⟨x, hx, he⟩ := Option.map_eq_some_iff.1 h
      obtain ⟨rfl, -⟩ := Prod.mk.inj he
      obtain ⟨k₄, -, h₄⟩ := passes_of_onward_eq_cons h₃.whole ht (by decide) hs₂
      refine ⟨k₄, (((h₁.trans h₂).trans h₃).trans h₄).imp ?_⟩
      rintro s s' ⟨_, ⟨_, ⟨_, hs, rfl⟩, hrun⟩, rfl⟩
      simp only [readProperty, hs, hrun, hx]
      rfl
    · cases h
  · rename_i c s₁ _ hs
    split at h
    · rename_i hc
      obtain ⟨x, hx, he⟩ := Option.map_eq_some_iff.1 h
      obtain ⟨rfl, -⟩ := Prod.mk.inj he
      have hsign : c ≠ '/' ∧ c ≠ '$' ∧ c ≠ '\\' := by
        refine ⟨?_, ?_, ?_⟩ <;> · rintro rfl; exact absurd hc (by decide)
      obtain ⟨k₂, -, h₂⟩ := passes_of_onward_eq_cons h₁.whole ht hsign hs
      obtain ⟨k₃, h₃⟩ := passes_skipBlanks h₂.whole verbose
      refine ⟨k₃, ((h₁.trans h₂).trans h₃).imp ?_⟩
      rintro s s' ⟨_, ⟨_, hs, rfl⟩, rfl⟩
      rw [readProperty_letter hs hc, hx]
      rfl
    · cases h

theorem passes_readEscape [PropertyTable] {shorthands : Shorthands} {verbose ignoreCase : Bool}
    {c : Char} {a : Atom} (hk : ∀ v ∈ k, Whole v) (ht : IsTail t)
    (h : readEscape shorthands verbose ignoreCase (c :: onward k t) = some (a, r)) :
    ∃ k₁, Passes k k₁ fun s s' =>
      readEscape shorthands verbose ignoreCase (c :: s) = some (a, s') := by
  simp only [readEscape] at h ⊢
  split at h
  · cases h
    refine ⟨k, (Passes.refl hk).imp ?_⟩
    rintro s s' rfl
    rfl
  · split at h
    · obtain ⟨⟨d, r'⟩, hd, he⟩ := Option.map_eq_some_iff.1 h
      obtain ⟨rfl, -⟩ := Prod.mk.inj he
      obtain ⟨k₁, h₁⟩ := passes_readHexChar hk ht hd
      exact ⟨k₁, h₁.imp fun s s' hs => by rw [hs]; rfl⟩
    · obtain ⟨⟨d, r'⟩, hd, he⟩ := Option.map_eq_some_iff.1 h
      obtain ⟨rfl, -⟩ := Prod.mk.inj he
      obtain ⟨k₁, h₁⟩ := passes_readHexChar hk ht hd
      exact ⟨k₁, h₁.imp fun s s' hs => by rw [hs]; rfl⟩
    · obtain ⟨⟨d, r'⟩, hd, he⟩ := Option.map_eq_some_iff.1 h
      obtain ⟨rfl, -⟩ := Prod.mk.inj he
      obtain ⟨k₁, h₁⟩ := passes_readHexChar hk ht hd
      exact ⟨k₁, h₁.imp fun s s' hs => by rw [hs]; rfl⟩
    · exact passes_readBoundary hk ht h
    · exact passes_readProperty hk ht h
    · exact passes_readProperty hk ht h
    · obtain ⟨x, hx, he⟩ := Option.map_eq_some_iff.1 h
      obtain ⟨rfl, -⟩ := Prod.mk.inj he
      refine ⟨k, (Passes.refl hk).imp ?_⟩
      rintro s s' rfl
      rw [hx]
      rfl

/-! ## Brackets -/

/-- A character that neither has a meaning of its own in a bracket nor is a blank. -/
def IsMember (c : Char) : Prop :=
  c ≠ '\\' ∧ isBlank c = false ∧ c ∉ ['[', ']', '&', '-', '~', '#']

instance (c : Char) : Decidable (IsMember c) := inferInstanceAs (Decidable (_ ∧ _))

/-- A tail that closes no bracket, wherever it is read. -/
structure IsPlainTail (t : List Char) : Prop extends IsTail t where
  members : ∀ c ∈ t, IsMember c

theorem passes_pastMark (hk : ∀ v ∈ k, Whole v) (ht : IsTail t) :
    ∃ k₁, Passes k k₁ fun s s' => pastMark s = s' := by
  obtain ⟨k₁, h₁⟩ := passes_dropBlanks hk
  by_cases hm : ∃ u, onward k₁ t = '#' :: u
  · obtain ⟨u, hu⟩ := hm
    obtain ⟨k₂, -, h₂⟩ := passes_of_onward_eq_cons h₁.whole ht (by decide) hu
    obtain ⟨k₃, h₃⟩ := passes_dropBlanks h₂.whole
    refine ⟨k₃, ((h₁.trans h₂).trans h₃).imp ?_⟩
    rintro s s' ⟨_, ⟨_, hs, rfl⟩, rfl⟩
    simp [pastMark, hs]
  · refine ⟨k₁, h₁.whole, fun t' ht' => ?_, h₁.suffix⟩
    have hno := onward_ne_cons (c := '#') (by decide) (fun u hu => hm ⟨u, hu⟩) ht'
    have hs := h₁.passes t' ht'
    rw [pastMark, hs, if_neg]
    intro hhead
    obtain ⟨u, hu⟩ := List.head?_eq_some_iff.1 hhead
    exact hno u hu

/-- What `peekPast` looks for is seen before every tail, or before none. -/
theorem peekPast_onward (hk : ∀ v ∈ k, Whole v) (ht : IsTail t) {t' : List Char} (ht' : IsTail t')
    (verbose : Bool) {d : Char} (hd : d = ']' ∨ d = '-') :
    peekPast verbose (onward k t') = some d ↔ peekPast verbose (onward k t) = some d := by
  have hedge : d ≠ '/' ∧ d ≠ '$' := by
    rcases hd with rfl | rfl <;> decide
  have hhead (k : Option (List Char)) :
      (onward k t').head? = some d ↔ (onward k t).head? = some d := by
    simp only [List.head?_eq_some_iff]
    constructor
    · rintro ⟨u, hu⟩
      obtain ⟨v, rfl, -⟩ := onward_eq_cons ht' hedge hu
      exact ⟨_, rfl⟩
    · rintro ⟨u, hu⟩
      obtain ⟨v, rfl, -⟩ := onward_eq_cons ht hedge hu
      exact ⟨_, rfl⟩
  cases verbose with
  | false => exact hhead k
  | true =>
    have hb : isBlank d = false := by
      rcases hd with rfl | rfl <;> rfl
    have hm : d ≠ '#' := by
      rcases hd with rfl | rfl <;> decide
    obtain ⟨k₁, h₁⟩ := passes_pastMark hk ht
    rw [peekPast_true, peekPast_true, head?_pastMark hb hm, head?_pastMark hb hm,
      h₁.passes t ht, h₁.passes t' ht', hhead]

theorem passes_openBracket (verbose : Bool) (hk : ∀ v ∈ k, Whole v) (ht : IsTail t) :
    ∃ bracket k₁, Passes k k₁ fun s s' => openBracket verbose s = (bracket, s') := by
  obtain ⟨negated, k₁, h₁⟩ : ∃ negated k₁,
      Passes k k₁ fun s s' => readNegation verbose s = (negated, s') := by
    obtain ⟨k₁, h₁⟩ := passes_skipBlanks hk verbose
    by_cases hn : ∃ u, onward k₁ t = '^' :: u
    · obtain ⟨u, hu⟩ := hn
      obtain ⟨k₂, -, h₂⟩ := passes_of_onward_eq_cons h₁.whole ht (by decide) hu
      refine ⟨true, k₂, (h₁.trans h₂).imp ?_⟩
      rintro s s' ⟨_, hs, rfl⟩
      simp only [readNegation, hs]
    · refine ⟨false, k₁, h₁.whole, fun t' ht' => ?_, h₁.suffix⟩
      have hno := onward_ne_cons (c := '^') (by decide) (fun u hu => hn ⟨u, hu⟩) ht'
      unfold readNegation
      rw [h₁.passes t' ht']
      split
      · rename_i he
        exact absurd he (hno _)
      · rfl
  have hfilter : IsFilter (· == '-') := ⟨by decide, by decide, by decide⟩
  obtain ⟨run, k₂, h₂⟩ := passes_readFiltered verbose hfilter h₁.whole false
  have hall := (h₁.trans h₂).imp (Q := fun s s' => readDashes verbose false
      ⟨(readNegation verbose s).1, [], none⟩ (readNegation verbose s).2 =
        (run.foldl (fun b c => b.push (.plain (.single c))) ⟨negated, [], none⟩, s')) (by
    rintro s s' ⟨_, hs, hrun⟩
    rw [hs, readDashes_eq, hrun])
  generalize run.foldl (fun (b : OpenBracket) c => b.push (.plain (.single c))) ⟨negated, [], none⟩ =
    bracket at hall
  by_cases hclose : bracket.parts = [] ∧ ∃ u, onward k₂ t = ']' :: u
  · obtain ⟨hparts, u, hu⟩ := hclose
    obtain ⟨k₃, -, h₃⟩ := passes_of_onward_eq_cons h₂.whole ht (by decide) hu
    obtain ⟨negated', parts, outer⟩ := bracket
    cases hparts
    refine ⟨⟨negated', [.plain (.single ']')], outer⟩, k₃, (hall.trans h₃).imp ?_⟩
    rintro s s' ⟨_, hs, rfl⟩
    simp only [openBracket_eq, hs]
  · refine ⟨bracket, k₂, h₂.whole, fun t' ht' => ?_, hall.suffix⟩
    rw [openBracket_eq, hall.passes t' ht']
    split
    · rename_i he
      obtain ⟨hb, hu⟩ := Prod.mk.inj he
      have hno := onward_ne_cons (k := k₂) (c := ']') (by decide)
        (fun u hu => hclose ⟨by rw [hb], u, hu⟩) ht'
      exact absurd hu (hno _)
    · rename_i he
      exact he.symm

/-- What begins no tail is not found in one. -/
theorem append_of_onward {p : List Char} (ht : IsTail t) (hp : ∀ c ∈ p, c ≠ '/' ∧ c ≠ '$')
    (h : v ++ t = p ++ r) : ∃ w, v = p ++ w ∧ r = w ++ t := by
  rcases List.append_eq_append_iff.1 h with ⟨w, rfl, hw⟩ | ⟨w, rfl, hw⟩
  · cases w with
    | nil => exact ⟨[], by simp, by simpa using hw.symm⟩
    | cons c w =>
      rw [List.cons_append] at hw
      exact absurd hw (ht.ne_cons (hp c (by simp)) _)
  · exact ⟨w, rfl, hw⟩

/-- The signs that make a named class are those of its name and the few around it. -/
theorem readPosix_signs {ignoreCase : Bool} {set : CharSet}
    (h : readPosix ignoreCase v = some (set, [])) : ∀ c ∈ v, c ≠ '/' ∧ c ≠ '$' ∧ c ≠ '\\' := by
  have hname {name : String} {set : CharSet} (h : CharSet.posix? name = some set) :
      ∀ c ∈ name.toList, c ≠ '/' ∧ c ≠ '$' ∧ c ≠ '\\' := by
    have hall : ∀ l : List Char, (l.all fun c => decide (c ≠ '/' ∧ c ≠ '$' ∧ c ≠ '\\')) = true →
        ∀ c ∈ l, c ≠ '/' ∧ c ≠ '$' ∧ c ≠ '\\' := by simp
    unfold CharSet.posix? at h
    split at h
    all_goals first
      | exact hall _ (by decide)
      | cases h
  by_cases hv : ∃ s, v = ':' :: s
  · obtain ⟨s, rfl⟩ := hv
    rw [readPosix_cons] at h
    split at h
    · rename_i u hu
      obtain ⟨y, hy, he⟩ := Option.map_eq_some_iff.1 h
      obtain ⟨-, rfl⟩ := Prod.mk.inj he
      have hsigns := hname hy
      rw [String.toList_ofList] at hsigns
      have hs : s = (if (classNegation s).1 then ['^'] else []) ++
          ((classNegation s).2.takeWhile (· != ':') ++ [':', ']']) := by
        rw [← hu, List.takeWhile_append_dropWhile, ← append_classNegation]
      rw [hs]
      refine List.forall_mem_cons.2 ⟨by decide, List.forall_mem_append.2 ⟨fun c hc => ?_,
        List.forall_mem_append.2 ⟨hsigns, by simp⟩⟩⟩
      split at hc
      · rw [List.mem_singleton.1 hc]
        decide
      · cases hc
    · cases h
  · unfold readPosix at h
    split at h
    · rename_i s
      exact absurd ⟨s, rfl⟩ hv
    · cases h

theorem passes_readPosix {ignoreCase : Bool} {set : CharSet} (hk : ∀ v ∈ k, Whole v)
    (ht : IsTail t) (h : readPosix ignoreCase (onward k t) = some (set, r)) :
    ∃ k₁, Passes k k₁ fun s s' => readPosix ignoreCase s = some (set, s') := by
  obtain ⟨p, hp, -, hread⟩ := readPosix_some h
  have hsigns := readPosix_signs (by simpa using hread [])
  cases k with
  | none =>
    rw [onward] at h
    cases h
  | some v =>
    obtain ⟨w, rfl, rfl⟩ := append_of_onward ht (fun c hc => ⟨(hsigns c hc).1, (hsigns c hc).2.1⟩) hp
    refine ⟨some w, ?_, fun t' _ => ?_, fun t' => ?_⟩
    · rintro _ ⟨⟩
      have hw := hk _ rfl
      clear hk hread hp h
      induction p with
      | nil => exact hw
      | cons c p ih =>
        obtain ⟨hc, hs⟩ := List.forall_mem_cons.1 hsigns
        exact ih hs (hw.of_cons hc.2.2)
    · rw [onward, List.append_assoc]
      exact hread _
    · rw [onward, onward, List.append_assoc]
      exact List.suffix_append p _

theorem readPosix_onward_eq_none {ignoreCase : Bool} (hk : ∀ v ∈ k, Whole v) (ht : IsTail t)
    (h : readPosix ignoreCase (onward k t) = none) {t' : List Char} (ht' : IsTail t') :
    readPosix ignoreCase (onward k t') = none := by
  refine Option.eq_none_iff_forall_ne_some.2 fun x hx => ?_
  obtain ⟨k₁, h₁⟩ := passes_readPosix hk ht' hx
  rw [h₁.passes t ht] at h
  cases h

/-- What is a part of the bracket before one tail is a part before every tail. -/
theorem BeginsPart.onward (h : BeginsPart (onward k t)) {t' : List Char}
    (ht' : IsTail t') : BeginsPart (onward k t') := by
  have htwice {c : Char} (hc : c ≠ '/' ∧ c ≠ '$') (hne : ∀ u, Regex.onward k t ≠ c :: c :: u)
      (u : List Char) : Regex.onward k t' ≠ c :: c :: u := by
    intro he
    obtain ⟨v, rfl, hu⟩ := onward_eq_cons ht' hc he
    obtain ⟨w, hw, -⟩ := onward_eq_cons (k := some v) ht' hc hu.symm
    cases hw
    exact hne _ rfl
  exact {
    ne_nil := by
      cases k with
      | none => exact absurd rfl h.ne_nil
      | some v => exact List.append_ne_nil_of_right_ne_nil v ht'.ne_nil
    ne_open := onward_ne_cons (by decide) h.ne_open ht'
    ne_close := onward_ne_cons (by decide) h.ne_close ht'
    ne_and := htwice (by decide) h.ne_and
    ne_minus := htwice (by decide) h.ne_minus
    ne_tilde := htwice (by decide) h.ne_tilde }

section

variable [PropertyTable]

/-- No bracket is closed in such a text. -/
theorem readBracketFrom_members {verbose ignoreCase : Bool} {s : List Char}
    (h : ∀ c ∈ s, IsMember c) (n : Nat) (bracket : OpenBracket) (outer : List OpenBracket) :
    readBracketFrom .unicode verbose ignoreCase n bracket outer s = none := by
  induction s generalizing n bracket with
  | nil => exact readBracketFrom_nil n bracket outer
  | cons c s ih =>
    obtain ⟨⟨hne, hb, hmem⟩, hs⟩ := List.forall_mem_cons.1 h
    cases n with
    | zero => rfl
    | succ n =>
      have hrange : readRange .unicode verbose ignoreCase (c :: s) = some (.single c, s) := by
        rw [readRange_eq, readMember_char hne]
        cases s with
        | nil => cases verbose <;> rfl
        | cons d s =>
          obtain ⟨-, hb', hmem'⟩ := hs d List.mem_cons_self
          simp only [List.mem_cons, not_or] at hmem'
          obtain ⟨-, -, -, hminus, -, hmark, -⟩ := hmem'
          have hskip : skipBlanks verbose (d :: s) = d :: s := by
            cases verbose with
            | false => rfl
            | true => exact skipBlanksFrom_stop hb' hmark s
          show rangeFrom .unicode verbose ignoreCase (.char c) (skipBlanks verbose (d :: s)) = _
          rw [hskip]
          unfold rangeFrom
          split
          · rename_i he
            cases he
            exact absurd rfl hminus
          · rfl
      rw [readBracketFrom_part verbose ignoreCase hmem hb hrange]
      exact ih hs n _

/-- A member of a bracket is read from the beginning, unless the tail has been reached. -/
theorem passes_readMember {verbose ignoreCase : Bool} {a : Atom} (hk : ∀ v ∈ k, Whole v)
    (ht : IsTail t) (h : readMember .unicode verbose ignoreCase (onward k t) = some (a, r)) :
    (∃ k₁, Passes k k₁ fun s s' => readMember .unicode verbose ignoreCase s = some (a, s') ∧
        s'.length < s.length) ∨
      k = some [] ∧ r <:+ t := by
  cases k with
  | none => cases h
  | some v =>
    have hv := hk v rfl
    cases hv with
    | nil =>
      obtain ⟨c, u, rfl, hc⟩ := ht.head
      have hne : c ≠ '\\' := by
        rcases hc with rfl | rfl <;> decide
      rw [onward, List.nil_append, readMember_char hne] at h
      cases h
      exact .inr ⟨rfl, List.suffix_cons _ _⟩
    | @char c v hc hv =>
      rw [onward, List.cons_append, readMember_char hc] at h
      cases h
      refine .inl ⟨some v, (passes_char (.char hc hv) hc).imp ?_⟩
      rintro s s' rfl
      exact ⟨readMember_char hc s', Nat.lt_succ_self _⟩
    | @pair c v hv =>
      have hv' : ∀ w ∈ some v, Whole w := by
        rintro _ ⟨⟩
        exact hv
      obtain ⟨k₁, h₁⟩ := passes_readEscape (k := some v) hv' ht h
      refine .inl ⟨k₁, h₁.whole, fun t' ht' => ⟨h₁.passes t' ht', ?_⟩, fun t => (h₁.suffix t).trans
        ((List.suffix_cons c _).trans (List.suffix_cons '\\' _))⟩
      exact Nat.lt_succ_of_lt (Nat.lt_succ_of_le (h₁.suffix t').length_le)

theorem passes_rangeFrom {verbose ignoreCase : Bool} {first : Atom} {set : CharSet}
    (hk : ∀ v ∈ k, Whole v) (ht : IsTail t)
    (h : rangeFrom .unicode verbose ignoreCase first (onward k t) = some (set, r)) :
    (∃ k₁, Passes k k₁ fun s s' =>
      rangeFrom .unicode verbose ignoreCase first s = some (set, s')) ∨ r <:+ t := by
  unfold rangeFrom at h
  split at h
  · rename_i after hs
    obtain ⟨k₁, rfl, h₁⟩ := passes_of_onward_eq_cons hk ht (by decide) hs
    have hpeek {t' : List Char} (ht' : IsTail t') {d : Char} (hd : d = ']' ∨ d = '-') :=
      peekPast_onward h₁.whole ht ht' verbose hd
    split at h
    · rename_i hp
      obtain ⟨x, hx, he⟩ := Option.map_eq_some_iff.1 h
      obtain ⟨rfl, -⟩ := Prod.mk.inj he
      refine .inl ⟨k, hk, fun t' ht' => ?_, fun _ => List.suffix_refl _⟩
      simp only [h₁.passes t' ht', rangeFrom, hpeek ht' (.inl rfl), hpeek ht' (.inr rfl), hx, hp]
      rfl
    · rename_i hp
      split at h
      · rename_i c d r' hm
        split at h
        · rename_i hle
          obtain ⟨rfl, rfl⟩ := Prod.mk.inj (Option.some.inj h)
          obtain ⟨k₂, h₂⟩ := passes_skipBlanks h₁.whole verbose
          rw [h₂.passes t ht] at hm
          refine (passes_readMember h₂.whole ht hm).imp ?_ And.right
          rintro ⟨k₃, h₃⟩
          have hall := (h₁.trans h₂).trans h₃
          refine ⟨k₃, hall.whole, fun t' ht' => ?_, hall.suffix⟩
          simp only [h₁.passes t' ht', rangeFrom, hpeek ht' (.inl rfl), hpeek ht' (.inr rfl), hp,
            h₂.passes t' ht', (h₃.passes t' ht').1, hle]
          rfl
        · cases h
      · cases h
  · rename_i hno
    obtain ⟨x, hx, he⟩ := Option.map_eq_some_iff.1 h
    obtain ⟨rfl, -⟩ := Prod.mk.inj he
    refine .inl ⟨k, hk, fun t' ht' => ?_, fun _ => List.suffix_refl _⟩
    unfold rangeFrom
    split
    · rename_i he
      exact absurd he (onward_ne_cons (by decide) hno ht' _)
    · rw [hx]
      rfl

/-- A part of a bracket is read from the beginning, unless it reaches into the tail. -/
theorem passes_readRange {verbose ignoreCase : Bool} {set : CharSet} (hk : ∀ v ∈ k, Whole v)
    (ht : IsPlainTail t) (h : readRange .unicode verbose ignoreCase (onward k t) = some (set, r)) :
    (∃ k₁, Passes k k₁ fun s s' => readRange .unicode verbose ignoreCase s = some (set, s') ∧
      s'.length < s.length) ∨ r <:+ t := by
  rw [readRange_eq] at h
  obtain ⟨⟨a, r₁⟩, hm, hf⟩ := Option.bind_eq_some_iff.1 h
  rcases passes_readMember hk ht.toIsTail hm with ⟨k₁, h₁⟩ | ⟨rfl, hsuf⟩
  · obtain rfl := (h₁.imp fun _ _ => And.left).eq_onward ht.toIsTail hm
    obtain ⟨k₂, h₂⟩ := passes_skipBlanks h₁.whole verbose
    simp only [h₂.passes t ht.toIsTail] at hf
    refine (passes_rangeFrom h₂.whole ht.toIsTail hf).imp_left ?_
    rintro ⟨k₃, h₃⟩
    have hall := (h₁.trans h₂).trans h₃
    refine ⟨k₃, hall.whole, fun t' ht' => ⟨?_, ?_⟩, hall.suffix⟩
    · rw [readRange_eq, (h₁.passes t' ht').1, Option.bind_some, h₂.passes t' ht']
      exact h₃.passes t' ht'
    · have hlt := (h₁.passes t' ht').2
      have hle := ((h₃.suffix t').trans (h₂.suffix t')).length_le
      omega
  · right
    -- no minus in the tail makes a range
    have hsuf' : skipBlanks verbose r₁ <:+ t := (skipBlanks_suffix verbose r₁).trans hsuf
    unfold rangeFrom at hf
    split at hf
    · rename_i after hs
      have hmem := hsuf'.subset (hs ▸ List.mem_cons_self)
      exact absurd (ht.members _ hmem).2.2 (by decide)
    · obtain ⟨x, -, he⟩ := Option.map_eq_some_iff.1 hf
      obtain ⟨-, rfl⟩ := Prod.mk.inj he
      exact hsuf'

variable {verbose ignoreCase : Bool} {bracket : OpenBracket} {outer : List OpenBracket}
  {x : ClassPart}

/-- The bracket is closed, whatever the fuel is, if there is enough. -/
def ClosesAs (verbose ignoreCase : Bool) (bracket : OpenBracket) (outer : List OpenBracket)
    (x : ClassPart) (s r : List Char) : Prop :=
  ∀ m, s.length < m → readBracketFrom .unicode verbose ignoreCase m bracket outer s = some (x, r)

/-- A turn leaves less of the text, and comes to reading what is left. -/
def TurnsInto (verbose ignoreCase : Bool) (bracket : OpenBracket) (outer : List OpenBracket)
    (bracket' : OpenBracket) (outer' : List OpenBracket) (s s' : List Char) : Prop :=
  s'.length < s.length ∧ ∀ m,
    readBracketFrom .unicode verbose ignoreCase (m + 1) bracket outer s =
      readBracketFrom .unicode verbose ignoreCase m bracket' outer' s'

theorem TurnsInto.closesAs {bracket' : OpenBracket} {outer' : List OpenBracket}
    {s s' r : List Char} (h : TurnsInto verbose ignoreCase bracket outer bracket' outer' s s')
    (h' : ClosesAs verbose ignoreCase bracket' outer' x s' r) :
    ClosesAs verbose ignoreCase bracket outer x s r := by
  intro m hm
  obtain ⟨hlt, hturn⟩ := h
  obtain ⟨m, rfl⟩ : ∃ j, m = j + 1 := ⟨m - 1, by omega⟩
  rw [hturn]
  exact h' m (by omega)

/-- Before each tail an operator stands between the parts of the bracket. -/
theorem passes_operator {c : Char} {op : SetOperator}
    (hop : c = '&' ∧ op = .intersection ∨ c = '-' ∧ op = .difference ∨
      c = '~' ∧ op = .symmetricDifference)
    (hk : ∀ v ∈ k, Whole v) (ht : IsTail t) (h : skipBlanks verbose (onward k t) = c :: c :: r) :
    ∃ k₁, r = onward k₁ t ∧ Passes k k₁ (TurnsInto verbose ignoreCase bracket outer
      (bracket.operator ignoreCase op) outer) := by
  obtain ⟨k₁, h₁⟩ := passes_skipBlanks hk verbose
  rw [h₁.passes t ht] at h
  have hc : c ≠ '/' ∧ c ≠ '$' ∧ c ≠ '\\' := by
    rcases hop with ⟨rfl, -⟩ | ⟨rfl, -⟩ | ⟨rfl, -⟩ <;> decide
  obtain ⟨k₂, hk₂, h₂⟩ := passes_of_onward_eq_cons h₁.whole ht hc h
  obtain ⟨k₃, rfl, h₃⟩ := passes_of_onward_eq_cons h₂.whole ht hc hk₂.symm
  refine ⟨k₃, rfl, ((h₁.trans h₂).trans h₃).imp ?_⟩
  rintro s s' ⟨_, ⟨_, hs, rfl⟩, rfl⟩
  refine ⟨(suffix_of_skipBlanks (p := [c, c]) (by simp) hs).2, fun m => ?_⟩
  rcases hop with ⟨rfl, rfl⟩ | ⟨rfl, rfl⟩ | ⟨rfl, rfl⟩ <;>
  · rw [readBracketFrom, hs]
    rfl

/-- **The rest of a bracket** that is closed before one plain tail is closed before every tail, in the
same way. -/
theorem passes_readBracketFrom (ht : IsPlainTail t) {n : Nat} (hk : ∀ v ∈ k, Whole v)
    (h : readBracketFrom .unicode verbose ignoreCase n bracket outer (onward k t) = some (x, r)) :
    ∃ k₁, Passes k k₁ (ClosesAs verbose ignoreCase bracket outer x) := by
  induction n generalizing k bracket outer with
  | zero => cases h
  | succ n ih =>
    -- the rest after a turn is closed, so the turn has not reached into the tail
    have hturn {m : Option (List Char)} {b : OpenBracket} {o : List OpenBracket}
        (hpass : Passes k m (TurnsInto verbose ignoreCase bracket outer b o))
        (hr : readBracketFrom .unicode verbose ignoreCase n b o (onward m t) = some (x, r)) :
        ∃ k₁, Passes k k₁ (ClosesAs verbose ignoreCase bracket outer x) := by
      obtain ⟨k₁, h₁⟩ := ih hpass.whole hr
      refine ⟨k₁, (hpass.trans h₁).imp ?_⟩
      rintro s s' ⟨_, hs, hs'⟩
      exact hs.closesAs hs'
    obtain ⟨k₁, h₁⟩ := passes_skipBlanks hk verbose
    have hskip := h₁.passes t ht.toIsTail
    rw [readBracketFrom] at h
    split at h
    · cases h
    · rename_i s₂ hs
      obtain ⟨k₂, rfl, h₂⟩ :=
        passes_of_onward_eq_cons h₁.whole ht.toIsTail (by decide) (hskip.symm.trans hs)
      have hlt {s s' : List Char} (hs : skipBlanks verbose s = '[' :: s') : s'.length < s.length :=
        (suffix_of_skipBlanks (p := ['[']) (by simp) hs).2
      split at h
      · rename_i set s₃ hp
        obtain ⟨k₃, h₃⟩ := passes_readPosix h₂.whole ht.toIsTail hp
        obtain rfl := h₃.eq_onward ht.toIsTail hp
        have hall := (h₁.trans h₂).trans h₃
        refine hturn (m := k₃) ⟨hall.whole, fun t' ht' => ⟨?_, fun m => ?_⟩, hall.suffix⟩ h
        · have hle := (h₃.suffix t').length_le
          have := hlt ((h₁.passes t' ht').trans (h₂.passes t' ht'))
          omega
        · rw [readBracketFrom, h₁.passes t' ht', h₂.passes t' ht']
          simp only [h₃.passes t' ht']
      · rename_i hp
        obtain ⟨inner, k₃, h₃⟩ := passes_openBracket verbose h₂.whole ht.toIsTail
        simp only [h₃.passes t ht.toIsTail] at h
        have hall := (h₁.trans h₂).trans h₃
        refine hturn (m := k₃) ⟨hall.whole, fun t' ht' => ⟨?_, fun m => ?_⟩, hall.suffix⟩ h
        · have hle := (h₃.suffix t').length_le
          have := hlt ((h₁.passes t' ht').trans (h₂.passes t' ht'))
          omega
        · rw [readBracketFrom, h₁.passes t' ht', h₂.passes t' ht']
          simp only [readPosix_onward_eq_none h₂.whole ht.toIsTail hp ht', h₃.passes t' ht']
    · rename_i s₂ hs
      obtain ⟨k₂, rfl, h₂⟩ :=
        passes_of_onward_eq_cons h₁.whole ht.toIsTail (by decide) (hskip.symm.trans hs)
      cases outer with
      | nil =>
        cases h
        refine ⟨k₂, (h₁.trans h₂).imp ?_⟩
        rintro s s' ⟨_, hs, rfl⟩ m hm
        obtain ⟨m, rfl⟩ : ∃ j, m = j + 1 := ⟨m - 1, by omega⟩
        rw [readBracketFrom, hs]
        rfl
      | cons around outer =>
        refine hturn (m := k₂) ((h₁.trans h₂).imp ?_) h
        rintro s s' ⟨_, hs, rfl⟩
        refine ⟨(suffix_of_skipBlanks (p := [']']) (by simp) hs).2, fun m => ?_⟩
        rw [readBracketFrom, hs]
        rfl
    · rename_i s₂ hs
      obtain ⟨k₂, rfl, h₂⟩ := passes_operator (.inl ⟨rfl, rfl⟩) hk ht.toIsTail hs
      exact hturn h₂ h
    · rename_i s₂ hs
      obtain ⟨k₂, rfl, h₂⟩ := passes_operator (.inr (.inl ⟨rfl, rfl⟩)) hk ht.toIsTail hs
      exact hturn h₂ h
    · rename_i s₂ hs
      obtain ⟨k₂, rfl, h₂⟩ := passes_operator (.inr (.inr ⟨rfl, rfl⟩)) hk ht.toIsTail hs
      exact hturn h₂ h
    · rename_i hend hopen hclose hand hminus htilde
      split at h
      · rename_i set s₂ hrange
        have hbegins : BeginsPart (onward k₁ t) :=
          hskip ▸ ⟨hend, hopen, hclose, hand, hminus, htilde⟩
        rw [hskip] at hrange
        rcases passes_readRange h₁.whole ht hrange with ⟨k₂, h₂⟩ | hsuf
        · obtain rfl := (h₂.imp fun _ _ => And.left).eq_onward ht.toIsTail hrange
          have hall := h₁.trans h₂
          refine hturn (m := k₂) ⟨hall.whole, fun t' ht' => ⟨?_, fun m => ?_⟩, hall.suffix⟩ h
          · have hle := (h₁.suffix t').length_le
            have := (h₂.passes t' ht').2
            omega
          · exact (hbegins.onward ht').readBracketFrom_eq (h₁.passes t' ht')
              (h₂.passes t' ht').1 m bracket outer
        · rw [readBracketFrom_members fun c hc => ht.members c (hsuf.subset hc)] at h
          cases h
      · cases h

theorem passes_readBracket (hk : ∀ v ∈ k, Whole v)
    (ht : IsPlainTail t)
    (h : readBracket .unicode verbose ignoreCase (onward k t) = some (x, r)) :
    ∃ k₁, Passes k k₁ fun s s' => readBracket .unicode verbose ignoreCase s = some (x, s') := by
  obtain ⟨bracket, k₁, h₁⟩ := passes_openBracket verbose hk ht.toIsTail
  unfold readBracket at h
  simp only [h₁.passes t ht.toIsTail] at h
  obtain ⟨k₂, h₂⟩ := passes_readBracketFrom ht h₁.whole h
  refine ⟨k₂, (h₁.trans h₂).imp ?_⟩
  rintro s s' ⟨u, hu, hcloses⟩
  simp only [readBracket, hu]
  exact hcloses _ (Nat.lt_succ_self _)

end

/-! ## Repetitions -/

namespace ReaderState

/-- The number that digits make, if there are any and it is not too large. -/
def decimalOf? (digits : List Char) : Option Nat :=
  match digits with
  | [] => none
  | digits =>
    let n := digits.foldl (fun n c => n * 10 + (c.toNat - '0'.toNat)) 0
    if n < 0x100000000 then some n else none

theorem readDecimal_eq (verbose : Bool) (s : List Char) :
    readDecimal verbose s =
      (decimalOf? (readFiltered verbose isAsciiDigit false (s.dropWhile isBlank)).1).map
        (·, (readFiltered verbose isAsciiDigit false (s.dropWhile isBlank)).2.dropWhile isBlank) := by
  unfold readDecimal decimalOf?
  split
  · rename_i hrun
    rw [hrun]
    rfl
  · rename_i hdigits hrun
    rw [hrun]
    simp only
    split <;> rfl

theorem passes_readDecimal {verbose : Bool} {n : Nat} (hk : ∀ v ∈ k, Whole v) (ht : IsTail t)
    (h : readDecimal verbose (onward k t) = some (n, r)) :
    ∃ k₁, Passes k k₁ fun s s' => readDecimal verbose s = some (n, s') := by
  obtain ⟨k₁, h₁⟩ := passes_dropBlanks hk
  have hfilter : IsFilter isAsciiDigit := ⟨by decide, by decide, by decide⟩
  obtain ⟨run, k₂, h₂⟩ := passes_readFiltered verbose hfilter h₁.whole false
  obtain ⟨k₃, h₃⟩ := passes_dropBlanks h₂.whole
  rw [readDecimal_eq, h₁.passes t ht, h₂.passes t ht] at h
  obtain ⟨x, hx, he⟩ := Option.map_eq_some_iff.1 h
  obtain ⟨rfl, -⟩ := Prod.mk.inj he
  refine ⟨k₃, ((h₁.trans h₂).trans h₃).imp ?_⟩
  rintro s s' ⟨_, ⟨_, rfl, hs⟩, rfl⟩
  rw [readDecimal_eq, hs, hx]
  rfl

theorem passes_readBounds {verbose : Bool} {min : Nat} {max : Option Nat}
    (hk : ∀ v ∈ k, Whole v) (ht : IsTail t)
    (h : readBounds verbose (onward k t) = some (min, max, r)) :
    ∃ k₁, Passes k k₁ fun s s' => readBounds verbose s = some (min, max, s') := by
  obtain ⟨k₁, h₁⟩ := passes_skipBlanks hk verbose
  unfold readBounds at h
  rw [h₁.passes t ht] at h
  split at h
  · cases h
  · rename_i n s₁ hmin
    cases h
    obtain ⟨k₂, h₂⟩ := passes_readDecimal h₁.whole ht hmin
    obtain ⟨k₃, -, h₃⟩ := passes_of_onward_eq_cons h₂.whole ht (by decide) (h₂.eq_onward ht hmin).symm
    refine ⟨k₃, ((h₁.trans h₂).trans h₃).imp ?_⟩
    rintro s s' ⟨_, ⟨_, rfl, hs⟩, rfl⟩
    simp only [readBounds, hs]
  · rename_i n s₁ hmin
    obtain ⟨k₂, h₂⟩ := passes_readDecimal h₁.whole ht hmin
    obtain ⟨k₃, rfl, h₃⟩ := passes_of_onward_eq_cons h₂.whole ht (by decide)
      (h₂.eq_onward ht hmin).symm
    obtain ⟨k₄, h₄⟩ := passes_skipBlanks h₃.whole verbose
    have hcomma := ((h₁.trans h₂).trans h₃).trans h₄
    rw [h₄.passes t ht] at h
    split at h
    · rename_i s₂ hs₂
      cases h
      obtain ⟨k₅, -, h₅⟩ := passes_of_onward_eq_cons h₄.whole ht (by decide) hs₂
      refine ⟨k₅, (hcomma.trans h₅).imp ?_⟩
      rintro s s' ⟨_, ⟨_, ⟨_, ⟨_, rfl, hs⟩, rfl⟩, hu⟩, rfl⟩
      simp only [readBounds, hs, hu]
    · rename_i hno
      split at h
      · rename_i n' s₂ hmax
        split at h
        · rename_i hle
          cases h
          obtain ⟨k₅, h₅⟩ := passes_readDecimal h₄.whole ht hmax
          obtain ⟨k₆, -, h₆⟩ := passes_of_onward_eq_cons h₅.whole ht (by decide)
            (h₅.eq_onward ht hmax).symm
          have hall := (hcomma.trans h₅).trans h₆
          refine ⟨k₆, hall.whole, fun t' ht' => ?_, hall.suffix⟩
          simp only [readBounds, h₁.passes t' ht', h₂.passes t' ht', h₃.passes t' ht',
            h₄.passes t' ht']
          split
          · rename_i he
            exact absurd he (onward_ne_cons (by decide) hno ht' _)
          · simp only [h₅.passes t' ht', h₆.passes t' ht', hle]
            rfl
        · cases h
      · cases h
  · cases h

theorem passes_stepRepeat {st st₁ : ReaderState} {min : Nat} {max : Option Nat}
    (hk : ∀ v ∈ k, Whole v) (ht : IsTail t)
    (h : st.stepRepeat min max (onward k t) = some (st₁, r)) :
    ∃ k₁, Passes k k₁ fun s s' => st.stepRepeat min max s = some (st₁, s') := by
  unfold stepRepeat at h
  split at h
  · rename_i s₁ hs
    obtain ⟨st₂, hr, he⟩ := Option.map_eq_some_iff.1 h
    obtain ⟨rfl, -⟩ := Prod.mk.inj he
    obtain ⟨k₁, -, h₁⟩ := passes_of_onward_eq_cons hk ht (by decide) hs
    refine ⟨k₁, h₁.imp ?_⟩
    rintro s s' rfl
    simp only [stepRepeat, hr]
    rfl
  · rename_i hno
    obtain ⟨st₂, hr, he⟩ := Option.map_eq_some_iff.1 h
    obtain ⟨rfl, -⟩ := Prod.mk.inj he
    refine ⟨k, hk, fun t' ht' => ?_, fun _ => List.suffix_refl _⟩
    unfold stepRepeat
    split
    · rename_i he
      exact absurd he (onward_ne_cons (by decide) hno ht' _)
    · rw [hr]
      rfl

/-! ## The beginning of a group -/

theorem passes_readName {name : List Char} {first : Bool} (hk : ∀ v ∈ k, Whole v) (ht : IsTail t)
    (h : readName first (onward k t) = some (name, r)) :
    ∃ k₁, Passes k k₁ fun s s' => readName first s = some (name, s') := by
  cases k with
  | none => cases h
  | some v =>
    have hv := hk v rfl
    clear hk
    induction v generalizing name first r with
    | nil =>
      obtain ⟨c, u, rfl, rfl | rfl⟩ := ht.head <;> cases first <;> cases h
    | cons c v ih =>
      rw [onward, List.cons_append, readName] at h
      split at h
      · rename_i hc
        cases h
        obtain rfl := beq_iff_eq.1 hc
        refine ⟨some v, (passes_char hv (by decide)).imp ?_⟩
        rintro s s' rfl
        rfl
      · rename_i hc
        split at h
        · rename_i hn
          obtain ⟨⟨name', r'⟩, hr, he⟩ := Option.map_eq_some_iff.1 h
          obtain ⟨rfl, -⟩ := Prod.mk.inj he
          have hne : c ≠ '\\' := by
            rintro rfl
            cases first <;> exact absurd hn (by decide)
          obtain ⟨k₁, h₁⟩ := ih hr (hv.of_cons hne)
          refine ⟨k₁, ((passes_char hv hne).trans h₁).imp ?_⟩
          rintro s s' ⟨u, rfl, hu⟩
          show readName first (c :: u) = _
          rw [readName, if_neg hc, if_pos hn, hu]
          rfl
        · cases h

/-- No letter of a flag is a backslash, or begins a tail. -/
theorem readFlags_edge {c : Char} (hc : c = '/' ∨ c = '$' ∨ c = '\\') (text : FlagText)
    (s : List Char) : readFlags text (c :: s) = none := by
  rcases hc with rfl | rfl | rfl <;> simp [readFlags, Flags.set?]

theorem passes_readFlags {text text' : FlagText} {d : Char} (hk : ∀ v ∈ k, Whole v) (ht : IsTail t)
    (h : readFlags text (onward k t) = some (text', d, r)) :
    ∃ k₁, Passes k k₁ fun s s' => readFlags text s = some (text', d, s') := by
  cases k with
  | none => cases h
  | some v =>
    have hv := hk v rfl
    clear hk
    induction v generalizing text with
    | nil =>
      obtain ⟨c, u, rfl, hc⟩ := ht.head
      rw [onward, List.nil_append, readFlags_edge (hc.imp_right .inl)] at h
      cases h
    | cons c v ih =>
      have hne : c ≠ '\\' := by
        rintro rfl
        rw [onward, List.cons_append, readFlags_edge (.inr (.inr rfl))] at h
        cases h
      have hchar := passes_char hv hne
      rw [onward, List.cons_append] at h
      unfold readFlags at h
      split at h
      · rename_i hc
        cases h
        refine ⟨some v, hchar.imp ?_⟩
        rintro s s' rfl
        unfold readFlags
        rw [if_pos hc]
      · rename_i hc
        split at h
        · rename_i hm
          split at h
          · cases h
          · rename_i x u hx
            split at h
            · cases h
            · rename_i hneg
              obtain ⟨k₁, h₁⟩ := ih h (hv.of_cons hne)
              -- the sign after the minus is one of the beginning
              cases v with
              | nil =>
                obtain ⟨y, w, rfl, hy⟩ := ht.head
                rw [List.nil_append, readFlags_edge (hy.imp_right .inl)] at h
                cases h
              | cons y v =>
                cases hx
                have hall := hchar.trans h₁
                refine ⟨k₁, hall.whole, fun t' ht' => ?_, hall.suffix⟩
                rw [onward, List.cons_append]
                unfold readFlags
                rw [if_neg hc, if_pos hm]
                simp only [List.cons_append, hneg]
                exact h₁.passes t' ht'
        · rename_i hm
          split at h
          · cases h
          · rename_i hl
            split at h
            · cases h
            · rename_i flags hf
              obtain ⟨k₁, h₁⟩ := ih h (hv.of_cons hne)
              refine ⟨k₁, (hchar.trans h₁).imp ?_⟩
              rintro s s' ⟨_, rfl, hu⟩
              unfold readFlags
              simp only [hc, hm, hl, hf, hu]
              rfl

theorem passes_openNamed? {st st₁ : ReaderState} (hk : ∀ v ∈ k, Whole v) (ht : IsTail t)
    (h : st.openNamed? (onward k t) = some (st₁, r)) :
    ∃ k₁, Passes k k₁ fun s s' => st.openNamed? s = some (st₁, s') := by
  unfold openNamed? at h
  split at h
  · cases h
  · rename_i name s₁ hname
    obtain ⟨k₁, h₁⟩ := passes_readName hk ht hname
    refine ⟨k₁, h₁.imp fun s s' hs => ?_⟩
    unfold openNamed?
    simp only [hs]
    split at h
    · cases h
    · rename_i hfree
      obtain ⟨rfl, -⟩ := Prod.mk.inj (Option.some.inj h)
      simp only [hfree]
      rfl

theorem passes_stepOpen {st st₁ : ReaderState} (hk : ∀ v ∈ k, Whole v) (ht : IsTail t)
    (h : st.stepOpen (onward k t) = some (st₁, r)) :
    ∃ k₁, Passes k k₁ fun s s' => st.stepOpen s = some (st₁, s') := by
  obtain ⟨k₁, h₁⟩ := passes_skipBlanks hk st.flags.verbose
  unfold stepOpen at h
  rw [h₁.passes t ht] at h
  split at h
  · rename_i s₁ hs
    obtain ⟨k₂, hs₂, h₂⟩ := passes_of_onward_eq_cons h₁.whole ht (by decide) hs
    obtain ⟨k₃, hs₃, h₃⟩ := passes_of_onward_eq_cons h₂.whole ht (by decide) hs₂.symm
    obtain ⟨k₄, rfl, h₄⟩ := passes_of_onward_eq_cons h₃.whole ht (by decide) hs₃.symm
    obtain ⟨k₅, h₅⟩ := passes_openNamed? h₄.whole ht h
    refine ⟨k₅, ((((h₁.trans h₂).trans h₃).trans h₄).trans h₅).imp ?_⟩
    rintro s s' ⟨_, ⟨_, ⟨_, ⟨_, hs, rfl⟩, rfl⟩, rfl⟩, hopen⟩
    unfold stepOpen
    rw [hs]
    exact hopen
  · rename_i s₁ hs
    obtain ⟨k₂, hs₂, h₂⟩ := passes_of_onward_eq_cons h₁.whole ht (by decide) hs
    obtain ⟨k₃, rfl, h₃⟩ := passes_of_onward_eq_cons h₂.whole ht (by decide) hs₂.symm
    obtain ⟨k₄, h₄⟩ := passes_openNamed? h₃.whole ht h
    refine ⟨k₄, (((h₁.trans h₂).trans h₃).trans h₄).imp ?_⟩
    rintro s s' ⟨_, ⟨_, ⟨_, hs, rfl⟩, rfl⟩, hopen⟩
    unfold stepOpen
    rw [hs]
    exact hopen
  · rename_i s₁ hP hL hs
    obtain ⟨k₂, rfl, h₂⟩ := passes_of_onward_eq_cons h₁.whole ht (by decide) hs
    split at h
    · cases h
    · rename_i text after hf
      split at h
      · cases h
      · rename_i hl
        obtain ⟨rfl, -⟩ := Prod.mk.inj (Option.some.inj h)
        obtain ⟨k₃, h₃⟩ := passes_readFlags h₂.whole ht hf
        refine ⟨k₃, ((h₁.trans h₂).trans h₃).imp ?_⟩
        rintro s s' ⟨u, ⟨_, hs, rfl⟩, hu⟩
        exact stepOpen_setFlags hs hu (Bool.not_eq_true _ ▸ hl)
    · rename_i text d after hd hf
      obtain ⟨rfl, -⟩ := Prod.mk.inj (Option.some.inj h)
      obtain ⟨k₃, h₃⟩ := passes_readFlags h₂.whole ht hf
      refine ⟨k₃, ((h₁.trans h₂).trans h₃).imp ?_⟩
      rintro s s' ⟨u, ⟨_, hs, rfl⟩, hu⟩
      exact stepOpen_plain hs hu hd
  · rename_i hno
    obtain ⟨rfl, -⟩ := Prod.mk.inj (Option.some.inj h)
    refine ⟨k₁, h₁.whole, fun t' ht' => ?_, h₁.suffix⟩
    have hq : ∀ u, onward k₁ t' ≠ '?' :: u := onward_ne_cons (by decide) hno ht'
    unfold stepOpen
    rw [h₁.passes t' ht']
    split
    · rename_i he
      exact absurd he (hq _)
    · rename_i he
      exact absurd he (hq _)
    · rename_i he
      exact absurd he (hq _)
    · rfl

/-! ## Whole texts -/

variable [PropertyTable]

theorem passes_step {st st₁ : ReaderState} {c : Char} (hc : c ≠ '\\') (hk : ∀ v ∈ k, Whole v)
    (ht : IsPlainTail t) (h : st.step .unicode c (onward k t) = some (st₁, r)) :
    ∃ k₁, Passes k k₁ fun s s' => st.step .unicode c s = some (st₁, s') := by
  have hstay {f : List Char → Option (ReaderState × List Char)}
      (hf : ∀ s, f s = some (st₁, s)) : ∃ k₁, Passes k k₁ fun s s' => f s = some (st₁, s') :=
    ⟨k, (Passes.refl hk).imp fun s s' he => he ▸ hf s⟩
  unfold step at h ⊢
  split at h
  · exact passes_stepOpen hk ht.toIsTail h
  · obtain ⟨st₂, hclose, he⟩ := Option.map_eq_some_iff.1 h
    obtain ⟨rfl, -⟩ := Prod.mk.inj he
    exact hstay fun s => by rw [hclose]; rfl
  · obtain ⟨rfl, -⟩ := Prod.mk.inj (Option.some.inj h)
    exact hstay fun s => rfl
  · obtain ⟨⟨x, r'⟩, hx, he⟩ := Option.map_eq_some_iff.1 h
    obtain ⟨rfl, -⟩ := Prod.mk.inj he
    obtain ⟨k₁, h₁⟩ := passes_readBracket hk ht hx
    exact ⟨k₁, h₁.imp fun s s' hs => by rw [hs]; rfl⟩
  · exact passes_stepRepeat hk ht.toIsTail h
  · exact passes_stepRepeat hk ht.toIsTail h
  · exact passes_stepRepeat hk ht.toIsTail h
  · split at h
    · rename_i min max s₁ hbounds
      obtain ⟨k₁, h₁⟩ := passes_readBounds hk ht.toIsTail hbounds
      cases hbounds.symm.trans (h₁.passes t ht.toIsTail)
      obtain ⟨k₂, h₂⟩ := passes_skipBlanks h₁.whole st.flags.verbose
      rw [h₂.passes t ht.toIsTail] at h
      obtain ⟨k₃, h₃⟩ := passes_stepRepeat h₂.whole ht.toIsTail h
      refine ⟨k₃, ((h₁.trans h₂).trans h₃).imp ?_⟩
      rintro s s' ⟨_, ⟨_, hs, rfl⟩, hu⟩
      simp only [hs]
      exact hu
    · cases h
  · exact absurd rfl hc
  · obtain ⟨rfl, -⟩ := Prod.mk.inj (Option.some.inj h)
    exact hstay fun s => rfl
  · obtain ⟨rfl, -⟩ := Prod.mk.inj (Option.some.inj h)
    exact hstay fun s => rfl
  · obtain ⟨rfl, -⟩ := Prod.mk.inj (Option.some.inj h)
    exact hstay fun s => rfl
  · obtain ⟨rfl, -⟩ := Prod.mk.inj (Option.some.inj h)
    exact hstay fun s => rfl

/-- A turn begins in the beginning, and then it ends there and is the same before every tail; or
the beginning has been read. -/
theorem passes_advance {st st₁ : ReaderState} (hk : ∀ v ∈ k, Whole v) (ht : IsPlainTail t)
    (h : st.advance .unicode (onward k t) = some (st₁, r)) :
    (∃ k₁, Passes k k₁ fun s s' => st.advance .unicode s = some (st₁, s') ∧ s'.length < s.length) ∨
      Passes k (some []) fun s s' => skipBlanks st.flags.verbose s = s' := by
  obtain ⟨k₁, h₁⟩ := passes_skipBlanks hk st.flags.verbose
  unfold advance at h
  rw [h₁.passes t ht.toIsTail] at h
  cases k₁ with
  | none => cases h
  | some v =>
    have hv := h₁.whole v rfl
    cases hv with
    | nil => exact .inr h₁
    | @char c v hc hv =>
      left
      have h₂ := passes_char (.char hc hv) hc
      obtain ⟨k₂, h₃⟩ := passes_step hc h₂.whole ht h
      have hall := (h₁.trans h₂).trans h₃
      refine ⟨k₂, hall.whole, fun t' ht' => ⟨?_, ?_⟩, hall.suffix⟩
      · unfold advance
        rw [h₁.passes t' ht']
        exact h₃.passes t' ht'
      · have hle := (h₁.suffix t').length_le
        have hle' := (h₃.suffix t').length_le
        have hlen : (onward (some (c :: v)) t').length = (onward (some v) t').length + 1 := rfl
        omega
    | @pair c v hv =>
      left
      have hv' : ∀ w ∈ some v, Whole w := by
        rintro _ ⟨⟩
        exact hv
      obtain ⟨⟨a, r'⟩, ha, he⟩ := Option.map_eq_some_iff.1 h
      obtain ⟨rfl, -⟩ := Prod.mk.inj he
      obtain ⟨k₂, h₂⟩ := passes_readEscape (k := some v) hv' ht.toIsTail ha
      have hsuf (t' : List Char) : onward k₂ t' <:+ onward (some ('\\' :: c :: v)) t' :=
        (h₂.suffix t').trans ((List.suffix_cons c _).trans (List.suffix_cons '\\' _))
      refine ⟨k₂, h₂.whole, fun t' ht' => ⟨?_, ?_⟩, fun t' => (hsuf t').trans (h₁.suffix t')⟩
      · have hstep : st.step .unicode '\\' (c :: (v ++ t')) = some (st.pushAtom a, onward k₂ t') := by
          have hread := h₂.passes t' ht'
          rw [onward] at hread
          simp only [step, hread]
          rfl
        unfold advance
        rw [h₁.passes t' ht']
        exact hstep
      · have hle := (h₁.suffix t').length_le
        have hle' := (h₂.suffix t').length_le
        have hlen : (onward (some ('\\' :: c :: v)) t').length =
            (onward (some v) t').length + 2 := rfl
        omega

theorem leads_of_passes {st : ReaderState}
    (h : Passes k k₁ fun s s' => skipBlanks st.flags.verbose s = s') (ht : IsTail t) :
    Leads st (onward k t) st (onward k₁ t) := by
  rw [← h.passes t ht]
  exact leads_skipBlanks st _

/-- Where only blanks and comments are left, a comment has taken the tail along. -/
theorem leads_of_blank {st : ReaderState} (hk : ∀ v ∈ k, Whole v) (ht : IsTail t)
    (h : skipBlanks st.flags.verbose (onward k t) = []) {t' : List Char} (ht' : IsTail t') :
    Leads st (onward k t') st [] := by
  obtain ⟨k₁, h₁⟩ := passes_skipBlanks hk st.flags.verbose
  rw [h₁.passes t ht] at h
  cases k₁ with
  | none => exact leads_of_passes h₁ ht'
  | some v => exact absurd h (List.append_ne_nil_of_right_ne_nil v ht.ne_nil)

/-- **The common beginning.** Where a text of a beginning and a plain tail can be read, the reader
comes, before every tail, to the same state when it has read the beginning; or a comment has taken
every tail along. -/
theorem leads_of_readFrom (ht : IsPlainTail t) {n : Nat} {st final : ReaderState}
    (hk : ∀ v ∈ k, Whole v) (h : readFrom .unicode n st (onward k t) = some final) :
    ∃ st₁, (∀ t', IsTail t' → Leads st (onward k t') st₁ []) ∨
      ∀ t', IsTail t' → Leads st (onward k t') st₁ t' := by
  induction n generalizing k st with
  | zero =>
    rcases readFrom_cases h with ⟨hs, -⟩ | ⟨m, st₁, s₁, hm, -⟩
    · exact ⟨st, .inl fun t' ht' => leads_of_blank hk ht.toIsTail hs ht'⟩
    · cases hm
  | succ n ih =>
    rcases readFrom_cases h with ⟨hs, -⟩ | ⟨m, st₁, s₁, hm, ha, hr⟩
    · exact ⟨st, .inl fun t' ht' => leads_of_blank hk ht.toIsTail hs ht'⟩
    · obtain rfl : n = m := by omega
      rcases passes_advance hk ht ha with ⟨k₁, h₁⟩ | h₁
      · obtain rfl := (h₁.imp fun _ _ => And.left).eq_onward ht.toIsTail ha
        have hlead (t' : List Char) (ht' : IsTail t') :
            Leads st (onward k t') st₁ (onward k₁ t') := by
          obtain ⟨hadv, hlt⟩ := h₁.passes t' ht'
          exact .of_reaches (.one hadv) (by omega)
        obtain ⟨st₂, h₂⟩ := ih h₁.whole hr
        exact ⟨st₂, h₂.imp (fun h t' ht' => (hlead t' ht').trans (h t' ht'))
          fun h t' ht' => (hlead t' ht').trans (h t' ht')⟩
      · exact ⟨st, .inr fun t' ht' => leads_of_passes h₁ ht'⟩

end ReaderState

end

end UriRouter.Regex
