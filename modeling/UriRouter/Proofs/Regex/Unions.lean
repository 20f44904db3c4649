import UriRouter.Regex.Bracket

/-!
# Unions of characters written out

A bracket may hold the ASCII word characters as one set, or as the ranges that they consist of. The
union of all that it holds is then the same, and not only the same characters but the same list of
ranges, whatever else the bracket holds.

* `joined_insertRange` : ranges that are put into a union may as well be put among what it joins;
* `union_asciiWord` : the word characters as one set, or range by range;
* `unionSet_append_congr` : what stands before in a bracket does not matter.
-/

set_option autoImplicit false

namespace UriRouter.Regex

namespace CharSet

/-! ## One more range -/

/-- Puts a range before the first one that does not begin before it. -/
def insertRange (r : Nat × Nat) : List (Nat × Nat) → List (Nat × Nat)
  | [] => [r]
  | q :: rest => if r.1 ≤ q.1 then r :: q :: rest else q :: insertRange r rest

theorem merge_singleton (r : Nat × Nat) (ranges : List (Nat × Nat)) :
    [r].merge ranges beginsBefore = insertRange r ranges := by
  induction ranges with
  | nil => rw [List.merge_right, insertRange]
  | cons q rest ih =>
    rw [List.cons_merge_cons, insertRange, ih]
    simp [beginsBefore]

theorem insertRange_of_le {r q : Nat × Nat} (h : r.1 ≤ q.1) (rest : List (Nat × Nat)) :
    insertRange r (q :: rest) = r :: q :: rest := if_pos h

theorem insertRange_of_lt {r q : Nat × Nat} (h : q.1 < r.1) (rest : List (Nat × Nat)) :
    insertRange r (q :: rest) = q :: insertRange r rest := if_neg (Nat.not_le.2 h)

/-- A range that begins before the others is merged with them after the others. -/
theorem merge_cons {r : Nat × Nat} {rs : List (Nat × Nat)} (h : ∀ q ∈ rs, r.1 ≤ q.1)
    (ranges : List (Nat × Nat)) :
    (r :: rs).merge ranges beginsBefore = insertRange r (rs.merge ranges beginsBefore) := by
  induction ranges with
  | nil =>
    rw [List.merge_right, List.merge_right]
    cases rs with
    | nil => rfl
    | cons q rs => rw [insertRange_of_le (h q (List.mem_cons_self ..))]
  | cons x ranges ih =>
    rw [List.cons_merge_cons]
    by_cases hx : r.1 ≤ x.1
    · have hb : beginsBefore r x = true := decide_eq_true hx
      rw [if_pos hb]
      cases rs with
      | nil => rw [List.nil_merge, insertRange_of_le hx]
      | cons q rs =>
        rw [List.cons_merge_cons]
        split
        · rw [insertRange_of_le (h q (List.mem_cons_self ..))]
        · rw [insertRange_of_le hx]
    · have hb : ¬ beginsBefore r x = true := by simpa [beginsBefore] using hx
      rw [if_neg hb, ih]
      cases rs with
      | nil => rw [List.nil_merge, List.nil_merge, insertRange_of_lt (Nat.not_le.1 hx)]
      | cons q rs =>
        have hq : ¬ beginsBefore q x = true := by
          have := h q (List.mem_cons_self ..)
          simp only [beginsBefore, decide_eq_true_eq]
          omega
        rw [List.cons_merge_cons, if_neg hq, insertRange_of_lt (Nat.not_le.1 hx)]

/-! ## Joining what is joined already -/

theorem joinFrom_of_le {r q : Nat × Nat} (h : q.1 ≤ r.2 + 1) (rest : List (Nat × Nat)) :
    joinFrom r (q :: rest) = joinFrom (r.1, max r.2 q.2) rest := if_pos h

theorem joinFrom_of_lt {r q : Nat × Nat} (h : r.2 + 1 < q.1) (rest : List (Nat × Nat)) :
    joinFrom r (q :: rest) = r :: joinFrom q rest := if_neg (Nat.not_le.2 h)

/-- What is joined begins where the first range begins. -/
theorem joinFrom_eq_cons (r : Nat × Nat) (ranges : List (Nat × Nat)) :
    ∃ last more, joinFrom r ranges = (r.1, last) :: more := by
  induction ranges generalizing r with
  | nil => exact ⟨r.2, [], rfl⟩
  | cons q rest ih =>
    by_cases h : q.1 ≤ r.2 + 1
    · rw [joinFrom_of_le h]
      exact ih _
    · rw [joinFrom_of_lt (Nat.not_le.1 h)]
      exact ⟨r.2, _, rfl⟩

/-- Ranges that are joined may be joined beforehand. -/
theorem joinFrom_joinFrom (x q : Nat × Nat) (ranges : List (Nat × Nat)) :
    joinFrom x (joinFrom q ranges) = joinFrom x (q :: ranges) := by
  induction ranges generalizing x q with
  | nil => rfl
  | cons l rest ih =>
    by_cases hl : l.1 ≤ q.2 + 1
    · rw [joinFrom_of_le hl, ih]
      by_cases hq : q.1 ≤ x.2 + 1
      · rw [joinFrom_of_le (q := (q.1, max q.2 l.2)) hq, joinFrom_of_le hq,
          joinFrom_of_le (r := (x.1, max x.2 q.2)) (by simp only; omega)]
        simp only [Nat.max_assoc]
      · rw [joinFrom_of_lt (q := (q.1, max q.2 l.2)) (Nat.not_le.1 hq),
          joinFrom_of_lt (Nat.not_le.1 hq), joinFrom_of_le hl]
    · rw [joinFrom_of_lt (Nat.not_le.1 hl)]
      by_cases hq : q.1 ≤ x.2 + 1
      · rw [joinFrom_of_le hq, joinFrom_of_le hq, ih]
      · rw [joinFrom_of_lt (Nat.not_le.1 hq), joinFrom_of_lt (Nat.not_le.1 hq), ih]

/-- A range that touches the first one is joined with it, wherever it stands. -/
theorem joinFrom_insertRange_of_le {x r : Nat × Nat} (h : r.1 ≤ x.2 + 1)
    (ranges : List (Nat × Nat)) :
    joinFrom x (insertRange r ranges) = joinFrom (x.1, max x.2 r.2) ranges := by
  induction ranges generalizing x with
  | nil =>
    rw [insertRange, joinFrom_of_le h]
  | cons q rest ih =>
    by_cases hq : r.1 ≤ q.1
    · rw [insertRange_of_le hq, joinFrom_of_le h]
    · have hx : q.1 ≤ x.2 + 1 := by omega
      rw [insertRange_of_lt (Nat.not_le.1 hq), joinFrom_of_le hx,
        ih (x := (x.1, max x.2 q.2)) (by simp only; omega),
        joinFrom_of_le (r := (x.1, max x.2 r.2)) (by simp only; omega)]
      simp only [Nat.max_right_comm]

theorem joined_insertRange_joinFrom {x r : Nat × Nat} (h : x.1 < r.1) (ranges : List (Nat × Nat)) :
    joined (insertRange r (joinFrom x ranges)) = ⟨joinFrom x (insertRange r ranges)⟩ := by
  induction ranges generalizing x with
  | nil =>
    rw [joinFrom, insertRange_of_lt h]
    rfl
  | cons q rest ih =>
    by_cases hq : q.1 ≤ x.2 + 1
    · rw [joinFrom_of_le hq, ih (x := (x.1, max x.2 q.2)) h]
      by_cases hr : r.1 ≤ q.1
      · rw [insertRange_of_le hr, joinFrom_of_le (r := x) (q := r) (by omega),
          joinFrom_of_le (r := (x.1, max x.2 r.2)) (by simp only; omega),
          joinFrom_insertRange_of_le (by simp only; omega)]
        simp only [Nat.max_right_comm]
      · rw [insertRange_of_lt (Nat.not_le.1 hr), joinFrom_of_le hq]
    · rw [joinFrom_of_lt (Nat.not_le.1 hq), insertRange_of_lt h]
      obtain ⟨last, more, hmore⟩ := joinFrom_eq_cons q rest
      show CharSet.mk (joinFrom x (insertRange r (joinFrom q rest))) = _
      by_cases hr : r.1 ≤ q.1
      · have hinsert : insertRange r (joinFrom q rest) = r :: joinFrom q rest := by
          rw [hmore, insertRange_of_le (q := (q.1, last)) hr]
        rw [hinsert, insertRange_of_le hr]
        by_cases hrx : r.1 ≤ x.2 + 1
        · rw [joinFrom_of_le hrx, joinFrom_of_le hrx, joinFrom_joinFrom]
        · rw [joinFrom_of_lt (Nat.not_le.1 hrx), joinFrom_of_lt (Nat.not_le.1 hrx),
            joinFrom_joinFrom]
      · have hlt := Nat.not_le.1 hr
        have hih := congrArg ranges (ih hlt)
        rw [hmore, insertRange_of_lt (q := (q.1, last)) hlt] at hih ⊢
        rw [insertRange_of_lt hlt, joinFrom_of_lt (q := (q.1, last)) (Nat.not_le.1 hq),
          joinFrom_of_lt (Nat.not_le.1 hq)]
        exact congrArg (fun more => CharSet.mk (x :: more)) hih

/-- **A range that is put into a union may as well be put among the ranges it joins.** -/
theorem joined_insertRange (r : Nat × Nat) (ranges : List (Nat × Nat)) :
    joined (insertRange r (joined ranges).ranges) = joined (insertRange r ranges) := by
  cases ranges with
  | nil => rfl
  | cons q rest =>
    show joined (insertRange r (joinFrom q rest)) = _
    by_cases hr : r.1 ≤ q.1
    · obtain ⟨last, more, hmore⟩ := joinFrom_eq_cons q rest
      have hinsert : insertRange r (joinFrom q rest) = r :: joinFrom q rest := by
        rw [hmore, insertRange_of_le (q := (q.1, last)) hr]
      rw [hinsert, insertRange_of_le hr]
      exact congrArg CharSet.mk (joinFrom_joinFrom r q rest)
    · rw [joined_insertRange_joinFrom (Nat.not_le.1 hr), insertRange_of_lt (Nat.not_le.1 hr)]
      rfl

/-! ## The word characters -/

theorem insertRange_comm {r q : Nat × Nat} (h : q.1 < r.1) (ranges : List (Nat × Nat)) :
    insertRange q (insertRange r ranges) = insertRange r (insertRange q ranges) := by
  induction ranges with
  | nil => rw [insertRange, insertRange_of_le (Nat.le_of_lt h), insertRange, insertRange_of_lt h, insertRange]
  | cons l rest ih =>
    by_cases hr : r.1 ≤ l.1
    · rw [insertRange_of_le hr, insertRange_of_le (Nat.le_of_lt h),
        insertRange_of_le (by omega : q.1 ≤ l.1), insertRange_of_lt h, insertRange_of_le hr]
    · have hlr := Nat.not_le.1 hr
      by_cases hq : q.1 ≤ l.1
      · rw [insertRange_of_lt hlr, insertRange_of_le hq, insertRange_of_le hq, insertRange_of_lt h,
          insertRange_of_lt hlr]
      · have hlq := Nat.not_le.1 hq
        rw [insertRange_of_lt hlr, insertRange_of_lt hlq, insertRange_of_lt hlq,
          insertRange_of_lt hlr, ih]

/-- The union of a range and ranges that are joined. -/
theorem range_union_joined (c d : Char) (ranges : List (Nat × Nat)) :
    (range c d).union (joined ranges) = joined (insertRange (c.toNat, d.toNat) ranges) := by
  rw [union, range, merge_singleton, joined_insertRange]

theorem range_union (c d : Char) (s : CharSet) :
    (range c d).union s = joined (insertRange (c.toNat, d.toNat) s.ranges) := by
  rw [union, range, merge_singleton]

/-- **The word characters may be put into a union range by range.** -/
theorem union_asciiWord (s : CharSet) :
    asciiWord.union s = (range '0' '9').union ((range 'A' 'Z').union ((range 'a' 'z').union
      ((single '_').union s))) := by
  have hline : (single '_').union s = joined (insertRange ('_'.toNat, '_'.toNat) s.ranges) :=
    range_union '_' '_' s
  rw [hline, range_union_joined, range_union_joined, range_union_joined, union, asciiWord,
    merge_cons (by decide), merge_cons (by decide), merge_cons (by decide), merge_singleton]
  -- the sign `_` lies between the capitals and the small letters
  exact congrArg (fun ranges => joined (insertRange _ (insertRange _ ranges)))
    (insertRange_comm (by decide) s.ranges)

/-- The word characters are their ranges. -/
theorem asciiWord_eq : asciiWord = (range '0' '9').union ((range 'A' 'Z').union
    ((range 'a' 'z').union (single '_'))) := by
  have hletters : (range 'a' 'z').union (single '_') = joined [('_'.toNat, '_'.toNat),
      ('a'.toNat, 'z'.toNat)] := range_union 'a' 'z' (single '_')
  rw [hletters, range_union_joined, range_union_joined]
  rfl

/-- The digits have no case. -/
theorem fold_asciiDigits : asciiDigits.fold = asciiDigits := by decide +kernel

end CharSet

namespace ClassPart

theorem unionSet_cons (p : ClassPart) {ps : List ClassPart} (h : ps ≠ []) :
    unionSet (p :: ps) = p.set.union (unionSet ps) := by
  cases ps with
  | nil => exact absurd rfl h
  | cons q ps => rfl

/-- The union is of the sets only. -/
theorem unionSet_congr {ps qs : List ClassPart} (h : ps.map (·.set) = qs.map (·.set)) :
    unionSet ps = unionSet qs := by
  induction ps generalizing qs with
  | nil =>
    cases qs with
    | nil => rfl
    | cons q qs => cases h
  | cons p ps ih =>
    cases qs with
    | nil => cases h
    | cons q qs =>
      obtain ⟨hset, hrest⟩ := List.cons.inj h
      have hih := ih hrest
      cases ps with
      | nil =>
        obtain rfl := List.map_eq_nil_iff.1 hrest.symm
        exact hset
      | cons p' ps =>
        cases qs with
        | nil => cases hrest
        | cons q' qs =>
          have hset : p.set = q.set := hset
          rw [unionSet_cons p (by simp), unionSet_cons q (by simp), hset, hih]

/-- What stands before the parts does not matter. -/
theorem unionSet_append_congr {ps qs : List ClassPart} (hp : ps ≠ []) (hq : qs ≠ [])
    (h : unionSet ps = unionSet qs) (before : List ClassPart) :
    unionSet (before ++ ps) = unionSet (before ++ qs) := by
  induction before with
  | nil => exact h
  | cons p before ih =>
    rw [List.cons_append, List.cons_append, unionSet_cons p (by simp [hp]),
      unionSet_cons p (by simp [hq]), ih]

/-- **The word characters may stand in a bracket range by range.** -/
theorem unionSet_asciiWord (ps : List ClassPart) :
    unionSet (plain .asciiWord :: ps) = unionSet (plain (.range '0' '9') :: plain (.range 'A' 'Z') ::
      plain (.range 'a' 'z') :: plain (.single '_') :: ps) := by
  cases ps with
  | nil => exact CharSet.asciiWord_eq
  | cons p ps => exact CharSet.union_asciiWord (unionSet (p :: ps))

end ClassPart

end UriRouter.Regex
