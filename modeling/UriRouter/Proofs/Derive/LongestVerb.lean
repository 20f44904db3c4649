import Mathlib.Data.List.Infix
import UriRouter.Derive.Verb

/-!
# The longest verb

Several verbs may begin a name, and one of them may begin another. What is split off is the longest
of those that the name is called by, of which there is only one, because all begin the same name.
So neither the order of the verbs nor their repetitions make a difference.

* `IsCalledBy`, `IsLongest` : which verbs a name is called by, and the longest of them;
* `finds_splitVerb` : what has been found after each verb;
* `picksLongest` : what is split off a name.
-/

set_option autoImplicit false

namespace UriRouter

open UriRouter.Text

/-! ## Verbs that a name is called by -/

/-- The name is the verb and a rest that is empty, or begins with `_` or with a capital. -/
def IsCalledBy (name verb rest : String) : Prop :=
  name = verb ++ rest ∧ ∀ c ∈ rest.toList.head?, c = '_' ∨ isUppercase c = true

/-- Of the verbs that a name is called by, none is longer. -/
structure IsLongest (verbs : List String) (name verb rest : String) : Prop where
  mem : verb ∈ verbs
  calls : IsCalledBy name verb rest
  longest : ∀ w ∈ verbs, ∀ r, IsCalledBy name w r → w.length ≤ verb.length

section

variable {verbs : List String} {name verb rest : String}

theorem endsVerb_eq_true_iff {s : List Char} :
    endsVerb s = true ↔ ∀ c ∈ s.head?, c = '_' ∨ isUppercase c = true := by
  cases s with
  | nil => simp [endsVerb]
  | cons c s => simp [endsVerb]

theorem afterVerb?_eq_some_iff : afterVerb? name verb = some rest ↔ IsCalledBy name verb rest := by
  have hname : name = verb ++ rest ↔ verb.toList ++ rest.toList = name.toList := by
    rw [← String.toList_inj, String.toList_append]
    exact eq_comm
  rw [IsCalledBy, hname, ← endsVerb_eq_true_iff]
  unfold afterVerb?
  split
  · rename_i hpre
    obtain ⟨t, ht⟩ := List.isPrefixOf_iff_prefix.1 hpre
    have hrest : verb.toList ++ rest.toList = name.toList ↔ t = rest.toList := by
      rw [← ht, List.append_cancel_left_eq]
      exact eq_comm
    rw [hrest, ← ht, List.drop_left]
    constructor
    · intro h
      dsimp only at h
      split at h
      · rename_i hends
        obtain rfl := Option.some.inj h
        rw [String.toList_ofList]
        exact ⟨rfl, hends⟩
      · cases h
    · rintro ⟨rfl, hends⟩
      dsimp only
      rw [if_pos hends, String.ofList_toList]
  · rename_i hpre
    refine iff_of_false (fun h => nomatch h) ?_
    rintro ⟨h, -⟩
    exact hpre (List.isPrefixOf_iff_prefix.2 ⟨_, h⟩)

/-- Of two verbs that begin a name, the one that is no longer begins the other. -/
theorem IsCalledBy.isPrefix {w r : String} (hw : IsCalledBy name w r)
    (hv : IsCalledBy name verb rest) (hlen : w.length ≤ verb.length) :
    w.toList <+: verb.toList := by
  have hw' : w.toList <+: name.toList := ⟨r.toList, by rw [hw.1, String.toList_append]⟩
  have hv' : verb.toList <+: name.toList := ⟨rest.toList, by rw [hv.1, String.toList_append]⟩
  exact List.prefix_of_prefix_length_le hw' hv' (by simpa only [String.length_toList] using hlen)

/-- There is one longest verb at most: of the same length, both are the same beginning of the
name. -/
theorem IsLongest.unique {w r : String} (hv : IsLongest verbs name verb rest)
    (hw : IsLongest verbs name w r) : verb = w ∧ rest = r := by
  have hvw : verb.length ≤ w.length := hw.longest verb hv.mem rest hv.calls
  have hwv : w.length ≤ verb.length := hv.longest w hw.mem r hw.calls
  have hpre : verb.toList <+: w.toList := hv.calls.isPrefix hw.calls hvw
  have hverb : verb.toList = w.toList :=
    hpre.eq_of_length_le (by simpa only [String.length_toList] using hwv)
  obtain rfl := String.toList_inj.1 hverb
  refine ⟨rfl, ?_⟩
  have hname := hv.calls.1.symm.trans hw.calls.1
  rwa [← String.toList_inj, String.toList_append, String.toList_append,
    List.append_cancel_left_eq, String.toList_inj] at hname

end

/-! ## One verb after the other -/

/-- One verb more: it is kept if the name is called by it and none that is longer was found. -/
theorem splitVerb_concat (verbs : List String) (verb name : String) :
    splitVerb (verbs ++ [verb]) name =
      match afterVerb? name verb, splitVerb verbs name with
      | none, best => best
      | some rest, none => some (verb, rest)
      | some rest, some (longest, r) =>
        if verb.length < longest.length then some (longest, r) else some (verb, rest) := by
  rw [splitVerb, List.foldl_append]
  rfl

/-- What has been found among some verbs: none that the name is called by, or the longest. -/
def Finds (verbs : List String) (name : String) : Option (String × String) → Prop
  | none => ∀ w ∈ verbs, ∀ r, ¬ IsCalledBy name w r
  | some (verb, rest) => IsLongest verbs name verb rest

/-- What one verb more makes of what was found. -/
theorem Finds.concat {verbs : List String} {name : String} (verb : String)
    (h : Finds verbs name (splitVerb verbs name)) :
    Finds (verbs ++ [verb]) name (splitVerb (verbs ++ [verb]) name) := by
  rw [splitVerb_concat]
  cases hafter : afterVerb? name verb with
  | none =>
    have hnot : ∀ r, ¬ IsCalledBy name verb r := by
      intro r hr
      rw [afterVerb?_eq_some_iff.2 hr] at hafter
      cases hafter
    cases hbest : splitVerb verbs name with
    | none =>
      rw [hbest] at h
      show ∀ w ∈ verbs ++ [verb], _
      exact List.forall_mem_append.2 ⟨h, List.forall_mem_singleton.2 hnot⟩
    | some best =>
      rw [hbest] at h
      refine ⟨List.mem_append_left _ h.mem, h.calls, List.forall_mem_append.2 ⟨h.longest, ?_⟩⟩
      exact List.forall_mem_singleton.2 fun r hr => absurd hr (hnot r)
  | some rest =>
    have hcalls : IsCalledBy name verb rest := afterVerb?_eq_some_iff.1 hafter
    have hself : ∀ w ∈ [verb], ∀ r, IsCalledBy name w r → w.length ≤ verb.length :=
      List.forall_mem_singleton.2 fun _ _ => Nat.le_refl _
    have hmem : verb ∈ verbs ++ [verb] := List.mem_append_right _ List.mem_cons_self
    cases hbest : splitVerb verbs name with
    | none =>
      rw [hbest] at h
      refine ⟨hmem, hcalls, List.forall_mem_append.2 ⟨?_, hself⟩⟩
      intro w hw r hr
      exact absurd hr (h w hw r)
    | some best =>
      obtain ⟨longest, r⟩ := best
      rw [hbest] at h
      show Finds _ _ (if verb.length < longest.length then _ else _)
      split
      · rename_i hlt
        refine ⟨List.mem_append_left _ h.mem, h.calls, List.forall_mem_append.2 ⟨h.longest, ?_⟩⟩
        exact List.forall_mem_singleton.2 fun _ _ => Nat.le_of_lt hlt
      · rename_i hle
        refine ⟨hmem, hcalls, List.forall_mem_append.2 ⟨?_, hself⟩⟩
        intro w hw s hs
        have := h.longest w hw s hs
        omega

theorem finds_splitVerb (verbs : List String) (name : String) :
    Finds verbs name (splitVerb verbs name) := by
  induction verbs using List.reverseRecOn with
  | nil => exact fun w hw => nomatch hw
  | append_singleton verbs verb ih => exact ih.concat verb

/-! ## What is split off -/

theorem splitVerb_eq_some_iff {verbs : List String} {name verb rest : String} :
    splitVerb verbs name = some (verb, rest) ↔ IsLongest verbs name verb rest := by
  have h := finds_splitVerb verbs name
  constructor
  · intro hs
    rwa [hs] at h
  · intro hlongest
    cases hs : splitVerb verbs name with
    | none =>
      rw [hs] at h
      exact absurd hlongest.calls (h verb hlongest.mem rest)
    | some found =>
      rw [hs] at h
      obtain ⟨hverb, hrest⟩ := IsLongest.unique h hlongest
      exact congrArg some (Prod.ext hverb hrest)

/-- A verb may hold a `_`, and the rest then begins later. -/
example : splitVerb ["get_all", "get"] "get_all_users" = some ("get_all", "_users") := by decide

theorem isLongest_congr {verbs others : List String} (h : ∀ v, v ∈ others ↔ v ∈ verbs)
    {name verb rest : String} :
    IsLongest others name verb rest ↔ IsLongest verbs name verb rest := by
  constructor
  · intro hl
    exact ⟨(h verb).1 hl.mem, hl.calls, fun w hw => hl.longest w ((h w).2 hw)⟩
  · intro hl
    exact ⟨(h verb).2 hl.mem, hl.calls, fun w hw => hl.longest w ((h w).1 hw)⟩

/-- What is split off a name. -/
structure PicksLongest (verbs : List String) (name : String) : Prop where
  /-- Something is split off exactly if the name is called by one of the verbs. -/
  isSome_iff : (splitVerb verbs name).isSome = true ↔
    ∃ verb ∈ verbs, ∃ rest, IsCalledBy name verb rest
  /-- It is a verb of the list that the name is called by, with the rest of the name, and none of
  those verbs has more characters. -/
  eq_some_iff : ∀ verb rest, splitVerb verbs name = some (verb, rest) ↔
    verb ∈ verbs ∧ IsCalledBy name verb rest ∧
      ∀ w ∈ verbs, ∀ r, IsCalledBy name w r → w.length ≤ verb.length
  /-- All of them begin it, so that none has more bytes either. -/
  begins : ∀ verb rest, splitVerb verbs name = some (verb, rest) →
    ∀ w ∈ verbs, ∀ r, IsCalledBy name w r →
      w.toList <+: verb.toList ∧ w.utf8ByteSize ≤ verb.utf8ByteSize
  /-- A list of the same verbs, in whatever order and however often each, makes no difference. -/
  eq_of_mem_iff : ∀ others : List String, (∀ v, v ∈ others ↔ v ∈ verbs) →
    splitVerb others name = splitVerb verbs name

/-- **Of the verbs that a name is called by, the longest is split off**, whatever their order. -/
theorem picksLongest (verbs : List String) (name : String) : PicksLongest verbs name where
  isSome_iff := by
    have h := finds_splitVerb verbs name
    cases hs : splitVerb verbs name with
    | none =>
      rw [hs] at h
      refine iff_of_false (by simp) ?_
      rintro ⟨verb, hverb, rest, hcalls⟩
      exact h verb hverb rest hcalls
    | some found =>
      rw [hs] at h
      exact iff_of_true rfl ⟨found.1, IsLongest.mem h, found.2, IsLongest.calls h⟩
  eq_some_iff verb rest := by
    rw [splitVerb_eq_some_iff]
    exact ⟨fun h => ⟨h.mem, h.calls, h.longest⟩, fun ⟨hm, hc, hl⟩ => ⟨hm, hc, hl⟩⟩
  begins verb rest hs w hw r hr := by
    have hlongest := splitVerb_eq_some_iff.1 hs
    have hpre := hr.isPrefix hlongest.calls (hlongest.longest w hw r hr)
    refine ⟨hpre, ?_⟩
    obtain ⟨t, ht⟩ := hpre
    have hverb : verb = w ++ String.ofList t := by
      rw [← String.toList_inj, String.toList_append, String.toList_ofList, ht]
    rw [hverb, String.utf8ByteSize_append]
    exact Nat.le_add_right _ _
  eq_of_mem_iff others h := by
    refine Option.ext fun found => ?_
    rw [splitVerb_eq_some_iff, splitVerb_eq_some_iff, isLongest_congr h]

end UriRouter
