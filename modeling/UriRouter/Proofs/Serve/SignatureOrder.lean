import UriRouter.Proofs.Serve.Arranging

/-!
# Arguments in the order of the signature

Arranging joins the parameters of a signature with the bindings of a path: each parameter has one
argument, in the order of declaration, and what its name is bound to first decides about it. All
else that is bound, and the order in which it is, plays no part.

* `Bindings.BindsFirst`, `Bindings.Lacks`, `Bindings.Gives` : the value that counts for a name, the
  parameters that miss one, and the argument for a parameter;
* `arrange_cases` : one argument for each parameter, or the first parameter that misses its value;
* `map_fst_arrange`, `arrange_eq_error` : the names of the arguments, and what can be missing;
* `joinsInOrder` : arranging is the join, for every signature and all bindings.
-/

set_option autoImplicit false

namespace UriRouter

/-! ## What bindings say about a parameter -/

namespace Bindings

/-- A name is bound to a value, and before that to nothing. -/
def BindsFirst (b : Bindings) (name value : String) : Prop :=
  ∃ before after, b = before ++ (name, value) :: after ∧ name ∉ before.map (·.1)

/-- A parameter has to be bound and is not. -/
def Lacks (b : Bindings) (p : Parameter) : Prop :=
  p.fallback = .required ∧ p.name ∉ b.map (·.1)

/-- The argument for a parameter: the first value that its name is bound to, or else what it falls
back on. -/
inductive Gives (b : Bindings) (p : Parameter) : String × Option String → Prop
  | bound {value : String} (h : b.BindsFirst p.name value) : Gives b p (p.name, some value)
  | declared {text : String} (h : p.name ∉ b.map (·.1)) (hf : p.fallback = .value text) :
      Gives b p (p.name, some text)
  | absent (h : p.name ∉ b.map (·.1)) (hf : p.fallback = .absent) : Gives b p (p.name, none)

variable {b b' : Bindings} {name value : String}

theorem get?_eq_none_iff : b.get? name = none ↔ name ∉ b.map (·.1) := by
  rw [get?, Option.map_eq_none_iff, List.find?_eq_none]
  simp only [beq_iff_eq, List.mem_map, not_exists, not_and]

theorem get?_eq_some_iff : b.get? name = some value ↔ b.BindsFirst name value := by
  rw [get?, Option.map_eq_some_iff]
  constructor
  · rintro ⟨f, hfind, rfl⟩
    obtain ⟨hname, before, after, rfl, hbefore⟩ := List.find?_eq_some_iff_append.1 hfind
    obtain rfl := beq_iff_eq.1 hname
    refine ⟨before, after, rfl, fun hm => ?_⟩
    obtain ⟨g, hg, he⟩ := List.mem_map.1 hm
    simpa [he] using hbefore g hg
  · rintro ⟨before, after, rfl, hbefore⟩
    refine ⟨(name, value), List.find?_eq_some_iff_append.2 ⟨beq_self_eq_true _, before, after, rfl,
      fun g hg => ?_⟩, rfl⟩
    have hne : g.1 ≠ name := fun he => hbefore (List.mem_map.2 ⟨g, hg, he⟩)
    simpa using hne

theorem get?_filter {keeps : String → Bool} (h : keeps name = true) (b : Bindings) :
    get? (b.filter fun f => keeps f.1) name = b.get? name := by
  have hsame : ∀ f : String × String,
      decide (keeps f.1 = true ∧ (f.1 == name) = true) = (f.1 == name) := by
    intro f
    by_cases hf : f.1 = name
    · simp [hf, h]
    · simp [hf]
  rw [get?, get?, List.find?_filter]
  simp only [hsame]

/-- Where no name is bound twice, the order of the bindings plays no part in a look-up. -/
theorem get?_perm (hn : (b.map (·.1)).Nodup) (hp : b'.Perm b) (name : String) :
    b'.get? name = b.get? name := by
  have hn' : (b'.map (·.1)).Nodup := (hp.map (·.1)).nodup_iff.2 hn
  cases hg : b.get? name with
  | none =>
    rw [get?_eq_none_iff] at hg ⊢
    exact fun hm => hg ((hp.map (·.1)).mem_iff.1 hm)
  | some value =>
    obtain ⟨before, after, rfl, -⟩ := get?_eq_some_iff.1 hg
    exact get?_of_mem hn' (hp.mem_iff.2 (List.mem_append_right _ List.mem_cons_self))

end Bindings

/-! ## One argument -/

/-- What a parameter comes to: an argument, if it does not miss its value. -/
theorem argumentFor_cases (b : Bindings) (p : Parameter) :
    (∃ argument, argumentFor b p = .ok argument ∧ b.Gives p argument ∧ ¬ b.Lacks p) ∨
      argumentFor b p = .error (.missingDefault p.name) ∧ b.Lacks p := by
  unfold argumentFor
  cases hg : b.get? p.name with
  | some value =>
    obtain ⟨before, after, hb, hbefore⟩ := Bindings.get?_eq_some_iff.1 hg
    refine .inl ⟨_, rfl, .bound ⟨before, after, hb, hbefore⟩, fun hl => hl.2 ?_⟩
    rw [hb, List.map_append]
    exact List.mem_append_right _ List.mem_cons_self
  | none =>
    have hnot := Bindings.get?_eq_none_iff.1 hg
    cases hf : p.fallback with
    | required => exact .inr ⟨rfl, hf, hnot⟩
    | absent => exact .inl ⟨_, rfl, .absent hnot hf, fun hl => nomatch hf.symm.trans hl.1⟩
    | value text => exact .inl ⟨_, rfl, .declared hnot hf, fun hl => nomatch hf.symm.trans hl.1⟩

/-! ## All arguments -/

/-- What arranging comes to: one argument for each parameter, or the name of the first that misses
its value. -/
theorem arrange_cases (sig : Signature) (b : Bindings) :
    (∃ args, arrange sig b = .ok args ∧ List.Forall₂ b.Gives sig args ∧ ∀ p ∈ sig, ¬ b.Lacks p) ∨
      ∃ before p after, sig = before ++ p :: after ∧ (∀ q ∈ before, ¬ b.Lacks q) ∧ b.Lacks p ∧
        arrange sig b = .error (.missingDefault p.name) := by
  induction sig with
  | nil => exact .inl ⟨[], rfl, .nil, by simp⟩
  | cons p rest ih =>
    rw [arrange]
    obtain ⟨argument, ha, hgives, hp⟩ | ⟨ha, hlacks⟩ := argumentFor_cases b p
    · rw [ha]
      obtain ⟨args, hargs, hall, hrest⟩ | ⟨before, q, after, rfl, hbefore, hq, he⟩ := ih
      · rw [hargs]
        exact .inl ⟨argument :: args, rfl, .cons hgives hall, List.forall_mem_cons.2 ⟨hp, hrest⟩⟩
      · rw [he]
        exact .inr ⟨p :: before, q, after, rfl, List.forall_mem_cons.2 ⟨hp, hbefore⟩, hq, rfl⟩
    · rw [ha]
      exact .inr ⟨[], p, rest, rfl, by simp, hlacks, rfl⟩

theorem Bindings.Gives.name_eq {b : Bindings} {p : Parameter} {argument : String × Option String}
    (h : b.Gives p argument) : argument.1 = p.name := by
  cases h <;> rfl

theorem map_fst_arrange {sig : Signature} {b : Bindings} {args : Arguments}
    (h : arrange sig b = .ok args) : args.map (·.1) = sig.map (·.name) := by
  obtain ⟨args', hargs, hall, -⟩ | ⟨_, _, _, -, -, -, he⟩ := arrange_cases sig b
  · obtain rfl : args' = args := Except.ok.inj (hargs.symm.trans h)
    clear hargs h
    induction hall with
    | nil => rfl
    | cons hgives _ ih => rw [List.map_cons, List.map_cons, hgives.name_eq, ih]
  · cases he.symm.trans h

/-- Nothing can go wrong with arguments but that a required parameter is not bound. -/
theorem arrange_eq_error {sig : Signature} {b : Bindings} {e : ConfigurationError}
    (h : arrange sig b = .error e) : ∃ p ∈ sig, e = .missingDefault p.name := by
  obtain ⟨_, hargs, -, -⟩ | ⟨before, p, after, rfl, -, -, he⟩ := arrange_cases sig b
  · cases hargs.symm.trans h
  · exact ⟨p, List.mem_append_right _ List.mem_cons_self, Except.error.inj (h.symm.trans he)⟩

theorem arrange_filter (sig : Signature) (b : Bindings) :
    arrange sig (b.filter fun f => (sig.map (·.name)).contains f.1) = arrange sig b :=
  arrange_congr fun p hp =>
    Bindings.get?_filter (List.contains_iff_mem.2 (List.mem_map.2 ⟨p, hp, rfl⟩)) b

/-- What arranging makes of a signature and bindings. -/
structure JoinsInOrder (sig : Signature) (b : Bindings) : Prop where
  /-- It fails exactly where a parameter misses its value. -/
  fails_iff : (∃ e, arrange sig b = .error e) ↔ ∃ p ∈ sig, b.Lacks p
  /-- The first such parameter is the one that is named. -/
  names_first : ∀ e, arrange sig b = .error e → ∃ before p after, sig = before ++ p :: after ∧
    (∀ q ∈ before, ¬ b.Lacks q) ∧ b.Lacks p ∧ e = .missingDefault p.name
  /-- Otherwise each parameter, in order, has the argument that the bindings give it. -/
  gives : (∀ p ∈ sig, ¬ b.Lacks p) → ∃ args, arrange sig b = .ok args ∧ List.Forall₂ b.Gives sig args
  /-- Bindings that differ in names of no parameter alone make no difference. -/
  strangers : ∀ b' : Bindings, (b'.filter fun f => (sig.map (·.name)).contains f.1) =
    (b.filter fun f => (sig.map (·.name)).contains f.1) → arrange sig b' = arrange sig b
  /-- Nor does their order, where no name is bound twice. -/
  permuted : (b.map (·.1)).Nodup → ∀ b' : Bindings, b'.Perm b → arrange sig b' = arrange sig b

/-- **Arranging joins the parameters with what is bound, in the order of the signature.** -/
theorem joinsInOrder (sig : Signature) (b : Bindings) : JoinsInOrder sig b where
  fails_iff := by
    obtain ⟨args, hargs, -, hnot⟩ | ⟨before, p, after, rfl, -, hp, he⟩ := arrange_cases sig b
    · refine iff_of_false (fun ⟨e, he⟩ => ?_) fun ⟨p, hp, hlacks⟩ => hnot p hp hlacks
      rw [hargs] at he
      cases he
    · exact iff_of_true ⟨_, he⟩ ⟨p, List.mem_append_right _ List.mem_cons_self, hp⟩
  names_first := by
    intro e he
    obtain ⟨args, hargs, -, -⟩ | ⟨before, p, after, hsig, hbefore, hp, he'⟩ := arrange_cases sig b
    · rw [hargs] at he
      cases he
    · rw [he'] at he
      exact ⟨before, p, after, hsig, hbefore, hp, (Except.error.inj he).symm⟩
  gives := by
    intro hnot
    obtain ⟨args, hargs, hall, -⟩ | ⟨before, p, after, rfl, -, hp, -⟩ := arrange_cases sig b
    · exact ⟨args, hargs, hall⟩
    · exact absurd hp (hnot p (List.mem_append_right _ List.mem_cons_self))
  strangers := by
    intro b' h
    rw [← arrange_filter sig b', h, arrange_filter]
  permuted := fun hn b' hp => arrange_congr fun p _ => Bindings.get?_perm hn hp p.name

end UriRouter
