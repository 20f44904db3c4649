import Mathlib.Data.List.Sort
import UriRouter.Proofs.Build.Steps
import UriRouter.Proofs.Pattern.LiteralPrefix
import UriRouter.Proofs.Scope
import UriRouter.Proofs.Serve.Allowed

/-!
# Groups with literal prefixes

A group whose prefix is literal text shifts the routes that are registered in it, and changes
nothing else: whatever a path leads to outside the group, the prefix with the path after it leads to
the same inside, and so do the refusals.

* `RouteCall.under` : a call that registers a route, under a scope;
* `RouteTable.rel_find_under`, `RouteTable.allowedMethods_under` : the tables that calls make under
  a scope and outside;
* `Builder.shiftsRoutes` : the same calls inside a group and outside.
-/

set_option autoImplicit false

namespace UriRouter

open UriRouter.Pattern

variable {ρ : Type}

/-! ## Prefixes -/

/-- A prefix that is literal text, begins with `/` and does not end with it. -/
structure IsLiteralPrefix (base : String) : Prop where
  head : base.toList.head? = some '/'
  last : base.toList.getLast? ≠ some '/'
  literal : ∀ c ∈ base.toList, c ∉ delimiters

instance (base : String) : Decidable (IsLiteralPrefix base) :=
  decidable_of_iff (base.toList.head? = some '/' ∧ base.toList.getLast? ≠ some '/' ∧
      base.toList.all (fun c => !delimiters.contains c) = true)
    ⟨fun ⟨h₁, h₂, h₃⟩ => ⟨h₁, h₂, by simpa using h₃⟩,
      fun ⟨h₁, h₂, h₃⟩ => ⟨h₁, h₂, by simpa using h₃⟩⟩

theorem IsLiteralPrefix.nest {base : String} (h : IsLiteralPrefix base) {s : Scope}
    (hs : s.pathPrefix = "") {g : Group} (hg : g.pathPrefix = some base) :
    (s.nest g).pathPrefix = base := by
  simp only [Scope.nest, hg, hs]
  exact Scope.joinPrefix_of_head? h.last h.head

theorem IsLiteralPrefix.normalize_append {base : String} (h : IsLiteralPrefix base) (path : String) :
    Path.normalize (base ++ path) = base ++ path := by
  refine Path.normalize_of_head? ?_
  rw [String.toList_append, List.head?_append, h.head]
  rfl

/-! ## Values that are there together -/

theorem rel_findSome?_map {α α' β γ : Type} {R : β → γ → Prop} {u : α → α'} {f : α → Option β}
    {g : α' → Option γ} {l : List α} (h : ∀ a ∈ l, Option.Rel R (f a) (g (u a))) :
    Option.Rel R (l.findSome? f) ((l.map u).findSome? g) := by
  induction l with
  | nil => exact .none
  | cons a l ih =>
    obtain ⟨ha, hl⟩ := List.forall_mem_cons.1 h
    rw [List.map_cons, List.findSome?_cons, List.findSome?_cons]
    generalize f a = x at ha ⊢
    generalize g (u a) = y at ha ⊢
    cases ha with
    | none => exact ih hl
    | some hr => exact .some hr

theorem isSome_eq_of_rel {α β : Type} {R : α → β → Prop} {a : Option α} {b : Option β}
    (h : Option.Rel R a b) : a.isSome = b.isSome := by
  cases h with
  | some => rfl
  | none => rfl

namespace RouteCall

/-- The call that is made under a scope. -/
def under (r : RouteCall ρ) (s : Scope) : RouteCall ρ :=
  { r with pattern := s.apply r.pattern, action := r.action.inNamespace s.nameSpace }

theorem under_root (r : RouteCall ρ) : r.under .root = r := by
  rw [under, Scope.apply_of_eq rfl]
  exact congrArg (RouteCall.mk _ _ · _) (Action.inNamespace_empty r.action)

end RouteCall

section

variable [Regex.PropertyTable]

/-! ## Calls -/

namespace RouteCall

/-- The step that makes the call. -/
def step (r : RouteCall ρ) : Step ρ := .set r.method r.pattern (.action r.action) r.strategy

/-- A call whose pattern does not begin with a section and is not that of the root, and whose
constraints all ask for runs of a class. It may be faulty otherwise. -/
structure IsPlain (r : RouteCall ρ) : Prop where
  noSection : r.pattern.toList.head? ≠ some '['
  notEmpty : r.pattern ≠ ""
  notRoot : r.pattern ≠ "/"
  runs : asksForRuns r.pattern = true

instance (r : RouteCall ρ) : Decidable r.IsPlain :=
  decidable_of_iff (r.pattern.toList.head? ≠ some '[' ∧ r.pattern ≠ "" ∧ r.pattern ≠ "/" ∧
      asksForRuns r.pattern = true)
    ⟨fun ⟨h₁, h₂, h₃, h₄⟩ => ⟨h₁, h₂, h₃, h₄⟩, fun ⟨h₁, h₂, h₃, h₄⟩ => ⟨h₁, h₂, h₃, h₄⟩⟩

theorem run_step (r : RouteCall ρ) (b : Builder ρ) :
    (r.step.run b).state = { b with table := b.table.register (r.under b.scope) } := by
  rw [step, Step.run]
  exact b.setAction_state r.method r.pattern r.action r.strategy

theorem isSome_route? (r : RouteCall ρ) :
    r.route?.isSome = true ↔ ∃ p, Pattern.compile r.pattern = .ok p := by
  unfold route?
  cases Pattern.compile r.pattern with
  | error e => simp
  | ok p => simp

/-- A call fails if the table is sealed or the pattern is faulty. -/
theorem failure_run_step (r : RouteCall ρ) (b : Builder ρ) :
    (r.step.run b).failure = none ↔
      b.table.isSealed = false ∧ (r.under b.scope).route?.isSome = true := by
  rw [isSome_route?, step, Step.run]
  show (b.setAction r.method r.pattern r.action r.strategy).failure = none ↔
    _ ∧ ∃ p, Pattern.compile (b.scope.apply r.pattern) = .ok p
  unfold Builder.setAction RouteTable.set
  cases b.table.isSealed with
  | true => simp [Progress.failed]
  | false =>
    cases Pattern.compile (b.scope.apply r.pattern) with
    | error e => simp [Progress.failed]
    | ok p => simp [Progress.done]

end RouteCall

theorem runSteps_attempts (calls : List (RouteCall ρ)) (b : Builder ρ) :
    runSteps (calls.map fun r => .attempt r.step) b = .done { b with
      table := (calls.map (·.under b.scope)).foldl RouteTable.register b.table } := by
  induction calls generalizing b with
  | nil => rfl
  | cons r calls ih =>
    rw [List.map_cons, runSteps, Step.run, r.run_step b, List.map_cons, List.foldl_cons]
    exact ih { b with table := b.table.register (r.under b.scope) }

/-! ## Routes -/

/-- Under a prefix a pattern is what it is in normal form, with the prefix before it. -/
theorem IsLiteralPrefix.normalizePattern_apply {base : String} (h : IsLiteralPrefix base)
    {r : RouteCall ρ} (hr : r.IsPlain) {s : Scope} (hs : s.pathPrefix = base) :
    Path.normalizePattern (s.apply r.pattern) = base ++ Path.normalizePattern r.pattern := by
  have happly : s.apply r.pattern = base ++ Path.normalizePattern r.pattern := by
    have hne : s.pathPrefix.isEmpty = false := by
      rw [hs, ← Bool.not_eq_true, String.isEmpty_iff]
      rintro rfl
      exact absurd h.head nofun
    rw [Scope.apply, if_neg (by rw [hne]; exact Bool.false_ne_true),
      Path.normalizePattern_of_head? hr.noSection, hs]
    split
    · rename_i hnil
      exact absurd (String.toList_eq_nil_iff.1 hnil) hr.notEmpty
    · rename_i hslash
      exact absurd (String.toList_inj.1 hslash) hr.notRoot
    · rename_i hslash
      rw [Path.normalize_of_toList hslash]
    · rename_i hsection
      exact absurd (congrArg List.head? hsection) hr.noSection
    · rename_i hhead _
      rw [Path.normalize_of_head?_ne, String.append_assoc]
      intro hslash
      obtain ⟨rest, hrest⟩ := List.head?_eq_some_iff.1 hslash
      exact hhead rest hrest
  have hhead : (s.apply r.pattern).toList.head? ≠ some '[' := by
    rw [happly, String.toList_append, List.head?_append, h.head]
    exact fun he => absurd (Option.some.inj he) (by decide)
  rw [Path.normalizePattern_of_head? hhead, happly, h.normalize_append]

/-- Two routes that one of some calls adds, outside a scope and under it. -/
def AddedAlike (calls : List (RouteCall ρ)) (s : Scope) (route route' : Route ρ) : Prop :=
  ∃ r ∈ calls, r.route? = some route ∧ (r.under s).route? = some route'

/-- Two such routes that have been found, with the same bindings. -/
structure FoundAlike (calls : List (RouteCall ρ)) (s : Scope) (found found' : RouteMatch ρ) :
    Prop where
  route : AddedAlike calls s found.route found'.route
  bindings : found'.bindings = found.bindings

section Shifted

variable {base : String} {s : Scope} {r : RouteCall ρ} {calls : List (RouteCall ρ)}

/-- Under the prefix a call adds the shifted route, or none if it is faulty anyway. -/
theorem route?_under_cases (h : IsLiteralPrefix base) (hs : s.pathPrefix = base) (hr : r.IsPlain) :
    r.route? = none ∧ (r.under s).route? = none ∨
      ∃ route route', r.route? = some route ∧ (r.under s).route? = some route' ∧
        Shifts base route.pattern route'.pattern := by
  have hnormal := h.normalizePattern_apply hr hs
  have hcompile : (∃ p, Pattern.compile (r.under s).pattern = .ok p) ↔
      ∃ p, Pattern.compile r.pattern = .ok p :=
    exists_compile_literals_append h.literal hnormal hr.runs
  rw [← RouteCall.isSome_route?, ← RouteCall.isSome_route?] at hcompile
  cases hroute : r.route? with
  | none =>
    refine .inl ⟨rfl, ?_⟩
    rw [hroute] at hcompile
    exact Option.not_isSome_iff_eq_none.1 fun hsome => Bool.false_ne_true (hcompile.1 hsome)
  | some route =>
    rw [hroute] at hcompile
    obtain ⟨route', hroute'⟩ := Option.isSome_iff_exists.1 (hcompile.2 rfl)
    exact .inr ⟨route, route', rfl, hroute', shifts_of_compile h.literal hnormal hr.noSection hr.runs
      (RouteTable.route?_eq_some hroute).2 (RouteTable.route?_eq_some hroute').2⟩

theorem isSome_route?_under (h : IsLiteralPrefix base) (hs : s.pathPrefix = base)
    (hr : r.IsPlain) : (r.under s).route?.isSome = r.route?.isSome := by
  rcases route?_under_cases h hs hr with ⟨hr, hr'⟩ | ⟨route, route', hr, hr', -⟩
  · rw [hr, hr']
  · rw [hr, hr']
    rfl

/-- A fixed route is there for a path if the shifted one is there for the prefix with the path. -/
theorem rel_fixedRoute?_under (h : IsLiteralPrefix base) (hs : s.pathPrefix = base) (hr : r.IsPlain)
    (hmem : r ∈ calls) (method : String) {path : String} (hpath : path.toList.head? = some '/') :
    Option.Rel (AddedAlike calls s) (r.fixedRoute? method path)
      ((r.under s).fixedRoute? method (base ++ path)) := by
  rcases route?_under_cases h hs hr with ⟨hroute, hroute'⟩ | ⟨route, route', hroute, hroute', hshift⟩
  · rw [RouteCall.fixedRoute?, RouteCall.fixedRoute?, hroute, hroute']
    exact .none
  · have hsame : (route'.pattern.isFixed && (r.under s).isFor method &&
          Path.normalizePattern (r.under s).pattern == Path.normalize (base ++ path)) =
        (route.pattern.isFixed && r.isFor method &&
          Path.normalizePattern r.pattern == Path.normalize path) := by
      have htext : (Path.normalizePattern (r.under s).pattern == Path.normalize (base ++ path)) =
          (Path.normalizePattern r.pattern == Path.normalize path) := by
        rw [Bool.eq_iff_iff, beq_iff_eq, beq_iff_eq, RouteCall.under, h.normalizePattern_apply hr hs,
          h.normalize_append, Path.normalize_of_head? hpath, String.append_right_inj]
      rw [hshift.isFixed, htext]
      rfl
    rw [RouteCall.fixedRoute?, RouteCall.fixedRoute?, hroute, hroute', Option.filter_some,
      Option.filter_some, hsame]
    split
    · exact .some ⟨r, hmem, hroute, hroute'⟩
    · exact .none

/-- What a path binds at another route is what the prefix with the path binds at the shifted one. -/
theorem rel_matchedRoute?_under (h : IsLiteralPrefix base) (hs : s.pathPrefix = base)
    (hr : r.IsPlain) (hmem : r ∈ calls) (method : String) {path : String}
    (hpath : path.toList.head? = some '/') :
    Option.Rel (FoundAlike calls s) (r.matchedRoute? method path)
      ((r.under s).matchedRoute? method (base ++ path)) := by
  rcases route?_under_cases h hs hr with ⟨hroute, hroute'⟩ | ⟨route, route', hroute, hroute', hshift⟩
  · rw [RouteCall.matchedRoute?, RouteCall.matchedRoute?, hroute, hroute']
    exact .none
  · have hsame : (!route'.pattern.isFixed && (r.under s).isFor method) =
        (!route.pattern.isFixed && r.isFor method) := by
      rw [hshift.isFixed]
      rfl
    rw [RouteCall.matchedRoute?, RouteCall.matchedRoute?, hroute, hroute', Option.filter_some,
      Option.filter_some, hsame]
    split
    · rw [Option.bind_some, Option.bind_some, h.normalize_append, hshift.captures,
        Path.normalize_of_head? hpath]
      cases route.pattern.captures? path with
      | none => exact .none
      | some ps => exact .some ⟨⟨r, hmem, hroute, hroute'⟩, rfl⟩
    · exact .none

/-- All that leads to a shifted route begins with the prefix and goes on with `/`. -/
theorem exists_append_of_under (h : IsLiteralPrefix base) (hs : s.pathPrefix = base)
    (hr : r.IsPlain) {method path : String}
    (hf : ((r.under s).fixedRoute? method path).isSome = true ∨
      ((r.under s).matchedRoute? method path).isSome = true) :
    ∃ t, Path.normalize path = base ++ "/" ++ t := by
  rcases route?_under_cases h hs hr with ⟨-, hroute'⟩ | ⟨route, route', -, hroute', hshift⟩
  · rw [RouteCall.fixedRoute?, RouteCall.matchedRoute?, hroute'] at hf
    rcases hf with hf | hf <;> cases hf
  · rw [RouteCall.fixedRoute?, RouteCall.matchedRoute?, hroute', Option.filter_some,
      Option.filter_some] at hf
    rcases hf with hf | hf
    · split at hf
      · rename_i hcond
        have htext := eq_of_beq (Bool.and_eq_true_iff.1 hcond).2
        obtain ⟨rest, hrest⟩ := Path.toList_normalize r.pattern
        refine ⟨String.ofList rest, ?_⟩
        rw [← htext, RouteCall.under, h.normalizePattern_apply hr hs,
          Path.normalizePattern_of_head? hr.noSection, String.append_assoc, String.append_right_inj]
        apply String.toList_inj.1
        rw [hrest, String.toList_append]
        exact congrArg ('/' :: ·) String.toList_ofList.symm
      · cases hf
    · split at hf
      · rw [Option.bind_some, Option.isSome_map] at hf
        obtain ⟨ps, hps⟩ := Option.isSome_iff_exists.1 hf
        exact hshift.confined _ ps hps
      · cases hf

end Shifted

/-! ## Tables -/

section Tables

variable {base : String} {s : Scope} {calls : List (RouteCall ρ)}

/-- The shifted routes are found where the others are, with the prefix before the path. -/
theorem rel_answerOf_under (h : IsLiteralPrefix base) (hs : s.pathPrefix = base)
    (hcalls : ∀ r ∈ calls, r.IsPlain) (method : String) {path : String}
    (hpath : path.toList.head? = some '/') :
    Option.Rel (FoundAlike calls s) (RouteTable.answerOf calls method path)
      (RouteTable.answerOf (calls.map (·.under s)) method (base ++ path)) := by
  have hfixed : Option.Rel (AddedAlike calls s) (calls.reverse.findSome? (·.fixedRoute? method path))
      ((calls.reverse.map (·.under s)).findSome? (·.fixedRoute? method (base ++ path))) :=
    rel_findSome?_map fun r hr =>
      have hmem := List.mem_reverse.1 hr
      rel_fixedRoute?_under h hs (hcalls r hmem) hmem method hpath
  have hmatched : Option.Rel (FoundAlike calls s) (calls.findSome? (·.matchedRoute? method path))
      ((calls.map (·.under s)).findSome? (·.matchedRoute? method (base ++ path))) :=
    rel_findSome?_map fun r hmem => rel_matchedRoute?_under h hs (hcalls r hmem) hmem method hpath
  rw [RouteTable.answerOf, RouteTable.answerOf, ← List.map_reverse]
  generalize calls.reverse.findSome? (·.fixedRoute? method path) = fixed at hfixed ⊢
  generalize (calls.reverse.map (·.under s)).findSome? (·.fixedRoute? method (base ++ path)) = fixed'
    at hfixed ⊢
  cases hfixed with
  | none => exact hmatched
  | some hroute => exact .some ⟨hroute, rfl⟩

/-- All that is found among the shifted routes begins with the prefix and goes on with `/`. -/
theorem exists_append_of_answerOf (h : IsLiteralPrefix base) (hs : s.pathPrefix = base)
    (hcalls : ∀ r ∈ calls, r.IsPlain) {method path : String}
    (hf : (RouteTable.answerOf (calls.map (·.under s)) method path).isSome = true) :
    ∃ t, Path.normalize path = base ++ "/" ++ t := by
  rw [RouteTable.answerOf] at hf
  split at hf
  · rename_i route hroute
    obtain ⟨r', hr', hfound⟩ := List.exists_of_findSome?_eq_some hroute
    obtain ⟨r, hr, rfl⟩ := List.mem_map.1 (List.mem_reverse.1 hr')
    exact exists_append_of_under h hs (hcalls r hr) (.inl (Option.isSome_iff_exists.2 ⟨route, hfound⟩))
  · obtain ⟨found, hfound⟩ := Option.isSome_iff_exists.1 hf
    obtain ⟨r', hr', hfound⟩ := List.exists_of_findSome?_eq_some hfound
    obtain ⟨r, hr, rfl⟩ := List.mem_map.1 hr'
    exact exists_append_of_under h hs (hcalls r hr) (.inr (Option.isSome_iff_exists.2 ⟨found, hfound⟩))

theorem isRegistered_under (h : IsLiteralPrefix base) (hs : s.pathPrefix = base)
    (hcalls : ∀ r ∈ calls, r.IsPlain) (method : String) :
    IsRegistered (calls.map (·.under s)) method ↔ IsRegistered calls method := by
  unfold IsRegistered
  constructor
  · rintro ⟨_, hmem, hsome, hm⟩
    obtain ⟨r, hr, rfl⟩ := List.mem_map.1 hmem
    exact ⟨r, hr, by rwa [isSome_route?_under h hs (hcalls r hr)] at hsome, hm⟩
  · rintro ⟨r, hr, hsome, hm⟩
    exact ⟨_, List.mem_map_of_mem hr, by rwa [isSome_route?_under h hs (hcalls r hr)], hm⟩

end Tables

namespace RouteTable

/-- Two tables name the same methods for two paths if the same registered ones lead anywhere. -/
theorem Lists.allowedMethods_eq {t t' : RouteTable ρ} {log log' : List (RouteCall ρ)}
    (h : Lists t log) (h' : Lists t' log') {path path' : String}
    (hsame : ∀ method, IsRegistered log method ∧ (t.find method path).isSome = true ↔
      IsRegistered log' method ∧ (t'.find method path').isSome = true) :
    t.allowedMethods path = t'.allowedMethods path' := by
  refine List.Pairwise.eq_of_mem_iff (h.allowedMethods_ascending path)
    (h'.allowedMethods_ascending path') fun {method} => ?_
  rw [h.mem_allowedMethods, h'.mem_allowedMethods, hsame]

section Under

variable {base : String} {s : Scope} {calls : List (RouteCall ρ)}

theorem rel_find_under (h : IsLiteralPrefix base) (hs : s.pathPrefix = base)
    (hcalls : ∀ r ∈ calls, r.IsPlain) (method : String) {path : String}
    (hpath : path.toList.head? = some '/') :
    Option.Rel (FoundAlike calls s) ((ofLog calls).find method path)
      ((ofLog (calls.map (·.under s))).find method (base ++ path)) := by
  rw [(implements_ofLog calls).find, (implements_ofLog (calls.map (·.under s))).find]
  exact rel_answerOf_under h hs hcalls method hpath

theorem allowedMethods_under (h : IsLiteralPrefix base) (hs : s.pathPrefix = base)
    (hcalls : ∀ r ∈ calls, r.IsPlain) {path : String} (hpath : path.toList.head? = some '/') :
    (ofLog calls).allowedMethods path =
      (ofLog (calls.map (·.under s))).allowedMethods (base ++ path) := by
  refine (lists_ofLog calls).allowedMethods_eq (lists_ofLog _) fun method => ?_
  rw [isRegistered_under h hs hcalls,
    isSome_eq_of_rel (rel_find_under h hs hcalls method hpath)]

theorem find_under_outside (h : IsLiteralPrefix base) (hs : s.pathPrefix = base)
    (hcalls : ∀ r ∈ calls, r.IsPlain) (method : String) {path : String}
    (hpath : ∀ t, Path.normalize path ≠ base ++ "/" ++ t) :
    (ofLog (calls.map (·.under s))).find method path = none := by
  rw [(implements_ofLog (calls.map (·.under s))).find, ← Option.not_isSome_iff_eq_none]
  intro hsome
  obtain ⟨t, ht⟩ := exists_append_of_answerOf h hs hcalls hsome
  exact hpath t ht

end Under

end RouteTable

/-! ## Routers -/

/-- The answer for a path outside a group, and the one for its prefix with the path inside: routes
that the same call has added, with the same bindings; or the same refusal. -/
inductive AnsweredAlike (calls : List (RouteCall ρ)) (s : Scope) (base path : String) :
    Except DispatchError (RouteMatch ρ) → Except DispatchError (RouteMatch ρ) → Prop
  | found {found found' : RouteMatch ρ} (h : FoundAlike calls s found found') :
    AnsweredAlike calls s base path (.ok found) (.ok found')
  | notFound (method : String) :
    AnsweredAlike calls s base path (.error (.notFound method path))
      (.error (.notFound method (base ++ path)))
  | notAllowed (method : String) (allowed : List String) :
    AnsweredAlike calls s base path (.error (.methodNotAllowed method path allowed))
      (.error (.methodNotAllowed method (base ++ path) allowed))

/-- Routers answer alike if their tables find alike and name the same methods. -/
theorem Router.answeredAlike_of_find {r r' : Router ρ} {calls : List (RouteCall ρ)} {s : Scope}
    {base method path : String}
    (hfind : Option.Rel (FoundAlike calls s) (r.table.find method path)
      (r'.table.find method (base ++ path)))
    (hallowed : r.table.allowedMethods path = r'.table.allowedMethods (base ++ path)) :
    AnsweredAlike calls s base path (r.resolve method path) (r'.resolve method (base ++ path)) := by
  have hsome := isSome_eq_of_rel hfind
  rcases resolve_cases r method path with ⟨found, hf, hres⟩ | ⟨hf, ha, hres⟩ | ⟨hf, ha, hres⟩
  · rw [hf, Option.isSome_some, eq_comm, Option.isSome_iff_exists] at hsome
    obtain ⟨found', hf'⟩ := hsome
    rw [hf, hf'] at hfind
    rw [hres, resolve_eq_ok.2 hf']
    cases hfind with
    | some halike => exact .found halike
  · rw [hf, Option.isSome_none, eq_comm, Option.isSome_eq_false_iff, Option.isNone_iff_eq_none]
      at hsome
    rw [hres, resolve_eq_notFound.2 ⟨⟨rfl, rfl⟩, hsome, hallowed ▸ ha⟩]
    exact .notFound _
  · rw [hf, Option.isSome_none, eq_comm, Option.isSome_eq_false_iff, Option.isNone_iff_eq_none]
      at hsome
    rw [hres, resolve_eq_notAllowed.2 ⟨⟨rfl, rfl, hallowed.symm⟩, hsome, hallowed ▸ ha⟩]
    exact .notAllowed _ _

/-! ## Programs -/

namespace Builder

/-- What calls come to inside a group with a prefix, and outside it. Those that fail are passed
over. -/
structure ShiftsRoutes (b : Builder ρ) (g : Group) (base : String) (calls : List (RouteCall ρ)) :
    Prop where
  /-- Each call fails inside the group where it does outside, whatever has been registered. -/
  registered : ∀ r ∈ calls, ∀ b' : Builder ρ, b'.scope = .root →
    (((Step.group g [r.step]).run b').failure = none ↔ (r.step.run b').failure = none)
  /-- The prefix with a path is answered inside the group as the path is outside. -/
  answered : ∀ method path, path.toList.head? = some '/' →
    AnsweredAlike calls (Scope.root.nest g) base path
      ((runSteps (calls.map fun r => .attempt r.step) b).state.toRouter.resolve method path)
      (((Step.group g (calls.map fun r => .attempt r.step)).run b).state.toRouter.resolve method
        (base ++ path))
  /-- No method leads anywhere from any other path. -/
  confined : ∀ method path, (∀ t, Path.normalize path ≠ base ++ "/" ++ t) →
    ((Step.group g (calls.map fun r => .attempt r.step)).run b).state.toRouter.resolve method path =
      .error (.notFound (Method.normalize method) path)

/-- **A literal prefix shifts routes and changes nothing else.** Whatever routes are registered, with
whatever faults, if their patterns do not begin with a section or at the root and their constraints
ask for runs of a class: inside a group they answer for the group's prefix with a path as they do
outside for the path. -/
theorem shiftsRoutes {b : Builder ρ} (hscope : b.scope = .root) (htable : b.table = .empty)
    {base : String} (hbase : IsLiteralPrefix base) {g : Group} (hg : g.pathPrefix = some base)
    {calls : List (RouteCall ρ)} (hcalls : ∀ r ∈ calls, r.IsPlain) :
    b.ShiftsRoutes g base calls := by
  have hnest : (Scope.root.nest g).pathPrefix = base := hbase.nest rfl hg
  have hplain : (runSteps (calls.map fun r => .attempt r.step) b).state.table = .ofLog calls := by
    rw [runSteps_attempts, hscope, List.map_congr_left fun r _ => r.under_root, List.map_id', htable]
    rfl
  have hgrouped : ((Step.group g (calls.map fun r => .attempt r.step)).run b).state.table =
      .ofLog (calls.map (·.under (Scope.root.nest g))) := by
    rw [Step.run_group, runSteps_attempts, under_scope, hscope]
    show List.foldl RouteTable.register b.table _ = _
    rw [htable]
    rfl
  refine ⟨fun r hr b' hb' => ?_, fun method path hpath => ?_, fun method path hpath => ?_⟩
  · rw [Step.run_group, runSteps_singleton]
    show (r.step.run _).failure = none ↔ _
    rw [r.failure_run_step, r.failure_run_step, under_scope, hb', r.under_root,
      isSome_route?_under hbase hnest (hcalls r hr)]
    exact .rfl
  · refine Router.answeredAlike_of_find ?_ ?_
    · rw [toRouter, toRouter, Router.new, Router.new, hplain, hgrouped]
      exact RouteTable.rel_find_under hbase hnest hcalls method hpath
    · rw [toRouter, toRouter, Router.new, Router.new, hplain, hgrouped]
      exact RouteTable.allowedMethods_under hbase hnest hcalls hpath
  · have hfind : ∀ m, ((Step.group g (calls.map fun r => .attempt r.step)).run b).state.toRouter.table.find
        m path = none := by
      intro m
      rw [toRouter, Router.new, hgrouped]
      exact RouteTable.find_under_outside hbase hnest hcalls m hpath
    have hlists : ((Step.group g (calls.map fun r => .attempt r.step)).run b).state.toRouter.table.Lists
        (calls.map (·.under (Scope.root.nest g))) := by
      rw [toRouter, Router.new, hgrouped]
      exact (RouteTable.lists_ofLog _).sealed
    exact Router.resolve_eq_notFound.2 ⟨⟨rfl, rfl⟩, hfind method,
      hlists.allowedMethods_eq_nil.2 fun m _ => hfind m⟩

end Builder

end

namespace Builder

/-- Calls of which one has no `/` before its pattern, and one is faulty. -/
def userCalls : List (RouteCall Unit) :=
  [⟨"GET", "users/\x7bid:\\d+\x7d[/\x7btab\x7d]", .member (.named "User") "show", "uri"⟩,
    ⟨"GET", "/users/\x7b", .member (.named "User") "edit", "uri"⟩,
    ⟨"POST", "/users", .member (.named "User") "create", "uri"⟩]

theorem shiftsRoutes_userCalls :
    let apiGroup : Group := { pathPrefix := some "/api", nameSpace := some "Api" }
    let grouped := ((Step.group apiGroup (userCalls.map fun r => .attempt r.step)).run bare).state.toRouter
    IsLiteralPrefix "/api" ∧ (∀ r ∈ userCalls, r.IsPlain) ∧
      bare.ShiftsRoutes apiGroup "/api" userCalls ∧
      (grouped.resolve "get" "/api/users/7/name").toOption.map (·.bindings) =
        some [("id", "7"), ("tab", "name")] ∧
      grouped.table.allowedMethods "/api/users" = ["post"] := by
  have hbase : IsLiteralPrefix "/api" := by decide
  have hcalls : ∀ r ∈ userCalls, r.IsPlain := by decide +kernel
  exact ⟨hbase, hcalls, shiftsRoutes rfl rfl hbase rfl hcalls, by decide +kernel, by decide +kernel⟩

end Builder

end UriRouter
