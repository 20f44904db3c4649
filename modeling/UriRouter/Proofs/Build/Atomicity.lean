import UriRouter.Proofs.Build.Operations
import UriRouter.Proofs.Table.Log

/-!
# All or nothing

Several registrations, made one after the other, stop at the first that fails, and those before it
stay. Where all their patterns compile under the scope, only a sealed table can refuse one, and it
refuses the first already: the scope and the seal are what they were after each step.

* `Builder.setAll` : registrations one after the other;
* `Builder.setAll_of_failure` : what is left of them when one of them fails;
* `Builder.apply_operations_iff` : the extension for operations registers all that it finds, or
  nothing.
-/

set_option autoImplicit false

namespace UriRouter

open UriRouter.Pattern

variable {ρ : Type}

theorem Progress.eq_done_of_failure {σ : Type} {p : Progress σ} (h : p.failure = none) :
    ∃ s, p = .done s := ⟨p.state, congrArg (Progress.mk p.state) h⟩

section

variable [Regex.PropertyTable]

namespace Builder

/-! ## Registrations one after the other -/

/-- Makes registrations one after the other, up to the first failure. -/
def setAll (b : Builder ρ) (rs : List (Registration ρ)) : Progress (Builder ρ) :=
  Progress.each (fun b r => b.set r.method r.pattern (.action r.action) uriStrategyTag) b rs

theorem each_register (b : Builder ρ) (rs : List (Registration ρ)) :
    Progress.each register b rs = b.setAll rs := rfl

/-- What one registration comes to: the table is sealed, the pattern does not compile under the
scope, or the table has one route more. -/
theorem register_cases (b : Builder ρ) (r : Registration ρ) :
    (b.table.isSealed = true ∧ ∃ e, b.register r = .failed b e) ∨
    b.table.isSealed = false ∧
      ((∃ e, compile (b.scope.apply r.pattern) = .error e ∧
          b.register r = .failed b (.pattern e)) ∨
        ∃ p, compile (b.scope.apply r.pattern) = .ok p ∧ b.register r = .done { b with
          table := b.table.add ⟨Method.normalize r.method, p,
            r.action.inNamespace b.scope.nameSpace, uriStrategyTag⟩ }) := by
  unfold register setAction RouteTable.set
  cases hs : b.table.isSealed with
  | true => exact .inl ⟨rfl, _, rfl⟩
  | false =>
    cases hc : compile (b.scope.apply r.pattern) with
    | error e => exact .inr ⟨rfl, .inl ⟨e, rfl, rfl⟩⟩
    | ok p => exact .inr ⟨rfl, .inr ⟨p, rfl, rfl⟩⟩

theorem setAll_cons_of_done {b b' : Builder ρ} {r : Registration ρ} (h : b.register r = .done b')
    (rs : List (Registration ρ)) : b.setAll (r :: rs) = b'.setAll rs := by
  rw [← each_register, Progress.each, h]
  rfl

theorem setAll_cons_of_failed {b : Builder ρ} {r : Registration ρ} {e : RegistrationError}
    (h : b.register r = .failed b e) (rs : List (Registration ρ)) :
    b.setAll (r :: rs) = .failed b e := by
  rw [← each_register, Progress.each, h]
  rfl

theorem exists_compile_of_setAll {b : Builder ρ} {rs : List (Registration ρ)}
    (h : (b.setAll rs).failure = none) :
    ∀ r ∈ rs, ∃ p, compile (b.scope.apply r.pattern) = .ok p := by
  induction rs generalizing b with
  | nil => simp
  | cons r rs ih =>
    rcases b.register_cases r with ⟨-, e, hr⟩ | ⟨-, ⟨e, -, hr⟩ | ⟨p, hp, hr⟩⟩
    · rw [setAll_cons_of_failed hr] at h
      cases h
    · rw [setAll_cons_of_failed hr] at h
      cases h
    · rw [setAll_cons_of_done hr] at h
      have hrest := ih h
      exact List.forall_mem_cons.2 ⟨⟨p, hp⟩, hrest⟩

/-- The call to register a route that a registration comes to under a scope. -/
def callUnder (s : Scope) (r : Registration ρ) : RouteCall ρ :=
  ⟨r.method, s.apply r.pattern, r.action.inNamespace s.nameSpace, uriStrategyTag⟩

/-- In an open table all registrations are made whose patterns compile under the scope, and the
table is the one after their calls. -/
theorem setAll_of_compile {b : Builder ρ} {rs : List (Registration ρ)}
    (ho : b.table.isSealed = false)
    (hc : ∀ r ∈ rs, ∃ p, compile (b.scope.apply r.pattern) = .ok p) :
    b.setAll rs = .done { b with
      table := (rs.map (callUnder b.scope)).foldl RouteTable.register b.table } := by
  induction rs generalizing b with
  | nil => rfl
  | cons r rs ih =>
    obtain ⟨⟨p, hp⟩, hrest⟩ := List.forall_mem_cons.1 hc
    rcases b.register_cases r with ⟨hs, -⟩ | ⟨-, ⟨e, he, -⟩ | ⟨p', hp', hr⟩⟩
    · rw [ho] at hs
      cases hs
    · rw [hp] at he
      cases he
    · have htable : b.table.register (callUnder b.scope r) =
          b.table.add ⟨Method.normalize r.method, p', r.action.inNamespace b.scope.nameSpace,
            uriStrategyTag⟩ := by
        rw [RouteTable.register_of_open ho, RouteCall.route?, callUnder, hp']
        rfl
      rw [← htable] at hr
      rw [setAll_cons_of_done hr]
      exact ih (RouteTable.isSealed_register ho _) hrest

/-- **All or nothing.** Where the patterns compile under the scope, registrations of which one
fails leave the builder as it was: the table is sealed, and refuses the first of them. -/
theorem setAll_of_failure {b : Builder ρ} {rs : List (Registration ρ)} {e : RegistrationError}
    (hc : ∀ r ∈ rs, ∃ p, compile (b.scope.apply r.pattern) = .ok p)
    (h : (b.setAll rs).failure = some e) : (b.setAll rs).state = b := by
  cases rs with
  | nil => cases h
  | cons r rs =>
    rcases b.register_cases r with ⟨-, e', hr⟩ | ⟨ho, -⟩
    · rw [setAll_cons_of_failed hr]
      rfl
    · rw [setAll_of_compile ho hc] at h
      cases h

/-- Registrations that all compile if the first of them does are made, or the builder is left as it
was. -/
theorem setAll_of_failure_of_head {b : Builder ρ} {rs : List (Registration ρ)} {e : RegistrationError}
    (hc : b.table.isSealed = false → ∀ r ∈ rs.head?,
      (∃ p, compile (b.scope.apply r.pattern) = .ok p) →
      ∀ r ∈ rs, ∃ p, compile (b.scope.apply r.pattern) = .ok p)
    (h : (b.setAll rs).failure = some e) : (b.setAll rs).state = b := by
  cases rs with
  | nil => cases h
  | cons r rs =>
    rcases b.register_cases r with ⟨-, e', hr⟩ | ⟨ho, ⟨e', -, hr⟩ | ⟨p, hp, -⟩⟩
    · rw [setAll_cons_of_failed hr]
      rfl
    · rw [setAll_cons_of_failed hr]
      rfl
    · exact setAll_of_failure (hc ho r rfl ⟨p, hp⟩) h

theorem register_state (b : Builder ρ) (r : Registration ρ) :
    (b.register r).state = { b with table := b.table.register (callUnder b.scope r) } :=
  setAction_state b r.method r.pattern r.action uriStrategyTag

theorem eq_of_setAll {b b' : Builder ρ} {rs : List (Registration ρ)} (h : b.setAll rs = .done b') :
    b' = { b with table := (rs.map (callUnder b.scope)).foldl RouteTable.register b.table } := by
  induction rs generalizing b with
  | nil =>
    cases h
    rfl
  | cons r rs ih =>
    have hstate := register_state b r
    cases hf : (b.register r).failure with
    | some e =>
      have hr : b.register r = .failed (b.register r).state e := by
        rw [Progress.failed, ← hf]
      rw [← each_register, Progress.each, hr] at h
      cases h
    | none =>
      obtain ⟨b₁, hr⟩ := Progress.eq_done_of_failure hf
      rw [setAll_cons_of_done hr] at h
      rw [hr] at hstate
      obtain rfl : b₁ = _ := hstate
      exact ih h

/-! ## The extension for operations -/

/-- The registration that an operation calls for: none, if the options leave it out or its name
begins with no verb. -/
def operationCall? (b : Builder ρ) (target : TargetRef ρ) (options : ExtensionOptions)
    (op : Operation) : Option (Except UsageError (Registration ρ)) :=
  if options.includes op.name then
    (splitVerb b.methods op.name).map fun (verb, rest) =>
      (deriveSuffix op).map fun suffix =>
        ⟨verb, derivePattern (derivePath rest) suffix, .member target op.name⟩
  else none

theorem operationRoutes_cons (b : Builder ρ) (target : TargetRef ρ) (options : ExtensionOptions)
    (op : Operation) (ops : List Operation) :
    operationRoutes b.view target options (op :: ops) =
      match b.operationCall? target options op with
      | none => operationRoutes b.view target options ops
      | some (.error e) => .error (.usage e)
      | some (.ok r) =>
        match compile (b.scope.apply r.pattern) with
        | .error e => .error (.pattern e)
        | .ok _ => (r :: ·) <$> operationRoutes b.view target options ops := by
  have hroute : operationRoute? b.view.methods op = (splitVerb b.methods op.name).map
      fun x => (x.1, derivePattern (derivePath x.2) <$> deriveSuffix op) := rfl
  rw [operationRoutes, operationCall?, hroute]
  cases options.includes op.name with
  | false => rfl
  | true =>
    cases splitVerb b.methods op.name with
    | none => rfl
    | some x =>
      cases deriveSuffix op with
      | error e => rfl
      | ok suffix => rfl

/-- What the extension makes ready are the registrations that the operations call for, in order,
if each of them compiles under the scope. -/
theorem operationRoutes_eq_ok_iff {b : Builder ρ} {target : TargetRef ρ}
    {options : ExtensionOptions} {ops : List Operation} {rs : List (Registration ρ)} :
    operationRoutes b.view target options ops = .ok rs ↔
      ops.filterMap (b.operationCall? target options) = rs.map .ok ∧
        ∀ r ∈ rs, ∃ p, compile (b.scope.apply r.pattern) = .ok p := by
  induction ops generalizing rs with
  | nil =>
    rw [operationRoutes, List.filterMap_nil]
    cases rs <;> simp
  | cons op ops ih =>
    rw [operationRoutes_cons, List.filterMap_cons]
    cases b.operationCall? target options op with
    | none => exact ih
    | some call =>
      cases call with
      | error e =>
        refine iff_of_false (by rintro ⟨⟩) ?_
        rintro ⟨hcalls, -⟩
        cases rs <;> cases hcalls
      | ok r =>
        cases hc : compile (b.scope.apply r.pattern) with
        | error e =>
          simp only [hc]
          refine iff_of_false (by rintro ⟨⟩) ?_
          rintro ⟨hcalls, hcompile⟩
          cases rs with
          | nil => cases hcalls
          | cons r' rs =>
            obtain rfl : r = r' := Except.ok.inj (List.cons.inj hcalls).1
            obtain ⟨p, hp⟩ := hcompile r List.mem_cons_self
            rw [hc] at hp
            cases hp
        | ok p =>
          simp only [hc, map_eq_ok_iff]
          constructor
          · rintro ⟨rs', hrs, rfl⟩
            obtain ⟨hcalls, hcompile⟩ := ih.1 hrs
            exact ⟨congrArg (.ok r :: ·) hcalls, List.forall_mem_cons.2 ⟨⟨p, hc⟩, hcompile⟩⟩
          · rintro ⟨hcalls, hcompile⟩
            cases rs with
            | nil => cases hcalls
            | cons r' rs =>
              obtain ⟨hr, hrest⟩ := List.cons.inj hcalls
              obtain rfl : r = r' := Except.ok.inj hr
              exact ⟨rs, ih.2 ⟨hrest, (List.forall_mem_cons.1 hcompile).2⟩, rfl⟩

/-- The extension for a target that is known succeeds just where the registrations that the
target's operations call for can be made, and makes them. -/
theorem apply_operations_eq_done_iff {b b' : Builder ρ} {target : TargetRef ρ} {info : TargetInfo}
    (h : b.extensions.get? operationsExtensionName = some .operations)
    (hd : b.view.describe target = .ok info) (options : ExtensionOptions) :
    b.apply operationsExtensionName target options = .done b' ↔
      ∃ calls, info.operations.filterMap (b.operationCall? target options) = calls.map .ok ∧
        b.setAll calls = .done b' := by
  rw [apply_operations h, hd]
  cases hr : operationRoutes b.view target options info.operations with
  | error e =>
    refine iff_of_false (by simp only [hr]; rintro ⟨⟩) ?_
    rintro ⟨calls, hcalls, hset⟩
    have hcompile := exists_compile_of_setAll (congrArg Progress.failure hset)
    rw [operationRoutes_eq_ok_iff.2 ⟨hcalls, hcompile⟩] at hr
    cases hr
  | ok rs =>
    obtain ⟨hcalls, -⟩ := operationRoutes_eq_ok_iff.1 hr
    simp only [hr, each_register]
    refine ⟨fun hset => ⟨rs, hcalls, hset⟩, ?_⟩
    rintro ⟨calls, hcalls', hset⟩
    rw [hcalls] at hcalls'
    obtain rfl : rs = calls := List.map_injective_iff.2 (fun _ _ => Except.ok.inj) hcalls'
    exact hset

/-- **The extension for operations is all or nothing, and exact.** If it fails, the builder, with
its table, is what it was. It succeeds just where the registrations that the target's operations
call for, one for each operation that the options include and whose name begins with a verb, can
be made in the order of declaration, and what they make of the builder is what it makes of it. -/
theorem apply_operations_iff {b : Builder ρ}
    (h : b.extensions.get? operationsExtensionName = some .operations) (target : TargetRef ρ)
    (options : ExtensionOptions) :
    (∀ e, (b.apply operationsExtensionName target options).failure = some e →
      (b.apply operationsExtensionName target options).state = b) ∧
    ∀ b', b.apply operationsExtensionName target options = .done b' ↔
      ∃ info calls, b.view.describe target = .ok info ∧
        info.operations.filterMap (b.operationCall? target options) = calls.map .ok ∧
        b.setAll calls = .done b' := by
  refine ⟨fun e he => ?_, fun b' => ?_⟩
  · rw [apply_operations h] at he ⊢
    cases hd : b.view.describe target with
    | error e => rfl
    | ok info =>
      cases hr : operationRoutes b.view target options info.operations with
      | error e => simp only [hr]; rfl
      | ok rs =>
        simp only [hd, hr] at he ⊢
        exact setAll_of_failure (operationRoutes_eq_ok_iff.1 hr).2 he
  · cases hd : b.view.describe target with
    | error e =>
      rw [apply_operations h, hd]
      refine iff_of_false (by rintro ⟨⟩) ?_
      rintro ⟨_, _, hd, -⟩
      cases hd
    | ok info =>
      simp only [Except.ok.injEq, exists_and_left, exists_eq_left']
      exact apply_operations_eq_done_iff h hd options

end Builder

end

namespace Builder

/-- A controller of which the second operation cannot be registered. -/
def listsController : Controller String :=
  echoController "lists" "Lists" [⟨"get_lists", [⟨"page", .absent, none⟩]⟩,
    ⟨"post_list", [⟨"name", .absent, none⟩, ⟨"id", .required, none⟩]⟩]

theorem apply_lists :
    (standard : Builder String).extensions.get? operationsExtensionName = some .operations ∧
    (standard.apply operationsExtensionName (.bound listsController) {}).failure =
      some (.usage (.requiredAfterOptional "post_list" "id")) ∧
    (standard.apply operationsExtensionName (.bound listsController) {}).state = standard ∧
    ∃ b' calls, standard.apply operationsExtensionName (.bound listsController)
        { except := ["post_list"] } = .done b' ∧
      listsController.operations.filterMap (standard.operationCall? (.bound listsController)
        { except := ["post_list"] }) = calls.map .ok ∧
      standard.setAll calls = .done b' := by
  have hext := (isFresh_standard (ρ := String)).extension
  have hfail : (standard.apply operationsExtensionName (.bound listsController) {}).failure =
      some (.usage (.requiredAfterOptional "post_list" "id")) := by decide +kernel
  have hok : (standard.apply operationsExtensionName (.bound listsController)
      { except := ["post_list"] }).failure = none := by decide +kernel
  obtain ⟨b', hdone⟩ := Progress.eq_done_of_failure hok
  obtain ⟨info, calls, hinfo, hcalls, hset⟩ := ((apply_operations_iff hext _ _).2 b').1 hdone
  cases hinfo
  exact ⟨hext, hfail, (apply_operations_iff hext _ _).1 _ hfail, b', calls, hdone, hcalls, hset⟩

end Builder

end UriRouter
