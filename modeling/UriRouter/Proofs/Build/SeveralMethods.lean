import UriRouter.Proofs.Build.Atomicity
import UriRouter.Proofs.Table.Routes

/-!
# One route under several methods

A route that is registered under several methods has one pattern and one action, so the scope and
the seal decide about all its registrations alike: the first one fails, or none does.

* `Builder.forMethods_eq`, `Builder.runSteps_sets` : the registrations that it comes to, and the
  program that makes them one by one;
* `Builder.IsStoredFor` : the route that an action is stored as;
* `Builder.registersAll` : all registrations are made, or none, for all ways to name the methods.
-/

set_option autoImplicit false

namespace UriRouter

open UriRouter.Pattern

variable {ρ : Type}

variable [Regex.PropertyTable]

namespace Builder

/-! ## The registrations -/

/-- The registrations of one action under several methods. -/
def registrationsUnder (methods : List String) (pattern : String) (action : Action ρ) :
    List (Registration ρ) :=
  methods.map (⟨·, pattern, action⟩)

theorem forMethods_eq (b : Builder ρ) (methods : List String) (pattern : String)
    (source : ActionSource ρ) : b.forMethods methods pattern source =
      b.withAction source fun action => b.setAll (registrationsUnder methods pattern action) := by
  rw [forMethods]
  congr 1
  funext action
  rw [← each_register]
  exact (Progress.each_map register (⟨·, pattern, action⟩) b methods).symm

/-- Registrations one by one, each of which finds out about the action for itself, are the
registrations of the action that is meant. -/
theorem runSteps_sets {source : ActionSource ρ} {action : Action ρ}
    (h : source.resolve = .ok action) (b : Builder ρ) (methods : List String) (pattern : String) :
    runSteps (methods.map fun method => .set method pattern source uriStrategyTag) b =
      b.setAll (registrationsUnder methods pattern action) := by
  induction methods generalizing b with
  | nil => rfl
  | cons method methods ih =>
    have hstep : (Step.set method pattern source uriStrategyTag).run b =
        b.register ⟨method, pattern, action⟩ := by
      rw [Step.run, set, withAction, h]
      rfl
    rw [List.map_cons, runSteps, hstep, funext ih]
    rfl

/-- A failed registration is the first one. -/
theorem setAll_registrationsUnder_of_failure {b : Builder ρ} {methods : List String}
    {pattern : String} {action : Action ρ} {e : RegistrationError}
    (h : (b.setAll (registrationsUnder methods pattern action)).failure = some e) :
    (b.setAll (registrationsUnder methods pattern action)).state = b := by
  have hpattern : ∀ r ∈ registrationsUnder methods pattern action, r.pattern = pattern := by
    intro r hr
    obtain ⟨method, -, rfl⟩ := List.mem_map.1 hr
    rfl
  refine setAll_of_failure_of_head (fun _ r hr hcompile r' hr' => ?_) h
  rw [hpattern r (List.mem_of_mem_head? hr)] at hcompile
  rwa [hpattern r' hr']

/-! ## The routes -/

/-- A route that an action is stored as under a method and a pattern: the scope's prefix stands
before the pattern, and the name of a target is qualified with the scope's namespace. -/
structure IsStoredFor (b : Builder ρ) (method pattern : String) (action : Action ρ)
    (route : Route ρ) : Prop where
  method : route.method = Method.normalize method
  pattern : compile (b.scope.apply pattern) = .ok route.pattern
  action : route.action = action.inNamespace b.scope.nameSpace
  strategy : route.strategy = uriStrategyTag

theorem isStoredFor_of_route? {b : Builder ρ} {r : Registration ρ} {route : Route ρ}
    (h : (callUnder b.scope r).route? = some route) :
    b.IsStoredFor r.method r.pattern r.action route := by
  unfold RouteCall.route? at h
  split at h
  · rename_i compiled hcompile
    cases h
    exact ⟨rfl, hcompile, rfl, rfl⟩
  · cases h

variable {b b' : Builder ρ} {rs : List (Registration ρ)}

theorem isSealed_of_setAll (h : b.setAll rs = .done b') {r : Registration ρ} (hr : r ∈ rs) :
    b.table.isSealed = false := by
  cases rs with
  | nil => cases hr
  | cons r' rs =>
    rcases b.register_cases r' with ⟨-, e, hfail⟩ | ⟨ho, -⟩
    · rw [setAll_cons_of_failed hfail] at h
      cases h
    · exact ho

theorem isStoredFor_of_mem (h : b.setAll rs = .done b') {route : Route ρ}
    (hroute : route ∈ b'.table.toList) :
    (∃ r ∈ rs, b.IsStoredFor r.method r.pattern r.action route) ∨ route ∈ b.table.toList := by
  rw [eq_of_setAll h] at hroute
  refine (RouteTable.mem_toList_foldl_register hroute).imp_left ?_
  rintro ⟨call, hcall, hadded⟩
  obtain ⟨r, hr, rfl⟩ := List.mem_map.1 hcall
  exact ⟨r, hr, isStoredFor_of_route? hadded⟩

/-- Each registration under several methods has its route in the table. -/
theorem exists_isStoredFor {methods : List String} {pattern : String} {action : Action ρ}
    (h : b.setAll (registrationsUnder methods pattern action) = .done b') {method : String}
    (hmethod : method ∈ methods) :
    ∃ route ∈ b'.table.routes method, b.IsStoredFor method pattern action route := by
  have hr : (⟨method, pattern, action⟩ : Registration ρ) ∈
      registrationsUnder methods pattern action := List.mem_map.2 ⟨method, hmethod, rfl⟩
  obtain ⟨p, hp⟩ := exists_compile_of_setAll (congrArg Progress.failure h) _ hr
  have hroute : ∀ m, (callUnder b.scope ⟨m, pattern, action⟩).route? = some
      ⟨Method.normalize m, p, action.inNamespace b.scope.nameSpace, uriStrategyTag⟩ := by
    intro m
    simp only [RouteCall.route?, callUnder, hp]
  refine ⟨_, ?_, isStoredFor_of_route? (hroute method)⟩
  rw [eq_of_setAll h]
  refine RouteTable.mem_routes_foldl_register (isSealed_of_setAll h hr) ?_
    (List.mem_map.2 ⟨_, hr, rfl⟩) (hroute method)
  intro call hcall call' hcall' hsame
  obtain ⟨r, hr, rfl⟩ := List.mem_map.1 hcall
  obtain ⟨r', hr', rfl⟩ := List.mem_map.1 hcall'
  obtain ⟨m, -, rfl⟩ := List.mem_map.1 hr
  obtain ⟨m', -, rfl⟩ := List.mem_map.1 hr'
  have hm : Method.normalize m = Method.normalize m' := hsame
  rw [hroute, hroute, hm]

/-! ## All or nothing -/

/-- What registering an action under several methods comes to. -/
structure RegistersAll (b : Builder ρ) (methods : List String) (pattern : String)
    (source : ActionSource ρ) (p : Progress (Builder ρ)) : Prop where
  /-- A failure leaves the builder, with its table, its scope and all names, as it was. -/
  unchanged : ∀ e, p.failure = some e → p.state = b
  /-- It is a failure if no action is described. -/
  undescribed : ∀ e, source.resolve = .error e → p = .failed b (.configuration e)
  /-- Otherwise it comes to what registering under one method after the other comes to. -/
  oneByOne : ∀ action, source.resolve = .ok action →
    p = runSteps (methods.map fun method => .set method pattern source uriStrategyTag) b
  /-- If nothing fails, each method has a route with the action, and no other route is new. -/
  stored : p.failure = none → ∃ action, source.resolve = .ok action ∧
    (∀ method ∈ methods, ∃ route ∈ p.state.table.routes method,
      b.IsStoredFor method pattern action route) ∧
    ∀ route ∈ p.state.table.toList, (∃ method ∈ methods, b.IsStoredFor method pattern action route) ∨
      route ∈ b.table.toList

theorem registersAll_forMethods (b : Builder ρ) (methods : List String) (pattern : String)
    (source : ActionSource ρ) :
    b.RegistersAll methods pattern source (b.forMethods methods pattern source) := by
  rw [forMethods_eq, withAction]
  cases hs : source.resolve with
  | error e =>
    refine ⟨fun _ _ => rfl, fun e' he => ?_, fun action h => ?_, nofun⟩
    · rw [← Except.error.inj (hs.symm.trans he)]
    · cases hs.symm.trans h
  | ok action =>
    refine ⟨fun e => setAll_registrationsUnder_of_failure, fun e h => ?_, fun _ _ => ?_,
      fun hf => ?_⟩
    · cases hs.symm.trans h
    · exact (runSteps_sets hs b methods pattern).symm
    · obtain ⟨b', hdone⟩ := Progress.eq_done_of_failure hf
      refine ⟨action, hs, ?_, ?_⟩
      · simp only [hdone]
        exact fun method => exists_isStoredFor hdone
      · simp only [hdone]
        intro route hroute
        refine (isStoredFor_of_mem hdone hroute).imp_left ?_
        rintro ⟨r, hr, hstored⟩
        obtain ⟨method, hmethod, rfl⟩ := List.mem_map.1 hr
        exact ⟨method, hmethod, hstored⟩

/-- **A route is registered under all of several methods, or under none of them**, whether the
methods are listed, are all those of the builder, or all but some that are named in any case. -/
theorem registersAll (b : Builder ρ) (pattern : String) (source : ActionSource ρ) :
    (∀ methods, b.RegistersAll methods pattern source (b.forMethods methods pattern source)) ∧
    b.RegistersAll b.methods pattern source (b.any pattern source) ∧
    ∀ excluded, b.RegistersAll
      (b.methods.filter fun method => excluded.all fun other => Method.normalize other != method)
      pattern source (b.except excluded pattern source) := by
  refine ⟨fun methods => registersAll_forMethods b methods pattern source,
    registersAll_forMethods b b.methods pattern source, fun excluded => ?_⟩
  have hmethods : (b.methods.filter fun method =>
        !(excluded.map Method.normalize).contains method) =
      b.methods.filter fun method => excluded.all fun other => Method.normalize other != method := by
    refine List.filter_congr fun method _ => ?_
    rw [Bool.eq_iff_iff]
    simp
  rw [except, hmethods]
  exact registersAll_forMethods b _ pattern source

end Builder

end UriRouter
