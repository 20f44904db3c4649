import UriRouter.Proofs.Build.Atomicity
import UriRouter.Proofs.Serve.Dispatching
import UriRouter.Proofs.Serve.SignatureOrder

/-!
# Targets known by name

A target's name is qualified with the namespace of the scope twice: when the target is described, to
find its operations, and when their routes are stored, where the name is looked up in service. Both
come to the same name, so what was found once is found again, as long as the name still stands for
the same operations.

* `Builder.Collects` : the routes that the extension for operations adds;
* `Builder.runInScopes`, `Builder.knows_runInScopes` : what later programs leave of the names;
* `Builder.reaches_collected` : requests for collected routes reach the target.
-/

set_option autoImplicit false

namespace UriRouter

open UriRouter.Pattern

variable {ρ : Type}

/-! ## Failures because of a name -/

namespace DispatchError

/-- Whether a strategy, a target or a member of a target is not known by the name it has. -/
def isUnknownName : DispatchError → Bool
  | .configuration (.unknownStrategy ..) => true
  | .configuration (.unknownTarget ..) => true
  | .configuration (.unknownMember ..) => true
  | _ => false

end DispatchError

theorem isUnknownName_of_arrange {sig : Signature} {b : Bindings}
    {call : Arguments → Reply CallError ρ} {e : DispatchError}
    (h : (match arrange sig b with
      | .error e => .fail (.configuration e)
      | .ok arguments => (call arguments).mapError .ofCall : Reply DispatchError ρ).result =
        .error e) : e.isUnknownName = false := by
  cases ha : arrange sig b with
  | error e' =>
    obtain ⟨p, -, rfl⟩ := arrange_eq_error ha
    rw [ha] at h
    cases h
    rfl
  | ok arguments =>
    rw [ha] at h
    simp only [Reply.mapError] at h
    cases hr : (call arguments).result with
    | error e' =>
      rw [hr] at h
      cases h
      cases e' <;> rfl
    | ok a =>
      rw [hr] at h
      cases h

theorem Invocation.resolve_named {targets : Targets ρ} {name member : String} {c : Controller ρ}
    {op : Operation} (hc : targets.get? name = some c) (hop : c.operation? member = some op)
    (bindings : Bindings) :
    (⟨.member (.named name) member, bindings, targets⟩ : Invocation ρ).resolve =
      .ok ⟨c.name ++ "#" ++ member, op.signature, c.call member⟩ := by
  simp only [Invocation.resolve, Targets.instantiate, hc, Resolved.ofMember, hop]

namespace Builder

theorem action_of_operationCall? {b : Builder ρ} {target : TargetRef ρ}
    {options : ExtensionOptions} {op : Operation} {r : Registration ρ}
    (h : b.operationCall? target options op = some (.ok r)) : r.action = .member target op.name := by
  unfold operationCall? at h
  split at h
  · obtain ⟨x, -, hx⟩ := Option.map_eq_some_iff.1 h
    cases hs : deriveSuffix op with
    | error e =>
      rw [hs] at hx
      cases hx
    | ok suffix =>
      rw [hs] at hx
      cases hx
      rfl
  · cases h

theorem describe_named {b : Builder ρ} {t : String} {c : Controller ρ}
    (hc : b.targets.get? (qualify b.scope.nameSpace t) = some c) :
    b.view.describe (.named t) = .ok ⟨c.name, c.operations⟩ := by
  have hof : b.controllerOf? (.named t) = some c := hc
  exact describe_of_controllerOf? hof

end Builder

section

variable [Regex.PropertyTable]

namespace Builder

/-! ## What is collected -/

/-- A route that the extension for operations adds for an operation of a target: the one that the
operation's registration comes to under the scope. -/
def Collects (b : Builder ρ) (target : TargetRef ρ) (options : ExtensionOptions) (op : Operation)
    (route : Route ρ) : Prop :=
  ∃ info r, b.view.describe target = .ok info ∧ op ∈ info.operations ∧
    b.operationCall? target options op = some (.ok r) ∧ (callUnder b.scope r).route? = some route

/-- A collected route leads to the operation of the target under its qualified name. -/
theorem Collects.leads {b : Builder ρ} {t : String} {options : ExtensionOptions} {op : Operation}
    {route : Route ρ} (h : b.Collects (.named t) options op route) :
    route.action = .member (.named (qualify b.scope.nameSpace t)) op.name ∧
      route.strategy = uriStrategyTag := by
  obtain ⟨info, r, -, -, hr, hroute⟩ := h
  have haction := action_of_operationCall? hr
  unfold RouteCall.route? at hroute
  split at hroute
  · cases hroute
    rw [callUnder, haction]
    exact ⟨rfl, rfl⟩
  · cases hroute

section Apply

variable {b b' : Builder ρ} {t : String} {c : Controller ρ} {options : ExtensionOptions}
  {calls : List (Registration ρ)}

/-- Applying the extension for operations to a target with a name makes the registrations of the
target's operations, all of them if it does not fail. -/
theorem exists_calls_of_apply
    (hext : b.extensions.get? operationsExtensionName = some .operations)
    (hc : b.targets.get? (qualify b.scope.nameSpace t) = some c)
    (h : b.apply operationsExtensionName (.named t) options = .done b') :
    ∃ calls, c.operations.filterMap (b.operationCall? (.named t) options) =
      calls.map (Except.ok (ε := UsageError)) ∧ b.setAll calls = .done b' :=
  (apply_operations_eq_done_iff hext (describe_named hc) options).1 h

/-- Each operation that is included and begins with a verb then has a route. -/
theorem exists_collects (hc : b.targets.get? (qualify b.scope.nameSpace t) = some c)
    (hcalls : c.operations.filterMap (b.operationCall? (.named t) options) = calls.map .ok)
    (hset : b.setAll calls = .done b') {op : Operation} (hop : op ∈ c.operations)
    (hincluded : options.includes op.name = true)
    (hverb : (splitVerb b.methods op.name).isSome = true) :
    ∃ route, b.Collects (.named t) options op route := by
  obtain ⟨x, hx⟩ := Option.isSome_iff_exists.1 hverb
  obtain ⟨call, hcall⟩ : ∃ call, b.operationCall? (.named t) options op = some call := by
    rw [operationCall?, if_pos hincluded, hx]
    exact ⟨_, rfl⟩
  have hmem : call ∈ calls.map (Except.ok (ε := UsageError)) := by
    rw [← hcalls]
    exact List.mem_filterMap.2 ⟨op, hop, hcall⟩
  obtain ⟨r, hr, rfl⟩ := List.mem_map.1 hmem
  obtain ⟨p, hp⟩ := exists_compile_of_setAll (congrArg Progress.failure hset) r hr
  have hroute : (callUnder b.scope r).route? = some ⟨Method.normalize r.method, p,
      r.action.inNamespace b.scope.nameSpace, uriStrategyTag⟩ := by
    simp only [RouteCall.route?, callUnder, hp]
  exact ⟨_, _, r, describe_named hc, hop, hcall, hroute⟩

theorem collects_of_mem (hc : b.targets.get? (qualify b.scope.nameSpace t) = some c)
    (hcalls : c.operations.filterMap (b.operationCall? (.named t) options) = calls.map .ok)
    (hset : b.setAll calls = .done b') {route : Route ρ} (hroute : route ∈ b'.table.toList) :
    (∃ op ∈ c.operations, b.Collects (.named t) options op route) ∨ route ∈ b.table.toList := by
  rw [eq_of_setAll hset] at hroute
  refine (RouteTable.mem_toList_foldl_register hroute).imp_left ?_
  rintro ⟨call, hcall, hadded⟩
  obtain ⟨r, hr, rfl⟩ := List.mem_map.1 hcall
  have hmem : Except.ok (ε := UsageError) r ∈
      c.operations.filterMap (b.operationCall? (.named t) options) := by
    rw [hcalls]
    exact List.mem_map.2 ⟨r, hr, rfl⟩
  obtain ⟨op, hop, hcalled⟩ := List.mem_filterMap.1 hmem
  exact ⟨op, hop, _, r, describe_named hc, hop, hcalled, hadded⟩

end Apply

/-! ## What is known by name -/

/-- A builder in which a name stands for a target with some operations, and the standard strategy
for itself. -/
structure Knows (b : Builder ρ) (name : String) (operations : List Operation) : Prop where
  target : ∃ c, b.targets.get? name = some c ∧ c.operations = operations
  strategy : b.strategies.get? uriStrategyTag = some .uri

/-- A program that does not make the name stand for other operations, and does not replace the
standard strategy. -/
structure Spares (program : List (Step ρ)) (name : String) (operations : List Operation) : Prop where
  target : ∀ c, .addTarget name c ∈ leavesOf program → c.operations = operations
  strategy : ∀ s, .addStrategy uriStrategyTag s ∉ leavesOf program

/-- The builder that is left by programs that are run one after the other, each under a scope of its
own, as it is when groups are entered and left. -/
def runInScopes (b : Builder ρ) (parts : List (Scope × List (Step ρ))) : Builder ρ :=
  parts.foldl (fun b part => (runSteps part.2 (b.under part.1)).state) b

theorem keptBy_knows {program : List (Step ρ)} {name : String} {operations : List Operation}
    (h : Spares program name operations) :
    KeptBy (leavesOf program) fun b => b.Knows name operations where
  registers := by
    rintro b _ ⟨log, rfl⟩ hb
    exact ⟨hb.target, hb.strategy⟩
  under _ _ hb := ⟨hb.target, hb.strategy⟩
  sealed _ hb := ⟨hb.target, hb.strategy⟩
  addExtension _ _ _ hb := ⟨hb.target, hb.strategy⟩
  addTarget := by
    intro other c hc b hb
    refine ⟨?_, hb.strategy⟩
    rw [addTarget, NameMap.get?_insert]
    split
    · rename_i hname
      subst hname
      exact ⟨c, rfl, h.target c hc⟩
    · exact hb.target
  addStrategy := by
    intro tag s hs b hb
    refine ⟨hb.target, ?_⟩
    have hne : uriStrategyTag ≠ tag := by
      rintro rfl
      exact h.strategy s hs
    rw [addStrategy, NameMap.get?_insert, if_neg hne]
    exact hb.strategy

/-- A name stands for the same operations as long as no program changes that, whatever the scopes. -/
theorem knows_runInScopes {b : Builder ρ} {name : String} {operations : List Operation}
    (hb : b.Knows name operations) {parts : List (Scope × List (Step ρ))}
    (h : ∀ part ∈ parts, Spares part.2 name operations) :
    (b.runInScopes parts).Knows name operations := by
  induction parts generalizing b with
  | nil => exact hb
  | cons part parts ih =>
    obtain ⟨hpart, hrest⟩ := List.forall_mem_cons.1 h
    have hunder : (b.under part.1).Knows name operations := ⟨hb.target, hb.strategy⟩
    exact ih (runSteps_induction part.2 (keptBy_knows hpart) _ hunder) hrest

end Builder

/-! ## Requests for collected routes -/

/-- A router in which a name stands for a target with some operations, and in which the routes that
were collected for them are served by that target. -/
structure Router.ReachesCollected (r : Router ρ) (name : String) (operations : List Operation)
    (collected : Operation → Route ρ → Prop) : Prop where
  /-- What is called is the operation of that name on the target of that name. -/
  reached : ∃ c, r.targets.get? name = some c ∧ c.operations = operations ∧
    ∀ method path found op, r.resolve method path = .ok found → collected op found.route →
      ∃ op', c.operation? op.name = some op' ∧ r.dispatch method path =
        match arrange op'.signature found.bindings with
        | .error e => .fail (.configuration e)
        | .ok arguments => (c.call op.name arguments).mapError .ofCall
  /-- No request fails because a strategy, a target or a member is not known. -/
  known : ∀ method path found op e, r.resolve method path = .ok found →
    collected op found.route → (r.dispatch method path).result = .error e →
      e.isUnknownName = false

namespace Builder

/-- Collected routes are served by the target as long as its name stands for the same operations. -/
theorem reachesCollected_of_knows {b later : Builder ρ} {t : String} {c : Controller ρ}
    {options : ExtensionOptions} (hc : b.targets.get? (qualify b.scope.nameSpace t) = some c)
    (hk : later.Knows (qualify b.scope.nameSpace t) c.operations) :
    later.toRouter.ReachesCollected (qualify b.scope.nameSpace t) c.operations
      (b.Collects (.named t) options) := by
  obtain ⟨⟨c', hc', hops⟩, huri⟩ := hk
  have hserved : ∀ method path found op, later.toRouter.resolve method path = .ok found →
      b.Collects (.named t) options op found.route →
      ∃ op', c'.operation? op.name = some op' ∧ later.toRouter.dispatch method path =
        match arrange op'.signature found.bindings with
        | .error e => .fail (.configuration e)
        | .ok arguments => (c'.call op.name arguments).mapError .ofCall := by
    intro method path found op hfound hcollected
    obtain ⟨haction, hstrategy⟩ := hcollected.leads
    -- the operation was found when the target was described, so its name is one of the target's
    obtain ⟨info, r, hinfo, hop, -, -⟩ := hcollected
    have hdescribe := describe_named hc
    obtain rfl : _ = info := Except.ok.inj (hdescribe.symm.trans hinfo)
    have hsome : (c'.operation? op.name).isSome = true := by
      rw [Controller.operation?, hops]
      exact List.find?_isSome.2 ⟨op, hop, beq_self_eq_true op.name⟩
    obtain ⟨op', hop'⟩ := Option.isSome_iff_exists.1 hsome
    refine ⟨op', hop', ?_⟩
    have huri' : later.toRouter.strategies.get? found.route.strategy =
        some (.withArguments .ok) := by
      rw [hstrategy]
      exact huri
    have hget : later.toRouter.targets.get? (qualify b.scope.nameSpace t) = some c' := hc'
    have hcallee := Invocation.resolve_named hget hop' found.bindings
    rw [← haction] at hcallee
    exact Router.dispatch_of_resolve_eq_ok hfound huri' hcallee
  refine ⟨⟨c', hc', hops, hserved⟩, fun method path found op e hfound hcollected he => ?_⟩
  obtain ⟨op', -, hdispatch⟩ := hserved method path found op hfound hcollected
  rw [hdispatch] at he
  exact isUnknownName_of_arrange he

/-- **Collected targets can be called.** Once the extension for operations has been applied to a
target that is known by its name in the namespace of the scope, each of the target's operations that
asks for one has a route, and each new route is one of these. Whatever programs come later and
whatever scopes they are run under, a request for such a route calls the operation of the target
that has the qualified name, as long as this name stands for the same operations, whether in one
controller or in others. -/
theorem reaches_collected {b b' : Builder ρ} {t : String} {c : Controller ρ}
    {options : ExtensionOptions}
    (hext : b.extensions.get? operationsExtensionName = some .operations)
    (huri : b.strategies.get? uriStrategyTag = some .uri)
    (hc : b.targets.get? (qualify b.scope.nameSpace t) = some c)
    (h : b.apply operationsExtensionName (.named t) options = .done b') :
    (∀ op ∈ c.operations, options.includes op.name = true →
      (splitVerb b.methods op.name).isSome = true →
      ∃ route, b.Collects (.named t) options op route) ∧
    (∀ route ∈ b'.table.toList,
      (∃ op ∈ c.operations, b.Collects (.named t) options op route) ∨ route ∈ b.table.toList) ∧
    ∀ parts : List (Scope × List (Step ρ)),
      (∀ part ∈ parts, Spares part.2 (qualify b.scope.nameSpace t) c.operations) →
      (b'.runInScopes parts).toRouter.ReachesCollected (qualify b.scope.nameSpace t) c.operations
        (b.Collects (.named t) options) := by
  obtain ⟨calls, hcalls, hset⟩ := exists_calls_of_apply hext hc h
  refine ⟨fun op => exists_collects hc hcalls hset, fun route => collects_of_mem hc hcalls hset,
    fun parts hparts => ?_⟩
  obtain ⟨log, hlog⟩ : b.Registers (b.apply operationsExtensionName (.named t) options).state :=
    b.registers_applyNested maxNesting operationsExtensionName (.named t) options
  rw [h] at hlog
  obtain rfl : b' = _ := hlog
  have hb' : Knows { b with table := log.foldl RouteTable.register b.table }
      (qualify b.scope.nameSpace t) c.operations := ⟨⟨c, hc, rfl⟩, huri⟩
  exact reachesCollected_of_knows hc (knows_runInScopes hb' hparts)

end Builder

end

namespace Builder

/-- The operations of a controller of pages. -/
def pageOperations : List Operation :=
  [⟨"get_show", [⟨"id", .required, none⟩]⟩, ⟨"postShow", []⟩, ⟨"helper", []⟩]

/-- A builder inside a group, with a target that is known in the namespace of the group. -/
def pagesBuilder : Builder String :=
  (((standard.setPrefix "/admin").setNamespace "Admin").addTarget "Admin::Pages"
    (echoController "pages" "Pages" pageOperations)).addTarget "Pages"
    (echoController "others" "Others" [])

/-- What comes later: more in the same group, a group inside it, and work outside after that, where
the name is given to another controller with the same operations. -/
def laterParts : List (Scope × List (Step String)) :=
  [(⟨"/admin", "Admin"⟩, [.any "/\x7bx\x7d" (.descriptor "Pages#helper"), .setNamespace "Other",
      .group ⟨some "/deep", some "Deep"⟩ [.operations (.named "Pages")]]),
    (.root, [.addTarget "Pages" (echoController "late" "Late" []),
      .addTarget "Admin::Pages" (echoController "pages again" "Pages" pageOperations),
      .addStrategy decodeStrategyTag .uri, .seal])]

/-- The router that is built after that. -/
def pagesRouter : Router String :=
  ((pagesBuilder.apply operationsExtensionName (.named "Pages") {}).state.runInScopes
    laterParts).toRouter

theorem reaches_adminPages :
    pagesBuilder.extensions.get? operationsExtensionName = some .operations ∧
    pagesBuilder.strategies.get? uriStrategyTag = some .uri ∧
    pagesBuilder.targets.get? (qualify pagesBuilder.scope.nameSpace "Pages") =
      some (echoController "pages" "Pages" pageOperations) ∧
    (∀ part ∈ laterParts,
      Spares part.2 (qualify pagesBuilder.scope.nameSpace "Pages") pageOperations) ∧
    (pagesBuilder.apply operationsExtensionName (.named "Pages") {}).failure = none ∧
    pagesRouter.ReachesCollected (qualify pagesBuilder.scope.nameSpace "Pages") pageOperations
      (pagesBuilder.Collects (.named "Pages") {}) ∧
    (pagesRouter.dispatch "GET" "/admin/show/7").journal =
      [⟨.controller "pages again", some "get_show", [("id", some "7")]⟩] := by
  have hname : qualify pagesBuilder.scope.nameSpace "Pages" = "Admin::Pages" := by decide +kernel
  have hext : pagesBuilder.extensions.get? operationsExtensionName = some .operations :=
    (isFresh_standard (ρ := String)).extension
  have huri : pagesBuilder.strategies.get? uriStrategyTag = some .uri :=
    (isFresh_standard (ρ := String)).strategy
  have hc : pagesBuilder.targets.get? (qualify pagesBuilder.scope.nameSpace "Pages") =
      some (echoController "pages" "Pages" pageOperations) := by
    rw [hname]
    simp [pagesBuilder, addTarget, NameMap.get?_insert]
  have hspares : ∀ part ∈ laterParts,
      Spares part.2 (qualify pagesBuilder.scope.nameSpace "Pages") pageOperations := by
    rw [hname]
    refine List.forall_mem_cons.2 ⟨⟨?_, ?_⟩, List.forall_mem_cons.2 ⟨⟨?_, ?_⟩, nofun⟩⟩
    · simp [leavesOf, Step.leaves, Step.operations]
    · simp [leavesOf, Step.leaves, Step.operations]
    · simp [leavesOf, Step.leaves, echoController]
    · simp [leavesOf, Step.leaves, uriStrategyTag, decodeStrategyTag]
  have hok : (pagesBuilder.apply operationsExtensionName (.named "Pages") {}).failure = none := by
    decide +kernel
  obtain ⟨b', hb'⟩ := Progress.eq_done_of_failure hok
  refine ⟨hext, huri, hc, hspares, hok, ?_, by decide +kernel⟩
  rw [pagesRouter, hb']
  exact (reaches_collected hext huri hc hb').2.2 laterParts hspares

end Builder

end UriRouter
