import UriRouter.Build.Standard
import UriRouter.Proofs.Build.Steps
import UriRouter.Proofs.Derive.Path
import UriRouter.Proofs.Scope
import UriRouter.Proofs.Serve.Arranging
import UriRouter.Proofs.Serve.Reachable
import UriRouter.Record

/-!
# Serving the operations of a controller

What the extension for operations registers under an operation's name is what requests for the
operation reach, with the values in the path as the first arguments.

* `Builder.apply_operations` : what applying the extension does to a builder;
* `Builder.apply_operation` : what it comes to for a controller with a single operation;
* `Builder.dispatch_derivedPath` : requests for an operation that is named after a path.
-/

set_option autoImplicit false

namespace UriRouter

open UriRouter.Pattern UriRouter.Text

variable {ρ : Type}

/-! ## Patterns that begin with literal text -/

theorem Path.normalizePattern_append {s : String} (hne : s ≠ "")
    (h : ∀ c ∈ s.toList, c ∉ delimiters) (t : String) :
    normalizePattern (s ++ t) = normalize s ++ t := by
  have hhead : (s ++ t).toList.head? ≠ some '[' := by
    cases hs : s.toList with
    | nil => exact absurd (String.toList_eq_nil_iff.1 hs) hne
    | cons c rest =>
      have hc : c ∉ delimiters := h c (by rw [hs]; exact List.mem_cons_self)
      rw [String.toList_append, hs]
      intro he
      cases he
      exact hc (by decide)
  rw [normalizePattern_of_head? hhead, normalize_append hne]

/-! ## A controller with a single operation -/

namespace Builder

/-- The controller that a target is, where the builder knows it. -/
def controllerOf? (b : Builder ρ) : TargetRef ρ → Option (Controller ρ)
  | .bound c => some c
  | .named name => b.targets.get? (qualify b.scope.nameSpace name)

theorem describe_of_controllerOf? {b : Builder ρ} {target : TargetRef ρ} {c : Controller ρ}
    (h : b.controllerOf? target = some c) : b.view.describe target = .ok ⟨c.name, c.operations⟩ := by
  cases target with
  | bound c' =>
    cases h
    rfl
  | named name =>
    have hget : b.targets.get? (qualify b.scope.nameSpace name) = some c := h
    simp only [BuildView.describe, view, Targets.instantiate, hget]

/-- A target that declares a single operation, where the options include it and its name begins
with a verb. -/
structure Declares (b : Builder ρ) (target : TargetRef ρ) (options : ExtensionOptions)
    (c : Controller ρ) (op : Operation) (verb rest : String) : Prop where
  controller : b.controllerOf? target = some c
  operations : c.operations = [op]
  included : options.includes op.name = true
  verb : splitVerb b.methods op.name = some (verb, rest)

theorem resolve_operation {b : Builder ρ} {target : TargetRef ρ} {options : ExtensionOptions}
    {c : Controller ρ} {op : Operation} {verb rest : String}
    (ht : b.Declares target options c op verb rest) (bindings : Bindings) :
    (⟨.member (target.inNamespace b.scope.nameSpace) op.name, bindings, b.targets⟩ :
      Invocation ρ).resolve =
      .ok ⟨c.name ++ "#" ++ op.name, op.signature, c.call op.name⟩ := by
  have hmember : Resolved.ofMember c op.name =
      .ok ⟨c.name ++ "#" ++ op.name, op.signature, c.call op.name⟩ := by
    have hfind : c.operation? op.name = some op := by
      rw [Controller.operation?, ht.operations]
      exact List.find?_cons_of_pos (beq_self_eq_true op.name)
    rw [Resolved.ofMember, hfind]
  cases target with
  | bound c' =>
    cases ht.controller
    exact hmember
  | named name =>
    have hget : b.targets.get? (qualify b.scope.nameSpace name) = some c := ht.controller
    simp only [TargetRef.inNamespace, Invocation.resolve, Targets.instantiate, hget]
    exact hmember

end Builder

section

variable [Regex.PropertyTable]

/-! ## Applying the extension -/

namespace Builder

/-- Makes a registration that an extension has planned. -/
def register (b : Builder ρ) (r : Registration ρ) : Progress (Builder ρ) :=
  b.setAction r.method r.pattern r.action uriStrategyTag

/-- **What applying the extension for operations does**: it makes the registrations for the
target's operations, or none if one of them cannot be made ready. -/
theorem apply_operations {b : Builder ρ}
    (h : b.extensions.get? operationsExtensionName = some .operations) (target : TargetRef ρ)
    (options : ExtensionOptions) :
    b.apply operationsExtensionName target options =
      match b.view.describe target with
      | .error e => .failed b (.configuration e)
      | .ok info =>
        match operationRoutes b.view target options info.operations with
        | .error e => .failed b e
        | .ok registrations => Progress.each register b registrations := by
  rw [apply, maxNesting, applyNested, h]
  simp only [Extension.operations]
  cases b.view.describe target with
  | error e => rfl
  | ok info =>
    simp only
    cases operationRoutes b.view target options info.operations with
    | error e => rfl
    | ok registrations =>
      simp only [Plan.ofExcept, Plan.registering, Progress.each_map, Progress.andThen_done]
      rfl

theorem register_of_ok {b : Builder ρ} {r : Registration ρ} (h : (b.register r).failure = none) :
    ∃ p, compile (b.scope.apply r.pattern) = .ok p ∧ (b.register r).state =
      { b with table := b.table.add ⟨Method.normalize r.method, p,
          r.action.inNamespace b.scope.nameSpace, uriStrategyTag⟩ } := by
  unfold register setAction RouteTable.set at h ⊢
  cases hs : b.table.isSealed with
  | true =>
    rw [hs] at h
    cases h
  | false =>
    cases hc : compile (b.scope.apply r.pattern) with
    | error e =>
      rw [hs, hc] at h
      cases h
    | ok p => exact ⟨p, rfl, by simp [Progress.done]⟩

/-! ## The route of a single operation -/

theorem operationRoutes_singleton {view : BuildView ρ} {target : TargetRef ρ}
    {options : ExtensionOptions} {op : Operation} {verb rest : String}
    {registrations : List (Registration ρ)} (hi : options.includes op.name = true)
    (hv : splitVerb view.methods op.name = some (verb, rest))
    (h : operationRoutes view target options [op] = .ok registrations) :
    ∃ suffix, deriveSuffix op = .ok suffix ∧
      registrations = [⟨verb, derivePattern (derivePath rest) suffix, .member target op.name⟩] := by
  have hroute : operationRoute? view.methods op =
      some (verb, derivePattern (derivePath rest) <$> deriveSuffix op) := by
    rw [operationRoute?, hv]
    rfl
  rw [operationRoutes, hi, hroute] at h
  cases hs : deriveSuffix op with
  | error e =>
    rw [hs] at h
    cases h
  | ok suffix =>
    refine ⟨suffix, rfl, ?_⟩
    rw [hs] at h
    have hmap : derivePattern (derivePath rest) <$> (.ok suffix : Except UsageError String) =
        .ok (derivePattern (derivePath rest) suffix) := rfl
    simp only [hmap, Bool.not_true, Bool.false_eq_true, ↓reduceIte] at h
    cases hc : compile (view.scope.apply (derivePattern (derivePath rest) suffix)) with
    | error e =>
      rw [hc] at h
      cases h
    | ok p =>
      rw [hc] at h
      exact (Except.ok.inj h).symm

/-- A builder that has registered nothing, with the standard extension and strategy for
operations. -/
structure IsFresh (b : Builder ρ) : Prop where
  extension : b.extensions.get? operationsExtensionName = some .operations
  strategy : b.strategies.get? uriStrategyTag = some .uri
  noRoutes : b.table.toList = []

section Single

variable {b : Builder ρ} {target : TargetRef ρ} {options : ExtensionOptions} {c : Controller ρ}
  {op : Operation} {verb rest : String}

/-- What applying the extension to a controller with a single operation comes to, if it does not
fail. -/
theorem apply_operation (hb : b.IsFresh) (ht : b.Declares target options c op verb rest)
    (h : (b.apply operationsExtensionName target options).failure = none) :
    ∃ suffix p, deriveSuffix op = .ok suffix ∧
      compile (b.scope.apply (derivePattern (derivePath rest) suffix)) = .ok p ∧
      (b.apply operationsExtensionName target options).state =
        { b with table := b.table.add ⟨Method.normalize verb, p,
            .member (target.inNamespace b.scope.nameSpace) op.name, uriStrategyTag⟩ } := by
  have happly : b.apply operationsExtensionName target options =
      match operationRoutes b.view target options [op] with
      | .error e => .failed b e
      | .ok registrations => Progress.each register b registrations := by
    rw [apply_operations hb.extension, describe_of_controllerOf? ht.controller, ht.operations]
  rw [happly] at h ⊢
  cases hr : operationRoutes b.view target options [op] with
  | error e =>
    rw [hr] at h
    cases h
  | ok registrations =>
    obtain ⟨suffix, hs, rfl⟩ := operationRoutes_singleton ht.included ht.verb hr
    rw [hr] at h
    simp only [Progress.each_singleton] at h ⊢
    obtain ⟨p, hp, hstate⟩ := register_of_ok h
    simp only [Action.inNamespace] at hp hstate
    exact ⟨suffix, p, hs, hp, hstate⟩

/-- What the router makes of a request, where the route of a single operation is all there is. -/
theorem dispatch_operation (hb : b.IsFresh) (ht : b.Declares target options c op verb rest)
    (p : Pattern) (path : String) :
    ({ b with table := b.table.add ⟨Method.normalize verb, p,
        .member (target.inNamespace b.scope.nameSpace) op.name, uriStrategyTag⟩ } :
      Builder ρ).toRouter.dispatch verb path =
      match p.captures? (Path.normalize path) with
      | none => .fail (.notFound (Method.normalize verb) path)
      | some bindings =>
        match arrange op.signature bindings with
        | .error e => .fail (.configuration e)
        | .ok arguments => (c.call op.name arguments).mapError .ofCall := by
  rw [Router.dispatch, toRouter, Router.resolve_add hb.noRoutes rfl]
  cases p.captures? (Path.normalize path) with
  | none => rfl
  | some bindings =>
    have hfind : b.strategies.find uriStrategyTag = .ok .uri := by
      rw [Strategies.find, hb.strategy]
    cases ha : arrange op.signature bindings with
    | error e =>
      simp only [Router.new, hfind, Strategy.uri, Strategy.withArguments, resolve_operation ht, ha]
    | ok arguments =>
      simp only [Router.new, hfind, Strategy.uri, Strategy.withArguments, resolve_operation ht, ha]

/-- **Requests for a single operation.** Where the pattern that is registered is literal text and
the placeholders, a path of the same text and values calls the operation with the values. -/
theorem dispatch_of_apply (hb : b.IsFresh) (ht : b.Declares target options c op verb rest)
    (hsig : op.signature.IsPlain)
    (h : (b.apply operationsExtensionName target options).failure = none) {base path : String}
    {values : List String} (hbase : ∀ d ∈ base.toList, d ∉ delimiters)
    (hraw : ∀ suffix, deriveSuffix op = .ok suffix →
      Path.normalizePattern (b.scope.apply (derivePattern (derivePath rest) suffix)) = base ++ suffix)
    (hvalues : op.signature.Takes values)
    (hpath : Path.normalize path = base ++ String.ofList (piecesOf values)) :
    (b.apply operationsExtensionName target options).state.toRouter.dispatch verb path =
      (c.call op.name (op.signature.fill values)).mapError .ofCall := by
  obtain ⟨suffix, p, hs, hp, hstate⟩ := apply_operation hb ht h
  obtain ⟨hchain, hfirst⟩ := deriveSuffix_eq_ok hs
  have hcaptures := captures?_chain (hraw suffix hs) hchain hbase hsig hfirst hp hvalues
  rw [hstate, dispatch_operation hb ht, hpath, hcaptures]
  simp only [Signature.arrange_bind hsig.distinct hfirst hvalues]

/-! ## Operations with a path of their own -/

/-- **Operations that are named after a path.** Once the extension has registered such an
operation, a request for its path, with values for the first of its parameters and for all that
are required, calls it with these values and with what the other parameters fall back on. The
reply, with its journal, is that of this one call. -/
theorem dispatch_derivedPath (hb : b.IsFresh) (ht : b.Declares target options c op verb rest)
    (hsig : op.signature.IsPlain) (hrest : ∀ d ∈ rest.toList, isAsciiWordChar d = true)
    (hpath : derivePath rest ≠ "") (hscope : ∀ d ∈ b.scope.pathPrefix.toList, d ∉ delimiters)
    (h : (b.apply operationsExtensionName target options).failure = none) {values : List String}
    (hvalues : op.signature.Takes values) :
    (b.apply operationsExtensionName target options).state.toRouter.dispatch verb
        (b.scope.pathPrefix ++ derivePath rest ++ String.ofList (piecesOf values)) =
      (c.call op.name (op.signature.fill values)).mapError .ofCall := by
  obtain ⟨d, path, hderived⟩ := toList_derivePath hpath
  have hliteral : ∀ e ∈ (b.scope.pathPrefix ++ derivePath rest).toList, e ∉ delimiters := by
    rw [String.toList_append]
    exact List.forall_mem_append.2 ⟨hscope, notMem_delimiters_derivePath hrest⟩
  have hne : b.scope.pathPrefix ++ derivePath rest ≠ "" := by
    intro hempty
    have hnil := congrArg String.toList hempty
    rw [String.toList_append, hderived] at hnil
    exact List.append_ne_nil_of_right_ne_nil _ (List.cons_ne_nil _ _) hnil
  have hbase : ∀ e ∈ (Path.normalize (b.scope.pathPrefix ++ derivePath rest)).toList,
      e ∉ delimiters := by
    intro e he
    rcases Path.mem_normalize he with rfl | he
    · decide
    · exact hliteral e he
  refine dispatch_of_apply hb ht hsig h hbase (fun suffix _ => ?_) hvalues
    (Path.normalize_append hne _)
  have hpattern : derivePattern (derivePath rest) suffix = derivePath rest ++ suffix := by
    rw [derivePattern, if_neg]
    rw [String.isEmpty_iff]
    exact hpath
  have htext : (derivePath rest ++ suffix).toList = '/' :: d :: (path ++ suffix.toList) := by
    rw [String.toList_append, hderived]
    rfl
  rw [hpattern, Scope.apply_of_toList htext, ← String.append_assoc,
    Path.normalizePattern_append hne hliteral]

end Single

theorem isFresh_standard : (standard : Builder ρ).IsFresh where
  extension := by
    simp [standard, addStrategy, addExtension, NameMap.get?_insert, operationsExtensionName,
      resourceExtensionName]
  strategy := by
    simp [standard, addStrategy, addExtension, bare, Strategies.standard, NameMap.ofList,
      NameMap.get?_insert, uriStrategyTag, decodeStrategyTag]
  noRoutes := rfl

end Builder

end

namespace Builder

/-- An operation that is named after a path and whose last two parameters are optional. -/
def namesOperation : Operation where
  name := "getUserNames"
  signature := [⟨"id", .required, none⟩, ⟨"lang", .value "en", none⟩, ⟨"page", .absent, none⟩]

/-- The controller with that operation. -/
def namesController : Controller String := echoController "users" "Users" [namesOperation]

/-- The standard builder with a prefix. -/
def adminBuilder : Builder String := standard.setPrefix "admin"

theorem dispatch_userNames :
    (adminBuilder.apply operationsExtensionName (.bound namesController) {}).failure = none ∧
    (adminBuilder.apply operationsExtensionName (.bound namesController) {}).state.toRouter.dispatch
        "get" "/admin/user/names/7/de" =
      ⟨.ok "getUserNames(7,de,-)", [⟨.controller "users", some "getUserNames",
        [("id", some "7"), ("lang", some "de"), ("page", none)]⟩]⟩ := by
  have hok : (adminBuilder.apply operationsExtensionName (.bound namesController) {}).failure =
      none := by decide +kernel
  have hb : adminBuilder.IsFresh := ⟨isFresh_standard.extension, isFresh_standard.strategy, rfl⟩
  have ht : adminBuilder.Declares (.bound namesController) {} namesController namesOperation "get"
      "UserNames" := ⟨rfl, rfl, by decide +kernel, by decide +kernel⟩
  have hsig : namesOperation.signature.IsPlain :=
    ⟨by decide +kernel, by decide +kernel, by decide +kernel⟩
  have hvalues : namesOperation.signature.Takes ["7", "de"] :=
    ⟨by decide +kernel, by decide +kernel, by decide +kernel⟩
  have hrest : ∀ d ∈ "UserNames".toList, isAsciiWordChar d = true :=
    List.all_eq_true.1 (by decide +kernel)
  have hscope : ∀ d ∈ adminBuilder.scope.pathPrefix.toList, d ∉ delimiters :=
    areWellFormed_literals.1 (by decide +kernel)
  have hpath : adminBuilder.scope.pathPrefix ++ derivePath "UserNames" ++
      String.ofList (piecesOf ["7", "de"]) = "/admin/user/names/7/de" := by decide +kernel
  have hreply := dispatch_derivedPath hb ht hsig hrest (by decide +kernel) hscope hok hvalues
  rw [hpath] at hreply
  exact ⟨hok, hreply⟩

end Builder

end UriRouter
