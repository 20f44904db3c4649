import UriRouter.Proofs.Serve.Allowed
import UriRouter.Proofs.Table.Routes
import UriRouter.Serve.Decoding

/-!
# What a request comes to

A strategy that reads the bound values and calls the callee once does nothing before that call, and
its own failures are told apart from those of the callee.

* `Router.dispatch_of_resolve_eq_ok` : a request whose route, strategy and callee are known;
* `Router.dispatch_cases` : a request fails before anything is called, or ends with the call.
-/

set_option autoImplicit false

namespace UriRouter

variable {ρ : Type}

namespace Router

variable {r : Router ρ} {method path : String}

theorem mem_toList_of_resolve {found : RouteMatch ρ} (h : r.resolve method path = .ok found) :
    found.route ∈ r.table.toList :=
  RouteTable.mem_toList_of_find (resolve_eq_ok.1 h)

/-- **A request whose route, strategy and callee are known.** -/
theorem dispatch_of_resolve_eq_ok {found : RouteMatch ρ} {callee : Resolved ρ}
    {f : Arguments → Except ArgumentError Arguments} (h : r.resolve method path = .ok found)
    (hs : r.strategies.get? found.route.strategy = some (.withArguments f))
    (hc : (⟨found.route.action, found.bindings, r.targets⟩ : Invocation ρ).resolve = .ok callee) :
    r.dispatch method path =
      match arrange callee.signature found.bindings with
      | .error e => .fail (.configuration e)
      | .ok arguments =>
        match f arguments with
        | .error e => .fail (.argument e)
        | .ok arguments => (callee.call arguments).mapError .ofCall := by
  have hfind : r.strategies.find found.route.strategy = .ok (.withArguments f) := by
    rw [Strategies.find, hs]
  cases hb : arrange callee.signature found.bindings with
  | error e => simp only [dispatch, h, hfind, Strategy.withArguments, hc, hb]
  | ok bound =>
    cases hf : f bound <;> simp only [dispatch, h, hfind, Strategy.withArguments, hc, hb, hf]

theorem resolve_error_cases {e : DispatchError} (h : r.resolve method path = .error e) :
    (∃ method path, e = .notFound method path) ∨
      ∃ method path allowed, e = .methodNotAllowed method path allowed := by
  unfold resolve at h
  simp only at h
  split at h
  · cases h
  · split at h
    · exact .inl ⟨_, _, (Except.error.inj h).symm⟩
    · exact .inr ⟨_, _, _, (Except.error.inj h).symm⟩

theorem ne_handler_of_resolve {e : DispatchError} (h : r.resolve method path = .error e)
    (message : String) : e ≠ .handler message := by
  obtain ⟨_, _, rfl⟩ | ⟨_, _, _, rfl⟩ := resolve_error_cases h <;> nofun

/-- **A request fails before anything is called, or it ends with the call.** No failure of the first
kind is one that a callee is to blame for. -/
theorem dispatch_cases {P : (Arguments → Except ArgumentError Arguments) → Prop}
    (hs : ∀ found s, r.resolve method path = .ok found →
      r.strategies.get? found.route.strategy = some s → ∃ f, s = .withArguments f ∧ P f) :
    (∃ e, r.dispatch method path = .fail e ∧ ∀ message, e ≠ .handler message) ∨
    ∃ found f callee bound arguments, r.resolve method path = .ok found ∧ P f ∧
      (⟨found.route.action, found.bindings, r.targets⟩ : Invocation ρ).resolve = .ok callee ∧
      arrange callee.signature found.bindings = .ok bound ∧ f bound = .ok arguments ∧
      r.dispatch method path = (callee.call arguments).mapError .ofCall := by
  cases hr : r.resolve method path with
  | error e => exact .inl ⟨e, by rw [dispatch, hr], ne_handler_of_resolve hr⟩
  | ok found =>
    cases hg : r.strategies.get? found.route.strategy with
    | none =>
      refine .inl ⟨.configuration (.unknownStrategy found.route.strategy r.strategies.names), ?_,
        nofun⟩
      simp only [dispatch, hr, Strategies.find, hg]
    | some s =>
      obtain ⟨f, rfl, hP⟩ := hs found s hr hg
      cases hc : (⟨found.route.action, found.bindings, r.targets⟩ : Invocation ρ).resolve with
      | error e =>
        refine .inl ⟨.configuration e, ?_, nofun⟩
        simp only [dispatch, hr, Strategies.find, hg, Strategy.withArguments, hc]
      | ok callee =>
        have hdispatch := dispatch_of_resolve_eq_ok hr hg hc
        cases hb : arrange callee.signature found.bindings with
        | error e => exact .inl ⟨.configuration e, by rw [hdispatch, hb], nofun⟩
        | ok bound =>
          cases hf : f bound with
          | error e => exact .inl ⟨.argument e, by rw [hdispatch, hb]; simp only [hf], nofun⟩
          | ok arguments =>
            refine .inr ⟨found, f, callee, bound, arguments, rfl, hP, hc, hb, hf, ?_⟩
            rw [hdispatch, hb]
            simp only [hf]

end Router

end UriRouter
