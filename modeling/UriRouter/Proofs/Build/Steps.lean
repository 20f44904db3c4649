import UriRouter.Build.Step
import UriRouter.Proofs.Table.Log

/-!
# What a step of building changes

A step that registers routes changes the table and nothing else, and the table only by calls, some
of which fail. Whatever steps a program has, no route that a table has taken is lost: a route that
is not fixed keeps its place, and a fixed one gives way to a later one for the same path alone.

* `Builder.Registers` : a builder after another one that differs from it by calls;
* `Builder.setAction_state`, `Builder.registers_applyNested` : registrations and extensions make
  such a difference;
* `Builder.applyNested_of_le` : how deeply extensions may apply one another does not matter to what
  succeeds;
* `Step.run_group`, `Step.scope_run` : what a group, and any step, does to the scope;
* `runSteps_induction` : what no change of a builder can break, no program can;
* `Step.keeps_run` : no route is lost.
-/

set_option autoImplicit false

namespace UriRouter

variable {ρ : Type}

/-! ## Tables that lose no route -/

namespace RouteTable

/-- A table that has all the routes of another one, save fixed ones in whose place it has others
for the same path. -/
structure Keeps (t t' : RouteTable ρ) : Prop where
  matched : ∀ method, (t.routesOf method).matched <+: (t'.routesOf method).matched
  fixed : ∀ method path, ((t.routesOf method).fixed.get? path).isSome →
    ((t'.routesOf method).fixed.get? path).isSome

theorem Keeps.refl (t : RouteTable ρ) : Keeps t t :=
  ⟨fun _ => List.prefix_refl _, fun _ _ h => h⟩

theorem Keeps.trans {t t₁ t₂ : RouteTable ρ} (h : Keeps t t₁) (h' : Keeps t₁ t₂) : Keeps t t₂ :=
  ⟨fun method => (h.matched method).trans (h'.matched method),
    fun method path hp => h'.fixed method path (h.fixed method path hp)⟩

theorem keeps_add (t : RouteTable ρ) (route : Route ρ) : Keeps t (t.add route) := by
  refine ⟨fun method => ?_, fun method path hp => ?_⟩
  · rw [routesOf_add]
    split
    · rw [MethodRoutes.add]
      cases route.pattern.kind with
      | fixed fixed => exact List.prefix_refl _
      | matched matcher => exact List.prefix_append _ _
    · exact List.prefix_refl _
  · rw [routesOf_add]
    split
    · rw [MethodRoutes.add]
      cases route.pattern.kind with
      | fixed fixed =>
        simp only [NameMap.get?_insert]
        split
        · rfl
        · exact hp
      | matched matcher => exact hp
    · exact hp

variable [Regex.PropertyTable]

theorem keeps_register (t : RouteTable ρ) (r : RouteCall ρ) : Keeps t (t.register r) := by
  unfold register set
  cases t.isSealed with
  | true => exact .refl t
  | false =>
    cases Pattern.compile r.pattern with
    | error e => exact .refl t
    | ok p => exact keeps_add t _

theorem keeps_foldl_register (t : RouteTable ρ) (log : List (RouteCall ρ)) :
    Keeps t (log.foldl register t) := by
  induction log generalizing t with
  | nil => exact .refl t
  | cons r log ih => exact (keeps_register t r).trans (ih (t.register r))

end RouteTable

/-! ## Work in order -/

namespace Progress

variable {σ α β : Type}

theorem andThen_done (p : Progress σ) : p.andThen (fun s => ⟨s, none⟩) = p := by
  obtain ⟨s, _ | e⟩ := p
  · rfl
  · rfl

theorem andThen_assoc (p : Progress σ) (f g : σ → Progress σ) :
    (p.andThen f).andThen g = p.andThen fun s => (f s).andThen g := by
  obtain ⟨s, _ | e⟩ := p
  · rfl
  · rfl

theorem each_map (f : σ → β → Progress σ) (g : α → β) (s : σ) (items : List α) :
    each f s (items.map g) = each (fun s a => f s (g a)) s items := by
  induction items generalizing s with
  | nil => rfl
  | cons a items ih =>
    rw [List.map_cons, each, each]
    exact congrArg _ (funext ih)

theorem each_singleton (f : σ → α → Progress σ) (s : σ) (a : α) : each f s [a] = f s a :=
  andThen_done (f s a)

/-- What each of two pieces of work keeps is kept by one after the other. -/
theorem andThen_induction {P : σ → Prop} {p : Progress σ} {f : σ → Progress σ} (hp : P p.state)
    (hf : ∀ s, P s → P (f s).state) : P (p.andThen f).state := by
  rw [andThen]
  split
  · exact hp
  · exact hf p.state hp

/-- What each piece of work keeps is kept by all of it. -/
theorem each_induction {P : σ → Prop} {f : σ → α → Progress σ}
    (hf : ∀ s a, P s → P (f s a).state) {s : σ} (hs : P s) (items : List α) :
    P (each f s items).state := by
  induction items generalizing s with
  | nil => exact hs
  | cons a items ih => exact andThen_induction (hf s a hs) fun _ => ih

theorem failure_of_andThen {p : Progress σ} {f : σ → Progress σ}
    (h : (p.andThen f).failure = none) : p.failure = none := by
  obtain ⟨s, _ | e⟩ := p
  · rfl
  · exact h

/-- Work that succeeds is also done by what agrees with it wherever it succeeds. -/
theorem each_congr_of_done {f g : σ → α → Progress σ}
    (hfg : ∀ s a, (f s a).failure = none → g s a = f s a) {s : σ} {items : List α}
    (h : (each f s items).failure = none) : each g s items = each f s items := by
  induction items generalizing s with
  | nil => rfl
  | cons a items ih =>
    rw [each] at h
    have ha : (f s a).failure = none := failure_of_andThen h
    rw [each, each, hfg s a ha]
    unfold andThen at h ⊢
    rw [ha] at h ⊢
    exact ih h

end Progress

/-! ## Other scopes -/

/-- The builder with another scope. -/
def Builder.under (b : Builder ρ) (s : Scope) : Builder ρ := { b with scope := s }

/-- The outcome of work on a builder, with another scope. -/
def Progress.under (p : Progress (Builder ρ)) (s : Scope) : Progress (Builder ρ) :=
  ⟨p.state.under s, p.failure⟩

@[simp] theorem Builder.under_scope (b : Builder ρ) (s : Scope) : (b.under s).scope = s := rfl

@[simp] theorem Builder.under_self (b : Builder ρ) : b.under b.scope = b := rfl

@[simp] theorem Builder.under_under (b : Builder ρ) (s s' : Scope) :
    (b.under s).under s' = b.under s' := rfl

@[simp] theorem Builder.under_setPrefix (b : Builder ρ) (p : String) (s : Scope) :
    (b.setPrefix p).under s = b.under s := by simp only [under, setPrefix]

@[simp] theorem Builder.under_setNamespace (b : Builder ρ) (n : String) (s : Scope) :
    (b.setNamespace n).under s = b.under s := by simp only [under, setNamespace]

@[simp] theorem Progress.under_state (p : Progress (Builder ρ)) (s : Scope) :
    (p.under s).state = p.state.under s := rfl

@[simp] theorem Progress.under_failure (p : Progress (Builder ρ)) (s : Scope) :
    (p.under s).failure = p.failure := rfl

@[simp] theorem Progress.under_under (p : Progress (Builder ρ)) (s s' : Scope) :
    (p.under s).under s' = p.under s' := rfl

@[simp] theorem Progress.under_done (b : Builder ρ) (s : Scope) :
    (Progress.done b).under s = .done (b.under s) := rfl

@[simp] theorem Progress.under_failed (b : Builder ρ) (e : RegistrationError) (s : Scope) :
    (Progress.failed b e).under s = .failed (b.under s) e := rfl

variable [Regex.PropertyTable]

/-- A program of one step does what the step does. -/
theorem runSteps_singleton (step : Step ρ) (b : Builder ρ) : runSteps [step] b = step.run b := by
  have hnil : runSteps ([] : List (Step ρ)) = Progress.done := by
    funext b
    rw [runSteps]
  rw [runSteps, hnil]
  exact Progress.andThen_done _

/-! ## Registrations -/

namespace Builder

/-- A builder that differs from another one by the calls that its table has been given since, and
in nothing else. -/
def Registers (b b' : Builder ρ) : Prop :=
  ∃ log : List (RouteCall ρ), b' = { b with table := log.foldl RouteTable.register b.table }

theorem Registers.refl (b : Builder ρ) : Registers b b := ⟨[], rfl⟩

theorem Registers.trans {b b₁ b₂ : Builder ρ} (h : Registers b b₁) (h' : Registers b₁ b₂) :
    Registers b b₂ := by
  obtain ⟨log, rfl⟩ := h
  obtain ⟨log', rfl⟩ := h'
  exact ⟨log ++ log', by rw [List.foldl_append]⟩

theorem Registers.scope {b b' : Builder ρ} (h : Registers b b') : b'.scope = b.scope := by
  obtain ⟨log, rfl⟩ := h
  rfl

theorem Registers.keeps {b b' : Builder ρ} (h : Registers b b') : b.table.Keeps b'.table := by
  obtain ⟨log, rfl⟩ := h
  exact RouteTable.keeps_foldl_register b.table log

/-- What a registration leaves, whether it fails or not. -/
theorem setAction_state (b : Builder ρ) (method pattern : String) (action : Action ρ)
    (strategy : String) :
    (b.setAction method pattern action strategy).state = { b with
      table := b.table.register ⟨method, b.scope.apply pattern,
        action.inNamespace b.scope.nameSpace, strategy⟩ } := by
  unfold setAction RouteTable.register
  simp only
  cases b.table.set method (b.scope.apply pattern) (action.inNamespace b.scope.nameSpace)
      strategy <;> rfl

theorem registers_setAction (b : Builder ρ) (method pattern : String) (action : Action ρ)
    (strategy : String) : b.Registers (b.setAction method pattern action strategy).state :=
  ⟨[_], setAction_state b method pattern action strategy⟩

theorem registers_withAction (b : Builder ρ) (source : ActionSource ρ)
    {f : Action ρ → Progress (Builder ρ)} (hf : ∀ action, b.Registers (f action).state) :
    b.Registers (b.withAction source f).state := by
  unfold withAction
  cases source.resolve with
  | error e => exact .refl b
  | ok action => exact hf action

theorem registers_set (b : Builder ρ) (method pattern : String) (source : ActionSource ρ)
    (strategy : String) : b.Registers (b.set method pattern source strategy).state :=
  b.registers_withAction source fun action => b.registers_setAction method pattern action strategy

theorem registers_forMethods (b : Builder ρ) (methods : List String) (pattern : String)
    (source : ActionSource ρ) : b.Registers (b.forMethods methods pattern source).state :=
  b.registers_withAction source fun action =>
    Progress.each_induction
      (fun b' method h => h.trans (b'.registers_setAction method pattern action uriStrategyTag))
      (.refl b) methods

/-- Extensions make registrations, and apply extensions that do so, and nothing else. -/
theorem registers_applyNested (depth : Nat) (b : Builder ρ) (name : String)
    (target : TargetRef ρ) (options : ExtensionOptions) :
    b.Registers (applyNested depth b name target options).state := by
  induction depth generalizing b name target options with
  | zero => exact .refl b
  | succ depth ih =>
    rw [applyNested]
    cases b.extensions.get? name with
    | none => exact .refl b
    | some e =>
      refine Progress.andThen_induction (P := b.Registers)
        (Progress.each_induction ?_ (.refl b) _) fun _ h => h
      intro b' step h
      cases step with
      | register r => exact h.trans (b'.registers_setAction _ _ _ _)
      | apply name target options => exact h.trans (ih b' name target options)

/-- What succeeds at some depth does the same at the next. -/
theorem applyNested_succ {depth : Nat} {b : Builder ρ} {name : String} {target : TargetRef ρ}
    {options : ExtensionOptions} (h : (applyNested depth b name target options).failure = none) :
    applyNested (depth + 1) b name target options = applyNested depth b name target options := by
  induction depth generalizing b name target options with
  | zero => cases h
  | succ depth ih =>
    rw [applyNested] at h
    rw [applyNested, applyNested]
    cases he : b.extensions.get? name with
    | none => rfl
    | some e =>
      rw [he] at h
      dsimp only at h ⊢
      rw [Progress.each_congr_of_done (fun b' step hstep => ?_) (Progress.failure_of_andThen h)]
      cases step with
      | register r => rfl
      | apply name target options => exact ih hstep

/-- **How deeply extensions may apply one another makes no difference to what succeeds.** -/
theorem applyNested_of_le {depth depth' : Nat} (hle : depth ≤ depth') {b : Builder ρ}
    {name : String} {target : TargetRef ρ} {options : ExtensionOptions}
    (h : (applyNested depth b name target options).failure = none) :
    applyNested depth' b name target options = applyNested depth b name target options := by
  induction hle with
  | refl => rfl
  | step _ ih => rw [applyNested_succ (ih ▸ h), ih]

end Builder

/-! ## Steps -/

namespace Step

/-- The body of a group begins under the scope of the group, and the scope around it is restored. -/
theorem run_group (g : Group) (body : List (Step ρ)) (b : Builder ρ) :
    (Step.group g body).run b = (runSteps body (b.under (b.scope.nest g))).under b.scope := rfl

/-- The scope of what comes after a step in the same body. A group leaves it as it is. -/
def scopeAfter (s : Scope) : Step ρ → Scope
  | .setPrefix p => s.withPrefix p
  | .setNamespace n => s.withNamespace n
  | .attempt step => step.scopeAfter s
  | _ => s

/-- **What a step does to the scope**, whether it fails or not. -/
theorem scope_run : ∀ (step : Step ρ) (b : Builder ρ),
    (step.run b).state.scope = step.scopeAfter b.scope
  | .set method pattern source strategy, b => (b.registers_set method pattern source strategy).scope
  | .forMethods methods pattern source, b => (b.registers_forMethods methods pattern source).scope
  | .any pattern source, b => (b.registers_forMethods b.methods pattern source).scope
  | .except _ pattern source, b => (b.registers_forMethods _ pattern source).scope
  | .apply extension target options, b =>
    (b.registers_applyNested Builder.maxNesting extension target options).scope
  | .setPrefix _, _ => rfl
  | .setNamespace _, _ => rfl
  | .seal, _ => rfl
  | .addExtension _ _, _ => rfl
  | .addTarget _ _, _ => rfl
  | .addStrategy _ _, _ => rfl
  | .group _ _, _ => rfl
  | .attempt step, b => step.scope_run b

end Step

/-! ## Whole programs -/

mutual

/-- The steps that a step comes down to, groups and attempts opened. -/
def Step.leaves {ρ : Type} : Step ρ → List (Step ρ)
  | .group _ body => leavesOf body
  | .attempt step => step.leaves
  | step => [step]

/-- The steps that a program comes down to, groups and attempts opened. -/
def leavesOf {ρ : Type} : List (Step ρ) → List (Step ρ)
  | [] => []
  | step :: rest => step.leaves ++ leavesOf rest

end

/-- What no change of a builder can break that a program with some steps may make: calls to its
table, another scope, the seal, and what the steps make known by name. -/
structure KeptBy (steps : List (Step ρ)) (P : Builder ρ → Prop) : Prop where
  registers : ∀ b b' : Builder ρ, b.Registers b' → P b → P b'
  under : ∀ (b : Builder ρ) s, P b → P (b.under s)
  sealed : ∀ b : Builder ρ, P b → P b.sealed
  addExtension : ∀ (b : Builder ρ) name e, P b → P (b.addExtension name e)
  addTarget : ∀ name c, .addTarget name c ∈ steps →
    ∀ b : Builder ρ, P b → P (b.addTarget name c)
  addStrategy : ∀ tag s, .addStrategy tag s ∈ steps →
    ∀ b : Builder ρ, P b → P (b.addStrategy tag s)

section Induction

variable {P : Builder ρ → Prop}

theorem KeptBy.mono {steps steps' : List (Step ρ)} (h : KeptBy steps P) (hs : steps' ⊆ steps) :
    KeptBy steps' P :=
  { h with
    addTarget := fun name c hm => h.addTarget name c (hs hm)
    addStrategy := fun tag s hm => h.addStrategy tag s (hs hm) }

mutual

/-- What the changes that a step may make cannot break is kept by the step. -/
theorem Step.run_induction : ∀ (step : Step ρ), KeptBy step.leaves P →
    ∀ b, P b → P (step.run b).state
  | .set method pattern source strategy, h, b, hb =>
    h.registers b _ (b.registers_set method pattern source strategy) hb
  | .forMethods methods pattern source, h, b, hb =>
    h.registers b _ (b.registers_forMethods methods pattern source) hb
  | .any pattern source, h, b, hb =>
    h.registers b _ (b.registers_forMethods b.methods pattern source) hb
  | .except _ pattern source, h, b, hb =>
    h.registers b _ (b.registers_forMethods _ pattern source) hb
  | .apply extension target options, h, b, hb =>
    h.registers b _ (b.registers_applyNested Builder.maxNesting extension target options) hb
  | .setPrefix p, h, b, hb => h.under b (b.scope.withPrefix p) hb
  | .setNamespace n, h, b, hb => h.under b (b.scope.withNamespace n) hb
  | .seal, h, b, hb => h.sealed b hb
  | .addExtension name e, h, b, hb => h.addExtension b name e hb
  | .addTarget name c, h, b, hb => h.addTarget name c (by simp [Step.leaves]) b hb
  | .addStrategy tag s, h, b, hb => h.addStrategy tag s (by simp [Step.leaves]) b hb
  | .group g body, h, b, hb => by
    rw [Step.leaves] at h
    have hbody := runSteps_induction body h (b.under (b.scope.nest g)) (h.under b _ hb)
    rw [Step.run_group]
    exact h.under _ b.scope hbody
  | .attempt step, h, b, hb => by
    rw [Step.leaves] at h
    exact step.run_induction h b hb

/-- What the changes that a program may make cannot break is kept by the program. -/
theorem runSteps_induction : ∀ (steps : List (Step ρ)), KeptBy (leavesOf steps) P →
    ∀ b, P b → P (runSteps steps b).state
  | [], _, _, hb => hb
  | step :: rest, h, b, hb => by
    rw [leavesOf] at h
    have hstep := step.run_induction (h.mono (List.subset_append_left _ _)) b hb
    rw [runSteps]
    exact Progress.andThen_induction hstep
      (runSteps_induction rest (h.mono (List.subset_append_right _ _)))

end

end Induction

/-- No change loses a route. -/
theorem keptBy_keeps (t : RouteTable ρ) (steps : List (Step ρ)) :
    KeptBy steps fun b => t.Keeps b.table where
  registers _ _ hr h := h.trans hr.keeps
  under _ _ h := h
  sealed _ h := ⟨h.matched, h.fixed⟩
  addExtension _ _ _ h := h
  addTarget _ _ _ _ h := h
  addStrategy _ _ _ _ h := h

/-- No step loses a route. -/
theorem Step.keeps_run (step : Step ρ) (b : Builder ρ) :
    b.table.Keeps (step.run b).state.table :=
  step.run_induction (keptBy_keeps b.table _) b (.refl b.table)

end UriRouter
