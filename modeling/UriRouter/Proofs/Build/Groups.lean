import UriRouter.Proofs.Build.Operations
import UriRouter.Proofs.Build.Steps

/-!
# Groups

The scope that a step is run under can be told from its place in the program: it is that of the
groups around the step, with what the steps before it in the same body have made of it. Nothing
that happens in a group, and no failure in it, is seen in the scope after it.

* `Step.placed`, `placedIn` : the steps of a program, each with the scope of its place;
* `Builder.isolates_groups` : running a program is running those steps, and a group leaves the scope
  as it was;
* `Builder.flattens_groups` : groups inside each other are one, with what each adds put together.
-/

set_option autoImplicit false

namespace UriRouter

variable {ρ : Type}

/-! ## The scope of each step -/

/-- What a program asks for, with the scope that its place in the program gives it. -/
inductive PlacedStep (ρ : Type) where
  /-- A step that is no group and does not change the scope. -/
  | call (scope : Scope) (step : Step ρ)
  /-- Steps whose failure does not matter. -/
  | attempt (steps : List (PlacedStep ρ))

mutual

/-- What a step asks for, where its place is under a scope. -/
def Step.placed {ρ : Type} : Scope → Step ρ → List (PlacedStep ρ)
  | _, .setPrefix _ => []
  | _, .setNamespace _ => []
  | s, .group g body => placedIn (s.nest g) body
  | s, .attempt step => [.attempt (step.placed s)]
  | s, step => [.call s step]

/-- What a program asks for, where it begins under a scope. Each step may change the scope of those
after it; a group does not. -/
def placedIn {ρ : Type} : Scope → List (Step ρ) → List (PlacedStep ρ)
  | _, [] => []
  | s, step :: rest => step.placed s ++ placedIn (step.scopeAfter s) rest

end

/-! ## Programs and placed steps -/

namespace Progress

theorem under_andThen {p q : Progress (Builder ρ)} {f g : Builder ρ → Progress (Builder ρ)}
    {s₁ s : Scope} (hs : p.state.scope = s₁) (hpq : ∀ s, p.under s = q.under s)
    (hfg : ∀ b : Builder ρ, (f (b.under s₁)).under s = (g b).under s) :
    (p.andThen f).under s = (q.andThen g).under s := by
  have hfailure : p.failure = q.failure := by
    rw [← p.under_failure s, hpq s, under_failure]
  rw [andThen, andThen, hfailure]
  cases q.failure with
  | some e => exact hpq s
  | none =>
    have hstate : p.state = q.state.under s₁ := by
      rw [← q.under_state, ← hpq s₁, under_state, ← hs, Builder.under_self]
    rw [hstate]
    exact hfg q.state

end Progress

variable [Regex.PropertyTable]

mutual

/-- What a placed step does to a builder. The builder's own scope does not matter. -/
def PlacedStep.run {ρ : Type} : PlacedStep ρ → Builder ρ → Progress (Builder ρ)
  | .call s step, b => step.run (b.under s)
  | .attempt steps, b => .done (runPlaced steps b).state

/-- What placed steps do to a builder, up to the first failure. -/
def runPlaced {ρ : Type} : List (PlacedStep ρ) → Builder ρ → Progress (Builder ρ)
  | [], b => .done b
  | step :: rest, b => (step.run b).andThen (runPlaced rest)

end

namespace Progress

end Progress

theorem runPlaced_append (steps rest : List (PlacedStep ρ)) (b : Builder ρ) :
    runPlaced (steps ++ rest) b = (runPlaced steps b).andThen (runPlaced rest) := by
  induction steps generalizing b with
  | nil =>
    rw [runPlaced]
    rfl
  | cons step steps ih =>
    rw [List.cons_append, runPlaced, runPlaced, Progress.andThen_assoc]
    exact congrArg _ (funext ih)

theorem runPlaced_singleton (step : PlacedStep ρ) (b : Builder ρ) :
    runPlaced [step] b = step.run b := by
  have hnil : runPlaced ([] : List (PlacedStep ρ)) = Progress.done := by
    funext b
    rw [runPlaced]
  rw [runPlaced, hnil]
  exact Progress.andThen_done _

theorem under_run_call (step : Step ρ) (b : Builder ρ) (s s' : Scope) :
    (step.run (b.under s)).under s' = (runPlaced [.call s step] b).under s' := by
  rw [runPlaced_singleton, PlacedStep.run]

mutual

/-- Running a step is running what it asks for, each under the scope of its place. -/
theorem Step.under_run : ∀ (step : Step ρ) (b : Builder ρ) (s s' : Scope),
    (step.run (b.under s)).under s' = (runPlaced (step.placed s) b).under s'
  | .set .., b, s, s' => under_run_call _ b s s'
  | .forMethods .., b, s, s' => under_run_call _ b s s'
  | .any .., b, s, s' => under_run_call _ b s s'
  | .except .., b, s, s' => under_run_call _ b s s'
  | .apply .., b, s, s' => under_run_call _ b s s'
  | .seal, b, s, s' => under_run_call _ b s s'
  | .addExtension .., b, s, s' => under_run_call _ b s s'
  | .addTarget .., b, s, s' => under_run_call _ b s s'
  | .addStrategy .., b, s, s' => under_run_call _ b s s'
  | .setPrefix p, b, s, s' => by
    simp only [Step.placed, runPlaced, Step.run, Progress.under_done, Builder.under_setPrefix,
      Builder.under_under]
  | .setNamespace n, b, s, s' => by
    simp only [Step.placed, runPlaced, Step.run, Progress.under_done, Builder.under_setNamespace,
      Builder.under_under]
  | .group g body, b, s, s' => by
    have h := under_runSteps body b (s.nest g) s'
    rw [Step.placed, Step.run_group, Progress.under_under, Builder.under_under,
      Builder.under_scope, h]
  | .attempt step, b, s, s' => by
    have h := step.under_run b s s'
    rw [Step.placed, runPlaced_singleton, PlacedStep.run, Step.run]
    exact congrArg (fun p => Progress.done (Progress.state p)) h

/-- Running a program is running what it asks for, each step under the scope of its place. -/
theorem under_runSteps : ∀ (steps : List (Step ρ)) (b : Builder ρ) (s s' : Scope),
    (runSteps steps (b.under s)).under s' = (runPlaced (placedIn s steps) b).under s'
  | [], b, s, s' => by
    rw [runSteps, placedIn, runPlaced]
    rfl
  | step :: rest, b, s, s' => by
    rw [runSteps, placedIn, runPlaced_append]
    exact Progress.under_andThen (step.scope_run (b.under s)) (step.under_run b s)
      fun b => under_runSteps rest b (step.scopeAfter s) s'

end

/-! ## Groups -/

/-- A program that fails does so at one of its steps, and comes to what that step comes to. -/
theorem exists_of_failure {steps : List (Step ρ)} {b : Builder ρ} {e : RegistrationError}
    (h : (runSteps steps b).failure = some e) :
    ∃ before step after b₁, steps = before ++ step :: after ∧ runSteps before b = .done b₁ ∧
      runSteps steps b = step.run b₁ ∧ (step.run b₁).failure = some e := by
  induction steps generalizing b with
  | nil => cases h
  | cons step rest ih =>
    rw [runSteps] at h ⊢
    cases hf : (step.run b).failure with
    | some e' =>
      have hrun : (step.run b).andThen (runSteps rest) = step.run b := by
        rw [Progress.andThen, hf]
      rw [hrun] at h ⊢
      exact ⟨[], step, rest, b, rfl, rfl, rfl, h⟩
    | none =>
      have hrun : (step.run b).andThen (runSteps rest) = runSteps rest (step.run b).state := by
        rw [Progress.andThen, hf]
      rw [hrun] at h ⊢
      obtain ⟨before, failing, after, b₁, rfl, hbefore, hall, he⟩ := ih h
      refine ⟨step :: before, failing, after, b₁, rfl, ?_, hall, he⟩
      rw [runSteps, Progress.andThen, hf]
      exact hbefore

namespace Builder

/-- What work inside a group comes to. -/
structure IsolatesGroup (b : Builder ρ) (g : Group) (body : List (Step ρ)) : Prop where
  /-- The scope is what it was, whatever the body does to it and however it ends. -/
  scope : ((Step.group g body).run b).state.scope = b.scope
  /-- The body begins under the scope of the group. All that it leaves stays but the scope, and its
  failure, if any, is that of the group. -/
  inside : (Step.group g body).run b = (runSteps body (b.under (b.scope.nest g))).under b.scope
  /-- A failure is that of a step of the body. All steps before it have been done, what they have
  registered is kept, and nothing has been done after it. -/
  failure : ∀ e, ((Step.group g body).run b).failure = some e →
    ∃ before step after b₁, body = before ++ step :: after ∧
      runSteps before (b.under (b.scope.nest g)) = .done b₁ ∧ (step.run b₁).failure = some e ∧
      (Step.group g body).run b = (step.run b₁).under b.scope ∧
      b₁.table.Keeps ((Step.group g body).run b).state.table
  /-- Each step of the body, at whatever depth, is run under the scope of its place. -/
  placed : (Step.group g body).run b =
    (runPlaced (placedIn (b.scope.nest g) body) b).under b.scope

/-- **Groups are isolated.** A group leaves the scope as it was, and nothing else is undone. So each
step of a program is run under the scope of the groups around it and of the steps before it in the
same body, and never under one that an earlier group has left. -/
theorem isolates_groups (b : Builder ρ) :
    (∀ g body, b.IsolatesGroup g body) ∧
      ∀ (program : List (Step ρ)) (s : Scope),
        (runSteps program b).under s = (runPlaced (placedIn b.scope program) b).under s := by
  refine ⟨fun g body => ⟨rfl, rfl, fun e he => ?_, ?_⟩, fun program s => ?_⟩
  · obtain ⟨before, step, after, b₁, hbody, hbefore, hall, hstep⟩ :=
      exists_of_failure (b := b.under (b.scope.nest g)) he
    have hrun : (Step.group g body).run b = (step.run b₁).under b.scope :=
      congrArg (Progress.under · b.scope) hall
    refine ⟨before, step, after, b₁, hbody, hbefore, hstep, hrun, ?_⟩
    rw [hrun]
    exact step.keeps_run b₁
  · exact under_runSteps body b (b.scope.nest g) b.scope
  · exact under_runSteps program b b.scope s

end Builder

/-! ## Groups inside each other -/

/-- A step inside groups, of which the first is the outermost. -/
def Step.inside (gs : List Group) (step : Step ρ) : Step ρ :=
  gs.foldr (fun g inner => .group g [inner]) step

theorem Step.run_inside {step : Step ρ} (hs : ∀ s, step.scopeAfter s = s) (gs : List Group)
    (b : Builder ρ) :
    (Step.inside gs step).run b =
      (step.run (b.under (gs.foldl Scope.nest b.scope))).under b.scope := by
  induction gs generalizing b with
  | nil =>
    have hscope : (step.run b).state.scope = b.scope := by rw [step.scope_run, hs]
    rw [List.foldl_nil, Builder.under_self, Progress.under, ← hscope, Builder.under_self]
    rfl
  | cons g gs ih =>
    rw [Step.inside, List.foldr_cons, ← Step.inside, Step.run_group, runSteps_singleton, ih,
      Builder.under_scope, Builder.under_under, Progress.under_under, List.foldl_cons]

namespace Builder

/-- A registration inside groups is one under the scope around them, of what each group's own prefix
and namespace make of the pattern and the action. -/
theorem run_inside_set (gs : List Group) (b : Builder ρ) (method pattern : String)
    (source : ActionSource ρ) (strategy : String) :
    (Step.inside gs (.set method pattern source strategy)).run b =
      b.withAction source fun action =>
        b.setAction method (Scope.underGroups gs pattern) (action.underGroups gs) strategy := by
  rw [Step.run_inside (fun _ => rfl), Step.run, set]
  unfold withAction
  cases source.resolve with
  | error e => simp only [Progress.under_failed, under_under, under_self]
  | ok action =>
    simp only [setAction, under, Scope.apply_foldl_nest, Action.inNamespace_foldl_nest]
    cases b.table.set method (b.scope.apply (Scope.underGroups gs pattern))
        ((action.underGroups gs).inNamespace b.scope.nameSpace) strategy with
    | error e => simp only [Progress.under_failed, under]
    | ok table => simp only [Progress.under_done, under]

/-- What groups inside each other come to, where the scope around them is `s`. -/
structure FlattensGroups (ρ : Type) (s : Scope) (gs : List Group) : Prop where
  /-- A pattern has each group's own prefix put before it, and then that of the scope. -/
  pattern : ∀ pattern, (gs.foldl Scope.nest s).apply pattern =
    s.apply (Scope.underGroups gs pattern)
  /-- The namespaces that are not empty are joined. -/
  nameSpace : (gs.foldl Scope.nest s).nameSpace =
    Scope.joinNamespaces (s.nameSpace :: gs.map fun g => g.nameSpace.getD "")
  /-- An action is qualified with each group's own namespace, and then with that of the scope. -/
  action : ∀ action : Action ρ, action.inNamespace (gs.foldl Scope.nest s).nameSpace =
    (action.underGroups gs).inNamespace s.nameSpace
  /-- The name of a target is put after the namespace, unless that is empty. -/
  named : ∀ t member, (Action.member (.named t) member : Action ρ).inNamespace
      (gs.foldl Scope.nest s).nameSpace =
    .member (.named (if (gs.foldl Scope.nest s).nameSpace = "" then t
      else (gs.foldl Scope.nest s).nameSpace ++ "::" ++ t)) member
  /-- All other actions stay as they are. -/
  others : ∀ action : Action ρ, (∀ t member, action ≠ .member (.named t) member) →
    action.inNamespace (gs.foldl Scope.nest s).nameSpace = action
  /-- So a registration inside the groups is one outside them. -/
  registered : ∀ b : Builder ρ, b.scope = s → ∀ method pattern source strategy,
    (Step.inside gs (.set method pattern source strategy)).run b =
      b.withAction source fun action =>
        b.setAction method (Scope.underGroups gs pattern) (action.underGroups gs) strategy
  /-- What is stored has the action in the joined namespace. -/
  stored : ∀ b : Builder ρ, b.scope = s → b.table.isSealed = false →
    ∀ method pattern action strategy compiled,
      Pattern.compile ((gs.foldl Scope.nest s).apply pattern) = .ok compiled →
      (Step.inside gs (.set method pattern (.action action) strategy)).run b = .done { b with
        table := b.table.add ⟨Method.normalize method, compiled,
          action.inNamespace (gs.foldl Scope.nest s).nameSpace, strategy⟩ }

/-- **Groups inside each other are one.** Whatever the scope around them, patterns and actions are
what each group's own prefix and namespace make of them, from the innermost group to the
outermost. -/
theorem flattens_groups (s : Scope) (gs : List Group) : FlattensGroups ρ s gs where
  pattern := Scope.apply_foldl_nest s gs
  nameSpace := Scope.nameSpace_foldl_nest s gs
  action := Action.inNamespace_foldl_nest s gs
  named := Action.inNamespace_named _
  others := fun _ hne => Action.inNamespace_of_ne hne _
  registered := by
    rintro b rfl method pattern source strategy
    exact run_inside_set gs b method pattern source strategy
  stored := by
    rintro b rfl ho method pattern action strategy compiled hc
    rw [Scope.apply_foldl_nest] at hc
    rw [run_inside_set, Action.inNamespace_foldl_nest]
    simp only [withAction, ActionSource.resolve, setAction, RouteTable.set, ho, hc]
    rfl

end Builder

end UriRouter
