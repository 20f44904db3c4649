import UriRouter.Proofs.Build.Atomicity
import UriRouter.Proofs.Build.Steps

/-!
# Sealed tables

Sealing is the last thing that can happen to a table. A call to a sealed table is refused before
anything of it is looked at, and all that a program does to a table is calls and the seal.

* `RouteTable.foldl_register_of_sealed` : calls leave a sealed table as it is;
* `Builder.SealedForGood`, `Builder.sealed_for_good` : so does every program, and what is refused is
  told.
-/

set_option autoImplicit false

namespace UriRouter

variable {ρ : Type}

namespace RouteTable

theorem sealed_of_sealed {t : RouteTable ρ} (h : t.isSealed = true) : t.sealed = t := by
  rw [sealed, ← h]

end RouteTable

section

variable [Regex.PropertyTable]

namespace RouteTable

theorem foldl_register_of_sealed {t : RouteTable ρ} (h : t.isSealed = true)
    (log : List (RouteCall ρ)) : log.foldl register t = t := by
  induction log with
  | nil => rfl
  | cons r log ih => rw [List.foldl_cons, register_of_sealed h, ih]

end RouteTable

namespace Builder

/-- No change of a builder is one of its table, once that is sealed. -/
theorem keptBy_table {t : RouteTable ρ} (ht : t.isSealed = true) (steps : List (Step ρ)) :
    KeptBy steps fun b => b.table = t where
  registers := by
    rintro b _ ⟨log, rfl⟩ rfl
    exact RouteTable.foldl_register_of_sealed ht log
  under _ _ h := h
  sealed := by
    rintro b rfl
    exact RouteTable.sealed_of_sealed ht
  addExtension _ _ _ h := h
  addTarget _ _ _ _ h := h
  addStrategy _ _ _ _ h := h

/-- What becomes of a builder's table in a program that finds it sealed. -/
structure SealedForGood (b : Builder ρ) (program : List (Step ρ)) : Prop where
  isSealed : (runSteps program b).state.table.isSealed = true
  /-- The routes are the same, in the same order, overall and under each method. -/
  toList : (runSteps program b).state.table.toList = b.table.toList
  routes : ∀ method,
    (runSteps program b).state.table.routes method = b.table.routes method
  /-- So are the answers to all look-ups. -/
  find : ∀ method path,
    (runSteps program b).state.table.find method path = b.table.find method path
  allowedMethods : ∀ path,
    (runSteps program b).state.table.allowedMethods path = b.table.allowedMethods path
  /-- A call is refused with its method in normal form and its pattern as it was given. That the
  pattern is faulty does not matter. -/
  refused : ∀ method pattern action strategy,
    (runSteps program b).state.table.set method pattern action strategy =
      .error (.configuration (.isSealed (Method.normalize method) pattern))
  /-- What is registered in a scope is refused with the pattern that it has there. -/
  refusedInScope : ∀ method pattern action strategy,
    (runSteps program b).state.set method pattern (.action action) strategy =
      .failed (runSteps program b).state (.configuration (.isSealed (Method.normalize method)
        ((runSteps program b).state.scope.apply pattern)))

/-- **Sealing is final.** Whatever program a builder with a sealed table is put through, its table is
the same afterwards and still refuses every call. -/
theorem sealed_for_good {b : Builder ρ} (h : b.table.isSealed = true) (program : List (Step ρ)) :
    b.SealedForGood program := by
  have htable : (runSteps program b).state.table = b.table :=
    runSteps_induction program (keptBy_table h _) b rfl
  have hsealed : (runSteps program b).state.table.isSealed = true := by rw [htable, h]
  refine ⟨hsealed, ?_, fun method => ?_, fun method path => ?_, fun path => ?_,
    RouteTable.set_of_sealed hsealed, fun method pattern action strategy => ?_⟩
  · rw [htable]
  · rw [htable]
  · rw [htable]
  · rw [htable]
  · simp only [set, withAction, ActionSource.resolve, setAction, RouteTable.set_of_sealed hsealed]

end Builder

end

namespace Builder

/-- A builder with a fixed route and another one, sealed. -/
def sealedBuilder : Builder String :=
  (runSteps [.set "get" "/about" (.descriptor "Pages#about") uriStrategyTag,
    .set "GET" "/user/\x7bid\x7d" (.descriptor "Pages#user") uriStrategyTag, .seal] standard).state

/-- A program that tries to register more, inside groups and outside, with a faulty pattern among
the others. -/
def lateProgram : List (Step String) :=
  [.group ⟨some "/admin", some "Admin"⟩ [.setPrefix "/root",
      .attempt (.set "Post" "/\x7bid" (.descriptor "Pages#user") uriStrategyTag),
      .attempt (.operations (.bound listsController)), .seal],
    .attempt (.resource (.named "Pages") {}),
    .addStrategy uriStrategyTag .decode,
    .any "/about" (.descriptor "Pages#late"),
    .setPrefix "/never"]

theorem sealed_for_good_late : sealedBuilder.table.isSealed = true ∧
    sealedBuilder.table.toList.length = 2 ∧ sealedBuilder.SealedForGood lateProgram :=
  ⟨by decide +kernel, by decide +kernel, sealed_for_good (by decide +kernel) lateProgram⟩

end Builder

end UriRouter
