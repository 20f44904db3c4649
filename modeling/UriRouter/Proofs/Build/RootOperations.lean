import UriRouter.Proofs.Build.Operations

/-!
# Operations that are named after a verb alone

An operation whose name is a verb, with nothing but `_` after it, is served at the root of its
scope. The pattern there is made of the placeholders, with a `/` before them unless they begin
with one.

* `rootPath` : the path for values at the root;
* `Builder.dispatch_root` : which requests for such a path call the operation, and which do not.
-/

set_option autoImplicit false

namespace UriRouter

open UriRouter.Pattern

variable {ρ : Type}

/-! ## Paths and patterns at the root -/

/-- The path for values at the root: the root itself if there are none. -/
def rootPath (values : List String) : String :=
  if values.isEmpty then "/" else String.ofList (piecesOf values)

/-- What stands before the placeholders of an operation at the root. -/
def rootBase (sig : Signature) : String :=
  if sig.head?.all (·.isOptional) then "/" else ""

theorem notMem_delimiters_rootBase (sig : Signature) :
    ∀ d ∈ (rootBase sig).toList, d ∉ delimiters := by
  rw [← areWellFormed_literals, rootBase]
  split
  · decide
  · decide

/-- The pattern of an operation whose path is empty. -/
theorem derivePattern_root {op : Operation} {suffix : String} (h : deriveSuffix op = .ok suffix) :
    derivePattern "" suffix = rootBase op.signature ++ suffix := by
  obtain ⟨hchain, -⟩ := deriveSuffix_eq_ok h
  have hempty : "".isEmpty = true := rfl
  rw [derivePattern, if_pos hempty, hchain]
  cases op.signature with
  | nil => rfl
  | cons p params =>
    rw [Signature.chain, rootBase, List.head?_cons, Option.all_some]
    cases p.isOptional with
    | true => rfl
    | false => exact String.empty_append.symm

theorem normalizePattern_derivePattern_root (suffix : String) :
    Path.normalizePattern (derivePattern "" suffix) = derivePattern "" suffix := by
  obtain ⟨tail, htail⟩ : ∃ tail, (derivePattern "" suffix).toList = '/' :: tail := by
    have hempty : "".isEmpty = true := rfl
    rw [derivePattern, if_pos hempty]
    split
    · rename_i tail hsuffix
      exact ⟨tail, hsuffix⟩
    · exact ⟨suffix.toList, String.toList_append⟩
  have hhead : (derivePattern "" suffix).toList.head? ≠ some '[' := by
    rw [htail, List.head?_cons]
    decide
  rw [Path.normalizePattern_of_head? hhead, Path.normalize_of_toList htail]

/-- The path for values at the root is what the pattern asks for, unless the first parameter is
optional and has a value. -/
theorem normalize_rootPath {sig : Signature} {values : List String} (hvalues : sig.Takes values)
    (h : sig.head?.any (·.isOptional) = false ∨ values = []) :
    Path.normalize (rootPath values) = rootBase sig ++ String.ofList (piecesOf values) := by
  cases values with
  | nil =>
    have hall : sig.head?.all (·.isOptional) = true := by
      cases sig with
      | nil => rfl
      | cons p rest => exact hvalues.isOptional p List.mem_cons_self
    rw [rootBase, if_pos hall]
    rfl
  | cons v values =>
    have hfirst := h.resolve_right (List.cons_ne_nil v values)
    cases sig with
    | nil => exact absurd hvalues.notMore (Nat.not_succ_le_zero _)
    | cons p rest =>
      have hp : p.isOptional = false := hfirst
      rw [rootBase, List.head?_cons, Option.all_some, hp, if_neg Bool.false_ne_true,
        String.empty_append]
      exact Path.normalize_of_toList String.toList_ofList

theorem rootPath_of_ne_nil {values : List String} (h : values ≠ []) :
    rootPath values = String.ofList (piecesOf values) :=
  if_neg (by simpa using h)

theorem rootBase_of_optional {sig : Signature} (h : sig.head?.any (·.isOptional) = true) :
    rootBase sig = "/" := by
  cases sig with
  | nil => cases h
  | cons p rest => exact if_pos h

section

variable [Regex.PropertyTable]

/-- The pattern of an operation whose first parameter is optional does not match the path for
values at the root: after the first `/` it asks for another. -/
theorem captures?_rootPath {sig : Signature} {raw suffix : String} {p : Pattern}
    {values : List String} (hraw : Path.normalizePattern raw = rootBase sig ++ suffix)
    (hsuffix : suffix.toList = renderAll sig.chain) (hsig : sig.IsPlain)
    (hopt : sig.head?.any (·.isOptional) = true) (hvalues : sig.Takes values) (hne : values ≠ [])
    (hp : compile raw = .ok p) : p.captures? (Path.normalize (rootPath values)) = none := by
  cases values with
  | nil => exact absurd rfl hne
  | cons v values =>
    obtain ⟨hv, hslash⟩ := hvalues.pieces v List.mem_cons_self
    have hpath : Path.normalize (rootPath (v :: values)) =
        rootBase sig ++ String.ofList (v.toList ++ piecesOf values) := by
      have htext : (rootPath (v :: values)).toList = '/' :: (v.toList ++ piecesOf values) :=
        String.toList_ofList
      have happend : String.ofList (['/'] ++ (v.toList ++ piecesOf values)) =
          "/" ++ String.ofList (v.toList ++ piecesOf values) := String.ofList_append
      rw [Path.normalize_of_toList htext, rootBase_of_optional hopt]
      exact happend
    rw [hpath]
    cases hchars : v.toList with
    | nil => exact absurd (String.toList_eq_nil_iff.1 hchars) hv
    | cons d chars =>
      refine captures?_chain_of_ne hraw hsuffix (notMem_delimiters_rootBase sig) hsig hopt hp
        (List.cons_ne_nil _ _) fun e he => ?_
      rintro rfl
      refine hslash ?_
      rw [hchars, Option.some.inj he]
      exact List.mem_cons_self

/-! ## Requests -/

namespace Builder

/-- **Operations that are named after a verb alone.** Once the extension has registered such an
operation at the root, a request for the values alone calls it, unless its first parameter is
optional and has a value: its pattern then is `/` and a section that begins with another `/`, and
it is called only if the path has both. -/
theorem dispatch_root {b : Builder ρ} {target : TargetRef ρ} {options : ExtensionOptions}
    {c : Controller ρ} {op : Operation} {verb rest : String} (hb : b.IsFresh)
    (ht : b.Declares target options c op verb rest)
    (hsig : op.signature.IsPlain) (hrest : ∀ d ∈ rest.toList, d = '_')
    (hroot : b.scope.pathPrefix = "")
    (h : (b.apply operationsExtensionName target options).failure = none) {values : List String}
    (hvalues : op.signature.Takes values) :
    let r := (b.apply operationsExtensionName target options).state.toRouter
    let reply := (c.call op.name (op.signature.fill values)).mapError .ofCall
    (op.signature.head?.any (·.isOptional) = false ∨ values = [] →
      r.dispatch verb (rootPath values) = reply) ∧
    (op.signature.head?.any (·.isOptional) = true → values ≠ [] →
      r.dispatch verb (rootPath values) =
        .fail (.notFound (Method.normalize verb) (rootPath values)) ∧
      r.dispatch verb ("/" ++ rootPath values) = reply) := by
  intro r reply
  have hraw : ∀ suffix, deriveSuffix op = .ok suffix →
      Path.normalizePattern (b.scope.apply (derivePattern (derivePath rest) suffix)) =
        rootBase op.signature ++ suffix := by
    intro suffix hs
    have happly : ∀ pattern, b.scope.apply pattern = pattern := fun pattern => by
      rw [Scope.apply, hroot]
      rfl
    rw [derivePath_of_underscores hrest, happly, normalizePattern_derivePattern_root,
      derivePattern_root hs]
  have hreply : ∀ path,
      Path.normalize path = rootBase op.signature ++ String.ofList (piecesOf values) →
        r.dispatch verb path = reply := fun path hpath =>
    dispatch_of_apply hb ht hsig h (notMem_delimiters_rootBase op.signature) hraw hvalues hpath
  refine ⟨fun hcase => hreply _ (normalize_rootPath hvalues hcase), fun hopt hne => ⟨?_, ?_⟩⟩
  · obtain ⟨suffix, p, hs, hp, hstate⟩ := apply_operation hb ht h
    obtain ⟨hchain, -⟩ := deriveSuffix_eq_ok hs
    have hnone := captures?_rootPath (hraw suffix hs) hchain hsig hopt hvalues hne hp
    show Router.dispatch (toRouter _) verb _ = _
    rw [hstate, dispatch_operation hb ht, hnone]
  · apply hreply
    rw [rootPath_of_ne_nil hne, rootBase_of_optional hopt]
    exact Path.normalize_of_toList String.toList_append

end Builder

end

namespace Builder

/-- An operation that is named after a verb alone and whose only parameter is optional. -/
def itemOperation : Operation := ⟨"get", [⟨"id", .absent, none⟩]⟩

/-- The controller with that operation. -/
def itemsController : Controller String := echoController "items" "Items" [itemOperation]

theorem dispatch_items :
    (standard.apply operationsExtensionName (.bound itemsController) {}).failure = none ∧
    (standard.apply operationsExtensionName (.bound itemsController) {}).state.toRouter.dispatch
        "get" "/" = ⟨.ok "get(-)", [⟨.controller "items", some "get", [("id", none)]⟩]⟩ ∧
    (standard.apply operationsExtensionName (.bound itemsController) {}).state.toRouter.dispatch
        "get" "//5" = ⟨.ok "get(5)", [⟨.controller "items", some "get", [("id", some "5")]⟩]⟩ := by
  have hok : (standard.apply operationsExtensionName (.bound itemsController) {}).failure =
      none := by decide +kernel
  have ht : standard.Declares (.bound itemsController) {} itemsController itemOperation "get" "" :=
    ⟨rfl, rfl, by decide +kernel, by decide +kernel⟩
  have hsig : itemOperation.signature.IsPlain :=
    ⟨by decide +kernel, by decide +kernel, by decide +kernel⟩
  have hnone : itemOperation.signature.Takes [] :=
    ⟨by decide +kernel, by decide +kernel, by decide +kernel⟩
  have hfive : itemOperation.signature.Takes ["5"] :=
    ⟨by decide +kernel, by decide +kernel, by decide +kernel⟩
  have hrest : ∀ d ∈ "".toList, d = '_' := fun _ hd => nomatch hd
  refine ⟨hok, ?_, ?_⟩
  · exact (dispatch_root isFresh_standard ht hsig hrest rfl hok hnone).1 (.inr rfl)
  · have hsecond := (dispatch_root isFresh_standard ht hsig hrest rfl hok hfive).2 rfl (by decide)
    exact hsecond.2

/-- A value for an optional parameter is not served at the root where the operation is named after
a verb alone. -/
theorem not_dispatch_items :
    (standard.apply operationsExtensionName (.bound itemsController) {}).failure = none ∧
    splitVerb (standard : Builder String).methods itemOperation.name = some ("get", "") ∧
    itemOperation.signature.IsPlain ∧ itemOperation.signature.Takes ["5"] ∧
    (standard.apply operationsExtensionName (.bound itemsController) {}).state.toRouter.dispatch
        "get" "/5" ≠
      (itemsController.call "get" (itemOperation.signature.fill ["5"])).mapError .ofCall := by
  have hrefused : ((standard.apply operationsExtensionName (.bound itemsController)
      {}).state.toRouter.dispatch "get" "/5").result = .error (.notFound "get" "/5") := by
    decide +kernel
  refine ⟨by decide +kernel, by decide +kernel, ⟨by decide +kernel, by decide +kernel,
    by decide +kernel⟩, ⟨by decide +kernel, by decide +kernel, by decide +kernel⟩, ?_⟩
  intro hserved
  rw [hserved] at hrefused
  cases hrefused

end Builder

end UriRouter
