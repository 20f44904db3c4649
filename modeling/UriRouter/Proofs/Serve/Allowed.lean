import UriRouter.Proofs.NameMap
import UriRouter.Proofs.Table.Log
import UriRouter.Serve.Router

/-!
# Paths that only other methods lead from

A request whose method leads nowhere is refused in one of two ways, by whether another method
leads anywhere. The methods named in the refusal are those that would have been served.

* `RouteTable.mem_allowedMethods` : the methods that a table names for a path;
* `Router.resolvesExactly` : what a router built from a sequence of calls resolves, and how it
  refuses the rest.
-/

set_option autoImplicit false

namespace UriRouter

variable {ρ : Type}

/-! ## One request -/

namespace RouteTable

theorem find_isSome {t : RouteTable ρ} {method path : String} :
    (t.find method path).isSome ↔ ∃ routes, t.methods.get? (Method.normalize method) = some routes ∧
      (routes.find (Path.normalize path)).isSome := by
  unfold find findNormal
  cases t.methods.get? (Method.normalize method) <;> simp

theorem find_normalize (t : RouteTable ρ) (method path : String) :
    t.find (Method.normalize method) path = t.find method path :=
  congrArg (t.findNormal · (Path.normalize path)) (Text.asciiLowercase_idem method)

/-- The methods that a path leads from are those of its normal form. -/
theorem allowedMethods_normalize (t : RouteTable ρ) (path : String) :
    t.allowedMethods (Path.normalize path) = t.allowedMethods path := by
  rw [allowedMethods, allowedMethods, Path.normalize_idem]

end RouteTable

namespace Router

/-- The three ways to resolve. -/
theorem resolve_cases (r : Router ρ) (method path : String) :
    (∃ found, r.table.find method path = some found ∧ r.resolve method path = .ok found) ∨
      (r.table.find method path = none ∧ r.table.allowedMethods path = [] ∧
        r.resolve method path = .error (.notFound (Method.normalize method) path)) ∨
      (r.table.find method path = none ∧ r.table.allowedMethods path ≠ [] ∧
        r.resolve method path = .error (.methodNotAllowed (Method.normalize method) path
          (r.table.allowedMethods path))) := by
  simp only [resolve, RouteTable.find, RouteTable.allowedMethods_normalize]
  cases r.table.findNormal (Method.normalize method) (Path.normalize path) with
  | some found => exact .inl ⟨found, rfl, rfl⟩
  | none =>
    cases r.table.allowedMethods path with
    | nil => exact .inr (.inl ⟨rfl, rfl, rfl⟩)
    | cons x rest => exact .inr (.inr ⟨rfl, by simp, rfl⟩)

/-- Exactly the paths that the table finds a route for are resolved. -/
theorem resolve_eq_ok {r : Router ρ} {method path : String} {found : RouteMatch ρ} :
    r.resolve method path = .ok found ↔ r.table.find method path = some found := by
  rcases resolve_cases r method path with ⟨found', hf, hr⟩ | ⟨hf, -, hr⟩ | ⟨hf, -, hr⟩
  · simp [hf, hr]
  · simp [hf, hr]
  · simp [hf, hr]

theorem resolve_eq_notFound {r : Router ρ} {method path m q : String} :
    r.resolve method path = .error (.notFound m q) ↔
      (Method.normalize method = m ∧ path = q) ∧ r.table.find method path = none ∧
        r.table.allowedMethods path = [] := by
  rcases resolve_cases r method path with ⟨found', hf, hr⟩ | ⟨hf, ha, hr⟩ | ⟨hf, ha, hr⟩
  · simp [hf, hr]
  · simp [hf, ha, hr]
  · simp [ha, hr]

theorem resolve_eq_notAllowed {r : Router ρ} {method path m q : String} {allowed : List String} :
    r.resolve method path = .error (.methodNotAllowed m q allowed) ↔
      (Method.normalize method = m ∧ path = q ∧ r.table.allowedMethods path = allowed) ∧
        r.table.find method path = none ∧ r.table.allowedMethods path ≠ [] := by
  rcases resolve_cases r method path with ⟨found', hf, hr⟩ | ⟨hf, ha, hr⟩ | ⟨hf, ha, hr⟩
  · simp [hf, hr]
  · simp [ha, hr]
  · simp [hf, ha, hr]

end Router

/-! ## The methods of a table -/

variable [Regex.PropertyTable]

/-- The normal forms of the methods that calls without a fault name. -/
def IsRegistered (log : List (RouteCall ρ)) (method : String) : Prop :=
  ∃ r ∈ log, r.route?.isSome ∧ Method.normalize r.method = method

theorem IsRegistered.normalize {log : List (RouteCall ρ)} {method : String}
    (h : IsRegistered log method) : Method.normalize method = method := by
  obtain ⟨r, -, -, rfl⟩ := h
  exact Text.asciiLowercase_idem r.method

namespace RouteTable

/-! ## The methods of a table -/

/-- A table whose methods are those that a sequence of calls registers, in order. -/
structure Lists (t : RouteTable ρ) (log : List (RouteCall ρ)) : Prop where
  ascending : t.methods.Ascending
  mem : ∀ method, method ∈ t.methods.names ↔ IsRegistered log method

theorem lists_empty : Lists (empty : RouteTable ρ) [] where
  ascending := NameMap.ascending_empty
  mem method := by simp [empty, NameMap.names, IsRegistered]

theorem isRegistered_append {log : List (RouteCall ρ)} {r : RouteCall ρ} {method : String} :
    IsRegistered (log ++ [r]) method ↔
      IsRegistered log method ∨ r.route?.isSome ∧ Method.normalize r.method = method := by
  simp only [IsRegistered, List.mem_append, List.mem_singleton]
  constructor
  · rintro ⟨x, hx | rfl, h⟩
    · exact .inl ⟨x, hx, h⟩
    · exact .inr h
  · rintro (⟨x, hx, h⟩ | h)
    · exact ⟨x, .inl hx, h⟩
    · exact ⟨r, .inr rfl, h⟩

theorem Lists.register {t : RouteTable ρ} {log : List (RouteCall ρ)} (h : Lists t log)
    (ho : t.isSealed = false) (r : RouteCall ρ) : Lists (t.register r) (log ++ [r]) := by
  refine ⟨?_, fun method => ?_⟩
  · rw [register_of_open ho]
    cases r.route? with
    | none => exact h.ascending
    | some route => exact h.ascending.insert _ _
  · rw [isRegistered_append, register_of_open ho, ← h.mem]
    cases hr : r.route? with
    | none => simp
    | some route =>
      rw [Option.map_some, Option.getD_some, add, NameMap.mem_names_insert, (route?_eq_some hr).1]
      simp [or_comm, eq_comm]

theorem Lists.foldl {t : RouteTable ρ} {log : List (RouteCall ρ)} (h : Lists t log)
    (ho : t.isSealed = false) (log' : List (RouteCall ρ)) :
    Lists (log'.foldl RouteTable.register t) (log ++ log') := by
  induction log' generalizing t log with
  | nil => simpa using h
  | cons r rest ih =>
    have := ih (h.register ho r) (isSealed_register ho r)
    rwa [List.append_assoc, List.singleton_append] at this

theorem lists_ofLog (log : List (RouteCall ρ)) : Lists (ofLog log) log :=
  lists_empty.foldl rfl log

theorem Lists.sealed {t : RouteTable ρ} {log : List (RouteCall ρ)} (h : Lists t log) :
    Lists t.sealed log :=
  ⟨h.ascending, h.mem⟩

/-! ## The methods that a path leads from -/

/-- A method that leads anywhere is registered. -/
theorem Lists.isRegistered_of_find {t : RouteTable ρ} {log : List (RouteCall ρ)}
    (h : Lists t log) {method path : String} (hf : (t.find method path).isSome) :
    IsRegistered log (Method.normalize method) := by
  obtain ⟨routes, hr, -⟩ := find_isSome.1 hf
  exact (h.mem _).1 ((NameMap.mem_names h.ascending).2 ⟨routes, hr⟩)

/-- The methods that a table names for a path are those registered ones that lead to a route. -/
theorem Lists.mem_allowedMethods {t : RouteTable ρ} {log : List (RouteCall ρ)} (h : Lists t log)
    {method path : String} :
    method ∈ t.allowedMethods path ↔ IsRegistered log method ∧ (t.find method path).isSome := by
  constructor
  · intro hm
    obtain ⟨⟨name, routes⟩, he, rfl⟩ := List.mem_map.1 hm
    obtain ⟨he, ha⟩ := List.mem_filter.1 he
    have hr : IsRegistered log name := (h.mem _).1 (List.mem_map.2 ⟨_, he, rfl⟩)
    refine ⟨hr, find_isSome.2 ⟨routes, ?_, ?_⟩⟩
    · rw [hr.normalize]
      exact (NameMap.mem_entries h.ascending).1 he
    · rw [← MethodRoutes.accepts_eq_isSome]
      exact ha
  · rintro ⟨hr, hf⟩
    obtain ⟨routes, hg, hf⟩ := find_isSome.1 hf
    rw [hr.normalize] at hg
    refine List.mem_map.2 ⟨(method, routes), List.mem_filter.2 ⟨?_, ?_⟩, rfl⟩
    · exact (NameMap.mem_entries h.ascending).2 hg
    · rw [← MethodRoutes.accepts_eq_isSome] at hf
      exact hf

/-- No method is named exactly when none leads anywhere. -/
theorem Lists.allowedMethods_eq_nil {t : RouteTable ρ} {log : List (RouteCall ρ)}
    (h : Lists t log) {path : String} :
    t.allowedMethods path = [] ↔ ∀ x, IsRegistered log x → t.find x path = none := by
  simp only [List.eq_nil_iff_forall_not_mem, h.mem_allowedMethods, not_and,
    Option.not_isSome_iff_eq_none]

theorem Lists.find_eq_none {t : RouteTable ρ} {log : List (RouteCall ρ)} (h : Lists t log)
    {path : String} (hn : t.allowedMethods path = []) (method : String) :
    t.find method path = none := by
  rw [← Option.not_isSome_iff_eq_none]
  intro hf
  have := h.allowedMethods_eq_nil.1 hn _ (h.isRegistered_of_find hf)
  rw [find_normalize] at this
  rw [this] at hf
  cases hf

theorem Lists.allowedMethods_ascending {t : RouteTable ρ} {log : List (RouteCall ρ)}
    (h : Lists t log) (path : String) : (t.allowedMethods path).Pairwise (· < ·) :=
  List.Pairwise.sublist (List.filter_sublist.map _) h.ascending

end RouteTable

/-! ## Resolving -/

namespace Router

/-- What a router whose table comes from a sequence of calls does with a method and a path. -/
structure ResolvesExactly (r : Router ρ) (log : List (RouteCall ρ)) (method path : String) :
    Prop where
  /-- The route is the one that the table finds. -/
  found : ∀ found, r.resolve method path = .ok found ↔ r.table.find method path = some found
  /-- No method leads anywhere. -/
  notFound : (∃ m q, r.resolve method path = .error (.notFound m q)) ↔
    ∀ x, IsRegistered log x → r.table.find x path = none
  /-- Only other methods do. -/
  notAllowed : (∃ m q allowed, r.resolve method path = .error (.methodNotAllowed m q allowed)) ↔
    r.table.find method path = none ∧ ∃ x, IsRegistered log x ∧ (r.table.find x path).isSome
  /-- There is no third way to be refused, and the request is reported as it was made. -/
  reported : ∀ e, r.resolve method path = .error e →
    e = .notFound (Method.normalize method) path ∨
      ∃ allowed, e = .methodNotAllowed (Method.normalize method) path allowed
  /-- The methods named as allowed are those that lead anywhere, each once and in order. -/
  allowed : ∀ m q allowed, r.resolve method path = .error (.methodNotAllowed m q allowed) →
    (∀ x, x ∈ allowed ↔ IsRegistered log x ∧ (r.table.find x path).isSome) ∧
      allowed.Pairwise (· < ·) ∧ Method.normalize method ∉ allowed
  /-- A method that the error says can be used is resolved, in whatever case it is written. -/
  can : ∀ m q allowed, r.resolve method path = .error (.methodNotAllowed m q allowed) →
    ∀ m', (DispatchError.methodNotAllowed m q allowed).can m' ↔
      ∃ found, r.resolve m' path = .ok found

/-- What a router resolves, by what is known of its table. -/
theorem resolvesExactly_of_lists {r : Router ρ} {log : List (RouteCall ρ)}
    (h : r.table.Lists log) (method path : String) : r.ResolvesExactly log method path where
  found := fun _ => resolve_eq_ok
  notFound := by
    simp only [resolve_eq_notFound]
    constructor
    · rintro ⟨m, q, -, -, ha⟩
      exact h.allowedMethods_eq_nil.1 ha
    · intro hn
      have ha := h.allowedMethods_eq_nil.2 hn
      exact ⟨_, _, ⟨rfl, rfl⟩, h.find_eq_none ha method, ha⟩
  notAllowed := by
    simp only [resolve_eq_notAllowed]
    constructor
    · rintro ⟨m, q, allowed, -, hf, ha⟩
      obtain ⟨x, hx⟩ := List.exists_mem_of_ne_nil _ ha
      exact ⟨hf, x, h.mem_allowedMethods.1 hx⟩
    · rintro ⟨hf, x, hx⟩
      exact ⟨_, _, _, ⟨rfl, rfl, rfl⟩, hf, List.ne_nil_of_mem (h.mem_allowedMethods.2 hx)⟩
  reported := by
    intro e he
    rcases resolve_cases r method path with ⟨found, -, hr⟩ | ⟨-, -, hr⟩ | ⟨-, -, hr⟩
    · rw [hr] at he
      cases he
    · rw [hr] at he
      cases he
      exact .inl rfl
    · rw [hr] at he
      cases he
      exact .inr ⟨_, rfl⟩
  allowed := by
    intro m q allowed he
    obtain ⟨⟨-, -, rfl⟩, hf, -⟩ := resolve_eq_notAllowed.1 he
    refine ⟨fun _ => h.mem_allowedMethods, h.allowedMethods_ascending path, fun hin => ?_⟩
    have hs := (h.mem_allowedMethods.1 hin).2
    rw [RouteTable.find_normalize, hf] at hs
    cases hs
  can := by
    intro m q allowed he m'
    obtain ⟨⟨-, -, rfl⟩, -, -⟩ := resolve_eq_notAllowed.1 he
    simp only [DispatchError.can, DispatchError.allowed?, Option.getD_some, List.contains_iff_mem,
      h.mem_allowedMethods, RouteTable.find_normalize, resolve_eq_ok, Option.isSome_iff_exists]
    refine ⟨fun ⟨_, hf⟩ => hf, fun hf => ⟨?_, hf⟩⟩
    exact h.isRegistered_of_find (Option.isSome_iff_exists.2 hf)

/-- **Not found and not allowed are told apart exactly.** Whatever calls a router's table comes
from, whatever method and path are asked for. -/
theorem resolvesExactly (log : List (RouteCall ρ)) (strategies : Strategies ρ)
    (targets : Targets ρ) (method path : String) :
    (new (.ofLog log) strategies targets).ResolvesExactly log method path :=
  resolvesExactly_of_lists (RouteTable.lists_ofLog log).sealed method path

end Router

end UriRouter
