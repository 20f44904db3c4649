import Mathlib.Algebra.GroupWithZero.Nat
import Mathlib.Data.Finset.Card
import UriRouter.Proofs.Pattern.Continuation
import UriRouter.Proofs.Table.Routes

/-!
# What tables keep

A table is reached from the empty one by registering routes and by sealing it. What it keeps in
which place, and under which keys, is the same for all tables that can be reached, and how much it
keeps is told by the registrations that succeeded.

* `TableStep`, `RouteTable.run`, `RouteTable.accepted` : what can be done to a table, and which of
  the registrations succeed;
* `MethodRoutes.IsSound`, `RouteTable.IsSound` : what is true of a table after that;
* `RouteTable.size_add` : what a route adds to the number of routes;
* `RouteTable.isSound_run` : every table that can be reached is sound.
-/

set_option autoImplicit false

namespace UriRouter

open UriRouter.Pattern

variable {ρ : Type}

/-! ## Compiled patterns -/

namespace Pattern

variable {raw : String} {p : Pattern}

variable [Regex.PropertyTable]

/-- The parameters of a compiled pattern have valid names, each its own. -/
theorem parameters_of_compile (h : compile raw = .ok p) :
    p.parameters.Nodup ∧ ∀ name ∈ p.parameters, isValidName name.toList = true := by
  obtain ⟨items, hread, -, hparams⟩ := compile_eq_ok h
  have htree := isTreeOf_of_readItems hread
  rw [hparams]
  exact ⟨htree.names, fun _ hname => isValidName_of_mem_namesOf htree.wellFormed hname⟩

theorem parameters_of_isFixed (h : compile raw = .ok p) (hf : p.isFixed = true) :
    p.parameters = [] := by
  obtain ⟨items, hread, -, hparams⟩ := compile_eq_ok h
  rw [isFixed_eq_all hread h] at hf
  obtain ⟨s, rfl⟩ := eq_literals hf
  rw [hparams, namesOf_literals]

theorem exists_not_isLiteral (h : compile raw = .ok p) (hf : p.isFixed = false) :
    ∃ items, readItems (Path.normalizePattern raw).toList = .ok items ∧
      ∃ item ∈ items, item.isLiteral = false := by
  obtain ⟨items, hread, -, -⟩ := compile_eq_ok h
  refine ⟨items, hread, ?_⟩
  rw [isFixed_eq_all hread h] at hf
  simpa using hf

end Pattern

/-! ## Dictionaries -/

namespace NameMap

variable {α : Type}

/-- What a value adds to a sum over a dictionary, less what the value it replaces added. -/
theorem sum_insertEntry (f : α → Nat) (name : String) (a : α) {entries : List (String × α)}
    (hs : (entries.map (·.1)).Pairwise (· < ·)) :
    ((insertEntry name a entries).map (f ·.2)).sum + (findEntry name entries).elim 0 f =
      (entries.map (f ·.2)).sum + f a := by
  induction entries with
  | nil => simp [insertEntry, findEntry]
  | cons e rest ih =>
    obtain ⟨n, b⟩ := e
    obtain ⟨hn, hr⟩ := List.pairwise_cons.1 hs
    unfold insertEntry
    rw [findEntry]
    split
    · simp only [List.map_cons, List.sum_cons, Option.elim_some]
      omega
    · split
      · rename_i hl
        have hnone : findEntry name rest = none := by
          refine Option.eq_none_iff_forall_ne_some.2 fun c hc => ?_
          have hmem := List.mem_map_of_mem (f := Prod.fst) (mem_of_findEntry hc)
          exact lt_asymm hl (hn name hmem)
        simp only [hnone, List.map_cons, List.sum_cons, Option.elim_none]
        omega
      · have hrest := ih hr
        simp only [List.map_cons, List.sum_cons]
        omega

theorem size_insert {m : NameMap α} (h : m.Ascending) (name : String) (a : α) :
    (m.insert name a).size = m.size + if (m.get? name).isSome then 0 else 1 := by
  have hsum := sum_insertEntry (fun _ => 1) name a h
  simp only [List.map_const', List.sum_replicate_nat, Nat.mul_one] at hsum
  rw [size, size, insert, get?]
  cases hf : findEntry name m.entries with
  | none =>
    simp only [hf, Option.elim_none] at hsum
    simpa using hsum
  | some b =>
    simp only [hf, Option.elim_some] at hsum
    simpa using hsum

end NameMap

/-! ## Counting routes and finding those of a method -/

namespace MethodRoutes

variable {r : MethodRoutes ρ}

/-- A route is one more, unless it takes the place of a fixed one. -/
theorem length_toList_add (h : r.fixed.Ascending) (route : Route ρ) :
    (r.add route).toList.length = r.toList.length +
      if (route.pattern.fixedPath?.bind r.fixed.get?).isSome then 0 else 1 := by
  unfold MethodRoutes.add fixedPath?
  cases hk : route.pattern.kind with
  | matched m => simp [toList, Nat.add_assoc]
  | fixed path =>
    have hsize := NameMap.size_insert h path route
    simp only [toList, NameMap.values, NameMap.size, List.length_append, List.length_map,
      Option.bind_some] at hsize ⊢
    omega

end MethodRoutes

namespace RouteTable

variable {t : RouteTable ρ}

theorem get?_eq_some_or (t : RouteTable ρ) (method : String) :
    t.methods.get? method = some (t.routesOf method) ∨
      t.methods.get? method = none ∧ t.routesOf method = {} := by
  unfold routesOf
  cases t.methods.get? method with
  | none => exact .inr ⟨rfl, rfl⟩
  | some routes => exact .inl rfl

theorem size_add (h : t.methods.Ascending) {route : Route ρ}
    (hr : (t.routesOf route.method).fixed.Ascending) :
    (t.add route).size = t.size +
      if (route.pattern.fixedPath?.bind (t.routesOf route.method).fixed.get?).isSome then 0
      else 1 := by
  have hsize : ∀ t : RouteTable ρ,
      t.size = (t.methods.entries.map fun e => e.2.toList.length).sum := by
    intro t
    simp only [size, toList, NameMap.values, List.length_flatMap, List.map_map, Function.comp_def]
  have hold : (NameMap.findEntry route.method t.methods.entries).elim 0 (·.toList.length) =
      (t.routesOf route.method).toList.length := by
    rcases t.get?_eq_some_or route.method with hget | ⟨hget, hempty⟩
    · rw [NameMap.get?] at hget
      rw [hget, Option.elim_some]
    · rw [NameMap.get?] at hget
      rw [hget, hempty]
      rfl
  have hsum := NameMap.sum_insertEntry (·.toList.length) route.method
    ((t.routesOf route.method).add route) h
  rw [hold, MethodRoutes.length_toList_add hr, ← hsize t] at hsum
  rw [hsize]
  simp only [add, NameMap.insert]
  omega

theorem not_isCapital_of_mem_normalize {method : String} {c : Char}
    (h : c ∈ (Method.normalize method).toList) : ¬ ('A' ≤ c ∧ c ≤ 'Z') := by
  rw [Method.normalize, Text.asciiLowercase, String.toList_ofList] at h
  obtain ⟨d, -, rfl⟩ := List.mem_map.1 h
  exact Text.not_isCapital_asciiLowercaseChar d

end RouteTable

/-! ## The routes of a method -/

section

variable [Regex.PropertyTable]

/-- A fixed route that is kept by a path. -/
structure Route.IsKeptBy (route : Route ρ) (path : String) : Prop where
  kind : route.pattern.kind = .fixed path
  normal : path = Path.normalizePattern route.pattern.raw
  /-- There is no bracket and no brace in the path. -/
  literal : ∀ c ∈ path.toList, c ∉ delimiters
  parameters : route.pattern.parameters = []

/-- What is true of the routes that a table keeps under a method. -/
structure MethodRoutes.IsSound (r : MethodRoutes ρ) (method : String) : Prop where
  method : ∀ route ∈ r.toList, route.method = method
  names : ∀ route ∈ r.toList, route.pattern.parameters.Nodup ∧
    ∀ name ∈ route.pattern.parameters, isValidName name.toList = true
  /-- Fixed routes are kept by their paths, one for each. -/
  fixed : ∀ e ∈ r.fixed.entries, e.2.IsKeptBy e.1
  once : r.fixed.Ascending
  /-- All others have a placeholder or a section. -/
  matched : ∀ route ∈ r.matched, route.pattern.isFixed = false ∧ ∃ items,
    readItems (Path.normalizePattern route.pattern.raw).toList = .ok items ∧
      ∃ item ∈ items, item.isLiteral = false

namespace MethodRoutes

variable {r : MethodRoutes ρ} {route : Route ρ} {method : String}

theorem isSound_empty (method : String) : ({} : MethodRoutes ρ).IsSound method where
  method _ h := nomatch h
  names _ h := nomatch h
  fixed _ h := nomatch h
  once := NameMap.ascending_empty
  matched _ h := nomatch h

theorem isKeptBy_of_compile {path : String} (hc : compile route.pattern.raw = .ok route.pattern)
    (hk : route.pattern.kind = .fixed path) : route.IsKeptBy path := by
  have hf : route.pattern.isFixed = true := by rw [isFixed, hk]
  have hpath := RouteTable.fixed_of_compile hc hk
  refine ⟨hk, hpath, ?_, parameters_of_isFixed hc hf⟩
  rw [hpath]
  exact notMem_delimiters_of_isFixed hc hf

/-- Adding a compiled route keeps the routes of its method sound. -/
theorem IsSound.add (h : r.IsSound method) (hm : route.method = method)
    (hc : compile route.pattern.raw = .ok route.pattern) : (r.add route).IsSound method where
  method x hx := by
    rcases mem_toList_add hx with rfl | hx
    · exact hm
    · exact h.method x hx
  names x hx := by
    rcases mem_toList_add hx with rfl | hx
    · exact parameters_of_compile hc
    · exact h.names x hx
  fixed e he := by
    unfold MethodRoutes.add at he
    split at he
    · rename_i path hk
      rcases NameMap.mem_of_mem_insertEntry he with rfl | he
      · exact isKeptBy_of_compile hc hk
      · exact h.fixed e he
    · exact h.fixed e he
  once := by
    unfold MethodRoutes.add
    split
    · exact h.once.insert _ _
    · exact h.once
  matched x hx := by
    unfold MethodRoutes.add at hx
    split at hx
    · exact h.matched x hx
    · rename_i hk
      rcases List.mem_append.1 hx with hx | hx
      · exact h.matched x hx
      · obtain rfl := List.mem_singleton.1 hx
        have hf : x.pattern.isFixed = false := by rw [isFixed, hk]
        exact ⟨hf, exists_not_isLiteral hc hf⟩

end MethodRoutes

/-! ## What can be done to a table -/

/-- What can be done to a table. -/
inductive TableStep (ρ : Type) where
  | register (call : RouteCall ρ)
  | seal

namespace RouteCall

/-- Whether a call is for a fixed route. -/
def isFixed (r : RouteCall ρ) : Bool := r.route?.any (·.pattern.isFixed)

/-- The method and the path that a call for a fixed route names, both in normal form. -/
def key (r : RouteCall ρ) : String × String :=
  (Method.normalize r.method, Path.normalizePattern r.pattern)

end RouteCall

/-- The methods and paths that the calls for fixed routes name. -/
def fixedKeys (log : List (RouteCall ρ)) : List (String × String) :=
  (log.filter (·.isFixed)).map (·.key)

namespace RouteTable

/-- What a step makes of a table. A registration that fails leaves it as it was. -/
def perform (t : RouteTable ρ) : TableStep ρ → RouteTable ρ
  | .register call => t.register call
  | .seal => t.sealed

/-- The table that steps lead to. -/
def run (steps : List (TableStep ρ)) : RouteTable ρ := steps.foldl perform empty

/-- Whether a table takes the route of a call. -/
def takes (t : RouteTable ρ) (r : RouteCall ρ) : Bool :=
  (t.set r.method r.pattern r.action r.strategy).isOk

/-- The calls among steps that succeed, in order. -/
def accepted (t : RouteTable ρ) : List (TableStep ρ) → List (RouteCall ρ)
  | [] => []
  | .register call :: steps =>
    (if t.takes call then [call] else []) ++ accepted (t.register call) steps
  | .seal :: steps => accepted t.sealed steps

/-- What is true of a table that has taken the routes of calls. -/
structure IsSound (t : RouteTable ρ) (log : List (RouteCall ρ)) : Prop where
  /-- Methods are kept without ASCII capitals, each with a route at least. -/
  methods : ∀ e ∈ t.methods.entries,
    (∀ c ∈ e.1.toList, ¬ ('A' ≤ c ∧ c ≤ 'Z')) ∧ e.2.toList ≠ [] ∧ e.2.IsSound e.1
  once : t.methods.Ascending
  /-- A fixed route is kept for each method and path that a call for one names. -/
  keys : ∀ method path,
    ((t.routesOf method).fixed.get? path).isSome ↔ (method, path) ∈ fixedKeys log
  size : t.size = (fixedKeys log).toFinset.card + (log.filter (!·.isFixed)).length

variable {t : RouteTable ρ} {log : List (RouteCall ρ)}

/-- A call is refused and changes nothing, or it adds the route that it is for. -/
theorem register_cases (t : RouteTable ρ) (r : RouteCall ρ) :
    (t.takes r = false ∧ t.register r = t) ∨
      t.takes r = true ∧ ∃ route, r.route? = some route ∧ t.register r = t.add route := by
  unfold takes register set RouteCall.route?
  cases t.isSealed with
  | true => exact .inl ⟨rfl, rfl⟩
  | false =>
    cases compile r.pattern with
    | error e => exact .inl ⟨rfl, rfl⟩
    | ok p => exact .inr ⟨rfl, _, rfl, rfl⟩

/-! ## Soundness -/

theorem isSound_empty : IsSound (empty : RouteTable ρ) [] where
  methods _ h := nomatch h
  once := NameMap.ascending_empty
  keys _ _ := iff_of_false Bool.false_ne_true List.not_mem_nil
  size := rfl

theorem IsSound.sealed (h : t.IsSound log) : t.sealed.IsSound log :=
  ⟨h.methods, h.once, h.keys, h.size⟩

/-- The routes of each method are sound, whether the table has any or not. -/
theorem IsSound.routesOf (h : t.IsSound log) (method : String) :
    (t.routesOf method).IsSound method := by
  rcases t.get?_eq_some_or method with hget | ⟨-, hempty⟩
  · exact (h.methods _ (NameMap.mem_of_findEntry hget)).2.2
  · rw [hempty]
    exact MethodRoutes.isSound_empty method

theorem mem_fixedKeys_append {log : List (RouteCall ρ)} {r : RouteCall ρ} {key : String × String} :
    key ∈ fixedKeys (log ++ [r]) ↔ key ∈ fixedKeys log ∨ r.isFixed = true ∧ key = r.key := by
  rw [fixedKeys, List.filter_append, List.map_append, List.mem_append, ← fixedKeys]
  cases hf : r.isFixed <;> simp [hf]

/-- The key of a call for a fixed route is one more, unless an earlier call has it. -/
theorem card_fixedKeys_append (log : List (RouteCall ρ)) {r : RouteCall ρ}
    (hf : r.isFixed = true) :
    (fixedKeys (log ++ [r])).toFinset.card =
      (fixedKeys log).toFinset.card + if r.key ∈ fixedKeys log then 0 else 1 := by
  have hkeys : (fixedKeys (log ++ [r])).toFinset = insert r.key (fixedKeys log).toFinset := by
    ext key
    rw [List.mem_toFinset, mem_fixedKeys_append, Finset.mem_insert, List.mem_toFinset, or_comm]
    simp only [hf, true_and]
  rw [hkeys]
  split
  · rename_i hmem
    rw [Finset.insert_eq_of_mem (List.mem_toFinset.2 hmem), Nat.add_zero]
  · rename_i hmem
    rw [Finset.card_insert_of_notMem (mt List.mem_toFinset.1 hmem)]

theorem fixedKeys_append_of_not_isFixed (log : List (RouteCall ρ)) {r : RouteCall ρ}
    (hf : r.isFixed = false) : fixedKeys (log ++ [r]) = fixedKeys log := by
  rw [fixedKeys, List.filter_append, List.filter_singleton, hf]
  simp [fixedKeys]

theorem IsSound.add (h : t.IsSound log) {r : RouteCall ρ} {route : Route ρ}
    (hr : r.route? = some route) : (t.add route).IsSound (log ++ [r]) := by
  obtain ⟨hm, hc⟩ := route?_eq_some hr
  have hraw := raw_of_compile hc
  have hcompiled : compile route.pattern.raw = .ok route.pattern := by rw [hraw, hc]
  have hsound := (h.routesOf route.method).add rfl hcompiled
  have hfixed : r.isFixed = route.pattern.isFixed := by rw [RouteCall.isFixed, hr, Option.any_some]
  refine ⟨fun e he => ?_, h.once.insert _ _, fun method path => ?_, ?_⟩
  · rcases NameMap.mem_of_mem_insertEntry he with rfl | he
    · refine ⟨fun c hcm => ?_, List.ne_nil_of_mem (MethodRoutes.mem_toList_add_self _ _), hsound⟩
      rw [hm] at hcm
      exact not_isCapital_of_mem_normalize hcm
    · exact h.methods e he
  · rw [mem_fixedKeys_append, ← h.keys, routesOf_add, hfixed, RouteCall.key, ← hm, Prod.mk.injEq]
    split
    · rename_i heq
      subst heq
      unfold MethodRoutes.add
      cases hk : route.pattern.kind with
      | matched m => simp [isFixed, hk]
      | fixed fixed =>
        rw [← hraw, ← fixed_of_compile hcompiled hk]
        simp only [NameMap.get?_insert, isFixed, hk, true_and]
        by_cases hp : path = fixed <;> simp [hp]
    · rename_i hne
      simp [hne]
  · rw [size_add h.once (h.routesOf route.method).once, h.size, List.filter_append]
    unfold fixedPath?
    cases hk : route.pattern.kind with
    | matched m =>
      have hf : r.isFixed = false := by rw [hfixed, isFixed, hk]
      rw [fixedKeys_append_of_not_isFixed log hf]
      simp [hf, Nat.add_assoc]
    | fixed fixed =>
      have hf : r.isFixed = true := by rw [hfixed, isFixed, hk]
      have hkey : r.key = (route.method, fixed) := by
        rw [RouteCall.key, hm, ← hraw, fixed_of_compile hcompiled hk]
      rw [card_fixedKeys_append log hf, hkey, Option.bind_some]
      simp [← h.keys, hf, Nat.add_right_comm]

/-- **What one step keeps.** The table stays sound, for one call more if the step is a call that
succeeds. -/
theorem IsSound.perform (h : t.IsSound log) (step : TableStep ρ) :
    (t.perform step).IsSound (log ++ t.accepted [step]) := by
  match step with
  | .seal => simpa [RouteTable.perform, accepted] using h.sealed
  | .register r =>
    rcases t.register_cases r with ⟨ht, hr⟩ | ⟨ht, route, hroute, hr⟩
    · simpa [RouteTable.perform, accepted, ht, hr] using h
    · simpa [RouteTable.perform, accepted, ht, hr] using h.add hroute

theorem IsSound.foldl (h : t.IsSound log) (steps : List (TableStep ρ)) :
    (steps.foldl RouteTable.perform t).IsSound (log ++ t.accepted steps) := by
  induction steps generalizing t log with
  | nil => simpa [accepted] using h
  | cons step steps ih =>
    have haccepted : t.accepted (step :: steps) =
        t.accepted [step] ++ (t.perform step).accepted steps := by
      cases step <;> simp [accepted, RouteTable.perform]
    rw [haccepted, ← List.append_assoc]
    exact ih (h.perform step)

/-- **Every table is sound.** Whatever registrations a table has been given, in whatever spelling,
and wherever among them it was sealed: its methods are kept in small letters, each with a route,
and each route under its own method; fixed routes are kept by the normal form of their texts, which
have neither brackets nor braces nor parameters, and no two by the same one; all other routes have
a placeholder or a section; names are valid and distinct. The number of routes is that of the
methods and paths for which fixed routes were registered, and of the other registrations that
succeeded. -/
theorem isSound_run (steps : List (TableStep ρ)) :
    (run steps).IsSound (accepted empty steps) :=
  isSound_empty.foldl steps

end RouteTable

end

namespace RouteTable

/-- A fixed route in two spellings, and a route that comes when the table is sealed. -/
def aboutSteps : List (TableStep Unit) :=
  [.register ⟨"GET", "about", .member (.named "Pages") "about", uriStrategyTag⟩,
    .register ⟨"get", "/about", .member (.named "Pages") "about", uriStrategyTag⟩, .seal,
    .register ⟨"get", "/\x7bid\x7d", .member (.named "Pages") "show", uriStrategyTag⟩]

example : (accepted empty aboutSteps).length = 2 ∧ (run aboutSteps).size = 1 := by decide +kernel

end RouteTable

end UriRouter
