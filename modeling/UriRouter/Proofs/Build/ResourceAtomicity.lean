import UriRouter.Proofs.Build.Resource
import UriRouter.Proofs.Pattern.Continuation

/-!
# Resources that are registered in part

The routes of a resource are registered one after the other, and none of their patterns is looked at
before its turn. All of them begin with the prefix and the resource's name, which may be any pattern,
and some of them then ask for an identifier. If the beginning has taken the identifier's place itself,
the routes that ask for none are registered before the first of the others is refused.

* `ResourceAction.exists_compile_iff` : which patterns of a resource compile;
* `Builder.SplitsResource` : what makes a resource be registered in part;
* `Builder.apply_resource_of_failure` : in all other cases a failure leaves the builder as it was.
-/

set_option autoImplicit false

namespace UriRouter

open UriRouter.Pattern

variable {ρ : Type}

/-! ## Patterns of one resource -/

/-- What all patterns of a resource begin with under a scope. -/
def resourceBase (s : Scope) (resource : String) : String := s.pathPrefix ++ "/" ++ resource

theorem resourceBase_ne (s : Scope) (resource : String) : resourceBase s resource ≠ "" := by
  intro h
  have hlist := congrArg String.toList h
  simp [resourceBase] at hlist

theorem Scope.mem_apply {s : Scope} {pattern : String} {c : Char}
    (h : c ∈ s.pathPrefix.toList ∨ c ∈ pattern.toList ∧ c ≠ '/') :
    c ∈ (s.apply pattern).toList := by
  unfold Scope.apply
  split
  · rename_i hempty
    rw [String.isEmpty_iff.1 hempty] at h
    exact (h.resolve_left (by simp)).1
  · split
    · rename_i hnil
      refine h.resolve_right fun hc => ?_
      rw [hnil] at hc
      cases hc.1
    · rename_i hroot
      refine h.resolve_right fun hc => ?_
      rw [hroot] at hc
      exact hc.2 (List.mem_singleton.1 hc.1)
    all_goals
    · simp only [String.toList_append, List.mem_append]
      tauto

namespace ResourceAction

theorem isPlainText_of_mem {w : String} (h : w ∈ ["/", "/make", "", "/edit"]) :
    IsPlainText w.toList ∧ ∀ c ∈ w.toList, c ∉ delimiters := by
  simp only [List.mem_cons, List.not_mem_nil, or_false] at h
  rcases h with rfl | rfl | rfl | rfl <;>
    refine ⟨⟨rfl, ?_, by simp⟩, by simp [delimiters]⟩ <;>
    simp [Regex.IsMember] <;> decide

theorem tail_eq {a : ResourceAction} (ha : a ∈ resourceActions) :
    ∃ w : String, (IsPlainText w.toList ∧ ∀ c ∈ w.toList, c ∉ delimiters) ∧
      a.tail = (if a.asksForId then "/\x7bid\x7d" else "") ++ w := by
  simp only [resourceActions, List.mem_cons, List.not_mem_nil, or_false] at ha
  rcases ha with rfl | rfl | rfl | rfl | rfl | rfl | rfl
  · exact ⟨"/", isPlainText_of_mem (by simp), by decide⟩
  · exact ⟨"/make", isPlainText_of_mem (by simp), by decide⟩
  · exact ⟨"", isPlainText_of_mem (by simp), by decide⟩
  · exact ⟨"", isPlainText_of_mem (by simp), by decide⟩
  · exact ⟨"/edit", isPlainText_of_mem (by simp), by decide⟩
  · exact ⟨"", isPlainText_of_mem (by simp), by decide⟩
  · exact ⟨"", isPlainText_of_mem (by simp), by decide⟩

end ResourceAction

theorem asksForId_of_head {options : ExtensionOptions} {a : ResourceAction}
    (ha : a ∈ (includedActions options).head?) (hid : a.asksForId = true) :
    ∀ a ∈ includedActions options, a.asksForId = true := by
  have hall : resourceActions.Pairwise fun a a' => a.asksForId = true → a'.asksForId = true := by
    decide
  have hpair := hall.filter fun a => options.includes a.name
  rw [← includedActions] at hpair
  cases hl : includedActions options with
  | nil =>
    rw [hl] at ha
    cases ha
  | cons a' rest =>
    rw [hl] at ha hpair
    cases ha
    exact List.forall_mem_cons.2 ⟨hid, fun a' h => (List.pairwise_cons.1 hpair).1 a' h hid⟩

section

variable [Regex.PropertyTable]

namespace ResourceAction

/-- Under a scope a pattern of a resource compiles just where it does after the common beginning. -/
theorem exists_compile_apply (s : Scope) (resource : String) (a : ResourceAction) :
    (∃ p, compile (s.apply (a.pattern resource)) = .ok p) ↔
      ∃ p, compile (resourceBase s resource ++ a.tail) = .ok p := by
  have hlist : (a.pattern resource).toList = '/' :: (resource.toList ++ a.tail.toList) := by
    simp [pattern]
  have hbase : resourceBase s resource ++ a.tail = s.pathPrefix ++ a.pattern resource := by
    rw [resourceBase, pattern, String.append_assoc, String.append_assoc, String.append_assoc]
  rw [hbase]
  unfold Scope.apply
  split
  · rename_i hempty
    rw [String.isEmpty_iff.1 hempty, String.empty_append]
  · rename_i hne
    rw [hlist]
    cases hrest : resource.toList ++ a.tail.toList with
    | cons c rest => exact Iff.rfl
    | nil =>
      -- the root of the scope is the prefix itself
      have hroot : a.pattern resource = "/" := by
        rw [← String.toList_inj, hlist, hrest]
        rfl
      rw [hroot]
      have hscope : s.pathPrefix ≠ "" := fun h => hne (String.isEmpty_iff.2 h)
      have hslash := isPlainText_of_mem (w := "/") (by simp)
      exact (exists_compile_literals hscope hslash.1 hslash.2).symm

/-- **Which patterns of a resource compile** hangs on whether they ask for an identifier, and on
nothing else. -/
theorem exists_compile_iff (s : Scope) (resource : String) {a : ResourceAction}
    (ha : a ∈ resourceActions) :
    (∃ p, compile (s.apply (a.pattern resource)) = .ok p) ↔
      ∃ p, compile (resourceBase s resource ++ if a.asksForId then "/\x7bid\x7d" else "") = .ok p := by
  obtain ⟨w, ⟨hw, hd⟩, htail⟩ := tail_eq ha
  have hne : resourceBase s resource ++ (if a.asksForId then "/\x7bid\x7d" else "") ≠ "" := by
    intro h
    have hlist := congrArg String.toList h
    simp [resourceBase] at hlist
  rw [exists_compile_apply, htail, ← String.append_assoc, exists_compile_literals hne hw hd]

end ResourceAction

namespace Builder

/-! ## Registrations one after the other -/

/-- The number of routes of a method whose patterns are not fixed. -/
def matchedCount (b : Builder ρ) (method : String) : Nat := (b.table.routesOf method).matched.length

theorem matchedCount_register {b b' : Builder ρ} {r : Registration ρ}
    (h : b.register r = .done b') (method : String) :
    b.matchedCount method ≤ b'.matchedCount method ∧
      ((∀ p, compile (b.scope.apply r.pattern) = .ok p → p.isFixed = false) →
        b.matchedCount (Method.normalize r.method) <
          b'.matchedCount (Method.normalize r.method)) := by
  rcases b.register_cases r with ⟨-, e, hr⟩ | ⟨-, ⟨e, -, hr⟩ | ⟨p, hp, hr⟩⟩
  · cases hr.symm.trans h
  · cases hr.symm.trans h
  · cases hr.symm.trans h
    have hadd (routes : MethodRoutes ρ) (route : Route ρ) :
        routes.matched.length ≤ (routes.add route).matched.length := by
      unfold MethodRoutes.add
      split
      · exact Nat.le_refl _
      · simp
    simp only [matchedCount, RouteTable.routesOf_add]
    refine ⟨?_, fun hnot => ?_⟩
    · split
      · exact hadd _ _
      · exact Nat.le_refl _
    · rw [if_pos trivial, MethodRoutes.add]
      have hfixed := hnot p hp
      split
      · rename_i path hk
        have hk : p.kind = .fixed path := hk
        rw [isFixed, hk] at hfixed
        cases hfixed
      · simp

theorem matchedCount_le_setAll (b : Builder ρ) (rs : List (Registration ρ)) (method : String) :
    b.matchedCount method ≤ (b.setAll rs).state.matchedCount method := by
  induction rs generalizing b with
  | nil => exact Nat.le_refl _
  | cons r rs ih =>
    rcases b.register_cases r with ⟨-, e, hr⟩ | ⟨-, ⟨e, -, hr⟩ | ⟨p, -, hr⟩⟩
    · rw [setAll_cons_of_failed hr]
      exact Nat.le_refl _
    · rw [setAll_cons_of_failed hr]
      exact Nat.le_refl _
    · rw [setAll_cons_of_done hr]
      exact (matchedCount_register hr method).1.trans (ih _)

/-! ## Resources -/

/-- What makes a resource be registered in part: the routes that ask for no identifier can be
registered and there are some, but an identifier cannot be asked for after them. -/
structure SplitsResource (b : Builder ρ) (target : TargetRef ρ) (options : ExtensionOptions) :
    Prop where
  isOpen : b.table.isSealed = false
  known : unknownResourceAction? options = none
  included : ∃ a ∈ includedActions options, a.asksForId = false
  compiles : ∃ p, compile (resourceBase b.scope (resourceNameOf target options)) = .ok p
  taken : ∃ items, TakesName "id" items ∧ readItems (Path.normalizePattern
    (resourceBase b.scope (resourceNameOf target options))).toList = .ok items

section

variable {b : Builder ρ} {target : TargetRef ρ} {options : ExtensionOptions}

/-- If the first of the routes can be registered, all can, unless the resource is split. -/
theorem exists_compile_of_head (hs : ¬ b.SplitsResource target options)
    (ho : b.table.isSealed = false) (hk : unknownResourceAction? options = none)
    {r : Registration ρ} (hr : r ∈ (resourceRegistrations target options).head?)
    (hp : ∃ p, compile (b.scope.apply r.pattern) = .ok p) :
    ∀ r ∈ resourceRegistrations target options,
      ∃ p, compile (b.scope.apply r.pattern) = .ok p := by
  rw [resourceRegistrations, List.head?_map] at hr
  obtain ⟨a, ha, rfl⟩ := Option.map_eq_some_iff.1 hr
  have hmem : a ∈ includedActions options := List.mem_of_head? ha
  have hcompile {a : ResourceAction} (ha : a ∈ includedActions options) :=
    ResourceAction.exists_compile_iff b.scope (resourceNameOf target options)
      (mem_includedActions.1 ha).1
  have hfirst := (hcompile hmem).1 hp
  simp only [resourceRegistrations, List.forall_mem_map]
  intro a' ha'
  refine (hcompile ha').2 ?_
  cases hid : a.asksForId with
  | true =>
    rw [asksForId_of_head ha hid a' ha']
    rwa [hid] at hfirst
  | false =>
    rw [hid, if_neg (by decide), String.append_empty] at hfirst
    cases hid' : a'.asksForId with
    | false =>
      rw [if_neg (by decide), String.append_empty]
      exact hfirst
    | true =>
      obtain ⟨items, hread, -⟩ := Pattern.exists_compile_iff.1 hfirst
      have hvalid : isValidName "id".toList = true := by decide
      refine (exists_compile_placeholder (resourceBase_ne _ _) hvalid hread hfirst).2 fun htaken => ?_
      exact hs ⟨ho, hk, ⟨a, hmem, hid⟩, hfirst, items, htaken, hread⟩

/-- The beginning that has taken a name is not literal text, and so no pattern of the resource is
fixed. -/
theorem isFixed_of_splits (hs : b.SplitsResource target options) {a : ResourceAction} {p : Pattern}
    (hp : compile (b.scope.apply (a.pattern (resourceNameOf target options))) = .ok p) :
    p.isFixed = false := by
  refine Bool.eq_false_iff.2 fun hf => ?_
  obtain ⟨items, htaken, hread⟩ := hs.taken
  have hlit := notMem_delimiters_of_isFixed hp hf
  refine not_takesName_of_literal (fun c hc => ?_) hread "id" htaken
  by_cases hslash : c = '/'
  · subst hslash
    decide
  · refine hlit c (mem_normalizePattern ?_)
    have hbase := (of_mem_normalizePattern hc).resolve_left hslash
    simp only [resourceBase, String.toList_append, List.mem_append] at hbase
    rcases hbase with (hscope | hc) | hname
    · exact Scope.mem_apply (.inl hscope)
    · exact absurd (List.mem_singleton.1 hc) hslash
    · refine Scope.mem_apply (.inr ⟨?_, hslash⟩)
      rw [ResourceAction.pattern, String.toList_append, String.toList_append]
      exact List.mem_append_left _ (List.mem_append_right _ hname)

/-- A resource that is split leaves some of its routes in the table. -/
theorem state_ne_of_splits (hs : b.SplitsResource target options) :
    (b.setAll (resourceRegistrations target options)).state ≠ b := by
  obtain ⟨a', ha', hid'⟩ := hs.included
  cases hl : includedActions options with
  | nil =>
    rw [hl] at ha'
    cases ha'
  | cons a rest =>
    have hhead : a ∈ (includedActions options).head? := by rw [hl]; rfl
    have hid : a.asksForId = false := Bool.eq_false_iff.2 fun hid => by
      rw [asksForId_of_head hhead hid a' ha'] at hid'
      cases hid'
    have hmem := (mem_includedActions.1 (List.mem_of_head? hhead)).1
    obtain ⟨p, hp⟩ := (ResourceAction.exists_compile_iff b.scope (resourceNameOf target options) hmem).2 (by
      rw [hid, if_neg (by decide), String.append_empty]
      exact hs.compiles)
    rw [resourceRegistrations, hl, List.map_cons]
    obtain ⟨b', hr⟩ :
        ∃ b', b.register (a.registration target (resourceNameOf target options)) = .done b' := by
      rcases b.register_cases (a.registration target (resourceNameOf target options)) with
        ⟨hsealed, -⟩ | ⟨-, ⟨e, he, -⟩ | ⟨p', -, hr⟩⟩
      · rw [hs.isOpen] at hsealed
        cases hsealed
      · cases he.symm.trans hp
      · exact ⟨_, hr⟩
    have hlt := (matchedCount_register hr "").2 fun p hp => isFixed_of_splits hs hp
    have hle := b'.matchedCount_le_setAll (rest.map (·.registration target
      (resourceNameOf target options))) (Method.normalize a.verb)
    rw [setAll_cons_of_done hr]
    intro hstate
    rw [hstate] at hle
    exact absurd (hlt.trans_le hle) (Nat.lt_irrefl _)

/-- **When a failure leaves the builder as it was.** If the extension for resources fails, then the
builder, with its table, is what it was, unless the routes that ask for no identifier could be
registered and the pattern of prefix and name had taken the identifier's place. -/
theorem apply_resource_of_failure
    (h : b.extensions.get? resourceExtensionName = some .resource) {e : RegistrationError}
    (hf : (b.apply resourceExtensionName target options).failure = some e) :
    (b.apply resourceExtensionName target options).state = b ↔
      ¬ b.SplitsResource target options := by
  rw [apply_resource h] at hf ⊢
  cases hk : unknownResourceAction? options with
  | some action =>
    refine iff_of_true rfl fun hs => ?_
    rw [hs.known] at hk
    cases hk
  | none =>
    simp only [hk] at hf ⊢
    refine ⟨fun hstate hs => state_ne_of_splits hs hstate, fun hs => ?_⟩
    exact setAll_of_failure_of_head (fun ho r hr => exists_compile_of_head hs ho hk hr) hf

end

end Builder

end

namespace Builder

/-- Options that give a resource the place of its identifier as its name. -/
def idOptions : ExtensionOptions := { name := some "\x7bid\x7d" }

/-- A target by a name. -/
def pagesTarget : TargetRef String := .named "Pages"

theorem splits_pages :
    (standard : Builder String).extensions.get? resourceExtensionName = some .resource ∧
    (standard.apply resourceExtensionName pagesTarget idOptions).failure =
      some (.pattern ⟨"/\x7bid\x7d/\x7bid\x7d", .duplicateParameter "id"⟩) ∧
    ¬ (standard.apply resourceExtensionName pagesTarget idOptions).state = standard := by
  have hext : (standard : Builder String).extensions.get? resourceExtensionName = some .resource :=
    awaitsResource_standard.extension
  have hfail : (standard.apply resourceExtensionName pagesTarget idOptions).failure =
      some (.pattern ⟨"/\x7bid\x7d/\x7bid\x7d", .duplicateParameter "id"⟩) := by decide +kernel
  refine ⟨hext, hfail, fun hstate => (apply_resource_of_failure hext hfail).1 hstate ?_⟩
  have hread : readItems "/\x7bid\x7d".toList = .ok [.literal '/', .placeholder "id" none] := rfl
  exact {
    isOpen := rfl
    known := rfl
    included := ⟨⟨"index", "get", "/"⟩, by decide, rfl⟩
    compiles := Pattern.exists_compile_iff.2 ⟨_, hread, by decide +kernel⟩
    taken := ⟨_, .inl (List.mem_singleton.2 rfl), hread⟩ }

/-- **The extension for resources is not all or nothing.** A resource whose name declares the
parameter `id` has three routes in the table when the fourth is refused. -/
theorem not_apply_resource_atomic :
    ¬ ∀ (b : Builder String) (target : TargetRef String) (options : ExtensionOptions)
        (e : RegistrationError), b.extensions.get? resourceExtensionName = some .resource →
      (b.apply resourceExtensionName target options).failure = some e →
      (b.apply resourceExtensionName target options).state.table = b.table := by
  intro h
  have hsize : (standard.apply resourceExtensionName pagesTarget idOptions).state.table.size = 3 := by
    decide +kernel
  have hfail : (standard.apply resourceExtensionName pagesTarget idOptions).failure =
      some (.pattern ⟨"/\x7bid\x7d/\x7bid\x7d", .duplicateParameter "id"⟩) := by decide +kernel
  rw [h standard pagesTarget idOptions _ awaitsResource_standard.extension hfail] at hsize
  cases hsize

end Builder

end UriRouter
