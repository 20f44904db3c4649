import UriRouter.Proofs.Derive.Chain
import UriRouter.Serve.Strategy

/-!
# Arranging bound values

A callee is given one argument for each parameter of its signature, in order. Where a path binds
the first parameters, the others are given what their signature falls back on.

* `Signature.fill` : the arguments that values for the first parameters make;
* `arrange_bind` : they are what the bindings of such a path are arranged to;
* `Strategy.invoke_uri_member` : what a matched operation is then called with.
-/

set_option autoImplicit false

namespace UriRouter

/-- The value that a parameter has if it is not bound. -/
def Fallback.value? : Fallback → Option String
  | .required => none
  | .absent => none
  | .value text => some text

/-- One argument for each parameter: the values for the first, and for the others what they fall
back on. -/
def Signature.fill : Signature → List String → Arguments
  | [], _ => []
  | p :: rest, [] => (p.name, p.fallback.value?) :: fill rest []
  | p :: rest, v :: values => (p.name, some v) :: fill rest values

/-! ## Looking up names -/

theorem Bindings.get?_cons_self (name value : String) (b : Bindings) :
    Bindings.get? ((name, value) :: b) name = some value := by
  rw [get?, List.find?_cons_of_pos (by simp)]
  rfl

theorem Bindings.get?_cons_of_ne {name other : String} (h : name ≠ other) (value : String)
    (b : Bindings) : Bindings.get? ((name, value) :: b) other = b.get? other := by
  rw [get?, List.find?_cons_of_neg (by simpa using h), get?]

/-- The first value of a name is the only one where no name stands twice. -/
theorem Bindings.get?_of_mem {fields : Bindings} (hn : (fields.map (·.1)).Nodup)
    {f : String × String} (hf : f ∈ fields) : fields.get? f.1 = some f.2 := by
  induction fields with
  | nil => cases hf
  | cons g fields ih =>
    obtain ⟨hg, hrest⟩ := List.nodup_cons.1 hn
    rcases List.mem_cons.1 hf with rfl | hf
    · exact get?_cons_self f.1 f.2 fields
    · have hne : g.1 ≠ f.1 := by
        intro he
        exact hg (List.mem_map.2 ⟨f, hf, he.symm⟩)
      exact (get?_cons_of_ne hne g.2 fields).trans (ih hrest hf)

/-- The arguments depend on nothing but what the parameters' names are bound to. -/
theorem arrange_congr {sig : Signature} {b b' : Bindings}
    (h : ∀ p ∈ sig, b.get? p.name = b'.get? p.name) : arrange sig b = arrange sig b' := by
  induction sig with
  | nil => rfl
  | cons p rest ih =>
    have hp : argumentFor b p = argumentFor b' p := by
      rw [argumentFor, argumentFor, h p List.mem_cons_self]
    rw [arrange, arrange, hp, ih fun q hq => h q (List.mem_cons_of_mem _ hq)]

theorem arrange_cons_of_notMem {sig : Signature} {name : String} (h : name ∉ sig.map (·.name))
    (value : String) (b : Bindings) : arrange sig ((name, value) :: b) = arrange sig b := by
  refine arrange_congr fun p hp => Bindings.get?_cons_of_ne (fun he => h ?_) value b
  exact List.mem_map.2 ⟨p, hp, he.symm⟩

/-! ## Arguments from values -/

namespace Signature

theorem arrange_nil {sig : Signature} (h : ∀ p ∈ sig, p.isOptional = true) :
    arrange sig [] = .ok (sig.fill []) := by
  induction sig with
  | nil => rfl
  | cons p rest ih =>
    have hp : argumentFor [] p = .ok (p.name, p.fallback.value?) := by
      have hopt := h p List.mem_cons_self
      unfold argumentFor
      cases hf : p.fallback with
      | required =>
        rw [Parameter.isOptional, hf] at hopt
        cases hopt
      | absent => rfl
      | value text => rfl
    rw [arrange, hp, ih fun q hq => h q (List.mem_cons_of_mem _ hq), fill]

/-- **Values for the first parameters are arranged as they come**, with what the others fall back
on after them. -/
theorem arrange_bind {sig : Signature} {values : List String} (hd : (sig.map (·.name)).Nodup)
    (hf : sig.RequiredFirst) (ht : sig.Takes values) :
    arrange sig (sig.bind values) = .ok (sig.fill values) := by
  induction sig generalizing values with
  | nil => cases values <;> rfl
  | cons p rest ih =>
    cases values with
    | nil => exact arrange_nil ht.isOptional
    | cons v values =>
      obtain ⟨hp, hrest⟩ := List.nodup_cons.1 hd
      have hb : bind (p :: rest) (v :: values) = (p.name, v) :: bind rest values := rfl
      have hv : argumentFor ((p.name, v) :: bind rest values) p = .ok (p.name, some v) := by
        rw [argumentFor, Bindings.get?_cons_self]
      rw [hb, arrange, hv, arrange_cons_of_notMem hp,
        ih hrest (List.pairwise_cons.1 hf).2 (ht.tail hf), fill]

end Signature

end UriRouter
