import UriRouter.Declared
import UriRouter.Proofs.Serve.SignatureOrder

/-!
# What is declared and what is read

Of a declared method two things are made, an operation and the reading of its arguments. They agree
on which arguments may be missing: arguments that were arranged for the operation are never missed
by the reading, only refused as values of their types.

* `TypedParameter.Refuses` : a parameter cannot use what it was given;
* `DeclaredMethod.call_of_arrange` : a call reaches the method, or its first unusable argument is
  reported.
-/

set_option autoImplicit false

namespace UriRouter

namespace TypedParameter

variable {b : Bindings} {arguments : Arguments} {index : Nat}

/-- What a parameter was given is not a text of its type. -/
def Refuses (p : TypedParameter) (b : Bindings) (e : ArgumentError) : Prop :=
  ∃ text fault, b.Gives p.parameter (p.name, some text) ∧ p.type.readValue text = .error fault ∧
    e = .invalid p.name text fault.reason

theorem isOption_of_fallback {p : TypedParameter} (h : p.parameter.fallback = .absent) :
    p.isOption = true := by
  obtain ⟨_, _, isOption, _ | text, _⟩ := p <;> cases isOption <;> first | rfl | cases h

/-- A text is read as a value of the type, whether the parameter can do without or not. -/
theorem read_of_text (p : TypedParameter) {text : String}
    (h : arguments[index]? = some (p.name, some text)) :
    (∃ value, p.read arguments index = .ok value) ∨
      ∃ fault, p.type.readValue text = .error fault ∧
        p.read arguments index = .error (.invalid p.name text fault.reason) := by
  obtain ⟨name, type, _ | _, _, _⟩ := p <;>
    cases hv : type.readValue text <;>
    simp [read, Arguments.required, Arguments.optional, Arguments.valueAt?, Arguments.nameAt,
      Arguments.readValue, h, hv]

/-- What a parameter is given can be read, or is refused. -/
theorem read_of_gives (p : TypedParameter) {argument : String × Option String}
    (h : arguments[index]? = some argument) (hg : b.Gives p.parameter argument) :
    (∃ value, p.read arguments index = .ok value) ∨
      ∃ e, p.Refuses b e ∧ p.read arguments index = .error e := by
  have hread : ∀ text, argument = (p.name, some text) →
      (∃ value, p.read arguments index = .ok value) ∨
        ∃ e, p.Refuses b e ∧ p.read arguments index = .error e := by
    rintro text rfl
    obtain hok | ⟨fault, hfault, he⟩ := p.read_of_text h
    · exact .inl hok
    · exact .inr ⟨_, ⟨text, fault, hg, hfault, rfl⟩, he⟩
  cases hg with
  | bound => exact hread _ rfl
  | declared => exact hread _ rfl
  | absent hnot hf =>
    obtain ⟨name, type, isOption, _, _⟩ := p
    obtain rfl : isOption = true := isOption_of_fallback hf
    exact .inl ⟨none, by simp [read, Arguments.optional, Arguments.valueAt?, h]⟩

/-- The arguments that are given to parameters are read one by one, until one is refused. -/
theorem readFrom_of_gives {parameters : List TypedParameter} {rest : Arguments}
    (before : Arguments) (h : List.Forall₂ b.Gives (parameters.map (·.parameter)) rest) :
    (∃ values, readFrom (before ++ rest) before.length parameters = .ok values) ∨
      ∃ p ∈ parameters, ∃ e, p.Refuses b e ∧
        readFrom (before ++ rest) before.length parameters = .error e := by
  induction parameters generalizing before rest with
  | nil => exact .inl ⟨(), rfl⟩
  | cons p parameters ih =>
    cases h with
    | @cons _ argument _ rest hgives hrest =>
      have hat : (before ++ argument :: rest)[before.length]? = some argument := by simp
      have hnext := ih (before ++ [argument]) hrest
      rw [List.append_assoc, List.singleton_append, List.length_append, List.length_singleton]
        at hnext
      rw [readFrom]
      obtain ⟨value, hvalue⟩ | ⟨e, hrefuses, he⟩ := p.read_of_gives hat hgives
      · rw [hvalue]
        obtain ⟨values, hvalues⟩ | ⟨q, hq, e, hrefuses, he⟩ := hnext
        · exact .inl ⟨(value, values), by rw [hvalues]⟩
        · exact .inr ⟨q, List.mem_cons_of_mem p hq, e, hrefuses, by rw [he]⟩
      · exact .inr ⟨p, List.mem_cons_self, e, hrefuses, by rw [he]⟩

end TypedParameter

variable {ρ : Type}

/-- An operation that a controller declares is one that it answers to. -/
theorem Controller.operation?_ofMethods (name : String) (methods : List (DeclaredMethod ρ))
    (member : String) : (Controller.ofMethods name methods).operation? member =
      (methods.find? (·.name == member)).map (·.operation) :=
  List.find?_map

/-- **No declared argument is missing**: with arguments that were arranged for its operation, a
method is called with values of its types, unless one of them is refused. -/
theorem DeclaredMethod.call_of_arrange (m : DeclaredMethod ρ) {b : Bindings}
    {arguments : Arguments} (h : arrange m.operation.signature b = .ok arguments) :
    (∃ values, m.call arguments = TypedParameter.Body.apply m.parameters m.body values) ∨
      ∃ p ∈ m.parameters, ∃ e, p.Refuses b e ∧ m.call arguments = .error (.argument e) := by
  obtain ⟨arguments', harranged, hgives, -⟩ | ⟨_, _, _, -, -, -, he⟩ :=
    arrange_cases m.operation.signature b
  · obtain rfl := Except.ok.inj (harranged.symm.trans h)
    have hread := TypedParameter.readFrom_of_gives [] hgives
    rw [List.nil_append, List.length_nil] at hread
    rw [call]
    obtain ⟨values, hvalues⟩ | ⟨p, hp, e, hrefuses, he⟩ := hread
    · exact .inl ⟨values, by rw [hvalues]⟩
    · exact .inr ⟨p, hp, e, hrefuses, by rw [he]⟩
  · cases he.symm.trans h

end UriRouter
