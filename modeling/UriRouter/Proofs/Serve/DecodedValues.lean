import UriRouter.Proofs.Pattern.PlaceholderRow
import UriRouter.Proofs.Serve.Arranging
import UriRouter.Proofs.Serve.Dispatching
import UriRouter.Proofs.Text.Percent
import UriRouter.Record

/-!
# Values that are decoded

The strategy that decodes gives a handler the values that a path has been made of: each is encoded
before it is put into the path, is captured as it stands there, and is decoded before the call. The
order in which the handler takes them need not be that of the path.

* `arrange_of_bound`, `Arguments.tryMap_of_forall` : arguments that are all there;
* `exists_arrange_of_encodes` : encoded values, arranged and decoded;
* `Router.dispatch_decoded` : the call that a request with encoded values comes to.
-/

set_option autoImplicit false

namespace UriRouter

open UriRouter.Pattern UriRouter.Text

variable {ρ : Type}

/-! ## Arguments that are all there -/

theorem arrange_of_bound {sig : Signature} {b : Bindings}
    (h : ∀ p ∈ sig, ∃ v, b.get? p.name = some v) :
    arrange sig b = .ok (sig.map fun p => (p.name, b.get? p.name)) := by
  induction sig with
  | nil => rfl
  | cons p rest ih =>
    obtain ⟨v, hv⟩ := h p List.mem_cons_self
    have hp : argumentFor b p = .ok (p.name, b.get? p.name) := by
      rw [argumentFor, hv]
    rw [arrange, hp, ih fun q hq => h q (List.mem_cons_of_mem _ hq)]
    rfl

theorem Arguments.tryMap_of_forall {f : String → String → Except ArgumentError String}
    {g g' : Parameter → Option String} {sig : Signature}
    (h : ∀ p ∈ sig, ∃ v w, g p = some v ∧ f p.name v = .ok w ∧ g' p = some w) :
    tryMap f (sig.map fun p => (p.name, g p)) = .ok (sig.map fun p => (p.name, g' p)) := by
  induction sig with
  | nil => rfl
  | cons p rest ih =>
    obtain ⟨v, w, hv, hf, hw⟩ := h p List.mem_cons_self
    have hrest := ih fun q hq => h q (List.mem_cons_of_mem _ hq)
    rw [List.map_cons, List.map_cons, hv, hw, tryMap, hf, hrest]
    rfl

theorem Signature.exists_position {sig : Signature} {name : String}
    (h : name ∈ sig.map (·.name)) :
    ∃ place, sig.position? name = some place ∧ ∃ p, sig[place]? = some p ∧ p.name = name := by
  cases hplace : sig.position? name with
  | none =>
    obtain ⟨p, hp, rfl⟩ := List.mem_map.1 h
    have hnot := List.findIdx?_eq_none_iff.1 hplace p hp
    rw [beq_self_eq_true] at hnot
    cases hnot
  | some place =>
    obtain ⟨hlt, hname, -⟩ := List.findIdx?_eq_some_iff_getElem.1 hplace
    exact ⟨place, rfl, sig[place], List.getElem?_eq_getElem hlt, beq_iff_eq.1 hname⟩

/-! ## Encoded values -/

section Encoded

variable {fields : Bindings} {texts : List String}

theorem isPiece_of_encodes (h : List.Forall₂ (fun f t => Percent.Encodes f.2 t) fields texts)
    (hne : ∀ f ∈ fields, f.2 ≠ "") : ∀ t ∈ texts, t ≠ "" ∧ '/' ∉ t.toList := by
  induction h with
  | nil => exact nofun
  | cons hft _ ih =>
    obtain ⟨hf, hrest⟩ := List.forall_mem_cons.1 hne
    exact List.forall_mem_cons.2 ⟨hft.isPiece hf, ih hrest⟩

/-- A name stands for a value in one list, and for an encoding of it in the other. -/
theorem exists_encoded (h : List.Forall₂ (fun f t => Percent.Encodes f.2 t) fields texts)
    {name : String} (hname : name ∈ fields.map (·.1)) :
    ∃ t v, Bindings.get? ((fields.map (·.1)).zip texts) name = some t ∧
      fields.get? name = some v ∧ Percent.Encodes v t := by
  induction h with
  | nil => cases hname
  | @cons f t fields texts hft _ ih =>
    by_cases hf : f.1 = name
    · subst hf
      exact ⟨t, f.2, Bindings.get?_cons_self _ _ _, Bindings.get?_cons_self _ _ _, hft⟩
    · have hrest : name ∈ fields.map (·.1) := by
        rcases List.mem_cons.1 hname with he | hrest
        · exact absurd he.symm hf
        · exact hrest
      obtain ⟨t', v, ht', hv, henc⟩ := ih hrest
      exact ⟨t', v, (Bindings.get?_cons_of_ne hf _ _).trans ht',
        (Bindings.get?_cons_of_ne hf _ _).trans hv, henc⟩

/-- **Encoded values are decoded to what they were**, once they are arranged for a signature. -/
theorem exists_arrange_of_encodes {sig : Signature}
    (h : List.Forall₂ (fun f t => Percent.Encodes f.2 t) fields texts)
    (hsig : ∀ p ∈ sig, p.name ∈ fields.map (·.1)) :
    ∃ bound, arrange sig ((fields.map (·.1)).zip texts) = .ok bound ∧
      Arguments.tryMap decodeValue bound = .ok (sig.map fun p => (p.name, fields.get? p.name)) := by
  have hbound : ∀ p ∈ sig, ∃ t, Bindings.get? ((fields.map (·.1)).zip texts) p.name = some t := by
    intro p hp
    obtain ⟨t, -, ht, -⟩ := exists_encoded h (hsig p hp)
    exact ⟨t, ht⟩
  refine ⟨_, arrange_of_bound hbound, Arguments.tryMap_of_forall fun p hp => ?_⟩
  obtain ⟨t, v, ht, hv, henc⟩ := exists_encoded h (hsig p hp)
  refine ⟨t, v, ht, ?_, hv⟩
  rw [decodeValue, Percent.decode_of_encodes henc]

end Encoded

namespace Router

theorem resolve_of_normalize_eq {r : Router ρ} {method method' : String}
    (h : Method.normalize method' = Method.normalize method) (path : String) :
    r.resolve method' path = r.resolve method path := by
  unfold resolve
  rw [h]

section

variable [Regex.PropertyTable]

/-- A router whose only route is literal text and a row of placeholders resolves the paths that
consist of the text and of a piece for each placeholder. -/
theorem exists_resolve_row {method method' base : String} {names values : List String}
    (action : Action ρ) (strategy : String) (strategies : Strategies ρ) (targets : Targets ρ)
    (hmethod : Method.normalize method' = Method.normalize method)
    (hslash : base.toList.head? = some '/') (hbase : ∀ c ∈ base.toList, c ∉ delimiters)
    (hvalid : ∀ name ∈ names, isValidName name.toList = true) (hn : names.Nodup)
    (hlen : values.length = names.length) (hv : ∀ v ∈ values, v ≠ "" ∧ '/' ∉ v.toList) :
    ∃ p, (new (.ofLog [⟨method, base ++ rowText names, action, strategy⟩]) strategies
        targets).resolve method' (base ++ "/".intercalate values) =
      .ok ⟨⟨Method.normalize method, p, action, strategy⟩, names.zip values⟩ := by
  obtain ⟨p, hp, hcaptures⟩ := exists_compile_row hslash hbase hvalid hn
  have hhead : (base ++ "/".intercalate values).toList.head? = some '/' := by
    rw [String.toList_append, List.head?_append, hslash]
    rfl
  refine ⟨p, ?_⟩
  rw [resolve_of_normalize_eq hmethod, resolve_ofLog_singleton hp, Path.normalize_of_head? hhead,
    hcaptures values hlen hv]

/-- **Encoded values arrive as they were.** A request is made of literal text and of encodings of
some values, with `/` between them, and the only route is that of the literal text and a placeholder
for each. If the route decodes, and if its handler takes just these values, in whatever order, then
the handler is called, and each value is there in the place of its name. -/
theorem dispatch_decoded {method method' base : String} {fields : Bindings} {texts : List String}
    {h : Handler ρ} {strategies : Strategies ρ} (targets : Targets ρ)
    (hmethod : Method.normalize method' = Method.normalize method)
    (hslash : base.toList.head? = some '/') (hbase : ∀ c ∈ base.toList, c ∉ delimiters)
    (hvalid : ∀ f ∈ fields, isValidName f.1.toList = true) (hn : (fields.map (·.1)).Nodup)
    (hsig : (h.signature.map (·.name)).Perm (fields.map (·.1))) (hne : ∀ f ∈ fields, f.2 ≠ "")
    (htexts : List.Forall₂ (fun f t => Percent.Encodes f.2 t) fields texts)
    (hs : strategies.get? decodeStrategyTag = some .decode) :
    ∃ arguments : Arguments,
      (new (.ofLog [⟨method, base ++ rowText (fields.map (·.1)), .handler h, decodeStrategyTag⟩])
        strategies targets).dispatch method' (base ++ "/".intercalate texts) =
          (h.call arguments).mapError .ofCall ∧
      arguments.map (·.1) = h.signature.map (·.name) ∧
      ∀ f ∈ fields, ∃ place, h.signature.position? f.1 = some place ∧
        arguments[place]? = some (f.1, some f.2) := by
  have hnames : ∀ name ∈ fields.map (·.1), isValidName name.toList = true := by
    intro name hname
    obtain ⟨f, hf, rfl⟩ := List.mem_map.1 hname
    exact hvalid f hf
  have hlen : texts.length = (fields.map (·.1)).length := by
    rw [List.length_map, htexts.length_eq]
  obtain ⟨p, hfound⟩ := exists_resolve_row (.handler h) decodeStrategyTag strategies targets hmethod
    hslash hbase hnames hn hlen (isPiece_of_encodes htexts hne)
  -- the names of the parameters are those of the values, whatever their order
  obtain ⟨bound, hbound, hdecoded⟩ := exists_arrange_of_encodes htexts
    fun (q : Parameter) (hq : q ∈ h.signature) => hsig.mem_iff.1 (List.mem_map_of_mem hq)
  have hcallee : (⟨.handler h, (fields.map (·.1)).zip texts, targets⟩ : Invocation ρ).resolve =
      .ok (.ofHandler h) := rfl
  refine ⟨h.signature.map fun q => (q.name, fields.get? q.name), ?_, ?_, fun f hf => ?_⟩
  · rw [dispatch_of_resolve_eq_ok (f := Arguments.tryMap decodeValue) hfound hs hcallee]
    simp only [Resolved.ofHandler, hbound, hdecoded]
  · rw [List.map_map]
    rfl
  · obtain ⟨place, hplace, q, hq, hname⟩ :=
      Signature.exists_position (hsig.mem_iff.2 (List.mem_map_of_mem hf))
    refine ⟨place, hplace, ?_⟩
    rw [List.getElem?_map, hq, Option.map_some, hname, Bindings.get?_of_mem hn hf]

end

/-- Values with signs that mean something in a path or in a pattern, and others that are not
ASCII. -/
def searchFields : Bindings := [("q", "50% a/b"), ("tag", "[é]\x7b日\x7d"), ("page", "~2")]

/-- A handler that takes them in another order. -/
def searchHandler : Handler String :=
  recordingHandler "search" [⟨"page", .value "1", none⟩, ⟨"q", .required, none⟩,
    ⟨"tag", .absent, none⟩]

/-- A router whose only route is for them. -/
def searchRouter : Router String :=
  new (.ofLog [⟨"get", "/search/" ++ rowText (searchFields.map (·.1)), .handler searchHandler,
    decodeStrategyTag⟩]) (.ofList [(decodeStrategyTag, .decode)]) {}

/-- A path with encodings of them. -/
def searchPath : String := "/search/50%25%20a%2Fb/%5B%C3%A9%5D%7B%E6%97%A5%7D/~2"

theorem dispatch_search :
    Method.normalize "GET" = Method.normalize "get" ∧
    "/search/".toList.head? = some '/' ∧ (∀ c ∈ "/search/".toList, c ∉ delimiters) ∧
    (∀ f ∈ searchFields, isValidName f.1.toList = true) ∧ (searchFields.map (·.1)).Nodup ∧
    (searchHandler.signature.map (·.name)).Perm (searchFields.map (·.1)) ∧
    (∀ f ∈ searchFields, f.2 ≠ "") ∧
    List.Forall₂ (fun f t => Percent.Encodes f.2 t) searchFields
      (searchFields.map fun f => Percent.encode f.2) ∧
    "/search/" ++ "/".intercalate (searchFields.map fun f => Percent.encode f.2) = searchPath ∧
    (∃ arguments : Arguments,
      searchRouter.dispatch "GET" searchPath = (searchHandler.call arguments).mapError .ofCall ∧
      arguments.map (·.1) = searchHandler.signature.map (·.name) ∧
      ∀ f ∈ searchFields, ∃ place, searchHandler.signature.position? f.1 = some place ∧
        arguments[place]? = some (f.1, some f.2)) ∧
    (searchRouter.dispatch "GET" searchPath).journal =
      [⟨.handler "search", none, [("page", some "~2"), ("q", some "50% a/b"),
        ("tag", some "[é]\x7b日\x7d")]⟩] := by
  have hmethod : Method.normalize "GET" = Method.normalize "get" := by decide +kernel
  have hslash : "/search/".toList.head? = some '/' := by decide +kernel
  have hbase : ∀ c ∈ "/search/".toList, c ∉ delimiters := by simp [delimiters]
  have hvalid : ∀ f ∈ searchFields, isValidName f.1.toList = true := by decide +kernel
  have hn : (searchFields.map (·.1)).Nodup := by decide +kernel
  have hsig : (searchHandler.signature.map (·.name)).Perm (searchFields.map (·.1)) := by decide +kernel
  have hne : ∀ f ∈ searchFields, f.2 ≠ "" := by decide +kernel
  have htexts : List.Forall₂ (fun f t => Percent.Encodes f.2 t) searchFields
      (searchFields.map fun f => Percent.encode f.2) :=
    List.forall₂_map_right_iff.2 (List.forall₂_same.2 fun f _ => Percent.encodes_encode f.2)
  have hpath : "/search/" ++ "/".intercalate (searchFields.map fun f => Percent.encode f.2) =
      searchPath := by decide +kernel
  have hdecode : (.ofList [(decodeStrategyTag, .decode)] : Strategies String).get?
      decodeStrategyTag = some .decode := rfl
  have hcall := dispatch_decoded {} hmethod hslash hbase hvalid hn hsig hne htexts hdecode
  rw [hpath] at hcall
  exact ⟨hmethod, hslash, hbase, hvalid, hn, hsig, hne, htexts, hpath, hcall, by decide +kernel⟩

end Router

end UriRouter
