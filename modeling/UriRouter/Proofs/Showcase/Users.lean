import UriRouter.Proofs.Build.Atomicity
import UriRouter.Proofs.Serve.Dispatching
import UriRouter.Proofs.Showcase.UserPaths
import UriRouter.Proofs.Table.Separate
import UriRouter.Showcase.Controllers

/-!
# Serving the users' controller

The patterns of the users' controller let only numbers through where its operations read numbers.
What an operation can still refuse is a number that is out of range.

* `UserOperation` : the operations, with the routes that are registered for them;
* `apply_userController` : the table that the extension for operations makes;
* `dispatch_of_leads`, `dispatch_of_noLead` : what a request comes to;
* `ServesUsers`, `servesUsers` : numbers in paths, how ever long they are.
-/

set_option autoImplicit false

namespace UriRouter.Showcase

open UriRouter.Text UriRouter.Pattern

/-! ## The operations -/

/-- The operations of the users' controller. -/
inductive UserOperation where
  | index | shown | renamed | paged
  deriving DecidableEq

namespace UserOperation

/-- The name of the operation. -/
def member : UserOperation → String
  | index => "get_index"
  | shown => "get_show"
  | renamed => "post_rename"
  | paged => "get_page"

/-- The verb that it is registered under. -/
def verb : UserOperation → String
  | index | shown | paged => "get"
  | renamed => "post"

/-- The pattern that is derived for it. -/
def pattern : UserOperation → String
  | index => "/index"
  | shown => "/show/\x7bid:[0-9]+\x7d[/\x7bformat:\\w+\x7d]"
  | renamed => "/rename/\x7bid:[0-9]+\x7d[/\x7bname:\\w+\x7d]"
  | paged => pagePattern

/-- The parameters that it declares. -/
def signature : UserOperation → Signature
  | index => []
  | shown => [⟨"id", .required, some "[0-9]+"⟩, ⟨"format", .value "html", some "\\w+"⟩]
  | renamed => [⟨"id", .required, some "[0-9]+"⟩, ⟨"name", .absent, some "\\w+"⟩]
  | paged => [⟨"slug", .required, some "[a-z]+"⟩, ⟨"offset", .required, some "-?[0-9]+"⟩]

/-- The paths that lead to it, and what they bind. -/
def Leads : UserOperation → String → Bindings → Prop
  | index, path, bindings => path = "/index" ∧ bindings = []
  | shown, path, bindings => IsNumbered "/show/" "format" path bindings
  | renamed, path, bindings => IsNumbered "/rename/" "name" path bindings
  | paged, path, bindings => IsPage path bindings

/-- The registration that it calls for. -/
def registration (o : UserOperation) : Registration String :=
  ⟨o.verb, o.pattern, .member (.bound userController) o.member⟩

/-- The call that this comes to at the root. -/
def call (o : UserOperation) : RouteCall String :=
  ⟨o.verb, o.pattern, .member (.bound userController) o.member, uriStrategyTag⟩

/-- All of them, in the order of declaration. -/
def all : List UserOperation := [index, shown, renamed, paged]

theorem mem_all (o : UserOperation) : o ∈ all := by cases o <;> decide

theorem notMem_delimiters_index :
    ∀ c ∈ (Path.normalizePattern "/index").toList, c ∉ delimiters :=
  areWellFormed_literals.1 (by decide +kernel)

theorem spellsNumbered_shown : SpellsNumbered shown.pattern "/show/" "format" :=
  ⟨by decide +kernel, by decide +kernel, by decide +kernel, by decide +kernel⟩

theorem spellsNumbered_renamed : SpellsNumbered renamed.pattern "/rename/" "name" :=
  ⟨by decide +kernel, by decide +kernel, by decide +kernel, by decide +kernel⟩

/-- The second character of the paths that lead to an operation. -/
def letter : UserOperation → Char
  | index => 'i'
  | shown => 's'
  | renamed => 'r'
  | paged => 'p'

theorem letter_of_isNumbered {base name path : String} {bindings : Bindings} {c : Char}
    (h : IsNumbered base name path bindings) (hc : base.toList[1]? = some c) :
    path.toList[1]? = some c := by
  have happend : ∀ s : List Char, (base.toList ++ s)[1]? = some c := fun s => by
    rw [List.getElem?_append_left (List.getElem?_eq_some_iff.1 hc).1, hc]
  obtain ⟨id, -, ⟨rfl, -⟩ | ⟨value, -, rfl, -⟩⟩ := h
  · rw [String.toList_append, happend]
  · rw [String.toList_append, String.toList_append, String.toList_append, List.append_assoc,
      List.append_assoc, happend]

theorem letter_of_leads {o : UserOperation} {path : String} {bindings : Bindings}
    (h : o.Leads path bindings) : path.toList[1]? = some o.letter := by
  cases o with
  | index =>
    obtain ⟨rfl, -⟩ := h
    rfl
  | shown => exact letter_of_isNumbered h rfl
  | renamed => exact letter_of_isNumbered h rfl
  | paged =>
    obtain ⟨slug, offset, -, -, rfl, -⟩ := h
    simp only [String.toList_append]
    rfl

/-- No path leads to two operations. -/
theorem eq_of_leads {o o' : UserOperation} {path : String} {b b' : Bindings}
    (h : o.Leads path b) (h' : o'.Leads path b') : o = o' := by
  have hletter := (letter_of_leads h).symm.trans (letter_of_leads h')
  cases o <;> cases o' <;> first | rfl | exact absurd hletter (by decide)

end UserOperation

variable {o : UserOperation} {method path : String} {bindings : Bindings}

/-! ## What the operations answer -/

/-- What comes of a value that has to be read first. -/
def readingValue {α : Type} (read : String → Except ReadFault α) (parameter value : String)
    (answer : α → Except CallError String) : Except CallError String :=
  match read value with
  | .ok a => answer a
  | .error fault => .error (.argument (.invalid parameter value fault.reason))

theorem call_shown (id format : String) :
    userController.call "get_show" [("id", some id), ("format", some format)] =
      .ofExcept (readingValue (readNatural 32) "id" id fun n =>
        .ok ("user " ++ toString n ++ " as " ++ format)) := by
  have hread : TypedParameter.read { name := "id", type := .natural 32 }
      [("id", some id), ("format", some format)] 0 = Arguments.readValue (readNatural 32) "id" id := rfl
  show Reply.ofExcept (DeclaredMethod.call _ _) = _
  rw [DeclaredMethod.call, TypedParameter.readFrom, hread, Arguments.readValue, readingValue]
  cases readNatural 32 id <;> rfl

theorem call_renamed (id : String) (name : Option String) :
    userController.call "post_rename" [("id", some id), ("name", name)] =
      .ofExcept (readingValue (readNatural 32) "id" id fun n => renamed n name) := by
  have hread : TypedParameter.read { name := "id", type := .natural 32 }
      [("id", some id), ("name", name)] 0 = Arguments.readValue (readNatural 32) "id" id := rfl
  show Reply.ofExcept (DeclaredMethod.call _ _) = _
  rw [DeclaredMethod.call, TypedParameter.readFrom, hread, Arguments.readValue, readingValue]
  cases readNatural 32 id with
  | ok n => cases name <;> rfl
  | error fault => rfl

theorem call_paged (slug offset : String) :
    userController.call "get_page" [("slug", some slug), ("offset", some offset)] =
      .ofExcept (readingValue (readInteger 64) "offset" offset fun n =>
        .ok (slug ++ "@" ++ toString n)) := by
  have hslug : TypedParameter.read { name := "slug", type := .text, regex? := some "[a-z]+" }
      [("slug", some slug), ("offset", some offset)] 0 = .ok slug := rfl
  have hoffset : TypedParameter.read { name := "offset", type := .integer 64 }
      [("slug", some slug), ("offset", some offset)] 1 =
        Arguments.readValue (readInteger 64) "offset" offset := rfl
  show Reply.ofExcept (DeclaredMethod.call _ _) = _
  rw [DeclaredMethod.call, TypedParameter.readFrom, hslug, TypedParameter.readFrom, hoffset,
    Arguments.readValue, readingValue]
  cases readInteger 64 offset <;> rfl

theorem renamed_ne_argument (n : Nat) (name : Option String) (e : ArgumentError) :
    renamed n name ≠ .error (.argument e) := by
  cases name <;> nofun

/-- An argument is refused because it is a number out of range. -/
def IsOutOfRange (e : ArgumentError) : Prop :=
  ∃ parameter value fault, e = .invalid parameter value (ReadFault.reason fault) ∧
    (fault = .tooLarge ∨ fault = .tooSmall)

/-- A value that is read is refused by its reader only. -/
theorem isOutOfRange_of_readingValue {α : Type} {read : String → Except ReadFault α}
    {parameter value : String} {answer : α → Except CallError String} {e : ArgumentError}
    (h : ((Reply.ofExcept (readingValue read parameter value answer)).mapError
      DispatchError.ofCall).result = .error (.argument e))
    (hread : ∀ fault, read value = .error fault → fault = .tooLarge ∨ fault = .tooSmall)
    (hanswer : ∀ a, answer a ≠ .error (.argument e)) : IsOutOfRange e := by
  unfold readingValue at h
  split at h
  · rename_i a _
    cases ha : answer a with
    | ok s =>
      rw [ha] at h
      cases h
    | error failure =>
      rw [ha] at h
      cases failure <;> cases h
      exact absurd ha (hanswer a)
  · rename_i fault hf
    cases h
    exact ⟨parameter, value, fault, rfl, hread fault hf⟩

/-! ## Which paths lead somewhere -/

theorem normalize_of_append {base : String} {rest : List Char} (h : base.toList = '/' :: rest)
    (s : String) : Path.normalize (base ++ s) = base ++ s :=
  Path.normalize_of_toList (by rw [String.toList_append, h, List.cons_append])

/-- Nothing that begins like the paths of an operation leads to another operation. -/
theorem eq_of_leads_append {base rest : String} (o' : UserOperation)
    (hbase : base.toList[1]? = some o'.letter) (h : o.Leads (base ++ rest) bindings) : o = o' := by
  have hletter := UserOperation.letter_of_leads h
  rw [String.toList_append, List.getElem?_append_left (List.getElem?_eq_some_iff.1 hbase).1,
    hbase] at hletter
  cases o <;> cases o' <;> first | rfl | exact absurd hletter (by decide)

theorem leads_show {d : String} (hd : IsRunOf isAsciiDigit d.toList) :
    UserOperation.shown.Leads (Path.normalize ("/show/" ++ d)) [("id", d)] := by
  rw [normalize_of_append rfl]
  exact ⟨d, hd, .inl ⟨rfl, rfl⟩⟩

theorem leads_page {slug offset : String} (hslug : IsRunOf isSmallAsciiLetter slug.toList)
    (hoffset : IsSignedDigits offset.toList) :
    UserOperation.paged.Leads (Path.normalize ("/page/" ++ slug ++ "/" ++ offset))
      [("slug", slug), ("offset", offset)] := by
  rw [String.append_assoc, String.append_assoc, normalize_of_append rfl]
  exact ⟨slug, offset, hslug, hoffset, by simp only [String.append_assoc], rfl⟩

/-- After `/show/`, no segment but digits leads anywhere. -/
theorem isRunOf_of_leads {segment : String} (hs : '/' ∉ segment.toList)
    (h : o.Leads (Path.normalize ("/show/" ++ segment)) bindings) :
    IsRunOf isAsciiDigit segment.toList := by
  rw [normalize_of_append rfl] at h
  obtain rfl := eq_of_leads_append .shown rfl h
  obtain ⟨id, hid, ⟨hpath, -⟩ | ⟨value, -, hpath, -⟩⟩ := h
  · obtain rfl := (String.append_right_inj _).1 hpath
    exact hid
  · rw [String.append_assoc, String.append_assoc] at hpath
    obtain rfl := (String.append_right_inj _).1 hpath
    exact absurd (by simp) hs

/-- After `/page/`, nothing but small letters and an integer leads anywhere. -/
theorem isPage_of_leads {slug offset : String} (hs : '/' ∉ slug.toList)
    (h : o.Leads (Path.normalize ("/page/" ++ slug ++ "/" ++ offset)) bindings) :
    IsRunOf isSmallAsciiLetter slug.toList ∧ IsSignedDigits offset.toList := by
  rw [String.append_assoc, String.append_assoc, normalize_of_append rfl] at h
  obtain rfl := eq_of_leads_append .paged rfl h
  obtain ⟨slug', offset', hslug', hoffset', hpath, -⟩ := h
  rw [← String.append_assoc, ← String.append_assoc] at hpath
  obtain ⟨rfl, rfl⟩ := page_inj hs (notMem_slash hslug' rfl) hpath
  exact ⟨hslug', hoffset'⟩

/-! ## The table -/

variable [Regex.PropertyTable]

namespace UserOperation

theorem exists_compile_pattern (o : UserOperation) : ∃ p, compile o.pattern = .ok p := by
  cases o with
  | index => exact ⟨_, compile_literals notMem_delimiters_index⟩
  | shown => exact exists_compile_numbered spellsNumbered_shown
  | renamed => exact exists_compile_numbered spellsNumbered_renamed
  | paged => exact ⟨_, compile_pagePattern⟩

/-- The pattern of an operation matches the paths that lead to it. -/
theorem captures?_pattern {o : UserOperation} {p : Pattern} (h : compile o.pattern = .ok p)
    {path : String} {bindings : Bindings} :
    p.captures? path = some bindings ↔ o.Leads path bindings := by
  cases o with
  | index =>
    obtain rfl := Except.ok.inj (h.symm.trans (compile_literals notMem_delimiters_index))
    show (if Path.normalizePattern "/index" = path then some [] else none) = some bindings ↔ _
    have hnormal : Path.normalizePattern "/index" = "/index" := by decide +kernel
    rw [hnormal, Option.ite_none_right_eq_some, Option.some.injEq]
    exact and_congr eq_comm eq_comm
  | shown => exact captures?_numbered spellsNumbered_shown h
  | renamed => exact captures?_numbered spellsNumbered_renamed h
  | paged => exact captures?_page h

end UserOperation

/-- The calls that are made for the users' controller. -/
def userLog : List (RouteCall String) := UserOperation.all.map (·.call)

/-- What the extension for operations makes of the users' controller. -/
theorem apply_userController :
    (Builder.standard : Builder String).apply operationsExtensionName (.bound userController) {} =
      .done { Builder.standard with table := .ofLog userLog } := by
  have hcalls : userController.operations.filterMap
      ((Builder.standard : Builder String).operationCall? (.bound userController) {}) =
        (UserOperation.all.map (·.registration)).map .ok := rfl
  have hroot : ∀ pattern, (Builder.standard : Builder String).scope.apply pattern = pattern :=
    Scope.apply_of_eq rfl
  have hcompile : ∀ r ∈ UserOperation.all.map (·.registration), ∃ p,
      compile ((Builder.standard : Builder String).scope.apply r.pattern) = .ok p := by
    refine List.forall_mem_map.2 fun o _ => ?_
    rw [hroot]
    exact o.exists_compile_pattern
  have hlog : (UserOperation.all.map (·.registration)).map
      (Builder.callUnder (Builder.standard : Builder String).scope) = userLog := by
    rw [List.map_map]
    refine List.map_congr_left fun o _ => ?_
    rw [Function.comp_apply, Builder.callUnder, hroot]
    rfl
  have hset := Builder.setAll_of_compile (b := (Builder.standard : Builder String)) rfl hcompile
  rw [hlog] at hset
  exact (Builder.apply_operations_eq_done_iff Builder.isFresh_standard.extension rfl {}).2
    ⟨_, hcalls, hset⟩

/-- The router for the users' controller. -/
def userRouter : Router String :=
  ((Builder.standard : Builder String).apply operationsExtensionName
    (.bound userController) {}).state.toRouter

theorem userRouter_eq : userRouter =
    .new (.ofLog userLog) (Builder.standard : Builder String).strategies
      (Builder.standard : Builder String).targets := by
  simp only [userRouter, apply_userController, Progress.done, Builder.toRouter]

namespace UserOperation

/-- The route of an operation is found by the paths that lead to the operation. -/
theorem matchOf?_call {o : UserOperation} {path : String} {found : RouteMatch String} :
    o.call.matchOf? path = some found ↔
      o.call.route? = some found.route ∧ o.Leads (Path.normalize path) found.bindings := by
  rw [RouteCall.matchOf?_eq_some]
  exact and_congr_right fun hr => captures?_pattern (RouteTable.route?_eq_some hr).2

theorem exists_matchOf?_call {o : UserOperation} {path : String} {bindings : Bindings}
    (h : o.Leads (Path.normalize path) bindings) : ∃ route,
      o.call.matchOf? path = some ⟨route, bindings⟩ ∧
        route.action = .member (.bound userController) o.member ∧
          route.strategy = uriStrategyTag := by
  obtain ⟨p, hp⟩ := o.exists_compile_pattern
  have hpattern : compile o.call.pattern = .ok p := hp
  have hroute : o.call.route? = some ⟨Method.normalize o.verb, p,
      .member (.bound userController) o.member, uriStrategyTag⟩ := by
    rw [RouteCall.route?, hpattern]
    rfl
  exact ⟨_, matchOf?_call.2 ⟨hroute, h⟩, rfl, rfl⟩

end UserOperation

theorem isSeparate_userLog : RouteTable.IsSeparate userLog := by
  intro r hr r' hr' path hmatch hmatch'
  obtain ⟨o, -, rfl⟩ := List.mem_map.1 hr
  obtain ⟨o', -, rfl⟩ := List.mem_map.1 hr'
  obtain ⟨found, hfound⟩ := Option.isSome_iff_exists.1 hmatch
  obtain ⟨found', hfound'⟩ := Option.isSome_iff_exists.1 hmatch'
  rw [UserOperation.eq_of_leads (UserOperation.matchOf?_call.1 hfound).2
    (UserOperation.matchOf?_call.1 hfound').2]

/-! ## Requests -/

/-- A path that leads to an operation calls it with what it binds. -/
theorem dispatch_of_leads (h : o.Leads (Path.normalize path) bindings)
    (hm : Method.normalize method = o.verb) {arguments : Arguments}
    (ha : arrange o.signature bindings = .ok arguments) :
    userRouter.dispatch method path =
      (userController.call o.member arguments).mapError .ofCall := by
  obtain ⟨route, hmatch, haction, hstrategy⟩ := UserOperation.exists_matchOf?_call h
  have hfor : o.call.isFor method = true := by
    rw [RouteCall.isFor, hm, beq_iff_eq]
    cases o <;> rfl
  have hresolve : userRouter.resolve method path = .ok ⟨route, bindings⟩ := by
    rw [userRouter_eq]
    exact Router.resolve_of_isSeparate isSeparate_userLog (List.mem_map_of_mem o.mem_all) hfor
      hmatch
  have huri : userRouter.strategies.get? route.strategy = some (.withArguments .ok) := by
    rw [userRouter_eq, hstrategy]
    exact Builder.isFresh_standard.strategy
  have hcallee : (⟨route.action, bindings, userRouter.targets⟩ : Invocation String).resolve =
      .ok ⟨userController.name ++ "#" ++ o.member, o.signature, userController.call o.member⟩ := by
    have hoperation : userController.operation? o.member = some ⟨o.member, o.signature⟩ := by
      cases o <;> decide +kernel
    rw [haction]
    simp only [Invocation.resolve, Resolved.ofMember, hoperation]
  rw [Router.dispatch_of_resolve_eq_ok hresolve huri hcallee, ha]

/-- A path that leads to no operation is not found, by whatever method. -/
theorem dispatch_of_noLead (h : ∀ o : UserOperation, ∀ b, ¬ o.Leads (Path.normalize path) b) :
    userRouter.dispatch method path = .fail (.notFound (Method.normalize method) path) := by
  have hnone : ∀ r ∈ userLog, r.matchOf? path = none := by
    refine List.forall_mem_map.2 fun o _ => Option.eq_none_iff_forall_ne_some.2 fun found hf => ?_
    exact h o found.bindings (UserOperation.matchOf?_call.1 hf).2
  rw [Router.dispatch, userRouter_eq, Router.resolve_of_noMatch hnone]

/-- A request that is resolved leads to one of the operations. -/
theorem exists_leads_of_resolve {found : RouteMatch String}
    (h : userRouter.resolve method path = .ok found) :
    ∃ o : UserOperation, Method.normalize method = o.verb ∧
      o.Leads (Path.normalize path) found.bindings := by
  rw [userRouter_eq] at h
  obtain ⟨r, hr, hm, hmatch⟩ := Router.exists_call_of_resolve h
  obtain ⟨o, -, rfl⟩ := List.mem_map.1 hr
  refine ⟨o, ?_, (UserOperation.matchOf?_call.1 hmatch).2⟩
  rw [RouteCall.isFor, beq_iff_eq] at hm
  rw [← hm]
  cases o <;> rfl

/-! ## What its paths come to -/

theorem dispatch_shown (id format : String)
    (h : UserOperation.shown.Leads (Path.normalize path) bindings)
    (hm : Method.normalize method = "get")
    (ha : arrange UserOperation.shown.signature bindings =
      .ok [("id", some id), ("format", some format)]) :
    userRouter.dispatch method path =
      (Reply.ofExcept (readingValue (readNatural 32) "id" id fun n =>
        .ok ("user " ++ toString n ++ " as " ++ format))).mapError .ofCall := by
  rw [dispatch_of_leads h hm ha, UserOperation.member, call_shown]

theorem dispatch_renamed (id : String) (name : Option String)
    (h : UserOperation.renamed.Leads (Path.normalize path) bindings)
    (hm : Method.normalize method = "post")
    (ha : arrange UserOperation.renamed.signature bindings =
      .ok [("id", some id), ("name", name)]) :
    userRouter.dispatch method path =
      (Reply.ofExcept (readingValue (readNatural 32) "id" id fun n => renamed n name)).mapError
        .ofCall := by
  rw [dispatch_of_leads h hm ha, UserOperation.member, call_renamed]

theorem dispatch_paged (slug offset : String)
    (h : UserOperation.paged.Leads (Path.normalize path) [("slug", slug), ("offset", offset)])
    (hm : Method.normalize method = "get") :
    userRouter.dispatch method path =
      (Reply.ofExcept (readingValue (readInteger 64) "offset" offset fun n =>
        .ok (slug ++ "@" ++ toString n))).mapError .ofCall := by
  have harrange : arrange UserOperation.paged.signature [("slug", slug), ("offset", offset)] =
      .ok [("slug", some slug), ("offset", some offset)] := rfl
  rw [dispatch_of_leads h hm harrange, UserOperation.member, call_paged]

/-- Arguments of an operation that a path leads to are only refused if they are out of range. -/
theorem isOutOfRange_of_leads (h : o.Leads (Path.normalize path) bindings)
    (hm : Method.normalize method = o.verb) {e : ArgumentError}
    (he : (userRouter.dispatch method path).result = .error (.argument e)) : IsOutOfRange e := by
  have hnatural : ∀ {id : String}, IsRunOf isAsciiDigit id.toList → ∀ fault,
      readNatural 32 id = .error fault → fault = .tooLarge ∨ fault = .tooSmall :=
    fun hid _ hf => .inl (eq_tooLarge_of_digits hid hf)
  cases o with
  | index =>
    obtain ⟨-, rfl⟩ := id h
    have hcall : userController.call "get_index" [] = .ofExcept (.ok "all users") := rfl
    rw [dispatch_of_leads h hm rfl, UserOperation.member, hcall] at he
    cases he
  | shown =>
    obtain ⟨d, hd, ⟨-, rfl⟩ | ⟨format, -, -, rfl⟩⟩ := id h
    · rw [dispatch_shown d "html" h hm rfl] at he
      exact isOutOfRange_of_readingValue he (hnatural hd) fun _ => nofun
    · rw [dispatch_shown d format h hm rfl] at he
      exact isOutOfRange_of_readingValue he (hnatural hd) fun _ => nofun
  | renamed =>
    obtain ⟨d, hd, ⟨-, rfl⟩ | ⟨name, -, -, rfl⟩⟩ := id h
    · rw [dispatch_renamed d none h hm rfl] at he
      exact isOutOfRange_of_readingValue he (hnatural hd) (renamed_ne_argument · _ e)
    · rw [dispatch_renamed d name h hm rfl] at he
      exact isOutOfRange_of_readingValue he (hnatural hd) (renamed_ne_argument · _ e)
  | paged =>
    obtain ⟨slug, offset, -, hoffset, -, rfl⟩ := id h
    rw [dispatch_paged slug offset h hm] at he
    exact isOutOfRange_of_readingValue he
      (fun _ hf => eq_tooLarge_or_tooSmall_of_signedDigits hoffset hf) fun _ => nofun

/-- By whatever method and path, an argument is only refused if it is out of range. -/
theorem isOutOfRange_of_dispatch {e : ArgumentError}
    (he : (userRouter.dispatch method path).result = .error (.argument e)) : IsOutOfRange e := by
  cases hr : userRouter.resolve method path with
  | error failure =>
    rw [Router.dispatch, hr] at he
    obtain ⟨_, _, rfl⟩ | ⟨_, _, _, rfl⟩ := Router.resolve_error_cases hr <;> cases he
  | ok found =>
    obtain ⟨o, hm, hleads⟩ := exists_leads_of_resolve hr
    exact isOutOfRange_of_leads hleads hm he

/-! ## Numbers in paths -/

/-- What requests with numbers come to, how ever long the numbers are and however many zeros they
begin with. -/
structure ServesUsers (r : Router String) : Prop where
  /-- A user is shown if the number has no more than 32 bits. -/
  shown : ∀ d : String, IsRunOf isAsciiDigit d.toList →
    r.dispatch "GET" ("/show/" ++ d) =
      if Nat.ofDigitChars 10 d.toList 0 < 2 ^ 32 then
        .ofExcept (.ok ("user " ++ toString (Nat.ofDigitChars 10 d.toList 0) ++ " as html"))
      else .fail (.argument (.invalid "id" d ReadFault.tooLarge.reason))
  /-- A page is shown if the offset has no more than 64 bits, one of them the sign. -/
  paged : ∀ slug offset : String, IsRunOf isSmallAsciiLetter slug.toList →
    IsSignedDigits offset.toList →
    r.dispatch "GET" ("/page/" ++ slug ++ "/" ++ offset) =
      if signedValue offset.toList < -2 ^ 63 then
        .fail (.argument (.invalid "offset" offset ReadFault.tooSmall.reason))
      else if signedValue offset.toList < 2 ^ 63 then
        .ofExcept (.ok (slug ++ "@" ++ toString (signedValue offset.toList)))
      else .fail (.argument (.invalid "offset" offset ReadFault.tooLarge.reason))
  /-- Nothing but digits leads to a user. -/
  notShown : ∀ segment : String, '/' ∉ segment.toList → ¬ IsRunOf isAsciiDigit segment.toList →
    r.dispatch "GET" ("/show/" ++ segment) = .fail (.notFound "get" ("/show/" ++ segment))
  /-- Nothing but small letters and an integer leads to a page. -/
  notPaged : ∀ slug offset : String, '/' ∉ slug.toList →
    ¬ (IsRunOf isSmallAsciiLetter slug.toList ∧ IsSignedDigits offset.toList) →
    r.dispatch "GET" ("/page/" ++ slug ++ "/" ++ offset) =
      .fail (.notFound "get" ("/page/" ++ slug ++ "/" ++ offset))
  /-- By whatever method and path, an argument is only refused if it is out of range. -/
  faults : ∀ method path e, (r.dispatch method path).result = .error (.argument e) →
    IsOutOfRange e

/-- **Numbers in paths**: the users' controller is registered, a number is only refused where it is
out of range, and what is not a number is not found. -/
theorem servesUsers :
    ((Builder.standard : Builder String).apply operationsExtensionName
      (.bound userController) {}).failure = none ∧ ServesUsers userRouter := by
  have hget : Method.normalize "GET" = "get" := by decide +kernel
  refine ⟨by rw [apply_userController]; exact rfl, ?_⟩
  constructor
  case shown =>
    intro d hd
    rw [dispatch_shown d "html" (leads_show hd) hget rfl, readingValue,
      readNatural_of_digits 32 hd]
    by_cases hlt : Nat.ofDigitChars 10 d.toList 0 < 2 ^ 32
    · simp only [if_pos hlt]
      rw [String.append_assoc]
      rfl
    · simp only [if_neg hlt]
      rfl
  case paged =>
    intro slug offset hslug hoffset
    rw [dispatch_paged slug offset (leads_page hslug hoffset) hget, readingValue,
      readInteger_of_signedDigits 64 hoffset]
    by_cases hlow : signedValue offset.toList < -2 ^ 63
    · simp only [if_pos hlow]
      rfl
    · simp only [if_neg hlow]
      by_cases hhigh : signedValue offset.toList < 2 ^ 63
      · simp only [if_pos hhigh]
        rfl
      · simp only [if_neg hhigh]
        rfl
  case notShown =>
    intro segment hsegment hdigits
    rw [← hget]
    exact dispatch_of_noLead fun o b h => hdigits (isRunOf_of_leads hsegment h)
  case notPaged =>
    intro slug offset hslug hshape
    rw [← hget]
    exact dispatch_of_noLead fun o b h => hshape (isPage_of_leads hslug h)
  case faults => exact fun method path e he => isOutOfRange_of_dispatch he

end UriRouter.Showcase
