import UriRouter.Proofs.Serve.Dispatching
import UriRouter.Proofs.Serve.SignatureOrder
import UriRouter.Record

/-!
# Records of calls

A callee that keeps a record enters each of its calls there, and nothing else makes an entry. So the
records tell which requests were answered: each of those has left one entry, with its callee, and
the others have left none.

* `KeepsRecord`, `Records` : actions whose callees keep a record, and which callee that is;
* `Router.serve` : a sequence of requests, with the journal before and after each;
* `Router.dispatch_of_keepsRecords` : what one request can come to;
* `Router.accounted_serve` : what a sequence of them leaves in the records.
-/

set_option autoImplicit false

namespace UriRouter

/-! ## Callees that keep a record -/

/-- A callee that keeps a record. -/
structure Recorder where
  key : RecordKey
  /-- The operation, where the callee has several. -/
  member : Option String
  /-- What a call is called in its short form. -/
  label : String
  signature : Signature

namespace Recorder

/-- What a call enters in the record. -/
def entry (k : Recorder) (arguments : Arguments) : JournalEntry := ⟨k.key, k.member, arguments⟩

/-- The answer to a call. -/
def reply (k : Recorder) (arguments : Arguments) : Reply CallError String :=
  ⟨.ok (arguments.render k.label), [k.entry arguments]⟩

end Recorder

/-- A handler that answers with its tag and its arguments, and whose record is its own even where
other handlers have the same tag. -/
def keyedHandler (key : RecordKey) (tag : String) (signature : Signature) : Handler String :=
  ⟨signature, (Recorder.mk key none tag signature).reply⟩

theorem recordingHandler_eq (tag : String) (signature : Signature) :
    recordingHandler tag signature = keyedHandler (.handler tag) tag signature := rfl

/-- The callee of an action keeps a record, if it is known at all. A name stands for what is
registered under it when the request is served, and for nothing if that is nothing. -/
inductive KeepsRecord (targets : Targets String) : Action String → Prop
  | handler (key : RecordKey) (tag : String) (signature : Signature) :
    KeepsRecord targets (.handler (keyedHandler key tag signature))
  | bound (id name : String) (operations : List Operation) (member : String) :
    KeepsRecord targets (.member (.bound (echoController id name operations)) member)
  | named (target member : String)
    (h : ∀ c, targets.get? target = some c →
      ∃ id name operations, c = echoController id name operations) :
    KeepsRecord targets (.member (.named target) member)

/-- The callee of an action. -/
inductive Records (targets : Targets String) : Action String → Recorder → Prop
  | handler (key : RecordKey) (tag : String) (signature : Signature) :
    Records targets (.handler (keyedHandler key tag signature)) ⟨key, none, tag, signature⟩
  | bound {id name : String} {operations : List Operation} {member : String} {op : Operation}
    (hop : (echoController id name operations).operation? member = some op) :
    Records targets (.member (.bound (echoController id name operations)) member)
      ⟨.controller id, some member, member, op.signature⟩
  | named {target id name : String} {operations : List Operation} {member : String}
    {op : Operation} (ht : targets.get? target = some (echoController id name operations))
    (hop : (echoController id name operations).operation? member = some op) :
    Records targets (.member (.named target) member)
      ⟨.controller id, some member, member, op.signature⟩

theorem call_echoController {id name : String} {operations : List Operation} {member : String}
    {op : Operation} (h : (echoController id name operations).operation? member = some op) :
    (echoController id name operations).call member =
      (Recorder.mk (.controller id) (some member) member op.signature).reply := by
  have hfind : operations.find? (·.name == member) = some op := h
  have hname := List.find?_some hfind
  have hany : operations.any (·.name == member) = true :=
    List.any_eq_true.2 ⟨op, List.mem_of_find?_eq_some hfind, hname⟩
  funext arguments
  exact if_pos hany

/-- A callee that is found keeps a record, and its own signature is the one that counts. -/
theorem Invocation.records_of_resolve {i : Invocation String} {callee : Resolved String}
    (h : KeepsRecord i.targets i.action) (hr : i.resolve = .ok callee) :
    ∃ k, Records i.targets i.action k ∧ callee.signature = k.signature ∧ callee.call = k.reply := by
  obtain ⟨action, bindings, targets⟩ := i
  have hmember : ∀ {id name operations member},
      Resolved.ofMember (echoController id name operations) member = .ok callee →
      ∃ op, (echoController id name operations).operation? member = some op ∧
        callee.signature = op.signature ∧
        callee.call = (Recorder.mk (.controller id) (some member) member op.signature).reply := by
    intro id name operations member hm
    unfold Resolved.ofMember at hm
    split at hm
    · rename_i op hop
      cases hm
      exact ⟨op, hop, rfl, call_echoController hop⟩
    · cases hm
  cases h with
  | handler key tag signature =>
    cases hr
    exact ⟨_, .handler key tag signature, rfl, rfl⟩
  | bound id name operations member =>
    obtain ⟨op, hop, hsig, hcall⟩ := hmember hr
    exact ⟨_, .bound hop, hsig, hcall⟩
  | named target member h =>
    cases hg : targets.get? target with
    | none =>
      simp only [resolve, Targets.instantiate, hg] at hr
      cases hr
    | some c =>
      obtain ⟨id, name, operations, rfl⟩ := h c hg
      simp only [resolve, Targets.instantiate, hg] at hr
      obtain ⟨op, hop, hsig, hcall⟩ := hmember hr
      exact ⟨_, .named hg hop, hsig, hcall⟩

/-! ## Strategies that only change values -/

/-- A strategy that does nothing but call the callee, with the values as they are or changed one by
one. -/
inductive Strategy.ChangesValues {ρ : Type} : Strategy ρ → Prop
  | uri : ChangesValues .uri
  | decode : ChangesValues .decode
  | mapValues (f : String → String → Except ArgumentError String) : ChangesValues (.mapValues f)

theorem Strategy.ChangesValues.exists_withArguments {ρ : Type} {s : Strategy ρ}
    (h : s.ChangesValues) : ∃ f, s = .withArguments f ∧
      ∀ args args', f args = .ok args' → args'.map (·.1) = args.map (·.1) := by
  cases h with
  | uri => exact ⟨.ok, rfl, fun args args' h => by cases h; rfl⟩
  | decode => exact ⟨_, rfl, fun _ _ => Arguments.map_fst_of_tryMap⟩
  | mapValues f => exact ⟨_, rfl, fun _ _ => Arguments.map_fst_of_tryMap⟩

/-! ## Requests one after the other -/

/-- A request that was served: its result, and the journal before and after. -/
structure Served where
  method : String
  path : String
  result : Except DispatchError String
  before : Journal
  after : Journal

/-- A request that was served has left in the records what it had to: an answer is that of one call,
and the entry of this call is all that is new; a failure, which is no callee's, has left nothing. -/
def Served.Accounted (s : Served) (r : Router String) : Prop :=
  match s.result with
  | .ok text => ∃ found k arguments, r.resolve s.method s.path = .ok found ∧
      Records r.targets found.route.action k ∧
      arguments.map (·.1) = k.signature.map (·.name) ∧ arguments.render k.label = text ∧
      s.after.callsOf k.key = s.before.callsOf k.key ++ [k.entry arguments] ∧
      s.after.without k.key = s.before.without k.key
  | .error e => s.after = s.before ∧ ∀ message, e ≠ .handler message

namespace Router

/-- Serves requests one after the other, from a journal on. -/
def serve (r : Router String) : Journal → List (String × String) → List Served
  | _, [] => []
  | j, (method, path) :: rest =>
    let reply := r.dispatch method path
    ⟨method, path, reply.result, j, j ++ reply.journal⟩ :: serve r (j ++ reply.journal) rest

/-- The journal after some requests. -/
def journalAfter (r : Router String) (j : Journal) (requests : List (String × String)) : Journal :=
  j ++ requests.flatMap fun q => (r.dispatch q.1 q.2).journal

/-- Each route's callee keeps a record, and each route's strategy, if there is one with its tag,
only changes values. -/
structure KeepsRecords (r : Router String) : Prop where
  action : ∀ route ∈ r.table.toList, KeepsRecord r.targets route.action
  strategy : ∀ route ∈ r.table.toList, ∀ s, r.strategies.get? route.strategy = some s →
    s.ChangesValues

/-- **What one request can come to**: it fails before anything is called, or it is answered by one
call of a callee that keeps a record. -/
theorem dispatch_of_keepsRecords {r : Router String} (h : r.KeepsRecords) (method path : String) :
    (∃ e, r.dispatch method path = .fail e ∧ ∀ message, e ≠ .handler message) ∨
    ∃ found k arguments, r.resolve method path = .ok found ∧
      Records r.targets found.route.action k ∧
      arguments.map (·.1) = k.signature.map (·.name) ∧
      r.dispatch method path = ⟨.ok (arguments.render k.label), [k.entry arguments]⟩ := by
  refine (dispatch_cases fun found s hfound hs => (h.strategy found.route
    (mem_toList_of_resolve hfound) s hs).exists_withArguments).imp_right ?_
  rintro ⟨found, f, callee, bound, arguments, hfound, hf, hcallee, hbound, harguments, hdispatch⟩
  obtain ⟨k, hk, hsig, hcall⟩ := Invocation.records_of_resolve
    (h.action found.route (mem_toList_of_resolve hfound)) hcallee
  refine ⟨found, k, arguments, hfound, hk, ?_, ?_⟩
  · rw [hf bound arguments harguments, map_fst_arrange hbound, hsig]
  · rw [hdispatch, hcall]
    rfl

/-- **A request leaves in the records what it has to.** -/
theorem accounted_dispatch {r : Router String} (h : r.KeepsRecords) (j : Journal)
    (method path : String) :
    Served.Accounted ⟨method, path, (r.dispatch method path).result, j,
      j ++ (r.dispatch method path).journal⟩ r := by
  rcases dispatch_of_keepsRecords h method path with
    ⟨e, he, hmessage⟩ | ⟨found, k, arguments, hfound, hk, hnames, hdispatch⟩
  · rw [he]
    exact ⟨List.append_nil j, hmessage⟩
  · rw [hdispatch]
    refine ⟨found, k, arguments, hfound, hk, hnames, rfl, ?_, ?_⟩
    · simp [Journal.callsOf, Recorder.entry]
    · simp [Journal.without, Recorder.entry]

/-- **Whatever requests are served, the records tell which were answered.** Each request has left
what it had to, and the journal has as many new entries as there were answers. -/
theorem accounted_serve {r : Router String} (h : r.KeepsRecords) (j : Journal)
    (requests : List (String × String)) :
    (∀ s ∈ r.serve j requests, s.Accounted r) ∧
    (r.journalAfter j requests).length =
      j.length + (r.serve j requests).countP (·.result.isOk) := by
  induction requests generalizing j with
  | nil => exact ⟨nofun, congrArg List.length (List.append_nil j)⟩
  | cons q requests ih =>
    obtain ⟨method, path⟩ := q
    obtain ⟨hserved, hlength⟩ := ih (j ++ (r.dispatch method path).journal)
    refine ⟨List.forall_mem_cons.2 ⟨accounted_dispatch h j method path, hserved⟩, ?_⟩
    have hone : (r.dispatch method path).journal.length =
        if (r.dispatch method path).result.isOk then 1 else 0 := by
      rcases dispatch_of_keepsRecords h method path with ⟨e, he, -⟩ | ⟨_, k, arguments, -, -, -, hk⟩
      · rw [he]
        rfl
      · rw [hk]
        rfl
    have hcount : (r.serve j ((method, path) :: requests)).countP (·.result.isOk) =
        (r.serve (j ++ (r.dispatch method path).journal) requests).countP (·.result.isOk) +
          if (r.dispatch method path).result.isOk then 1 else 0 := List.countP_cons
    rw [journalAfter, List.flatMap_cons, ← List.append_assoc, ← journalAfter, hlength,
      List.length_append, hone, hcount]
    omega

/-- Whether all callees keep records can be told from the calls that register the routes. -/
theorem keepsRecords_new [Regex.PropertyTable] {log : List (RouteCall String)}
    {strategies : Strategies String} {targets : Targets String}
    (ha : ∀ c ∈ log, KeepsRecord targets c.action)
    (hs : ∀ c ∈ log, ∀ s, strategies.get? c.strategy = some s → s.ChangesValues) :
    (new (.ofLog log) strategies targets).KeepsRecords := by
  have hcall : ∀ route ∈ (new (.ofLog log) strategies targets).table.toList,
      ∃ c ∈ log, c.action = route.action ∧ c.strategy = route.strategy := by
    intro route hroute
    have hroute' : route ∈ (log.foldl RouteTable.register .empty).toList := hroute
    rcases RouteTable.mem_toList_foldl_register hroute' with ⟨c, hc, hadded⟩ | hempty
    · unfold RouteCall.route? at hadded
      split at hadded
      · cases hadded
        exact ⟨c, hc, rfl, rfl⟩
      · cases hadded
    · cases hempty
  constructor
  · intro route hroute
    obtain ⟨c, hc, haction, -⟩ := hcall route hroute
    exact haction ▸ ha c hc
  · intro route hroute s hget
    obtain ⟨c, hc, -, hstrategy⟩ := hcall route hroute
    exact hs c hc s (hstrategy ▸ hget)

/-- Calls that register a handler and operations of a controller, under several strategies. One
target and one strategy are not known. -/
def recordedCalls : List (RouteCall String) :=
  [⟨"get", "/item/\x7bid\x7d", .handler (recordingHandler "item" [⟨"id", .required, none⟩,
      ⟨"page", .absent, none⟩]), uriStrategyTag⟩,
    ⟨"post", "/page/\x7bid\x7d", .member (.named "Pages") "post_page", decodeStrategyTag⟩,
    ⟨"get", "/page/\x7bid\x7d", .member (.bound (echoController "pages" "Pages"
      [⟨"get_page", [⟨"lang", .value "en", none⟩, ⟨"id", .required, none⟩]⟩])) "get_page", "short"⟩,
    ⟨"get", "/all", .handler (recordingHandler "all" [⟨"id", .required, none⟩]), uriStrategyTag⟩,
    ⟨"get", "/lost", .member (.named "Nowhere") "get_lost", uriStrategyTag⟩,
    ⟨"get", "/new", .handler (recordingHandler "new" []), "unheard-of"⟩]

/-- The strategies for them. -/
def recordedStrategies : Strategies String :=
  .ofList [(uriStrategyTag, .uri), (decodeStrategyTag, .decode),
    ("short", .mapValues fun _ value => .ok (String.ofList (value.toList.take 1)))]

/-- The targets for them. -/
def recordedTargets : Targets String :=
  .ofList [("Pages", echoController "pages" "Pages" [⟨"post_page", [⟨"id", .required, none⟩]⟩])]

/-- Requests, of which three are answered. -/
def recordedRequests : List (String × String) :=
  [("GET", "/item/7"), ("GET", "/lost"), ("POST", "/page/a%20b"), ("POST", "/page/%FF"),
    ("GET", "/new"), ("get", "/page/long"), ("get", "/all"), ("PUT", "/all"), ("GET", "/none")]

/-- The router that has all these. -/
def recordedRouter : Router String :=
  new (.ofLog recordedCalls) recordedStrategies recordedTargets

theorem accounted_recordedRequests :
    recordedRouter.KeepsRecords ∧
    (∀ s ∈ recordedRouter.serve [] recordedRequests, s.Accounted recordedRouter) ∧
    (recordedRouter.journalAfter [] recordedRequests).length =
      (recordedRouter.serve [] recordedRequests).countP (·.result.isOk) ∧
    recordedRouter.journalAfter [] recordedRequests =
      [⟨.handler "item", none, [("id", some "7"), ("page", none)]⟩,
        ⟨.controller "pages", some "post_page", [("id", some "a b")]⟩,
        ⟨.controller "pages", some "get_page", [("lang", some "e"), ("id", some "l")]⟩] := by
  have hpages : ∀ c, recordedTargets.get? "Pages" = some c →
      ∃ id name operations, c = echoController id name operations := by
    intro c hc
    simp only [recordedTargets, NameMap.ofList, List.foldl, NameMap.get?_insert, ↓reduceIte,
      Option.some.injEq] at hc
    exact ⟨_, _, _, hc.symm⟩
  have hlost : recordedTargets.get? "Nowhere" = none := by decide +kernel
  have h : recordedRouter.KeepsRecords := by
    apply keepsRecords_new
    · simp only [recordedCalls, List.forall_mem_cons, recordingHandler_eq]
      refine ⟨.handler _ _ _, .named _ _ hpages, .bound _ _ _ _, .handler _ _ _,
        .named _ _ ?_, .handler _ _ _, nofun⟩
      intro c hc
      rw [hlost] at hc
      cases hc
    · intro c hc s hs
      simp only [recordedStrategies, NameMap.ofList, List.foldl, NameMap.get?_insert] at hs
      split at hs
      · cases hs
        exact .mapValues _
      · split at hs
        · cases hs
          exact .decode
        · split at hs
          · cases hs
            exact .uri
          · cases hs
  obtain ⟨hserved, hlength⟩ := accounted_serve h [] recordedRequests
  rw [List.length_nil, Nat.zero_add] at hlength
  exact ⟨h, hserved, hlength, by decide +kernel⟩

end Router

end UriRouter
