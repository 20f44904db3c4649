import UriRouter.Build.Extension
import UriRouter.Text.Case

/-!
# Routes for resources

A resource has seven conventional routes, each of which calls the operation of the same name.

* `resourceActions` : the actions with their verbs and templates;
* `resourceName` : the name of the resource that a target stands for;
* `Extension.resource` : the extension that registers the routes.
-/

set_option autoImplicit false

namespace UriRouter

/-- The place that a resource's name takes in a template. -/
def namePlace : String := "\x7bname\x7d"

/-- An action of a resource: a verb, and a template, whose first part is the resource's name and
whose other parts are written out. -/
structure ResourceAction where
  name : String
  verb : String
  /-- What follows the resource's name. -/
  tail : String
  deriving DecidableEq, Repr

namespace ResourceAction

/-- The pattern of the action for a resource's name. -/
def pattern (a : ResourceAction) (resource : String) : String := "/" ++ resource ++ a.tail

/-- The pattern with the place of the name marked. -/
def template (a : ResourceAction) : String := a.pattern namePlace

end ResourceAction

/-- The actions of a resource, in the order of registration. -/
def resourceActions : List ResourceAction :=
  [⟨"index", "get", "/"⟩,
   ⟨"make", "get", "/make"⟩,
   ⟨"create", "post", ""⟩,
   ⟨"show", "get", "/\x7bid\x7d"⟩,
   ⟨"edit", "get", "/\x7bid\x7d/edit"⟩,
   ⟨"update", "put", "/\x7bid\x7d"⟩,
   ⟨"delete", "delete", "/\x7bid\x7d"⟩]

/-- Whether a resource has an action of this name. -/
def isResourceAction (name : String) : Bool := resourceActions.any (·.name == name)

/-- The part of a text before its first `::`. -/
def beforeColons : List Char → List Char
  | [] => []
  | ':' :: ':' :: _ => []
  | c :: rest => c :: beforeColons rest

/-- The part of a name after its last `::`. -/
def lastSegment (name : List Char) : List Char := (beforeColons name.reverse).reverse

/-- The text without an ending, if it has it. -/
def withoutEnding (ending s : List Char) : List Char :=
  if ending.reverse.isPrefixOf s.reverse then s.take (s.length - ending.length) else s

/-- The name of the resource that a target stands for: the last part of the target's name, without
`Controller` at its end, in small letters. -/
def resourceName (target : String) : String :=
  Text.lowercase (String.ofList (withoutEnding "Controller".toList (lastSegment target.toList)))

/-- The first action that the options mention and that no resource has. -/
def unknownResourceAction? (options : ExtensionOptions) : Option String :=
  (options.only.getD [] ++ options.except).find? fun a => !isResourceAction a

/-- Registers the routes of a resource. Its name is the one the options give, or the one its
target stands for. -/
def Extension.resource {ρ : Type} : Extension ρ where
  plan _ target options :=
    match unknownResourceAction? options with
    | some action => .fail (.usage (.unknownResourceAction action))
    | none =>
      let name := options.name.getD (resourceName target.name)
      .registering ((resourceActions.filter fun a => options.includes a.name).map fun a =>
        ⟨a.verb, a.pattern name, .member target a.name⟩)

end UriRouter
