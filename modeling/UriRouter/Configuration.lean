/-!
# Errors of configuration and of use

Errors that a router's owner makes, at registration or, where a name is looked up late, in service.

* `ConfigurationError.message`, `UsageError.message` : the errors in words.
-/

set_option autoImplicit false

namespace UriRouter

/-- Names joined with commas. -/
def commaList (names : List String) : String := ", ".intercalate names

/-- What is wrong with how a router is put together. -/
inductive ConfigurationError where
  /-- A registration after the table was sealed. -/
  | isSealed (method pattern : String)
  | unknownStrategy (tag : String) (registered : List String)
  | unknownTarget (name : String) (registered : List String)
  | unknownMember (target member : String)
  | unknownExtension (name : String) (registered : List String)
  /-- Text that does not name a target and a member. -/
  | invalidDescriptor (descriptor : String)
  /-- A parameter that has to be bound and is not. -/
  | missingDefault (parameter : String)
  deriving DecidableEq, Repr

/-- The error in words. -/
def ConfigurationError.message : ConfigurationError → String
  | .isSealed method pattern =>
    "cannot register `" ++ method ++ " " ++ pattern ++ "`: the route table is sealed"
  | .unknownStrategy tag registered =>
    "unknown strategy `" ++ tag ++ "` (registered: " ++ commaList registered ++ ")"
  | .unknownTarget name registered =>
    "unknown target `" ++ name ++ "` (registered: " ++ commaList registered ++ ")"
  | .unknownMember target member =>
    "target `" ++ target ++ "` has no operation `" ++ member ++ "`"
  | .unknownExtension name registered =>
    "unknown extension `" ++ name ++ "` (registered: " ++ commaList registered ++ ")"
  | .invalidDescriptor descriptor =>
    "invalid action descriptor `" ++ descriptor ++ "`, expected `Target#member`"
  | .missingDefault parameter =>
    "parameter `" ++ parameter ++ "` was not matched and declares no default"

/-- What is wrong with a target or with the options for it. -/
inductive UsageError where
  /-- A parameter that has to be bound after one that need not. -/
  | requiredAfterOptional (operation parameter : String)
  | unknownResourceAction (action : String)
  deriving DecidableEq, Repr

/-- The error in words. -/
def UsageError.message : UsageError → String
  | .requiredAfterOptional operation parameter =>
    "required parameter `" ++ parameter ++ "` of `" ++ operation ++
      "` follows an optional parameter"
  | .unknownResourceAction action => "unknown resource action `" ++ action ++ "`"

end UriRouter
