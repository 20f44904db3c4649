import UriRouter.Build.Builder
import UriRouter.Derive.Operations
import UriRouter.Derive.Resource
import UriRouter.Serve.Decoding

/-!
# The standard builder

The builder with the extensions for controllers and resources and with the strategy that decodes
values.

* `Builder.standard` : that builder;
* `Extension.resourceAndOperations` : an extension that applies those two by their names.
-/

set_option autoImplicit false

namespace UriRouter

/-- The name of the extension that registers the operations of a controller. -/
def operationsExtensionName : String := "controller"

/-- The name of the extension that registers the routes of a resource. -/
def resourceExtensionName : String := "resource"

/-- The builder that has the standard extensions and strategies. -/
def Builder.standard [Regex.PropertyTable] {ρ : Type} : Builder ρ :=
  ((Builder.bare.addExtension operationsExtensionName .operations).addExtension
    resourceExtensionName .resource).addStrategy decodeStrategyTag .decode

/-- Registers the routes of a resource, and then all operations of its controller, by whatever
extensions are known under the standard names. -/
def Extension.resourceAndOperations {ρ : Type} : Extension ρ where
  plan _ target options :=
    ⟨[.apply resourceExtensionName target options, .apply operationsExtensionName target {}], none⟩

end UriRouter
