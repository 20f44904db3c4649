import UriRouter.Serve.Strategy
import UriRouter.Text.Percent

/-!
# Percent-decoded values

* `decodeValue` : a parameter's value with its percent escapes decoded;
* `Strategy.decode` : the strategy that passes values so decoded.
-/

set_option autoImplicit false

namespace UriRouter

/-- The tag of the strategy that decodes values. -/
def decodeStrategyTag : String := "decode"

/-- The value of a parameter, decoded. -/
def decodeValue (parameter value : String) : Except ArgumentError String :=
  match Text.Percent.decode value with
  | .ok decoded => .ok decoded
  | .error fault => .error (.invalid parameter value fault.reason)

/-- Passes the values percent-decoded. -/
def Strategy.decode {ρ : Type} : Strategy ρ := .mapValues decodeValue

end UriRouter
