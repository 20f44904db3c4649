import UriRouter.Callee

/-!
# Callees that keep a record

Callees that answer with a short form of the call and enter it in the journal.

* `recordingHandler`, `echoController` : a handler and a controller of this kind;
* `Journal.callsOf`, `Journal.without` : the record of one callee, and the journal without it.
-/

set_option autoImplicit false

namespace UriRouter

/-- The calls that were made, in order. -/
abbrev Journal := List JournalEntry

namespace Journal

/-- The calls in one callee's record. -/
def callsOf (j : Journal) (key : RecordKey) : Journal := j.filter (·.key == key)

/-- The journal with one callee's record emptied. -/
def without (j : Journal) (key : RecordKey) : Journal := j.filter (·.key != key)

end Journal

/-- A handler that answers with its tag and its arguments. -/
def recordingHandler (tag : String) (signature : Signature) : Handler String where
  signature := signature
  call arguments := ⟨.ok (arguments.render tag), [⟨.handler tag, none, arguments⟩]⟩

/-- A controller that answers with the member and its arguments. It does not compare the arguments
with the declared parameters. -/
def echoController (id name : String) (operations : List Operation) : Controller String where
  name := name
  operations := operations
  call member arguments :=
    if operations.any (·.name == member) then
      ⟨.ok (arguments.render member), [⟨.controller id, some member, arguments⟩]⟩
    else .fail (Controller.noOperation name member)

end UriRouter
