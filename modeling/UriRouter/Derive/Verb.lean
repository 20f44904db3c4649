import UriRouter.Text.Case

/-!
# Verbs of operation names

An operation is called by a verb if its name begins with the verb and goes on with nothing, with
`_` or with a capital, as `get_index` and `getIndex` do and `getaway` does not.

* `splitVerb` : the longest such verb and the rest of the name.
-/

set_option autoImplicit false

namespace UriRouter

/-- Whether a name may go on like this after a verb. -/
def endsVerb (rest : List Char) : Bool :=
  match rest with
  | [] => true
  | c :: _ => c == '_' || Text.isUppercase c

/-- The rest of a name after a verb, if the name is called by it. -/
def afterVerb? (name : String) (verb : String) : Option String :=
  if verb.toList.isPrefixOf name.toList then
    let rest := name.toList.drop verb.toList.length
    if endsVerb rest then some (String.ofList rest) else none
  else none

/-- The longest of the verbs that a name is called by, and the rest of the name. -/
def splitVerb (verbs : List String) (name : String) : Option (String × String) :=
  verbs.foldl (fun best verb =>
    match afterVerb? name verb, best with
    | none, best => best
    | some rest, none => some (verb, rest)
    | some rest, some (longest, r) =>
      if verb.length < longest.length then some (longest, r) else some (verb, rest)) none

end UriRouter
