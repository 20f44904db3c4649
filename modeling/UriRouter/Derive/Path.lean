import UriRouter.Text.Case

/-!
# Paths of operation names

The rest of an operation's name, after its verb, becomes a path: its words, which are separated by
`_` or begin with a capital after a small letter or a digit, are written in small letters with a
`/` before each.

* `derivePath` : the path, which is empty if there is no word.
-/

set_option autoImplicit false

namespace UriRouter

open UriRouter.Text

/-- The path so far, with what the rest of the name adds to it. The path is kept with its last
character first; `afterSmall` says whether that is a small letter or a digit. -/
def extendPath (path : List Char) (afterSmall : Bool) : List Char → List Char
  | [] => path
  | c :: rest =>
    if c == '_' then
      extendPath (if path.isEmpty || path.head? == some '/' then path else '/' :: path) false rest
    else if isUppercase c then
      extendPath
        ((lowercaseChar c).reverse ++ if afterSmall || path.isEmpty then '/' :: path else path)
        false rest
    else
      extendPath (c :: if path.isEmpty then ['/'] else path) (isLowercase c || isAsciiDigit c) rest

/-- The path of the rest of an operation's name. -/
def derivePath (rest : String) : String :=
  String.ofList ((extendPath [] false rest.toList).dropWhile (· == '/')).reverse

end UriRouter
