import UriRouter.Declared
import UriRouter.Text.Quoted

/-!
# Controllers to try a router with

Four controllers whose methods take values of various types.

* `userController`, `photoController`, `kindsController`, `quietController`.
-/

set_option autoImplicit false

namespace UriRouter.Showcase

open UriRouter.Text

/-! ## Users -/

/-- The new name of a user, which has to be given. -/
def renamed (id : Nat) : Option String → Except CallError String
  | some name => .ok ("user " ++ toString id ++ " renamed to " ++ name)
  | none => .error (.failed "a new name is required")

/-- The methods of the users' controller. -/
def userMethods : List (DeclaredMethod String) :=
  [{ name := "get_index", parameters := [], body := .ok "all users" },
   { name := "get_show"
     parameters := [{ name := "id", type := .natural 32 },
       { name := "format", type := .text, default? := some "html" }]
     body := fun (id : Nat) (format : String) =>
       .ok ("user " ++ toString id ++ " as " ++ format) },
   { name := "post_rename"
     parameters := [{ name := "id", type := .natural 32 },
       { name := "name", type := .text, isOption := true }]
     body := renamed },
   { name := "get_page"
     parameters := [{ name := "slug", type := .text, regex? := some "[a-z]+" },
       { name := "offset", type := .integer 64 }]
     body := fun (slug : String) (offset : Int) => .ok (slug ++ "@" ++ toString offset) }]

/-- The users' controller. -/
def userController : Controller String := .ofMethods "UserController" userMethods

/-! ## Photos -/

/-- The methods of the photo controller of an owner. -/
def photoMethods (owner : String) : List (DeclaredMethod String) :=
  [{ name := "index", parameters := [], body := .ok (owner ++ "'s photos") },
   { name := "show"
     parameters := [{ name := "id", type := .natural 64 }]
     body := fun (id : Nat) => .ok ("photo " ++ toString id) },
   { name := "update"
     parameters := [{ name := "id", type := .natural 64 }]
     body := fun (id : Nat) => .ok ("updated " ++ toString id) }]

/-- The photo controller of an owner. -/
def photoController (owner : String) : Controller String :=
  .ofMethods "PhotoController" (photoMethods owner)

/-! ## Kinds of value -/

/-- A page, whose number has to be one of eight bits. -/
def page (n : Int) : Except CallError String :=
  if 0 ≤ n ∧ n < 256 then .ok ("page " ++ toString n)
  else .error (.failed ("page " ++ toString n ++ " is out of range"))

/-- The methods of the controller of kinds. -/
def kindsMethods : List (DeclaredMethod String) :=
  [{ name := "get", parameters := [], body := .ok "root" },
   { name := "put"
     parameters := [{ name := "id", type := .natural 16, isOption := true }]
     body := fun (id : Option Nat) => .ok ("put " ++ optionText (id.map toString)) },
   { name := "get_small"
     parameters := [{ name := "a", type := .natural 8 }, { name := "b", type := .integer 8 }]
     body := fun (a : Nat) (b : Int) => .ok (toString a ++ "/" ++ toString b) },
   { name := "patch_wide"
     parameters := [{ name := "a", type := .natural 128 },
       { name := "b", type := .integer 128, isOption := true }]
     body := fun (a : Nat) (b : Option Int) =>
       .ok (toString a ++ "/" ++ optionText (b.map toString)) },
   { name := "get_flag"
     parameters := [{ name := "flag", type := .truthValue },
       { name := "c", type := .character, isOption := true }]
     body := fun (flag : Bool) (c : Option Char) =>
       .ok ((Scalar.truthValue flag).render ++ "/" ++ optionText (c.map quotedChar)) },
   { name := "delete_r"
     parameters := [{ name := "type", type := .text },
       { name := "n", type := .natural 8, isOption := true, default? := some "7",
         regex? := some "[0-9]\x7b1,2\x7d" }]
     body := fun (type : String) (n : Option Nat) =>
       .ok (type ++ "/" ++ optionText (n.map toString)) },
   { name := "postDeepHTMLPage2Go"
     parameters := [{ name := "n", type := .integer 64, default? := some "-1" }]
     body := page },
   { name := "getaway", parameters := [], body := .ok "never derived" }]

/-- The controller of kinds. -/
def kindsController : Controller String := .ofMethods "Demo::KindsController" kindsMethods

/-! ## Methods without an answer -/

/-- The methods of the quiet controller. -/
def quietMethods : List (DeclaredMethod Unit) :=
  [{ name := "post_ping", parameters := [], body := .ok () },
   { name := "put_level"
     parameters := [{ name := "level", type := .natural 64 }]
     body := fun (_ : Nat) => .ok () }]

/-- The quiet controller. -/
def quietController : Controller Unit := .ofMethods "Quiet" quietMethods

end UriRouter.Showcase
