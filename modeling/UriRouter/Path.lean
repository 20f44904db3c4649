import UriRouter.Text.Case

/-!
# Request paths, patterns and methods in normal form

* `Path.normalize` : a path begins with `/`;
* `Path.normalizePattern` : so does a pattern, unless it begins with an optional section;
* `Method.normalize` : methods are compared without regard to the case of ASCII letters.
-/

set_option autoImplicit false

namespace UriRouter

namespace Path

/-- The path with a `/` before it, unless it begins with one. -/
def normalize (path : String) : String :=
  match path.toList with
  | '/' :: _ => path
  | _ => "/" ++ path

/-- The pattern with a `/` before it, unless it begins with one or with a section. -/
def normalizePattern (pattern : String) : String :=
  match pattern.toList with
  | '[' :: _ => pattern
  | _ => normalize pattern

/-- A path in normal form begins with `/`. -/
theorem toList_normalize (path : String) : ∃ rest, (normalize path).toList = '/' :: rest := by
  unfold normalize
  split
  · rename_i rest h
    exact ⟨rest, h⟩
  · exact ⟨path.toList, by simp⟩

/-- A path in normal form is its own normal form. -/
theorem normalize_idem (path : String) : normalize (normalize path) = normalize path := by
  obtain ⟨rest, h⟩ := toList_normalize path
  rw [normalize, h]
  rfl

end Path

/-- The name of a request method in normal form. -/
def Method.normalize (method : String) : String := Text.asciiLowercase method

end UriRouter
