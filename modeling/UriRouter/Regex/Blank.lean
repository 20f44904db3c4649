import UriRouter.Text.Letter

/-!
# Blanks and comments in regular expressions

In verbose mode blanks between the parts of a regular expression are skipped, and so is a comment,
which begins with `#` and ends with its line. Numbers and names are read through the same filter.

* `skipBlanks` : the text after blanks and comments;
* `readFiltered` : the longest run of wanted characters, blanks and comments aside.
-/

set_option autoImplicit false

namespace UriRouter.Regex

open UriRouter.Text

/-- The text after blanks and comments; `inComment` says whether it begins inside a comment. -/
def skipBlanksFrom (inComment : Bool) : List Char → List Char
  | [] => []
  | c :: rest =>
    if inComment then skipBlanksFrom (c != '\n') rest
    else if isBlank c then skipBlanksFrom false rest
    else if c == '#' then skipBlanksFrom true rest
    else c :: rest

/-- In verbose mode the text after blanks and comments, otherwise the text. -/
def skipBlanks (verbose : Bool) (s : List Char) : List Char :=
  if verbose then skipBlanksFrom false s else s

/-- The longest run of wanted characters at the beginning of a text, and the text after it. In
verbose mode blanks and comments between and after the characters are left out. -/
def readFiltered (verbose : Bool) (wanted : Char → Bool) (inComment : Bool) :
    List Char → List Char × List Char
  | [] => ([], [])
  | c :: rest =>
    if inComment then readFiltered verbose wanted (c != '\n') rest
    else if wanted c then
      let (run, after) := readFiltered verbose wanted false rest
      (c :: run, after)
    else if verbose && isBlank c then readFiltered verbose wanted false rest
    else if verbose && c == '#' then readFiltered verbose wanted true rest
    else ([], c :: rest)

/-- The character that decides whether a `-` in brackets makes a range: the next one, or in verbose
mode the next after blanks, the mark of one comment, and blanks. -/
def peekPast (verbose : Bool) (s : List Char) : Option Char :=
  if verbose then
    let past := match s.dropWhile isBlank with
      | '#' :: rest => rest.dropWhile isBlank
      | rest => rest
    past.head?.or s.head?
  else s.head?

/-- Outside verbose mode nothing is skipped. -/
@[simp] theorem skipBlanks_false (s : List Char) : skipBlanks false s = s := rfl

end UriRouter.Regex
