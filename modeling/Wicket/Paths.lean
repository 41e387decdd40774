/-
**When two file paths are the same.**

The standard library compares paths component by component.  Repeated separators, a separator at the
end and a single dot are no components, but for a dot at the start of a relative path, which counts.

Main definitions:

* `Component` — a component of a path;
* `components` — the components of a path that is given as a text;
* `samePath` — the equality of paths.

Main results:

* `getLast?_components_join` — a directory and the name of an entry: the entry comes last.
-/

import Wicket.Text

namespace Paths

open List Text

/-- A component, as `std::path::Component` has them on Unix. -/
inductive Component
  | RootDir
  | CurDir
  | ParentDir
  | Normal (name : String)
  deriving DecidableEq

/-- The component of a part between two separators, wherever it stands. -/
def Component.ofPart (part : String) : Option Component :=
  if part == "" || part == "." then none
  else if part == ".." then some .ParentDir
  else some (.Normal part)

/-- The component that only the start of a path can give. -/
def leading (path : String) : Option Component :=
  if startsWith path "/" then some .RootDir
  else if (split path '/').head? == some "." then some .CurDir
  else none

/-- The components of a path, in order. -/
def components (path : String) : List Component :=
  (leading path).toList ++ (split path '/').filterMap Component.ofPart

/-- The paths are equal, although their texts may differ. -/
def samePath (a b : String) : Bool := components a == components b

theorem getLast?_components_join (dir : String) {entry : String} {component : Component}
    (hslash : '/' ∉ entry.toList) (hentry : Component.ofPart entry = some component) :
    (components (dir ++ "/" ++ entry)).getLast? = some component := by
  have hsplit : split (dir ++ "/" ++ entry) '/' = split dir '/' ++ [entry] := by
    rw [← split_of_notMem hslash]
    exact split_append dir entry '/'
  rw [components, hsplit, filterMap_append, ← append_assoc]
  simp [hentry]

/-- Only a dot at the start of a relative path tells two paths apart. -/
example : samePath "/run/a" "/run//./a/" = true ∧ samePath "tls.crt" "./tls.crt" = false := by
  decide

end Paths
