/-!
# Joined texts

## Main definitions

* `commaSeparated` — texts joined by a comma and a space
-/

namespace Multidispatch.Text

/-- Texts joined by a comma and a space. -/
def commaSeparated : List String → String
  | [] => ""
  | s :: rest => rest.foldl (fun text next => text ++ ", " ++ next) s

end Multidispatch.Text
