import DocHints.Value.Basic

/-!
# Annotations from field metadata

A class made from declared fields may lack annotations for them; the types that
its fields were declared with fill the gaps.
-/

namespace DocHints

abbrev Annotations := List (String × Value)

/-- Adds the types of the fields that have one and no annotation yet. -/
def Annotations.fillFrom (annotations : Annotations)
    (fields : List (String × Option Value)) : Annotations :=
  fields.foldl
    (fun known field =>
      match field with
      | (name, some type) =>
        if known.any (·.1 == name) then known else known ++ [(name, type)]
      | (_, none) => known)
    annotations

end DocHints
