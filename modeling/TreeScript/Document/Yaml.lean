import TreeScript.Yaml.Content

/-! # Documents in YAML notation

Blocks by indentation, lists and mappings in brackets, and scalars in all their forms. A text holds
at most one document, and an empty one is null.
-/

namespace TreeScript

/-- The document that a text in YAML notation holds. -/
def Document.ofYaml (text : String) : Except Yaml.Problem Document := do
  let tokens ← match Yaml.tokens? text.toList with
    | some tokens => pure tokens
    | none => throw .malformed
  let page ← Yaml.Page.ofTokens tokens
  let (content, _) ← (Yaml.Content.ofTree page.handles page.tree).run []
  content.toDocument

end TreeScript
