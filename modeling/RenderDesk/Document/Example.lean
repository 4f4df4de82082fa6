/-
  RenderDesk.Document.Example
  ───────────────────────────
  The document that a session starts from when none has been stored yet.
-/

namespace RenderDesk.Document

/-- The document shown at the first start, and after a reset. -/
def exampleText : String :=
  "---\n" ++
  "title: Example Document\n" ++
  "author: Docrender\n" ++
  "subtitle: An automatically generated subtitle\n" ++
  "---\n" ++
  "\n" ++
  "# Chapter 1 Introduction\n" ++
  "\n" ++
  "This document was produced from the **docrender** editor.\n" ++
  "\n" ++
  "$ E = mc^2 $\n" ++
  "\n" ++
  "## List test\n" ++
  "1. First item\n" ++
  "2. Second item\n"

end RenderDesk.Document
