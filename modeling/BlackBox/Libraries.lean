/-!
# Libraries

What a run takes from the libraries that read documents and patterns, besides what they read: how
their errors are worded, and which patterns are too large to be looked for. No text and no limit is
fixed here, so that what is said of a run holds for all of them.
-/

namespace BlackBox

/-- The libraries for documents and for patterns. -/
structure Libraries where
  /-- What is wrong with a text that is no document. -/
  documentError : String → String
  /-- What is wrong with a pattern that cannot be looked for. -/
  patternError : String → String
  /-- Whether what is built to look for a pattern is small enough. -/
  fits : String → Bool

end BlackBox
