import GemDeps.Manifest.Gemfile
import GemDeps.Manifest.Gemspec

/-!
# Reading a manifest

* `Document.read`: the document of a text, read as a manifest of a given kind. Every text can be
  read: lines that say nothing known are passed over.
-/

namespace GemDeps

/-- The document of a text, read as a manifest of the given kind. -/
def Document.read : Kind → Text → Document
  | .gemfile, text => Gemfile.read text
  | .gemspec, text => Gemspec.read text

end GemDeps
