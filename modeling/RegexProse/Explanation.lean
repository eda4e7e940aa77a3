import RegexProse.Piece.Component
import RegexProse.Piece.OfTokens
import RegexProse.Text.Blank
import RegexProse.Token.Tokenize

/-!
# Explanations

The explanation of a whole pattern: its components, and one sentence that joins their descriptions.
-/

set_option autoImplicit false

namespace RegexProse

structure Explanation where
  components : List Component
  fullDescription : Text

namespace Explanation

def connective : Text := " followed by "

/-- The descriptions of the components as one sentence. -/
def sentence (components : List Component) : Text :=
  Text.trim (connective.intercalate (components.map Component.description))

/-- The explanation of any pattern, well formed or not. -/
def ofPattern (pattern : Text) : Explanation :=
  let components := Piece.components (Piece.ofTokens (Token.tokenize pattern))
  ⟨components, sentence components⟩

end Explanation

end RegexProse
