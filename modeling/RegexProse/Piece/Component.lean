import RegexProse.Component.Basic
import RegexProse.Description
import RegexProse.Piece.Basic
import RegexProse.Quantifier.Run

/-!
# Components of pieces

Each piece as the component that explains it: the words for its atom or group, and then those for
the quantifiers on it.
-/

set_option autoImplicit false

namespace RegexProse.Piece

def text (piece : Piece) : Text := Token.texts piece.tokens

mutual

def component : Piece → Component
  | .single token run =>
    let description := Description.ofToken token
    { kind := description.kind
      raw := text (.single token run)
      description := description.words ++ QuantifierRun.words run
      children := []
      unterminated := false }
  | .group opener kind content closer run =>
    { kind := .group
      raw := text (.group opener kind content closer run)
      description := Description.groupWords kind (Token.texts (tokensOf content)) ++
        QuantifierRun.words run
      children := components content
      unterminated := closer.isNone }

def components : List Piece → List Component
  | [] => []
  | piece :: rest => component piece :: components rest

end

theorem components_eq_map (pieces : List Piece) : components pieces = pieces.map component := by
  induction pieces with
  | nil => simp only [components, List.map_nil]
  | cons piece rest ih => simp only [components, ih, List.map_cons]

end RegexProse.Piece
