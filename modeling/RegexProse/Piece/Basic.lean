import RegexProse.Token.Basic

/-!
# Pieces

The structure of a pattern: pieces in a row, each an atom or a group with the quantifiers on it, and
in each group pieces again. The pieces hold all tokens of the pattern in their order.
-/

set_option autoImplicit false

namespace RegexProse

inductive Piece where
  /-- A token that opens no group, and the quantifiers on it. -/
  | single (token : Token) (run : List Token)
  /-- A group: its opener, its content, its closer if it has one, and the quantifiers on it. -/
  | group (opener : Token) (kind : GroupKind) (content : List Piece) (closer : Option Token)
      (run : List Token)

namespace Piece

mutual

def tokens : Piece → List Token
  | .single token run => token :: run
  | .group opener _ content closer run => opener :: (tokensOf content ++ closer.toList ++ run)

def tokensOf : List Piece → List Token
  | [] => []
  | piece :: rest => tokens piece ++ tokensOf rest

end

end Piece

end RegexProse
