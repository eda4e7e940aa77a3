import RegexProse.Text.Basic

/-!
# Group kinds

The kinds of group that an opening parenthesis may begin, and the name under which each is
explained.
-/

set_option autoImplicit false

namespace RegexProse

inductive GroupKind where
  | capturing
  | namedCapturing
  | nonCapturing
  | positiveLookahead
  | negativeLookahead
  | positiveLookbehind
  | negativeLookbehind
  deriving DecidableEq, Repr

/-- The name of the kind in an explanation. -/
def GroupKind.label : GroupKind → Text
  | .capturing => "capturing group"
  | .namedCapturing => "named capturing group"
  | .nonCapturing => "non-capturing group"
  | .positiveLookahead => "positive lookahead"
  | .negativeLookahead => "negative lookahead"
  | .positiveLookbehind => "positive lookbehind"
  | .negativeLookbehind => "negative lookbehind"

end RegexProse
