import SchemaDecls.Text.Combining
import SchemaDecls.Text.Decomposition

/-!
# Plain text

The plain form of a text is its compatibility decomposition without the combining characters:
`"café"` becomes `"cafe"`, a full-width letter its ordinary one.

A decomposed text is usually put into canonical order as well. That step permutes combining
characters only, and all of them are dropped here, so it is left out.
-/

namespace SchemaDecls.Text

/-- The text with every character decomposed and the combining characters dropped. -/
def plain (s : List Char) : List Char :=
  (s.flatMap decompose).filter fun c => !isCombining c

@[simp] theorem plain_nil : plain [] = [] := rfl

@[simp] theorem plain_append (s t : List Char) : plain (s ++ t) = plain s ++ plain t := by
  simp [plain]

example : plain ['é', 'ﬁ', 'Ａ'] = ['e', 'f', 'i', 'A'] := by decide +kernel

end SchemaDecls.Text
