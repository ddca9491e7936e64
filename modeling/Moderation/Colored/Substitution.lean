import Moderation.Colored.Edit
import Moderation.Pattern

/-!
Replacing every match of a pattern in a colored text. Patterns see the visible characters only.
-/

namespace Moderation.ColoredText

def replacements (t : ColoredText) (p : Pattern) (f : List Char → List Char) : List Replacement :=
  let text := t.glyphs.toArray
  (p.spans t.glyphs).map fun s => ⟨s.start, s.stop, f (text.extract s.start s.stop).toList⟩

def replaceMatches (t : ColoredText) (p : Pattern) (f : List Char → List Char) : ColoredText :=
  t.replaceAll (t.replacements p f)

end Moderation.ColoredText
