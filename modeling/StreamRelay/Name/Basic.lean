import StreamRelay.Address.Numeral
import StreamRelay.Name.Label

/-!
# Names

The names of hosts, and their ASCII forms, in which they are looked up.
-/

namespace StreamRelay.Name

/-- The labels of a name: its characters are replaced by what they stand for, and the composed text
is cut at the dots. -/
def labels? (cs : List Char) : Option (List Label) := do
  let replaced ← cs.mapM form?
  (Numeral.parts (Text.composed replaced.flatten)).mapM Label.ofText?

/-- The ASCII form of a name. Where a letter or a digit in it goes from right to left, the direction
of each label has to be plain. -/
def ascii? (cs : List Char) : Option (List Char) := do
  let labels ← labels? cs
  if labels.any (·.text.any Text.goesLeftward) && !labels.all (isDirected ·.text) then none
  else some (['.'].intercalate (labels.map (·.ascii)))

end StreamRelay.Name
