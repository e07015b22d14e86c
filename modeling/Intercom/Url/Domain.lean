import Intercom.Url.Domain.Label

/-!
# Domain names

A name is read in three steps. Every character is mapped, for capital letters and other spellings of
the same; what comes out is brought to the composed normal form; and what stands between the dots is
read as labels. If one label has characters that run from right to left, each label has to run in
one direction.
-/

namespace Intercom.Url.Domain

/-- The form to which a name is brought before its labels are read. -/
def settle? (name : List Char) : Option (List Char) :=
  (name.mapM mapping?).map fun parts => Text.normalize parts.flatten

/-- The labels of a name. -/
def labels? (name : List Char) : Option (List Label) := do
  let settled ← settle? name
  let labels ← (settled.splitOn '.').mapM Label.ofText?
  let shown := labels.map Label.shown
  if shown.any Label.hasRightToLeft && !shown.all Label.runsOneWay then none else some labels

/-- The ASCII form of a name. -/
def toAscii? (name : List Char) : Option (List Char) :=
  (labels? name).map fun labels => ['.'].intercalate (labels.map Label.sent)

end Intercom.Url.Domain
