/-!
Letter case of the ASCII letters. Names of levels and truth values are compared without it, and a
letter outside ASCII is never the same as one inside.
-/

namespace WarningCapture.Text

def lower (s : String) : String := String.ofList (s.toList.map Char.toLower)

end WarningCapture.Text
