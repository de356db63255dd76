import ConsumerContract.Text.CharSet

namespace ConsumerContract.Text

/-- White space: the controls from tab to carriage return, the space, the next-line control, and
the space, line and paragraph separators. -/
def blanks : CharSet := .ofText "9-D 20 85 A0 1680 2000-200A 2028-2029 202F 205F 3000"

def isBlank (c : Char) : Bool := blanks.contains c

def isBlankText (s : String) : Bool := s.toList.all isBlank

end ConsumerContract.Text
