/-! Lines of a text. A line ends before a line feed, or before a carriage return and a line feed. -/

namespace DefsGlue.Text

/-- A line without the carriage return that may end it. -/
def trimReturn (line : List Char) : List Char :=
  if line.getLast? = some '\r' then line.dropLast else line

def firstLine (s : String) : String :=
  String.ofList (trimReturn (s.toList.takeWhile (· != '\n')))

end DefsGlue.Text
