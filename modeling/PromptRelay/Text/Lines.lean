namespace PromptRelay.Text

def dropReturn (line : List Char) : List Char :=
  if line.getLast? = some '\r' then line.dropLast else line

def linesFrom (line : List Char) : List Char → List (List Char)
  | [] => if line.isEmpty then [] else [line.reverse]
  | c :: s =>
    if c = '\n' then dropReturn line.reverse :: linesFrom [] s else linesFrom (c :: line) s

def lines (s : List Char) : List (List Char) :=
  linesFrom [] s

def indent (margin s : String) : String :=
  "\n".intercalate ((lines s.toList).map fun line => margin ++ String.ofList line)

end PromptRelay.Text
