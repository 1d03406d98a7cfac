import RiceCooker.Inspect

/-! The command line: prints what a run leaves behind. -/

/-- A piece of what is printed, as a line of text. A remark comes without its time. -/
def RiceCooker.Inspect.Output.text : Output → String
  | line text => text
  | remark text => "DEBUG " ++ text

/-- Shows the profile given as the first argument. -/
def main (arguments : List String) : IO UInt32 := do
  let exit := RiceCooker.Inspect.run arguments
  for piece in exit.output do
    IO.println piece.text
  (← IO.getStderr).putStr exit.complaint
  return exit.code.toUInt32
