import FixedDecimal.CommandLine.Run

/-! The program: reads the environment, hands the command line over and prints the answer. -/
namespace FixedDecimal.CommandLine

def environmentOf (names : List String) : IO Environment := do
  let values ← names.mapM fun name => do return (name, ← IO.getEnv name)
  return values.filterMap fun (name, value?) => value?.map (name, ·)

/-- The environment file of the working directory; a missing file is empty. The search through the
directories above it is left out. -/
def readEnvFile : IO String := do
  try IO.FS.readFile ".env" catch _ => return ""

end FixedDecimal.CommandLine

open FixedDecimal in
def main (args : List String) : IO UInt32 := do
  let file ← CommandLine.readEnvFile
  let env ← CommandLine.environmentOf
    ([Config.precisionVariable, Config.roundingVariable, Config.jsonVariable] ++
      EnvFile.mentioned file.toList)
  let outcome := CommandLine.run args env file
  IO.print outcome.output
  if let some line := outcome.errorLine then IO.eprintln s!"Error: {line}"
  return outcome.exit.toUInt32
