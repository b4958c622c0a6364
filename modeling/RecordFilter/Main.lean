import RecordFilter.CommandLine.Command

partial def readLines (input : IO.FS.Stream) (text : String) : IO String := do
  let line ← input.getLine
  if line.isEmpty then return text
  readLines input (text ++ line)

def main (args : List String) : IO UInt32 := do
  let reply ← match RecordFilter.CommandLine.Command.read args with
    | .error stop => pure (.ofStop stop)
    | .ok command => do
      let input ← if command.readsInput then some <$> readLines (← IO.getStdin) "" else pure none
      pure (command.run input)
  IO.print reply.output
  IO.eprint reply.diagnostics
  return reply.code.toUInt32
