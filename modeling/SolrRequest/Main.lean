import SolrRequest.CommandLine.Run

/-!
# The program

Reads the arguments, the environment and the files, and carries out the command line.
-/

namespace SolrRequest

/-- The text of bytes, if they are valid. -/
def validText? (bytes : ByteArray) : Option String :=
  String.fromUTF8? bytes

/-- The file system and the standard input of the process. -/
def processHost : Host IO where
  read path := do
    try
      return validText? (← IO.FS.readBinFile path)
    catch _ => return none
  input := do
    try
      let mut bytes := ByteArray.empty
      let stdin ← IO.getStdin
      repeat
        let chunk ← stdin.read 65536
        if chunk.isEmpty then break
        bytes := bytes ++ chunk
      return validText? bytes
    catch _ => return none

/-- Splits the text of an environment variable at its first equals sign. -/
def splitVariable (s : List Char) : String × String :=
  (String.ofList (s.takeWhile (· != '=')), String.ofList ((s.dropWhile (· != '=')).drop 1))

/-- The variables that are set, as the system shows them to the process. -/
def processVariables : IO Variables := do
  try
    let text ← IO.FS.readFile "/proc/self/environ"
    let entries := (text.splitOn "\x00").filter (· ≠ "")
    return entries.map fun e => splitVariable e.toList
  catch _ => return []

end SolrRequest

open SolrRequest

def main (args : List String) : IO UInt32 := do
  let outcome ← run processHost (← processVariables) args
  (← IO.getStdout).putStr outcome.output
  (← IO.getStderr).putStr outcome.complaint
  return outcome.status.toUInt32
