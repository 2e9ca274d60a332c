import BuildAlign.CommandLine.Run

/-!
The program: aligns the versions of a multi-module build.
-/

namespace BuildAlign

def faultOf : IO.Error → FileFault
  | .noFileOrDirectory .. => .notFound
  | .inappropriateType _ code _ => if code = 21 then .isDirectory else .notDirectory
  | e => .other (toString e)

def systemFiles : Files IO where
  read path := do
    try
      return .ok (← IO.FS.readFile path)
    catch e => return .error (faultOf e)
  write path text := do
    try
      IO.FS.writeFile path text
      return .ok ()
    catch e => return .error (faultOf e)

end BuildAlign

open BuildAlign in
def main (arguments : List String) : IO UInt32 := do
  let config ← IO.getEnv configVariable
  let env : Environment := fun name => if name = configVariable then config else none
  let ending ← CommandLine.run systemFiles env arguments
  (← IO.getStdout).putStr ending.out
  (← IO.getStderr).putStr ending.err
  return ending.code.toUInt32
