import TemplateCompiler.CommandLine.Render

open TemplateCompiler

def readOctets : CommandLine.Input → IO (Except Fault (List UInt8))
  | .standard => do return .ok (← (← IO.getStdin).readBinToEnd).toList
  | .file path => do
    try
      return .ok (← IO.FS.readBinFile path).toList
    catch
      | .noFileOrDirectory .. => return .error (.fileMissing path)
      | .inappropriateType _ code _ =>
        return .error (if code = 21 then .fileIsDirectory path else .pathNotDirectory path)
      | .invalidArgument .. =>
        return .error (if path.toList.contains '\x00' then .pathHoldsNull else .pathTooLong path)
      | e => throw e

def printed (p : CommandLine.Printed) : IO UInt32 := do
  IO.eprint p.err
  IO.print p.out
  match p.exit with
  | .ok code => return code.toUInt32
  | .error fault =>
    IO.eprintln fault.message
    return 1

def main (words : List String) : IO UInt32 := do
  match CommandLine.request words with
  | .error stop => printed stop.printed
  | .ok request =>
    let source ← readOctets request.render.input
    let seed ← IO.rand 0 999999
    printed (request.run (.random seed) source)
