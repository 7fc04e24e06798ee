namespace TemplateCompiler.Path

def root (path : String) : String :=
  match path.toList with
  | '/' :: '/' :: '/' :: _ => "/"
  | '/' :: '/' :: _ => "//"
  | '/' :: _ => "/"
  | _ => ""

def normal (path : String) : String :=
  let parts := (path.splitOn "/").filter fun part => part ≠ "" && part ≠ "."
  let whole := root path ++ String.intercalate "/" parts
  if whole = "" then "." else whole

def nameLimit : Nat := 255

def limit : Nat := 4095

end TemplateCompiler.Path
