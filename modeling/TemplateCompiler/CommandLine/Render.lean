import TemplateCompiler.CommandLine.Grammar
import TemplateCompiler.Compiler.ClassText
import TemplateCompiler.Json.Reader
import TemplateCompiler.Path
import TemplateCompiler.Statement.Loader
import TemplateCompiler.Text.Octets

namespace TemplateCompiler.CommandLine

inductive MainOption where
  | help | verbose
  deriving DecidableEq, Repr

def mainGrammar : Grammar MainOption where
  program := "classwriter"
  usage := "usage: classwriter [-h] [-v] \x7brender\x7d ...\n"
  details := "positional arguments:\n" ++
    "  \x7brender\x7d\n" ++
    "    render       Render a JSON statement list into a class definition\n" ++
    "\n" ++
    "options:\n" ++
    "  -h, --help     show this help message and exit\n" ++
    "  -v, --verbose  Log writer activity to stderr\n"
  options := [{ id := .help, names := ["-h", "--help"] }, { id := .verbose, names := ["-v", "--verbose"] }]
  operand := "\x7brender\x7d"
  takesRest := true

inductive RenderOption where
  | help | classpath | indent | noIndent
  deriving DecidableEq, Repr

def renderGrammar : Grammar RenderOption where
  program := "classwriter render"
  usage := "usage: classwriter render [-h] --classpath CLASSPATH [--indent INDENT]\n" ++
    "                          [--no-indent]\n" ++
    "                          file\n"
  details := "positional arguments:\n" ++
    "  file                  JSON file with a list of statements (or a root object\n" ++
    "                        with `content`); - for stdin\n" ++
    "\n" ++
    "options:\n" ++
    "  -h, --help            show this help message and exit\n" ++
    "  --classpath CLASSPATH\n" ++
    "                        Classpath of the generated class (e.g. app.tpl.Main)\n" ++
    "  --indent INDENT       Spaces per indentation level\n" ++
    "  --no-indent           Disable indentation\n"
  options := [{ id := .help, names := ["-h", "--help"] },
    { id := .classpath, names := ["--classpath"], takesValue := true, isRequired := true },
    { id := .indent, names := ["--indent"], takesValue := true },
    { id := .noIndent, names := ["--no-indent"] }]
  operand := "file"
  takesRest := false

structure RenderRequest where
  file : String := ""
  classpath : Value := .text ""
  indent : Level := .count 1
  noIndent : Bool := false
  deriving Repr, BEq

def valueOf : List String → Value
  | [word] => .text word
  | words => .list (words.map .text)

inductive Input where
  | standard
  | file (path : String)
  deriving DecidableEq, Repr

def RenderRequest.input (request : RenderRequest) : Input :=
  if request.file = "-" then .standard else .file (Path.normal request.file)

inductive Stop where
  | help (text : String)
  | misuse (text : String)
  deriving DecidableEq, Repr

def RenderRequest.take (request : RenderRequest) : Taken RenderOption → Except Stop RenderRequest
  | .operand words => .ok { request with file := words.headD "" }
  | .option o words =>
    match o.id with
    | .help => .error (.help renderGrammar.help)
    | .classpath => .ok { request with classpath := valueOf words }
    | .noIndent => .ok { request with noIndent := true }
    | .indent =>
      match valueOf words with
      | .text text =>
        match Numeral.toInt text with
        | .ok n => .ok { request with indent := .count n }
        | .error _ =>
          .error (.misuse (renderGrammar.errorText (o.complaint ("invalid int value: " ++ Text.quoted text))))
      | v => .ok { request with indent := .ofValue v }

def renderWords (words : List String) : Except Stop (RenderRequest × List String) := do
  let scan := renderGrammar.scan words
  let request ← scan.taken.foldlM RenderRequest.take {}
  match renderGrammar.leftOver scan with
  | .ok extra => return (request, extra)
  | .error text => throw (.misuse (renderGrammar.errorText text))

structure Request where
  verbose : Bool := false
  render : RenderRequest := {}
  extra : List String := []
  deriving Repr, BEq

def Request.take (request : Request) : Taken MainOption → Except Stop Request
  | .option o _ =>
    match o.id with
    | .help => .error (.help mainGrammar.help)
    | .verbose => .ok { request with verbose := true }
  | .operand words => do
    let command := words.headD ""
    if command = "render" then
      let (render, extra) ← renderWords words.tail
      return { request with render, extra }
    else
      throw (.misuse (mainGrammar.errorText
        ("argument \x7brender\x7d: invalid choice: " ++ Text.quoted command ++ " (choose from 'render')")))

def request (words : List String) : Except Stop Request := do
  let scan := mainGrammar.scan words
  let request ← scan.taken.foldlM Request.take {}
  let misuse := fun text => Stop.misuse (mainGrammar.errorText text)
  match mainGrammar.leftOver scan with
  | .error text => throw (misuse text)
  | .ok extra =>
    let extra := extra ++ request.extra
    if extra.isEmpty then return request
    else throw (misuse ("unrecognized arguments: " ++ String.intercalate " " extra))

structure Printed where
  exit : Except Fault Nat
  out : String := ""
  err : String := ""

def Stop.printed : Stop → Printed
  | .help text => { exit := .ok 0, out := text }
  | .misuse text => { exit := .ok 2, err := text }

def statementsOf (json : String) : Except Fault (List Statement) := do
  match ← Json.read json with
  | .record fields => Statement.allOf ((field? fields "content").getD (.list []))
  | v => Statement.allOf v

def lines (items : List String) : String := String.join (items.map (· ++ "\n"))

def Request.logText (request : Request) (s : Session) : String :=
  if request.verbose then lines (s.notes.map fun n => n.line.render) else ""

def RenderRequest.unit (request : RenderRequest) : Except Fault (Option String) :=
  if request.noIndent then .ok none else some <$> request.indent.indent " "

def Request.load (request : Request) (source : Except Fault (List UInt8)) :
    Except Fault (List Statement × Option String) := do
  let statements ← statementsOf (← Octets.toText (← source))
  let unit ← request.render.unit
  return (statements, unit)

def Request.printed (request : Request) : EStateM.Result Fault Session (Option String) → Printed
  | .error fault s => { exit := .error fault, err := request.logText s }
  | .ok text s =>
    let reported := request.logText s ++ lines (s.reports.map Report.summary)
    match text with
    | some text => { exit := .ok 0, out := text, err := reported }
    | none => { exit := .ok 1, err := reported ++ request.render.classpath.plain ++ ": generation failed\n" }

def Request.run (request : Request) (digits : Digits) (source : Except Fault (List UInt8)) : Printed :=
  match request.load source with
  | .error fault => { exit := .error fault }
  | .ok (statements, indentUnit) =>
    let start := { Session.fresh { indentUnit } digits .collect with isLogged := request.verbose }
    request.printed (Compiler.compileTemplate statements request.render.classpath start)

end TemplateCompiler.CommandLine
