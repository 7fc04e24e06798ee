import TemplateCompiler.Compiler.Basic

namespace TemplateCompiler.Compiler

open Session

def mainMacro : String := "main"

def macroBodies (b : Buffer) (macros : Slots MacroSlot) : Except Fault String :=
  String.join <$> ((macros.names.map blockOf).filter b.has).mapM b.content

def classLines (classpath : Value) (declaration body : String) : List String :=
  ["Aria.classDefinition(\x7b", " $classpath: " ++ classpath.json ++ ",",
    if declaration = "" then "" else " " ++ declaration, " $prototype: \x7b", Text.dropEndNewlines body, " \x7d",
    "\x7d);"].filter (· ≠ "")

def classText (classpath : Value) : Act String := do
  let s ← get
  let body ← Act.ofExcept (macroBodies s.buffer s.macros)
  let lines := classLines classpath (← declaration) body
  return String.intercalate "\n" lines ++ "\n"

/-- Compiles a template into the text of a class, or none if errors were reported. -/
def compileTemplate (statements : List Statement) (classpath : Value) : Act (Option String) := do
  compileAll (statements.map some)
  if !(← get).macros.contains mainMacro then
    reportWarning none Report.missingMainMacro (.list [.text mainMacro])
  if (← get).failed then
    note (.generationFailed classpath.plain)
    return none
  else return some (← classText classpath)

end TemplateCompiler.Compiler
