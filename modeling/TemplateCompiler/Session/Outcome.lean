import TemplateCompiler.Session.Action

namespace TemplateCompiler

def Buffer.changesSince (before after : Buffer) : Except Fault (List (String × String)) := do
  let old ← before.contents
  return (← after.contents).filter fun c => old.lookup c.1 != some c.2

structure Outcome where
  answer : Except Fault Answer
  trace : List TraceItem
  before : Session
  after : Session

namespace Outcome

def changes (o : Outcome) : Except Fault (List (String × String)) := o.before.buffer.changesSince o.after.buffer

def reports (o : Outcome) : List Report := o.after.reports.drop o.before.reports.length

def notes (o : Outcome) : List Note := o.after.notes.drop o.before.notes.length

end Outcome

namespace Session

/-- Performs an action. What it did before a failure stays done. -/
def perform (handling : Handling) (s : Session) (action : Action) : Outcome :=
  match Play.run handling.handler none action { session := s } with
  | .ok answer p => ⟨.ok answer, p.trace, s, p.session⟩
  | .error fault p => ⟨.error fault, p.trace, s, p.session⟩

def performAll (handling : Handling) (s : Session) : List Action → List Outcome × Session
  | [] => ([], s)
  | action :: rest =>
    let o := s.perform handling action
    let (os, last) := performAll handling o.after rest
    (o :: os, last)

end Session

end TemplateCompiler
