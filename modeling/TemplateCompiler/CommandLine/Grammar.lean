import TemplateCompiler.Text.DecimalDigit
import TemplateCompiler.Text.Quoted

namespace TemplateCompiler.CommandLine

structure Opt (α : Type) where
  id : α
  names : List String
  takesValue : Bool := false
  isRequired : Bool := false

/-- A grammar has one operand, which takes one word or also all words after it. -/
structure Grammar (α : Type) where
  program : String
  usage : String
  details : String
  options : List (Opt α)
  operand : String
  takesRest : Bool

inductive Taken (α : Type) where
  | option (o : Opt α) (words : List String)
  | operand (words : List String)

structure Match (α : Type) where
  option : Opt α
  name : String
  value : Option String := none

inductive Token (α : Type) where
  | plain
  | separator
  | unknown
  | option (m : Match α)

/-- What the words gave before anything was wrong, and then either what was wrong or the words left over. -/
structure Scan (α : Type) where
  taken : List (Taken α)
  ending : Except String (List String)

variable {α : Type}

def Token.isSeparator : Token α → Bool
  | .separator => true
  | _ => false

def Token.isOption : Token α → Bool
  | .unknown | .option _ => true
  | _ => false

def Opt.title (o : Opt α) : String := String.intercalate "/" o.names

def Opt.complaint (o : Opt α) (text : String) : String := "argument " ++ o.title ++ ": " ++ text

def Opt.complaintAbout (o : Opt α) (value : String) : String :=
  o.complaint ("ignored explicit argument " ++ Text.quoted value)

namespace Grammar

def find? (g : Grammar α) (name : String) : Option (Opt α) := g.options.find? (·.names.contains name)

def allNames (g : Grammar α) : List (String × Opt α) := g.options.flatMap fun o => o.names.map (·, o)

def cutAtEquals (word : String) : String × Option String :=
  let cs := word.toList
  match cs.dropWhile (· ≠ '=') with
  | [] => (word, none)
  | _ :: value => (String.ofList (cs.takeWhile (· ≠ '=')), some (String.ofList value))

def looksNegative (word : String) : Bool :=
  let isDigit := fun c => (Text.digitValue? c).isSome
  match word.toList with
  | '-' :: rest =>
    let whole := rest.takeWhile isDigit
    let ended := fun cs => cs == [] || cs == ['\n']
    match rest.dropWhile isDigit with
    | '.' :: places => !(places.takeWhile isDigit).isEmpty && ended (places.dropWhile isDigit)
    | cs => !whole.isEmpty && ended cs
  | _ => false

def candidates (g : Grammar α) (word : String) : List (Match α) :=
  match word.toList with
  | '-' :: '-' :: _ =>
    let (start, value) := cutAtEquals word
    g.allNames.filterMap fun (name, o) =>
      if start.isPrefixOf name then some { option := o, name, value } else none
  | '-' :: c :: rest =>
    g.allNames.filterMap fun (name, o) =>
      if name = String.ofList ['-', c] then some { option := o, name, value := some (String.ofList rest) }
      else if word.isPrefixOf name then some { option := o, name }
      else none
  | _ => []

def token (g : Grammar α) (word : String) : Except String (Token α) :=
  match word.toList with
  | '-' :: _ :: _ =>
    match g.find? word with
    | some o => .ok (.option { option := o, name := word })
    | none =>
      let (name, value) := cutAtEquals word
      match value, g.find? name with
      | some value, some o => .ok (.option { option := o, name, value := some value })
      | _, _ =>
        match g.candidates word with
        | [m] => .ok (.option m)
        | [] => .ok (if looksNegative word || word.toList.contains ' ' then .plain else .unknown)
        | ms =>
          .error ("ambiguous option: " ++ word ++ " could match " ++ String.intercalate ", " (ms.map Match.name))
  | _ => .ok .plain

def tokens (g : Grammar α) : List String → Except String (List (String × Token α))
  | [] => .ok []
  | word :: rest =>
    if word = "--" then .ok ((word, .separator) :: rest.map (·, .plain))
    else do
      let t ← g.token word
      let ts ← g.tokens rest
      return (word, t) :: ts

/-- Words without the first separator among them, which is no part of a value even where it stands in its place. -/
def withoutSeparator (words : List String) : List String := words.erase "--"

structure Cluster (α : Type) where
  taken : List (Taken α)
  usesNext : Bool := false

def alone (o : Opt α) (next : Option (String × Token α)) : Except String (Cluster α) :=
  if o.takesValue then
    match next with
    | some (word, .plain) => .ok { taken := [.option o (withoutSeparator [word])], usesNext := true }
    | _ => .error (o.complaint "expected one argument")
  else .ok { taken := [.option o []] }

/-- An option with a value in its word. The value of a single-letter option that takes none is the letters of more such
    options, and the first letter that is none is a fault of the option before it. -/
def withValue (g : Grammar α) (o : Opt α) (isLetter : Bool) (next : Option (String × Token α)) :
    List Char → Except String (Cluster α)
  | [] => if o.takesValue then .ok { taken := [.option o [""]] } else .error (o.complaintAbout "")
  | c :: rest =>
    let value := String.ofList (c :: rest)
    if o.takesValue then .ok { taken := [.option o (withoutSeparator [value])] }
    else
      match if isLetter then g.find? (String.ofList ['-', c]) else none with
      | none => .error (o.complaintAbout value)
      | some further => do
        let more ← if rest.isEmpty then alone further next else withValue g further true next rest
        return { more with taken := .option o [] :: more.taken }

def cluster (g : Grammar α) (m : Match α) (next : Option (String × Token α)) : Except String (Cluster α) :=
  match m.value with
  | none => alone m.option next
  | some value => withValue g m.option (!"--".isPrefixOf m.name) next value.toList

def operandAt (g : Grammar α) (words : List (String × Token α)) :
    Option (List String × List (String × Token α)) :=
  let separators := words.takeWhile (·.2.isSeparator)
  match words.dropWhile (·.2.isSeparator) with
  | (word, .plain) :: rest =>
    if g.takesRest then some (words.map Prod.fst, [])
    else
      let after := rest.takeWhile (·.2.isSeparator)
      some ((separators.map Prod.fst ++ word :: after.map Prod.fst), rest.dropWhile (·.2.isSeparator))
  | _ => none

def operandWords (g : Grammar α) (words : List String) : List String :=
  if g.takesRest then words else withoutSeparator words

/-- Splits the words, whose number is within the fuel. `pending` tells that the operand has not been given. -/
def split (g : Grammar α) : Nat → Bool → List (String × Token α) → Scan α
  | 0, _, words => ⟨[], .ok (words.map Prod.fst)⟩
  | fuel + 1, pending, words =>
    let lead := words.takeWhile (!·.2.isOption)
    let operand := if pending then g.operandAt words else none
    match operand, words.dropWhile (!·.2.isOption) with
    | some (own, rest), _ =>
      let scan := split g fuel false rest
      { scan with taken := .operand (g.operandWords own) :: scan.taken }
    | none, [] => ⟨[], .ok (lead.map Prod.fst)⟩
    | none, (word, t) :: rest =>
      let scan : Scan α := match t with
        | .option m =>
          match g.cluster m rest.head? with
          | .error text => ⟨[], .error text⟩
          | .ok c =>
            let scan := split g fuel pending (if c.usesNext then rest.tail else rest)
            { scan with taken := c.taken ++ scan.taken }
        | _ =>
          let scan := split g fuel pending rest
          { scan with ending := scan.ending.map (word :: ·) }
      { scan with ending := scan.ending.map (lead.map Prod.fst ++ ·) }

def scan (g : Grammar α) (words : List String) : Scan α :=
  match g.tokens words with
  | .error text => ⟨[], .error text⟩
  | .ok ts => split g (ts.length + 1) true ts

def missing (g : Grammar α) (taken : List (Taken α)) : List String :=
  let hasOperand := taken.any fun
    | .operand _ => true
    | _ => false
  let given := taken.flatMap fun
    | .option o _ => o.names
    | _ => []
  (if hasOperand then [] else [g.operand])
    ++ (g.options.filter fun o => o.isRequired && !o.names.any given.contains).map Opt.title

def leftOver (g : Grammar α) (s : Scan α) : Except String (List String) := do
  let extra ← s.ending
  let missing := g.missing s.taken
  if missing.isEmpty then return extra
  else throw ("the following arguments are required: " ++ String.intercalate ", " missing)

def help (g : Grammar α) : String := g.usage ++ "\n" ++ g.details

def errorText (g : Grammar α) (text : String) : String := g.usage ++ g.program ++ ": error: " ++ text ++ "\n"

end Grammar

end TemplateCompiler.CommandLine
