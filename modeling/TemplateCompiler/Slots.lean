import TemplateCompiler.Fault
import TemplateCompiler.Ordered

namespace TemplateCompiler

/-- Slots in the order of first request, and how often the maker was asked. -/
structure Slots (α : Type) where
  entries : List (String × Option α) := []
  calls : Nat := 0
  deriving Repr

namespace Slots

variable {α : Type}

def contains (slots : Slots α) (name : String) : Bool := (slots.entries.lookup name).isSome

def size (slots : Slots α) : Nat := slots.entries.length

def names (slots : Slots α) : List String := slots.entries.map Prod.fst

def slot? (slots : Slots α) (name : String) : Option α := (slots.entries.lookup name).join

/-- The slot of a name, made by `make` if it is missing or empty. The argument of `make` counts its earlier calls. -/
def get (make : Nat → Option α) (slots : Slots α) (name : String) : Option α × Slots α :=
  match slots.slot? name with
  | some a => (some a, slots)
  | none => (make slots.calls, ⟨Ordered.put slots.entries name (make slots.calls), slots.calls + 1⟩)

theorem get_of_made {make : Nat → Option α} {slots : Slots α} {name : String} {a : α}
    (made : slots.slot? name = some a) : slots.get make name = (some a, slots) := by
  rw [get, made]

theorem get_of_empty {make : Nat → Option α} {slots : Slots α} {name : String} (empty : slots.slot? name = none) :
    slots.get make name =
      (make slots.calls, ⟨Ordered.put slots.entries name (make slots.calls), slots.calls + 1⟩) := by
  rw [get, empty]

def put (slots : Slots α) (name : String) (a : α) : Slots α :=
  { slots with entries := Ordered.put slots.entries name (some a) }

def withFact (holder : Value) (fact : String) (v : Value) : Except Fault Value :=
  match holder with
  | .record fields => .ok (.record (Ordered.put fields fact v))
  | other => .error (.noAttribute other.kind fact)

def putFact (make : Nat → Option Value) (slots : Slots Value) (name fact : String) (v : Value) :
    Except Fault Value × Slots Value :=
  let (slot, slots) := slots.get make name
  match withFact (slot.getD .null) fact v with
  | .ok filled => (.ok filled, slots.put name filled)
  | .error fault => (.error fault, slots)

section

variable {make : Nat → Option Value} {slots slots' : Slots Value} {slot : Option Value} {name fact : String} {v : Value}

theorem putFact_of_ok {filled : Value} (given : slots.get make name = (slot, slots'))
    (took : withFact (slot.getD .null) fact v = .ok filled) :
    slots.putFact make name fact v = (.ok filled, slots'.put name filled) := by
  simp only [putFact, given, took]

theorem putFact_of_error {fault : Fault} (given : slots.get make name = (slot, slots'))
    (refused : withFact (slot.getD .null) fact v = .error fault) :
    slots.putFact make name fact v = (.error fault, slots') := by
  simp only [putFact, given, refused]

end

end Slots

end TemplateCompiler
