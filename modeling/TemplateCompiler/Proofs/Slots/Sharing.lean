import Mathlib.Logic.Function.Basic
import TemplateCompiler.Proofs.Slots.Request

namespace TemplateCompiler.Slots

inductive Request where
  | get (name : String)
  | putFact (name fact : String) (v : Value)
  | contains (name : String)

def Request.asked : Request → Option String
  | .get name => some name
  | .putFact name _ _ => some name
  | .contains _ => none

inductive Answer where
  | slot (a : Option Value)
  | put (result : Except Fault Value)
  | known (b : Bool)

/-- A request, or a fact that is put into an object by one who holds it. -/
inductive Deed where
  | request (r : Request)
  | fill (object : Nat) (fact : String) (v : Value)

def Deed.asked : Deed → Option String
  | .request r => r.asked
  | .fill _ _ _ => none

def requested (deeds : List Deed) : List String := deeds.filterMap Deed.asked

def Deed.puts (slotOf : String → Option Nat) (i : Nat) : Deed → List (String × Value)
  | .request (.putFact name fact v) => if slotOf name = some i then [(fact, v)] else []
  | .request _ => []
  | .fill object fact v => if object = i then [(fact, v)] else []

/-- What an object holds after a fact was put into it. One that is no record refuses facts. -/
def filled (holder : Value) (fact : String) (v : Value) : Value := (withFact holder fact v).toOption.getD holder

def filledAll (holder : Value) (facts : List (String × Value)) : Value :=
  facts.foldl (fun holder entry => filled holder entry.1 entry.2) holder

def latest? (facts : List (String × Value)) (fact : String) : Option Value := facts.reverse.lookup fact

theorem filledAll_of_refused {holder : Value} (refused : ∀ fields, holder ≠ .record fields)
    (facts : List (String × Value)) : filledAll holder facts = holder := by
  induction facts with
  | nil => rfl
  | cons entry rest ih =>
    have same : filled holder entry.1 entry.2 = holder := by
      cases holder with
      | record fields => exact absurd rfl (refused fields)
      | _ => rfl
    rw [filledAll, List.foldl_cons, same]
    exact ih

theorem filledAll_record (facts fields : List (String × Value)) :
    ∃ fields', filledAll (.record fields) facts = .record fields' ∧
      ∀ fact, fields'.lookup fact = (latest? facts fact).or (fields.lookup fact) := by
  induction facts generalizing fields with
  | nil => exact ⟨fields, rfl, fun _ => rfl⟩
  | cons entry rest ih =>
    obtain ⟨fields', same, found⟩ := ih (Ordered.put fields entry.1 entry.2)
    refine ⟨fields', same, fun fact => ?_⟩
    rw [found, Ordered.lookup_put, latest?, latest?, List.reverse_cons, List.lookup_append, Option.or_assoc]
    by_cases here : fact = entry.1
    · rw [if_pos here, here, List.lookup_cons_self, Option.some_or]
    · rw [if_neg here, List.lookup_cons, beq_eq_false_iff_ne.mpr here, List.lookup_nil, Option.none_or]

/-- Slots that are numbers of objects, and what the objects hold. -/
structure Shared where
  slots : Slots Nat := {}
  objects : Nat → Value

namespace Shared

variable {make : Nat → Option Nat} {start : Nat → Value} {s : Shared} {d : Deed} {deeds : List Deed}
  {name other fact : String} {v : Value} {i : Nat}

def get (make : Nat → Option Nat) (s : Shared) (name : String) : Option Nat × Shared :=
  ((s.slots.get make name).1, { s with slots := (s.slots.get make name).2 })

def held (s : Shared) (slot : Option Nat) : Value := (slot.map s.objects).getD .null

def fill (s : Shared) (slot : Option Nat) (fact : String) (v : Value) : Shared :=
  match slot with
  | none => s
  | some i => { s with objects := Function.update s.objects i (filled (s.objects i) fact v) }

def serve (make : Nat → Option Nat) (s : Shared) : Request → Answer × Shared
  | .get name =>
    let (slot, s) := s.get make name
    (.slot (slot.map s.objects), s)
  | .putFact name fact v =>
    let (slot, s) := s.get make name
    (.put (withFact (s.held slot) fact v), s.fill slot fact v)
  | .contains name => (.known (s.slots.contains name), s)

def next (make : Nat → Option Nat) (s : Shared) : Deed → Shared
  | .request r => (s.serve make r).2
  | .fill object fact v => s.fill (some object) fact v

/-- What is left after some deeds, with no slots at first and objects that hold what `start` says. -/
def run (make : Nat → Option Nat) (start : Nat → Value) (deeds : List Deed) : Shared :=
  deeds.foldl (next make) ⟨{}, start⟩

def shown? (s : Shared) (name : String) : Option Value := (s.slots.slot? name).map s.objects

theorem run_concat (make : Nat → Option Nat) (start : Nat → Value) (deeds : List Deed) (d : Deed) :
    run make start (deeds ++ [d]) = (run make start deeds).next make d := List.foldl_append

theorem requested_concat (deeds : List Deed) (d : Deed) :
    requested (deeds ++ [d]) = requested deeds ++ d.asked.toList := by
  rw [requested, List.filterMap_append, List.filterMap_cons]
  cases d.asked <;> rfl

theorem slots_fill (s : Shared) (slot : Option Nat) (fact : String) (v : Value) :
    (s.fill slot fact v).slots = s.slots := by
  cases slot <;> rfl

theorem objects_fill (s : Shared) (slot : Option Nat) (fact : String) (v : Value) (i : Nat) :
    (s.fill slot fact v).objects i = filledAll (s.objects i) (if slot = some i then [(fact, v)] else []) := by
  cases slot with
  | none => rfl
  | some object =>
    show Function.update s.objects object (filled (s.objects object) fact v) i = _
    by_cases here : object = i
    · rw [if_pos (congrArg some here), here, Function.update_self]
      rfl
    · rw [if_neg (mt Option.some.inj here), Function.update_of_ne (Ne.symm here)]
      rfl

theorem slots_next (make : Nat → Option Nat) (s : Shared) (d : Deed) :
    (s.next make d).slots = ask make s.slots d.asked.toList := by
  cases d with
  | fill object fact v => rfl
  | request r =>
    cases r with
    | get name => rfl
    | putFact name fact v => exact slots_fill _ _ _ _
    | contains name => rfl

theorem slots_run (make : Nat → Option Nat) (start : Nat → Value) (deeds : List Deed) :
    (run make start deeds).slots = ask make {} (requested deeds) := by
  induction deeds using List.reverseRecOn with
  | nil => rfl
  | append_singleton deeds d ih => rw [run_concat, slots_next, ih, requested_concat, ask_append]

/-- An object changes by what is put into it and by nothing else. -/
theorem objects_next (make : Nat → Option Nat) (s : Shared) (d : Deed) (i : Nat) :
    (s.next make d).objects i = filledAll (s.objects i) (d.puts (fun name => (s.slots.get make name).1) i) := by
  cases d with
  | fill object fact v =>
    rw [next, objects_fill]
    simp only [Deed.puts, Option.some.injEq]
  | request r =>
    cases r with
    | get name => rfl
    | putFact name fact v => exact objects_fill _ _ _ _ _
    | contains name => rfl

/-! Slots that stay -/

theorem slot?_next_of_made (made : s.slots.slot? name = some i) (make : Nat → Option Nat) (d : Deed) :
    (s.next make d).slots.slot? name = some i := by
  rw [slots_next]
  cases d.asked with
  | none => exact made
  | some asked =>
    refine (slot?_get make s.slots asked name).trans ?_
    split
    · next same => rw [← same, get_of_made made]
    · exact made

theorem slot?_next_of_unasked (unasked : d.asked ≠ some other) :
    (s.next make d).slots.slot? other = s.slots.slot? other := by
  rw [slots_next]
  cases asked : d.asked with
  | none => rfl
  | some name =>
    have different : other ≠ name := fun same => unasked (asked.trans (congrArg some same.symm))
    exact (slot?_get make s.slots name other).trans (if_neg different)

theorem objects_next_of_request {r : Request}
    (elsewhere : ∀ name, r.asked = some name → (s.next make (.request r)).slots.slot? name ≠ some i) :
    (s.next make (.request r)).objects i = s.objects i := by
  rw [objects_next]
  cases r with
  | get name => rfl
  | contains name => rfl
  | putFact name fact v =>
    have given : (s.next make (.request (.putFact name fact v))).slots.slot? name = (s.slots.get make name).1 := by
      rw [slots_next]
      exact slot?_get_self make s.slots name
    rw [Deed.puts, if_neg (given ▸ elsewhere name rfl)]
    rfl

theorem objects_next_of_fill {object : Nat} (different : i ≠ object) :
    (s.next make (.fill object fact v)).objects i = s.objects i := by
  rw [objects_next, Deed.puts, if_neg (Ne.symm different)]
  rfl

theorem separate_run (apart : Apart make) (start : Nat → Value) (deeds : List Deed) :
    Separate make (run make start deeds).slots := by
  rw [slots_run]
  exact separate_ask apart _

theorem shown?_next_of_unasked (apart : Apart make) {r : Request} (unasked : r.asked ≠ some other) :
    ((run make start deeds).next make (.request r)).shown? other = (run make start deeds).shown? other := by
  have separate := separate_run apart start (deeds ++ [.request r])
  rw [run_concat] at separate
  have kept : ((run make start deeds).next make (.request r)).slots.slot? other =
      (run make start deeds).slots.slot? other := slot?_next_of_unasked unasked
  rw [shown?, shown?, kept]
  cases found : (run make start deeds).slots.slot? other with
  | none => rfl
  | some i =>
    rw [found] at kept
    refine congrArg some (objects_next_of_request fun name asked here => unasked ?_)
    rw [asked, separate.apart name other i here kept]

/-! What a slot holds, where the maker never declines -/

/-- The slot of a name, if these are the names in the order in which they were new. -/
def slotAmong (make : Nat → Option Nat) (names : List String) (name : String) : Option Nat := make (names.idxOf name)

/-- What was put into an object, by the names that it is the slot of and by those who held it. -/
def factsOf (make : Nat → Option Nat) (names : List String) (i : Nat) (deeds : List Deed) : List (String × Value) :=
  deeds.flatMap (Deed.puts (slotAmong make names) i)

theorem slotAmong_of_prefix {names more : List String} (begins : names <+: more) (member : name ∈ names) :
    slotAmong make more name = slotAmong make names name := by
  obtain ⟨rest, rfl⟩ := begins
  rw [slotAmong, slotAmong, List.idxOf_append, if_pos member]

theorem eraseDups_begins (names more : List String) : names.eraseDups <+: (names ++ more).eraseDups := by
  rw [List.eraseDups_append]
  exact List.prefix_append _ _

theorem puts_of_prefix (gives : ∀ k, make k ≠ none) {before names : List String}
    (begins : (before ++ d.asked.toList).eraseDups <+: names) (i : Nat) :
    d.puts (fun name => ((ask make {} before).get make name).1) i = d.puts (slotAmong make names) i := by
  cases d with
  | fill object fact v => rfl
  | request r =>
    cases r with
    | get name => rfl
    | contains name => rfl
    | putFact name fact v =>
      have member : name ∈ (before ++ [name]).eraseDups :=
        List.mem_eraseDups.mpr (List.mem_append_right _ (List.mem_singleton_self name))
      rw [Deed.puts, Deed.puts, slot_of_gives gives, slotAmong_of_prefix begins member]
      rfl

theorem objects_run (gives : ∀ k, make k ≠ none) (start : Nat → Value) (deeds : List Deed) {names : List String}
    (begins : (requested deeds).eraseDups <+: names) (i : Nat) :
    (run make start deeds).objects i = filledAll (start i) (factsOf make names i deeds) := by
  -- with more names than were asked for so far, since the same names have to do for all the deeds
  induction deeds using List.reverseRecOn with
  | nil => rfl
  | append_singleton deeds d ih =>
    rw [requested_concat] at begins
    rw [run_concat, objects_next, ih ((eraseDups_begins _ _).trans begins), slots_run, puts_of_prefix gives begins,
      factsOf, factsOf, List.flatMap_append, List.flatMap_singleton, filledAll, filledAll, filledAll,
      List.foldl_append]

theorem get_of_run (gives : ∀ k, make k ≠ none) (start : Nat → Value) (deeds : List Deed) {k : Nat}
    (listed : (requested deeds).eraseDups[k]? = some name) :
    ∃ i, make k = some i ∧ (run make start deeds).get make name = (some i, run make start deeds) := by
  obtain ⟨i, given⟩ := Option.ne_none_iff_exists'.mp (gives k)
  have made : (run make start deeds).slots.slot? name = some i := by
    rw [slots_run, (filled_ask gives _).made k name (by rwa [names_ask]), given]
  refine ⟨i, given, ?_⟩
  rw [get, get_of_made made]

end Shared

end TemplateCompiler.Slots
