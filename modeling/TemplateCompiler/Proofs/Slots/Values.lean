import TemplateCompiler.Proofs.Slots.Sharing

namespace TemplateCompiler.Slots

def serve (make : Nat → Option Value) (slots : Slots Value) : Request → Answer × Slots Value
  | .get name =>
    let (slot, slots) := slots.get make name
    (.slot slot, slots)
  | .putFact name fact v =>
    let (result, slots) := slots.putFact make name fact v
    (.put result, slots)
  | .contains name => (.known (slots.contains name), slots)

def serveAll {σ : Type} (serve : σ → Request → Answer × σ) (s : σ) : List Request → List Answer × σ
  | [] => ([], s)
  | r :: rest =>
    let (answer, s) := serve s r
    let (answers, s) := serveAll serve s rest
    (answer :: answers, s)

namespace Shared

variable {make : Nat → Option Nat} {start : Nat → Value} {values : Nat → Option Value} {s : Shared}
  {name fact : String} {v a : Value} {i : Nat}

/-- The slots with what their objects hold. -/
def view (s : Shared) : Slots Value where
  entries := s.slots.entries.map fun entry => (entry.1, entry.2.map s.objects)
  calls := s.slots.calls

theorem names_view (s : Shared) : s.view.names = s.slots.names := by
  rw [names, view, List.map_map]
  rfl

theorem slot?_view (s : Shared) (name : String) : s.view.slot? name = s.shown? name := by
  rw [slot?, view, Ordered.lookup_map (Option.map s.objects), shown?, slot?]
  cases s.slots.entries.lookup name <;> rfl

theorem contains_view (s : Shared) (name : String) : s.view.contains name = s.slots.contains name := by
  rw [contains, view, Ordered.lookup_map (Option.map s.objects), Option.isSome_map]
  rfl

theorem view_get (gives : values s.slots.calls = (make s.slots.calls).map s.objects) (name : String) :
    s.view.get values name = ((s.get make name).1.map s.objects, (s.get make name).2.view) := by
  cases found : s.slots.slot? name with
  | some i =>
    have shown : s.view.slot? name = some (s.objects i) := by rw [slot?_view, shown?, found]; rfl
    rw [get_of_made shown, get, get_of_made found]
    rfl
  | none =>
    have shown : s.view.slot? name = none := by rw [slot?_view, shown?, found]; rfl
    rw [get_of_empty shown, get, get_of_empty found]
    simp only [view, gives, Ordered.put_map (Option.map s.objects)]

theorem view_fill (unique : s.slots.names.Nodup) (separate : Separate make s.slots)
    (here : s.slots.slot? name = some i) (took : withFact (s.objects i) fact v = .ok a) :
    (s.fill (some i) fact v).view = s.view.put name a := by
  have known : name ∈ s.view.names := by
    rw [names_view]
    exact mem_names_of_made here
  have listed : (s.view.put name a).names = s.slots.names := (names_put_of_known known a).trans (names_view s)
  refine eq_of_slots (listed ▸ unique) ((names_view _).trans listed.symm) (fun other => ?_) rfl
  rw [slot?_view, slot?_put, slot?_view, shown?, shown?, slots_fill]
  by_cases same : other = name
  · rw [if_pos same, same, here, Option.map_some, objects_fill, if_pos rfl]
    exact congrArg some (congrArg (fun result => result.toOption.getD (s.objects i)) took)
  · rw [if_neg same]
    cases found : s.slots.slot? other with
    | none => rfl
    | some j =>
      have elsewhere : some i ≠ some j := fun equal =>
        same (separate.apart other name j found (here.trans equal))
      rw [Option.map_some, Option.map_some, objects_fill, if_neg elsewhere]
      rfl

/-- Every object was given once, and those that are still to be given hold what they held at the start. -/
structure Intact (make : Nat → Option Nat) (start : Nat → Value) (s : Shared) : Prop where
  unique : s.slots.names.Nodup
  separate : Separate make s.slots
  ahead : ∀ k i, s.slots.calls ≤ k → make k = some i → s.objects i = start i

theorem Intact.get (intact : Intact make start s) (apart : Apart make) (name : String) :
    Intact make start (s.get make name).2 where
  unique := nodup_names_get intact.unique make name
  separate := intact.separate.get apart name
  ahead k i later gives := by
    have passed : s.slots.calls ≤ (s.slots.get make name).2.calls := by
      cases found : s.slots.slot? name with
      | some i => rw [get_of_made found]
      | none =>
        rw [get_of_empty found]
        exact Nat.le_succ _
    exact intact.ahead k i (passed.trans later) gives

theorem Intact.fill (intact : Intact make start s) (apart : Apart make) (here : s.slots.slot? name = some i)
    (fact : String) (v : Value) : Intact make start (s.fill (some i) fact v) where
  unique := by
    rw [slots_fill]
    exact intact.unique
  separate := by
    rw [slots_fill]
    exact intact.separate
  ahead k j later gives := by
    rw [slots_fill] at later
    obtain ⟨before, earlier, gave⟩ := intact.separate.made name i here
    have elsewhere : some i ≠ some j := fun same => by
      have equal := apart before k i gave (gives.trans same.symm)
      omega
    rw [objects_fill, if_neg elsewhere]
    exact intact.ahead k j later gives

theorem Intact.view_get (intact : Intact make start s) (name : String) :
    s.view.get (fun k => (make k).map start) name = ((s.get make name).1.map s.objects, (s.get make name).2.view) := by
  apply Shared.view_get
  cases given : make s.slots.calls with
  | none => rfl
  | some i => exact congrArg some (intact.ahead _ i le_rfl given).symm

theorem fill_of_refused {slot : Option Nat} {fault : Fault} (refused : withFact (s.held slot) fact v = .error fault) :
    s.fill slot fact v = s := by
  cases slot with
  | none => rfl
  | some i =>
    have same : filled (s.objects i) fact v = s.objects i :=
      congrArg (fun result => result.toOption.getD (s.objects i)) refused
    rw [fill, same, Function.update_eq_self]

theorem Intact.view_putFact (intact : Intact make start s) (apart : Apart make) (name fact : String) (v : Value) :
    s.view.putFact (fun k => (make k).map start) name fact v =
      (withFact ((s.get make name).2.held (s.get make name).1) fact v,
        ((s.get make name).2.fill (s.get make name).1 fact v).view) := by
  have intact' := intact.get apart name
  have given : (s.get make name).2.slots.slot? name = (s.get make name).1 := slot?_get_self make s.slots name
  cases took : withFact ((s.get make name).2.held (s.get make name).1) fact v with
  | error fault =>
    rw [fill_of_refused took]
    exact putFact_of_error (intact.view_get name) took
  | ok a =>
    rw [putFact_of_ok (intact.view_get name) took]
    cases slot : (s.get make name).1 with
    | none =>
      rw [slot] at took
      cases took
    | some i =>
      rw [slot] at took given
      rw [view_fill intact'.unique intact'.separate given took]

theorem Intact.view_serve (intact : Intact make start s) (apart : Apart make) (r : Request) :
    s.view.serve (fun k => (make k).map start) r = ((s.serve make r).1, (s.serve make r).2.view) := by
  cases r with
  | get name =>
    rw [Slots.serve, intact.view_get]
    rfl
  | putFact name fact v =>
    rw [Slots.serve, intact.view_putFact apart]
    rfl
  | contains name =>
    rw [Slots.serve, contains_view]
    rfl

theorem Intact.serve (intact : Intact make start s) (apart : Apart make) (r : Request) :
    Intact make start (s.serve make r).2 := by
  cases r with
  | get name => exact intact.get apart name
  | putFact name fact v =>
    have given : (s.get make name).2.slots.slot? name = (s.get make name).1 := slot?_get_self make s.slots name
    show Intact make start ((s.get make name).2.fill (s.get make name).1 fact v)
    cases slot : (s.get make name).1 with
    | none => exact intact.get apart name
    | some i => exact (intact.get apart name).fill apart (given.trans slot) fact v
  | contains name => exact intact

theorem Intact.view_serveAll (intact : Intact make start s) (apart : Apart make) (requests : List Request) :
    serveAll (Slots.serve fun k => (make k).map start) s.view requests =
      Prod.map id view (serveAll (Shared.serve make) s requests) := by
  induction requests generalizing s with
  | nil => rfl
  | cons r rest ih =>
    simp only [serveAll, intact.view_serve apart, ih (intact.serve apart r)]
    rfl

theorem intact_fresh (make : Nat → Option Nat) (start : Nat → Value) : Intact make start ⟨{}, start⟩ where
  unique := List.nodup_nil
  separate := separate_empty make
  ahead _ _ _ _ := rfl

end Shared

/-- Whatever the maker gives, names are listed once and in the order of first request, and nothing but the slot that is
    meant ever changes. A maker that never declines is called once for each name: the slot that a name gets stays, and
    has the latest of all facts that were put into it. One that always declines is called at every request. Where every
    object is given once, slots that have their contents in them answer as shared ones and are left with the same. -/
theorem slots_made_once (make : Nat → Option Nat) (start : Nat → Value) (deeds : List Deed) :
    let s := Shared.run make start deeds
    let names := (requested deeds).eraseDups
    (names.Nodup ∧ s.slots.entries = names.map (fun name => (name, s.slots.slot? name)) ∧
      s.slots.size = (requested deeds).toFinset.card ∧
      ∀ name, s.slots.contains name = true ↔ name ∈ requested deeds) ∧
    ((∀ d name i, s.slots.slot? name = some i → (s.next make d).slots.slot? name = some i) ∧
      (∀ d other, d.asked ≠ some other → (s.next make d).slots.slot? other = s.slots.slot? other) ∧
      (∀ r i, (∀ name, r.asked = some name → (s.next make (.request r)).slots.slot? name ≠ some i) →
        (s.next make (.request r)).objects i = s.objects i) ∧
      ∀ object fact v i, i ≠ object → (s.next make (.fill object fact v)).objects i = s.objects i) ∧
    ((∀ k, make k ≠ none) →
      s.slots.calls = (requested deeds).toFinset.card ∧
      (∀ k name, names[k]? = some name → ∃ i, make k = some i ∧ s.get make name = (some i, s)) ∧
      ∀ i,
        (∀ fields, start i = .record fields → ∃ fields', s.objects i = .record fields' ∧
          ∀ fact, fields'.lookup fact = (latest? (Shared.factsOf make names i deeds) fact).or (fields.lookup fact)) ∧
        ((∀ fields, start i ≠ .record fields) → s.objects i = start i)) ∧
    ((∀ k, make k = none) → s.slots.calls = (requested deeds).length) ∧
    (Apart make →
      (∀ r other, r.asked ≠ some other → (s.next make (.request r)).shown? other = s.shown? other) ∧
      ∀ requests, serveAll (serve fun k => (make k).map start) {} requests =
        Prod.map id Shared.view (serveAll (Shared.serve make) ⟨{}, start⟩ requests)) := by
  intro s names
  have slots : s.slots = ask make {} (requested deeds) := Shared.slots_run make start deeds
  have listed : s.slots.names = names := by rw [slots, names_ask]
  have unique : s.slots.names.Nodup := slots ▸ nodup_names_ask make _
  have size : s.slots.size = (requested deeds).toFinset.card := slots ▸ size_ask make _
  refine ⟨⟨listed ▸ unique, listed ▸ entries_eq unique, size, fun name => ?_⟩,
    ⟨fun d name i made => Shared.slot?_next_of_made made make d, fun d other => Shared.slot?_next_of_unasked,
      fun r i => Shared.objects_next_of_request, fun object fact v i => Shared.objects_next_of_fill⟩,
    fun gives => ⟨?_, fun k name => Shared.get_of_run gives start deeds, fun i => ?_⟩, fun declines => ?_,
    fun apart => ⟨fun r other => Shared.shown?_next_of_unasked apart,
      (Shared.intact_fresh make start).view_serveAll apart⟩⟩
  · rw [slots]
    exact contains_ask
  · have filled : Filled make s.slots := slots ▸ filled_ask gives _
    rw [filled.calls, ← size]
    exact List.length_map _
  · have held : s.objects i = filledAll (start i) (Shared.factsOf make names i deeds) :=
      Shared.objects_run gives start deeds List.prefix_rfl i
    rw [held]
    refine ⟨fun fields begun => ?_, fun refused => filledAll_of_refused refused _⟩
    rw [begun]
    exact filledAll_record _ fields
  · rw [slots]
    exact calls_of_declining declines _

theorem slots_made_once_held :
    let start : Nat → Value := fun _ => .record [("definition", .null)]
    let deeds : List Deed := [.request (.get "main"), .request (.putFact "item" "size" (.int 2)),
      .fill 0 "definition" (.text "first"), .request (.contains "other"),
      .request (.putFact "main" "definition" (.text "second"))]
    let requests : List Request := [.putFact "main" "definition" (.text "first"), .get "item", .get "main"]
    let s := Shared.run some start deeds
    s.slots.entries = [("main", some 0), ("item", some 1)] ∧ s.slots.calls = 2 ∧ s.get some "main" = (some 0, s) ∧
      (∃ fields, s.objects 0 = .record fields ∧ fields.lookup "definition" = some (.text "second")) ∧
      (s.next some (.request (.get "other"))).slots.slot? "item" = some 1 ∧
      (s.next some (.request (.putFact "main" "size" .null))).objects 1 = s.objects 1 ∧
      (s.next some (.fill 0 "size" .null)).objects 1 = s.objects 1 ∧
      (s.next some (.request (.putFact "main" "size" .null))).shown? "item" = s.shown? "item" ∧
      serveAll (serve fun k => some (start k)) {} requests =
        Prod.map id Shared.view (serveAll (Shared.serve some) ⟨{}, start⟩ requests) ∧
      (Shared.run (fun _ => none) start deeds).slots.calls = 3 := by
  intro start deeds requests s
  have apart : Apart (some : Nat → Option Nat) := fun j k a here there => Option.some.inj (here.trans there.symm)
  obtain ⟨-, ⟨stays, -, elsewhere, beside⟩, gives, -, once⟩ := slots_made_once some start deeds
  obtain ⟨calls, kept, held⟩ := gives fun k => Option.some_ne_none k
  obtain ⟨others, shared⟩ := once apart
  obtain ⟨i, given, got⟩ := kept 0 "main" (by decide)
  cases Option.some.inj given
  obtain ⟨fields, same, found⟩ := (held 0).1 _ rfl
  obtain ⟨-, -, -, declines, -⟩ := slots_made_once (fun _ => none) start deeds
  refine ⟨rfl, calls.trans (by decide), got, ⟨fields, same, (found "definition").trans rfl⟩,
    stays (.request (.get "other")) "item" 1 rfl, elsewhere (.putFact "main" "size" .null) 1 ?_,
    beside 0 "size" .null 1 (by decide), others (.putFact "main" "size" .null) "item" (by decide), shared requests,
    (declines fun _ => rfl).trans rfl⟩
  rintro name ⟨⟩
  decide

example : (Shared.run (fun _ => some 7) (fun _ => .record []) [.request (.get "a"),
    .request (.putFact "b" "size" (.int 2))]).shown? "a" = some (.record [("size", .int 2)]) := rfl

end TemplateCompiler.Slots
