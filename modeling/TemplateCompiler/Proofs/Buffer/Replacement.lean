import TemplateCompiler.Proofs.Buffer.Navigation

namespace TemplateCompiler.Buffer

variable {b : Buffer} {ops more : List Operation} {op : Operation} {name other : String} {i : Nat}

/-! Which block a name stands for after more operations -/

theorem started_append (ops more : List Operation) : started (ops ++ more) = started ops ++ started more :=
  List.filterMap_append

theorem latest_append (ops more : List Operation) (name : String) :
    latest (ops ++ more) name =
      (((started more).zipIdx (started ops).length).reverse.lookup name).or (latest ops name) := by
  simp only [latest, started_append, List.zipIdx_append, List.reverse_append, List.lookup_append, Nat.zero_add]

theorem mem_zipIdx_of_lookup {names : List String} {first : Nat}
    (found : (names.zipIdx first).reverse.lookup name = some i) : (name, i) ∈ names.zipIdx first := by
  obtain ⟨before, after, split, -⟩ := List.lookup_eq_some_iff.mp found
  rw [← List.mem_reverse, split]
  exact List.mem_append_right before List.mem_cons_self

theorem started_of_latest (found : latest ops name = some i) : (started ops)[i]? = some name :=
  List.mk_mem_zipIdx_iff_getElem?.mp (mem_zipIdx_of_lookup found)

theorem lt_of_latest (found : latest ops name = some i) : i < (started ops).length :=
  (List.getElem?_eq_some_iff.mp (started_of_latest found)).1

theorem latest_append_of_unstarted (unstarted : name ∉ started more) : latest (ops ++ more) name = latest ops name := by
  have missing : ((started more).zipIdx (started ops).length).reverse.lookup name = none := by
    refine List.lookup_eq_none_iff.mpr fun entry member => ?_
    obtain ⟨-, -, place⟩ := List.mem_zipIdx (List.mem_reverse.mp member)
    rw [bne_iff_ne, ne_eq, place]
    exact fun same => unstarted (same ▸ List.getElem_mem _)
  rw [latest_append, missing, Option.none_or]

theorem le_of_latest_append (again : name ∈ started more) (found : latest (ops ++ more) name = some i) :
    (started ops).length ≤ i := by
  obtain ⟨place, here⟩ := List.mem_iff_getElem?.mp again
  rw [latest_append] at found
  cases later : ((started more).zipIdx (started ops).length).reverse.lookup name with
  | some j =>
    rw [later, Option.some_or] at found
    cases found
    exact List.le_snd_of_mem_zipIdx (mem_zipIdx_of_lookup later)
  | none =>
    have absent := List.lookup_eq_none_iff.mp later (name, (started ops).length + place)
      (List.mem_reverse.mpr (List.mk_add_mem_zipIdx_iff_getElem?.mpr here))
    simp at absent

theorem named_iff {k : Nat} (found : latest (ops.take k) name = some i) :
    (∃ other, latest ops other = some i) ↔ name ∉ started (ops.drop k) := by
  have whole : ops.take k ++ ops.drop k = ops := List.take_append_drop k ops
  constructor
  · rintro ⟨other, stands⟩ again
    have known := lt_of_latest found
    have entered := started_of_latest found
    have standing := started_of_latest stands
    rw [← whole, started_append, List.getElem?_append_left known, entered] at standing
    have same : name = other := Option.some.inj standing
    rw [← same, ← whole] at stands
    have later := le_of_latest_append again stands
    omega
  · intro unstarted
    refine ⟨name, ?_⟩
    rw [← whole, latest_append_of_unstarted unstarted]
    exact found

/-! What one operation does to contents -/

theorem find?_next (kept : ∀ level, op ≠ .startBlock name level) : (b.next op).find? name = b.find? name := by
  cases op with
  | startBlock other level =>
    have different : name ≠ other := fun same => kept level (same ▸ rfl)
    rw [next_startBlock, find?, addBlock, Ordered.lookup_put, if_neg different]
    rfl
  | enter other =>
    rw [next_enter]
    exact congrArg (·.lookup name) (SamePlaces.renewed (b.push other)).names
  | leave =>
    rw [next_leave]
    exact congrArg (·.lookup name) ((SamePlaces.renewed b.pop).names.trans (pop_names b))
  | write parts =>
    rw [next_write]
    exact congrArg (·.lookup name) (SamePlaces.written b _).names
  | writeLine parts =>
    rw [next_writeLine]
    exact congrArg (·.lookup name) (SamePlaces.written b _).names
  | shift inward =>
    rw [next_shift]
    exact congrArg (·.lookup name) (SamePlaces.shifted b inward).names
  | setUnit unit => rfl

theorem content_next (valid : b.Valid) (kept : ∀ level, op ≠ .startBlock name level) :
    (b.next op).content name =
      (b.content name).map fun before => before ++
        if b.active.isSome ∧ b.find? name = b.active then (b.emitted op).getD "" else "" := by
  rw [(valid.next op).content_eq, valid.content_eq, find?_next kept]
  cases found : b.find? name with
  | none => rfl
  | some i =>
    refine congrArg Except.ok ?_
    rw [textOf_next valid]
    cases active : b.active with
    | none => simp
    | some j =>
      by_cases here : j = i
      · simp [here]
      · simp [here, Ne.symm here]

theorem content_next_elsewhere (valid : b.Valid) (kept : ∀ level, op ≠ .startBlock name level)
    (active : b.active = some i) (elsewhere : b.find? name ≠ some i) : (b.next op).content name = b.content name := by
  rw [content_next valid kept, if_neg fun both => elsewhere (both.2.trans active)]
  cases b.content name <;> simp [Except.map]

theorem content_next_here {text : String} (valid : b.Valid) (kept : ∀ level, op ≠ .startBlock name level)
    (active : b.active = some i) (here : b.find? name = some i) (emits : b.emitted op = some text) :
    b.content name = .ok (b.textOf i) ∧ (b.next op).content name = .ok (b.textOf i ++ text) := by
  have held : b.content name = .ok (b.textOf i) := by rw [valid.content_eq, here]
  have both : b.active.isSome ∧ b.find? name = b.active := ⟨by rw [active]; rfl, here.trans active.symm⟩
  refine ⟨held, ?_⟩
  rw [content_next valid kept, if_pos both, held, emits]
  rfl

theorem answer_of_emitted {text : String} (active : b.active = some i) (emits : b.emitted op = some text) :
    b.answer op = .ok () := by
  cases op with
  | write parts => simp only [answer, Operation.act, Act.outcome, write_eq, active]
  | writeLine parts => simp only [answer, Operation.act, Act.outcome, writeLine_eq, active]
  | _ => cases emits

theorem kept_of_emitted {text : String} (emits : b.emitted op = some text) (level : Level) :
    op ≠ .startBlock name level := by
  rintro rfl
  cases emits

/-- While text is accepted, the active block is the one that the innermost pending enter found. It stands under its name
    exactly until that name is given to a new block. Until then every text goes to the end of what the name holds, and
    after it to no name at all. Only a new block of the same name takes text away that a name holds. -/
theorem written_text_kept (unit : Option String) (ops : List Operation) :
    let b := run { unit } ops
    (∀ i, b.active = some i → ∃ k name,
      (pending ops).getLast? = some k ∧ ops[k]? = some (.enter name) ∧ latest (ops.take k) name = some i ∧
      ((∃ other, b.find? other = some i) ↔ name ∉ started (ops.drop k)) ∧
      ∀ op text, b.emitted op = some text →
        b.answer op = .ok () ∧
        (name ∉ started (ops.drop k) →
          ∃ before, b.content name = .ok before ∧ (b.next op).content name = .ok (before ++ text) ∧
            ∀ other ≠ name, (b.next op).content other = b.content other) ∧
        (name ∈ started (ops.drop k) → ∀ other, (b.next op).content other = b.content other)) ∧
    ∀ op name before, (∀ level, op ≠ .startBlock name level) → b.content name = .ok before →
      ∃ more, (b.next op).content name = .ok (before ++ more) := by
  intro b
  have same := matches_run unit ops
  have valid : b.Valid := (Valid.empty unit).run ops
  refine ⟨fun i active => ?_, fun op name before kept held => ?_⟩
  · have chosen : target ops = some i := same.active.symm.trans active
    obtain ⟨k, innermost, here⟩ := Option.bind_eq_some_iff.mp chosen
    obtain ⟨name, place, -⟩ := (entered_isSome_iff ops k).mp (Option.isSome_iff_exists.mpr ⟨i, here⟩)
    have found : latest (ops.take k) name = some i := by
      rw [entered, place] at here
      exact here
    have named : (∃ other, b.find? other = some i) ↔ name ∉ started (ops.drop k) := by
      simp only [b, same.names]
      exact named_iff found
    refine ⟨k, name, innermost, place, found, named, fun op text emits => ⟨answer_of_emitted active emits, ?_, ?_⟩⟩
    · intro unstarted
      have whole : ops.take k ++ ops.drop k = ops := List.take_append_drop k ops
      have stands : b.find? name = some i := by
        rw [same.names, ← whole, latest_append_of_unstarted unstarted]
        exact found
      obtain ⟨held, grown⟩ := content_next_here valid (kept_of_emitted emits) active stands emits
      refine ⟨b.textOf i, held, grown, fun other different => ?_⟩
      refine content_next_elsewhere valid (kept_of_emitted emits) active fun stands' => different ?_
      -- a block stands under one name only
      rw [same.names] at stands stands'
      have first := started_of_latest stands'
      rw [started_of_latest stands] at first
      exact (Option.some.inj first).symm
    · intro again other
      have nowhere : b.find? other ≠ some i := fun stands => named.mp ⟨other, stands⟩ again
      exact content_next_elsewhere valid (kept_of_emitted emits) active nowhere
  · rw [content_next valid kept, held]
    exact ⟨_, rfl⟩

/-- A block that is replaced under its name while it is entered takes text that no name shows. -/
theorem replaced_while_entered :
    let b := run { unit := some " " } [.startBlock "a" (.count 0), .enter "a", .startBlock "a" (.count 0)]
    b.isReady = true ∧ (¬ ∃ name, b.find? name = b.active) ∧ b.answer (.write ["x"]) = .ok () ∧
      ∀ name, (b.next (.write ["x"])).content name = b.content name := by
  intro b
  have names (name : String) : b.find? name = if name = "a" then some 1 else none := by
    by_cases here : name = "a"
    · subst here
      rfl
    · have other : (name == "a") = false := beq_eq_false_iff_ne.mpr here
      rw [if_neg here]
      change List.lookup name [("a", 1)] = none
      rw [List.lookup_cons, other]
      rfl
  have nowhere (name : String) : b.find? name ≠ some 0 := by
    rw [names]
    split <;> simp
  refine ⟨rfl, fun ⟨name, here⟩ => nowhere name here, rfl, fun name => ?_⟩
  exact content_next_elsewhere ((Valid.empty (some " ")).run _) (by simp) rfl (nowhere name)

end TemplateCompiler.Buffer
