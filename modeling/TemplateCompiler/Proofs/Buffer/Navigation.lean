import Mathlib.Data.List.Basic
import TemplateCompiler.Proofs.Buffer.History

namespace TemplateCompiler.Buffer

variable {b : Buffer} {ops : List Operation} {op : Operation}

/-! The sequence with one more operation. -/

theorem latest_startBlock (ops : List Operation) (name : String) (level : Level) (other : String) :
    latest (ops ++ [.startBlock name level]) other =
      if other = name then some (started ops).length else latest ops other := by
  simp only [latest, started, List.filterMap_append, List.filterMap_cons, List.filterMap_nil, List.zipIdx_append,
    List.zipIdx_singleton, List.reverse_append, List.reverse_singleton, List.singleton_append, List.lookup_cons]
  by_cases same : other = name
  · simp [same]
  · simp [same, beq_eq_false_iff_ne.mpr same]

theorem started_concat_other (ops : List Operation) (other : ∀ name level, op ≠ .startBlock name level) :
    started (ops ++ [op]) = started ops := by
  cases op with
  | startBlock name level => exact absurd rfl (other name level)
  | _ => simp [started]

theorem entered_concat {k : Nat} (before : k < ops.length) (op : Operation) :
    entered (ops ++ [op]) k = entered ops k := by
  unfold entered
  rw [List.getElem?_append_left before, List.take_append_of_le_length (Nat.le_of_lt before)]

theorem map_entered_concat (ops : List Operation) (op : Operation) :
    (pending ops).map (entered (ops ++ [op])) = (pending ops).map (entered ops) :=
  List.map_congr_left fun _ member => entered_concat (mem_pending member) op

theorem entered_last (ops : List Operation) (name : String) :
    entered (ops ++ [.enter name]) ops.length = latest ops name := by
  simp [entered]

theorem textsInto_concat (b : Buffer) (ops : List Operation) (op : Operation) (i : Nat) :
    textsInto b (ops ++ [op]) i =
      textsInto b ops i ++ if target ops = some i then ((b.run ops).emitted op).toList else [] := by
  unfold textsInto
  rw [List.length_append, List.length_singleton, List.range_succ, List.filterMap_append]
  congr 1
  · refine List.filterMap_congr fun k member => ?_
    have before := List.mem_range.mp member
    rw [List.take_append_of_le_length (Nat.le_of_lt before), List.getElem?_append_left before]
  · simp only [List.filterMap_cons, List.filterMap_nil, List.take_left', List.getElem?_concat_length, Option.bind_some]
    by_cases here : target ops = some i
    · simp only [here, ↓reduceIte]
      cases (b.run ops).emitted op <;> rfl
    · simp only [here, ↓reduceIte]

/-! The buffer agrees with the sequence. -/

structure Matches (start : Buffer) (ops : List Operation) (b : Buffer) : Prop where
  length : b.blocks.length = (started ops).length
  names : ∀ name, b.find? name = latest ops name
  stack : b.active :: b.stack = ((pending ops).map (entered ops)).reverse ++ [none]
  text : ∀ i, b.textOf i = String.join (textsInto start ops i)

theorem Matches.active {start : Buffer} (same : Matches start ops b) : b.active = target ops := by
  have stack := same.stack
  unfold target
  rcases List.eq_nil_or_concat (pending ops) with none | ⟨outer, k, split⟩
  · rw [none] at stack ⊢
    exact (List.cons.inj stack).1
  · rw [split] at stack ⊢
    simp only [List.concat_eq_append, List.map_append, List.map_singleton, List.reverse_append, List.reverse_singleton,
      List.cons_append] at stack ⊢
    simpa using (List.cons.inj stack).1

theorem Matches.depth {start : Buffer} (same : Matches start ops b) : b.depth = (pending ops).length := by
  have lengths := congrArg List.length same.stack
  simpa [Buffer.depth] using lengths

/-! One operation more keeps the agreement: each part of it is followed on its own. -/

theorem text_written (valid : b.Valid) (pieces : List Value) (i : Nat) :
    (b.written pieces).textOf i =
      b.textOf i ++ if b.active = some i then String.join (pieces.filterMap Value.text?) else "" := by
  unfold written
  cases current : b.active with
  | none => simp
  | some j =>
    rw [textOf_appendTo (valid.active j current)]
    by_cases here : j = i <;> simp [here]

theorem textOf_next (valid : b.Valid) (op : Operation) (i : Nat) :
    (b.next op).textOf i = b.textOf i ++ if b.active = some i then (b.emitted op).getD "" else "" := by
  cases op with
  | startBlock name level =>
    have same : (b.addBlock name level).textOf i = b.textOf i := by
      simp only [addBlock, textOf, List.getElem?_append]
      split
      · rfl
      · rename_i beyond
        have none : b.blocks[i]? = none := List.getElem?_eq_none (by omega)
        rw [none]
        cases i - b.blocks.length <;> rfl
    rw [next_startBlock, same]
    simp [emitted]
  | enter name =>
    rw [next_enter, textOf_renewed]
    simp [push, textOf, emitted]
  | leave =>
    rw [next_leave, textOf_renewed]
    simp [textOf, pop_blocks, emitted]
  | write parts => rw [next_write, text_written valid, texts_join]; rfl
  | writeLine parts => rw [next_writeLine, text_written valid, line_join]; rfl
  | shift inward =>
    rw [next_shift, textOf_shifted]
    simp [emitted]
  | setUnit unit =>
    rw [next_setUnit]
    simp [setUnit, textOf, emitted]

section

variable {start b' : Buffer} (same : Matches start ops b)

include same

theorem Matches.names_of (names : b'.names = b.names) (blocks : started (ops ++ [op]) = started ops) (name : String) :
    b'.find? name = latest (ops ++ [op]) name := by
  have found : b'.find? name = b.find? name := congrArg (·.lookup name) names
  simp only [found, same.names name, latest, blocks]

theorem Matches.stay (places : SamePlaces b b') (blocks : started (ops ++ [op]) = started ops)
    (enters : pending (ops ++ [op]) = pending ops)
    (text : ∀ i, b'.textOf i = String.join (textsInto start (ops ++ [op]) i)) : Matches start (ops ++ [op]) b' where
  length := by rw [places.length, same.length, blocks]
  names := same.names_of places.names blocks
  stack := by rw [places.active, places.stack, same.stack, enters, map_entered_concat]
  text := text

theorem Matches.startBlock (name : String) (level : Level)
    (text : ∀ i, (b.addBlock name level).textOf i =
      String.join (textsInto start (ops ++ [.startBlock name level]) i)) :
    Matches start (ops ++ [.startBlock name level]) (b.addBlock name level) where
  length := by simp [addBlock, same.length, started]
  names other := by
    simp only [addBlock, find?, Ordered.lookup_put, latest_startBlock, same.length]
    split
    · rfl
    · exact same.names other
  stack := by
    rw [pending_concat_quiet ops rfl rfl, map_entered_concat]
    exact same.stack
  text := text

theorem Matches.enter (name : String)
    (text : ∀ i, (b.push name).renewed.textOf i = String.join (textsInto start (ops ++ [.enter name]) i)) :
    Matches start (ops ++ [.enter name]) (b.push name).renewed := by
  have places := SamePlaces.renewed (b.push name)
  have blocks : started (ops ++ [.enter name]) = started ops := started_concat_other ops (by simp)
  refine ⟨?_, same.names_of places.names blocks, ?_, text⟩
  · rw [places.length, blocks]
    exact same.length
  · rw [places.active, places.stack, pending_concat_other ops rfl]
    simp only [push, Operation.isEnter, ↓reduceIte, List.map_append, List.map_singleton, List.reverse_append,
      List.reverse_singleton, List.nil_append, map_entered_concat, entered_last, List.cons_append]
    rw [same.names name, same.stack]

theorem Matches.leave (text : ∀ i, b.pop.renewed.textOf i = String.join (textsInto start (ops ++ [.leave]) i)) :
    Matches start (ops ++ [.leave]) b.pop.renewed := by
  have places := SamePlaces.renewed b.pop
  have blocks : started (ops ++ [.leave]) = started ops := started_concat_other ops (by simp)
  refine ⟨?_, same.names_of (places.names.trans (pop_names b)) blocks, ?_, text⟩
  · rw [places.length, blocks, pop_blocks]
    exact same.length
  · have stack := same.stack
    have kept := map_entered_concat ops .leave
    rw [places.active, places.stack, pending_concat_leave]
    rcases List.eq_nil_or_concat (pending ops) with none | ⟨outer, k, split⟩
    · -- nothing is pending: the leave finds an empty stack and is discarded
      rw [none] at stack ⊢
      have bottom : b.stack = [] := (List.cons.inj stack).2
      simp [pop, bottom]
    · rw [split] at stack kept ⊢
      simp only [List.concat_eq_append, List.map_append, List.map_singleton, List.reverse_append,
        List.reverse_singleton, List.cons_append, List.nil_append, List.dropLast_concat] at stack kept ⊢
      have rest := (List.cons.inj stack).2
      rw [(List.append_inj' kept rfl).1, ← rest]
      cases stored : b.stack with
      | nil =>
        rw [stored] at rest
        simp at rest
      | cons before others => simp [pop, stored]

theorem Matches.next (valid : b.Valid) (reached : b = start.run ops) (op : Operation) :
    Matches start (ops ++ [op]) (b.next op) := by
  have text (i : Nat) : (b.next op).textOf i = String.join (textsInto start (ops ++ [op]) i) := by
    rw [textOf_next valid, textsInto_concat, String.join_append, ← reached, ← same.active, ← same.text i]
    congr 1
    split
    · cases b.emitted op with
      | none => rfl
      | some emitted => simp
    · rfl
  have blocks (other : ∀ name level, op ≠ .startBlock name level) := started_concat_other ops other
  cases op with
  | startBlock name level => exact same.startBlock name level text
  | enter name =>
    rw [next_enter] at text ⊢
    exact same.enter name text
  | leave =>
    rw [next_leave] at text ⊢
    exact same.leave text
  | write parts =>
    rw [next_write] at text ⊢
    exact same.stay (.written b _) (blocks (by simp)) (pending_concat_quiet ops rfl rfl) text
  | writeLine parts =>
    rw [next_writeLine] at text ⊢
    exact same.stay (.written b _) (blocks (by simp)) (pending_concat_quiet ops rfl rfl) text
  | shift inward =>
    rw [next_shift] at text ⊢
    exact same.stay (.shifted b _) (blocks (by simp)) (pending_concat_quiet ops rfl rfl) text
  | setUnit unit =>
    exact same.stay ⟨rfl, rfl, rfl, rfl⟩ (blocks (by simp)) (pending_concat_quiet ops rfl rfl) text

end

theorem matches_run (unit : Option String) (ops : List Operation) :
    Matches { unit } ops (run { unit } ops) := by
  induction ops using List.reverseRecOn with
  | nil => exact ⟨rfl, fun _ => rfl, rfl, fun _ => rfl⟩
  | append_singleton ops op ih =>
    rw [run_concat]
    exact ih.next ((Valid.empty unit).run ops) rfl op

theorem latest_isSome_iff (ops : List Operation) (name : String) : (latest ops name).isSome ↔ name ∈ started ops := by
  unfold latest
  rw [List.lookup_isSome_iff]
  constructor
  · rintro ⟨⟨found, i⟩, member, same⟩
    have place := List.mk_mem_zipIdx_iff_getElem?.mp (List.mem_reverse.mp member)
    rw [beq_iff_eq.mp same]
    exact List.mem_of_getElem? place
  · intro member
    obtain ⟨i, place⟩ := List.mem_iff_getElem?.mp member
    exact ⟨(name, i), List.mem_reverse.mpr (List.mk_mem_zipIdx_iff_getElem?.mpr place), beq_self_eq_true name⟩

theorem entered_isSome_iff (ops : List Operation) (k : Nat) :
    (entered ops k).isSome ↔ ∃ name, ops[k]? = some (.enter name) ∧ name ∈ started (ops.take k) := by
  unfold entered
  constructor
  · intro found
    split at found
    · rename_i name place
      exact ⟨name, place, (latest_isSome_iff _ name).mp found⟩
    · cases found
  · rintro ⟨name, place, known⟩
    rw [place]
    exact (latest_isSome_iff _ name).mpr known

theorem target_isSome_iff (ops : List Operation) :
    (target ops).isSome ↔ ∃ k name, (pending ops).getLast? = some k ∧ ops[k]? = some (.enter name) ∧
      name ∈ started (ops.take k) := by
  unfold target
  constructor
  · intro found
    obtain ⟨i, chosen⟩ := Option.isSome_iff_exists.mp found
    obtain ⟨k, innermost, here⟩ := Option.bind_eq_some_iff.mp chosen
    obtain ⟨name, place, known⟩ := (entered_isSome_iff ops k).mp (Option.isSome_iff_exists.mpr ⟨i, here⟩)
    exact ⟨k, name, innermost, place, known⟩
  · rintro ⟨k, name, innermost, place, known⟩
    rw [innermost, Option.bind_some]
    exact (entered_isSome_iff ops k).mpr ⟨name, place, known⟩

/-- After any operations on a fresh buffer the depth counts the pending enters, text is accepted exactly while the
    innermost of them found a block of its name, and a name holds the texts emitted into its latest block. No text
    reaches any other block. -/
theorem navigation (unit : Option String) (ops : List Operation) :
    let b := run { unit } ops
    b.depth = (pending ops).length ∧
    (b.isReady = true ↔ ∃ k name, (pending ops).getLast? = some k ∧ ops[k]? = some (.enter name) ∧
      name ∈ started (ops.take k)) ∧
    (∀ name, b.content name = match latest ops name with
      | some i => .ok (String.join (textsInto { unit } ops i))
      | none => .error (.unknownBlock name)) ∧
    ∀ op i, target ops ≠ some i → (b.next op).textOf i = b.textOf i := by
  intro b
  have same := matches_run unit ops
  have valid : b.Valid := (Valid.empty unit).run ops
  refine ⟨same.depth, ?_, fun name => ?_, fun op i other => ?_⟩
  · rw [isReady, same.active]
    exact target_isSome_iff ops
  · rw [valid.content_eq, same.names name]
    cases latest ops name with
    | none => rfl
    | some i => exact congrArg Except.ok (same.text i)
  · rw [textOf_next valid, same.active, if_neg other, String.append_empty]

end TemplateCompiler.Buffer
