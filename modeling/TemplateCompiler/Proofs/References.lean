import Mathlib.Data.Finset.Card
import TemplateCompiler.Proofs.Compiler.Template
import TemplateCompiler.Proofs.Json.Scalars

namespace TemplateCompiler.References

inductive Mention where
  | one (ref : String)
  | several (refs : List String)

def Mention.refs : Mention → List String
  | one ref => [ref]
  | several refs => refs

def note (known : References) : Mention → References
  | .one ref => known.add ref
  | .several refs => known.addAll refs

theorem nothing_indexed (ref : String) : ref ∈ ([] : List String) ↔ ref ∈ ([] : List String) := Iff.rfl

def collect (mentions : List Mention) : References := mentions.foldl note ⟨[], [], List.nodup_nil, nothing_indexed⟩

def mentioned (mentions : List Mention) : List String := mentions.flatMap Mention.refs

variable {known : References} {mentions others : List Mention} {ref : String}

theorem note_eq (known : References) (m : Mention) : known.note m = known.addAll m.refs := by
  cases m <;> rfl

theorem foldl_note (known : References) (mentions : List Mention) :
    mentions.foldl note known = known.addAll (mentioned mentions) := by
  induction mentions generalizing known with
  | nil => rfl
  | cons m rest ih =>
    rw [List.foldl_cons, ih, note_eq, ← addAll_append]
    rfl

theorem collect_eq (mentions : List Mention) : collect mentions = ({} : References).addAll (mentioned mentions) :=
  foldl_note {} mentions

theorem toList_collect (mentions : List Mention) : (collect mentions).toList = (mentioned mentions).eraseDups := by
  rw [collect_eq]
  exact Compiler.toList_addAll (mentioned mentions)

theorem mem_collect : ref ∈ (collect mentions).toList ↔ ref ∈ mentioned mentions := by
  rw [toList_collect, List.mem_eraseDups]

theorem contains_collect : (collect mentions).contains ref = true ↔ ref ∈ mentioned mentions := by
  rw [contains, List.contains_iff_mem, (collect mentions).indexed, mem_collect]

theorem size_collect (mentions : List Mention) : (collect mentions).size = (mentioned mentions).toFinset.card := by
  have same : (collect mentions).toList.toFinset = (mentioned mentions).toFinset := by
    ext ref
    rw [List.mem_toFinset, List.mem_toFinset, mem_collect]
  rw [size, ← same, List.toFinset_card_of_nodup (collect mentions).nodup]

theorem addAll_of_known (old : ref ∈ known.toList) (after : List String) :
    known.addAll (ref :: after) = known.addAll after := by
  rw [addAll, List.foldl_cons, add_of_known ((known.indexed ref).mpr old)]
  rfl

theorem collect_repeated {before after : List String} (old : ref ∈ before)
    (once : mentioned mentions = before ++ after) (again : mentioned others = before ++ ref :: after) :
    collect others = collect mentions := by
  have listed : ref ∈ (({} : References).addAll before).toList := by
    rw [Compiler.toList_addAll]
    exact List.mem_eraseDups.mpr old
  rw [collect_eq, collect_eq, once, again, addAll_append, addAll_append, addAll_of_known listed]

theorem collect_permuted (same : others.Perm mentions) :
    (collect others).toList.Perm (collect mentions).toList := by
  rw [List.perm_ext_iff_of_nodup (collect others).nodup (collect mentions).nodup]
  intro ref
  rw [mem_collect, mem_collect]
  exact (same.flatMap_right Mention.refs).mem_iff

theorem declaration_eq_empty (known : References) (keyword : String) :
    known.declaration keyword = "" ↔ known.toList = [] := by
  rw [declaration]
  cases listed : known.toList with
  | nil => simp
  | cons ref rest => simp

theorem declaration_of_listed (listed : known.toList ≠ []) (keyword : String) :
    known.declaration keyword = keyword ++ ": " ++ known.listing ++ "," ∧
      Json.read known.listing = .ok (.list (known.toList.map .text)) := by
  have filled : ¬ known.toList.isEmpty = true := by simpa using listed
  rw [declaration, if_neg filled]
  exact ⟨rfl, Json.read_texts listed⟩

/-- Mentions make a set in the order of first mention: its list and its index agree, only the references matter and not
    how they are grouped or repeated, and the declaration has the list as a JSON text. -/
theorem collect_ordered (mentions : List Mention) :
    (collect mentions).toList = (mentioned mentions).eraseDups ∧
    (collect mentions).size = (mentioned mentions).toFinset.card ∧
    (∀ ref, (collect mentions).contains ref = true ↔ ref ∈ mentioned mentions) ∧
    (∀ ref, ref ∈ (collect mentions).index ↔ ref ∈ (collect mentions).toList) ∧
    (∀ others, mentioned others = mentioned mentions → collect others = collect mentions) ∧
    (∀ others before ref after, ref ∈ before → mentioned mentions = before ++ after →
      mentioned others = before ++ ref :: after → collect others = collect mentions) ∧
    (∀ others, others.Perm mentions → (collect others).toList.Perm (collect mentions).toList) ∧
    ∀ keyword,
      ((collect mentions).declaration keyword = "" ↔ mentioned mentions = []) ∧
      (mentioned mentions ≠ [] → ∃ text,
        (collect mentions).declaration keyword = keyword ++ ": " ++ text ++ "," ∧
        Json.read text = .ok (.list ((collect mentions).toList.map .text))) := by
  have none_listed : (collect mentions).toList = [] ↔ mentioned mentions = [] := by
    rw [List.eq_nil_iff_forall_not_mem, List.eq_nil_iff_forall_not_mem]
    exact forall_congr' fun ref => not_congr mem_collect
  refine ⟨toList_collect mentions, size_collect mentions, fun ref => contains_collect, (collect mentions).indexed,
    fun others same => ?_, fun others before ref after old once again => collect_repeated old once again,
    fun others same => collect_permuted same, fun keyword => ⟨?_, fun filled => ?_⟩⟩
  · rw [collect_eq, collect_eq, same]
  · exact (declaration_eq_empty _ keyword).trans none_listed
  · exact ⟨_, declaration_of_listed (mt none_listed.mp filled) keyword⟩

theorem collect_ordered_grouped :
    let mentions := [Mention.several ["a", ","], .one ""]
    (collect mentions).toList = ["a", ",", ""] ∧
      collect [.one "a", .several [",", ""]] = collect mentions ∧
      collect [.one "a", .several [",", "a", ""]] = collect mentions ∧
      (collect [.one "", .several ["a", ","]]).toList.Perm (collect mentions).toList ∧
      ∃ text, (collect mentions).declaration "deps" = "deps: " ++ text ++ "," ∧
        Json.read text = .ok (.list [.text "a", .text ",", .text ""]) := by
  intro mentions
  obtain ⟨listed, -, -, -, grouped, repeated, permuted, declared⟩ := collect_ordered mentions
  have shown : (collect mentions).toList = ["a", ",", ""] := listed.trans (by decide)
  have swapped : [Mention.one "", .several ["a", ","]].Perm mentions := .swap _ _ []
  obtain ⟨text, same, read⟩ := (declared "deps").2 (by decide)
  rw [shown] at read
  exact ⟨shown, grouped _ rfl, repeated _ ["a", ","] "a" [""] (by decide) rfl rfl, permuted _ swapped, text, same, read⟩

example : (collect [.several ["a", ",", "a"], .one "", .one ","]).declaration "deps" = "deps: [\"a\",\",\",\"\"]," := by
  decide

end TemplateCompiler.References
