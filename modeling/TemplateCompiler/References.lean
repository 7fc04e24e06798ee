import TemplateCompiler.Text.Literal

namespace TemplateCompiler

structure References where
  toList : List String := []
  index : List String := []
  nodup : toList.Nodup := by simp
  indexed : ∀ ref, ref ∈ index ↔ ref ∈ toList := by simp

namespace References

def contains (refs : References) (ref : String) : Bool := refs.index.contains ref

def size (refs : References) : Nat := refs.toList.length

def add (refs : References) (ref : String) : References :=
  if h : ref ∈ refs.index then refs
  else {
    toList := refs.toList ++ [ref]
    index := ref :: refs.index
    nodup := by
      rw [List.nodup_append]
      refine ⟨refs.nodup, by simp, fun a ha b hb => ?_⟩
      rw [List.mem_singleton] at hb
      subst hb
      exact fun same => h ((refs.indexed b).mpr (same ▸ ha))
    indexed := fun other => by
      rw [List.mem_cons, List.mem_append, List.mem_singleton, refs.indexed, or_comm] }

theorem add_of_known {refs : References} {ref : String} (known : ref ∈ refs.index) : refs.add ref = refs :=
  dif_pos known

theorem toList_add (refs : References) (ref : String) :
    (refs.add ref).toList = if ref ∈ refs.toList then refs.toList else refs.toList ++ [ref] := by
  by_cases known : ref ∈ refs.index
  · rw [add_of_known known, if_pos ((refs.indexed ref).mp known)]
  · rw [add, dif_neg known, if_neg (mt (refs.indexed ref).mpr known)]

def addAll (refs : References) (more : List String) : References := more.foldl add refs

def listing (refs : References) : String := "[" ++ String.intercalate "," (refs.toList.map Text.literal) ++ "]"

def declaration (refs : References) (keyword : String) : String :=
  if refs.toList.isEmpty then "" else keyword ++ ": " ++ refs.listing ++ ","

end References

end TemplateCompiler
