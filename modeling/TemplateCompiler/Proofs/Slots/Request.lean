import Mathlib.Data.Finset.Card
import Mathlib.Data.List.Induction
import TemplateCompiler.Slots

namespace TemplateCompiler.Slots

variable {α : Type} {make : Nat → Option α} {slots : Slots α} {name other : String} {names : List String}

theorem contains_iff : slots.contains name = true ↔ name ∈ slots.names := Ordered.isSome_lookup

theorem mem_names_of_made {a : α} (made : slots.slot? name = some a) : name ∈ slots.names := by
  rw [← contains_iff, contains]
  rw [slot?] at made
  cases found : slots.entries.lookup name with
  | none => rw [found] at made; cases made
  | some slot => rfl

theorem slot?_get (make : Nat → Option α) (slots : Slots α) (name other : String) :
    (slots.get make name).2.slot? other = if other = name then (slots.get make name).1 else slots.slot? other := by
  cases found : slots.slot? name with
  | some a =>
    rw [get_of_made found]
    split
    · next same => rw [same, found]
    · rfl
  | none =>
    rw [get_of_empty found, slot?, Ordered.lookup_put]
    split <;> rfl

theorem slot?_get_self (make : Nat → Option α) (slots : Slots α) (name : String) :
    (slots.get make name).2.slot? name = (slots.get make name).1 := by
  rw [slot?_get, if_pos rfl]

theorem names_get (make : Nat → Option α) (slots : Slots α) (name : String) :
    (slots.get make name).2.names = if name ∈ slots.names then slots.names else slots.names ++ [name] := by
  cases found : slots.slot? name with
  | some a => rw [get_of_made found, if_pos (mem_names_of_made found)]
  | none =>
    rw [get_of_empty found]
    exact Ordered.names_put _ _ _

theorem slot?_put (slots : Slots α) (name other : String) (a : α) :
    (slots.put name a).slot? other = if other = name then some a else slots.slot? other := by
  rw [slot?, put, Ordered.lookup_put]
  split <;> rfl

theorem names_put_of_known (known : name ∈ slots.names) (a : α) : (slots.put name a).names = slots.names :=
  (Ordered.names_put _ _ _).trans (if_pos known)

theorem entries_eq (unique : slots.names.Nodup) :
    slots.entries = slots.names.map fun name => (name, slots.slot? name) := by
  rw [names, List.map_map]
  refine (List.map_id' slots.entries).symm.trans (List.map_congr_left fun entry member => ?_)
  have found : slots.entries.lookup entry.1 = some entry.2 := Ordered.lookup_of_mem unique member
  rw [Function.comp_apply, slot?, found]
  rfl

theorem eq_of_slots {slots' : Slots α} (unique : slots.names.Nodup) (names : slots'.names = slots.names)
    (same : ∀ name, slots'.slot? name = slots.slot? name) (calls : slots'.calls = slots.calls) : slots' = slots := by
  have entries : slots'.entries = slots.entries := by
    rw [entries_eq unique, entries_eq (names ▸ unique), names]
    exact List.map_congr_left fun name _ => by rw [same]
  cases slots
  cases slots'
  congr

def ask (make : Nat → Option α) (slots : Slots α) (names : List String) : Slots α :=
  names.foldl (fun slots name => (slots.get make name).2) slots

theorem ask_append (make : Nat → Option α) (slots : Slots α) (names more : List String) :
    ask make slots (names ++ more) = ask make (ask make slots names) more := List.foldl_append

theorem ask_concat (make : Nat → Option α) (slots : Slots α) (names : List String) (name : String) :
    ask make slots (names ++ [name]) = ((ask make slots names).get make name).2 := ask_append make slots names [name]

theorem ask_keeps {P : Slots α → Prop} (first : P {}) (step : ∀ slots name, P slots → P (slots.get make name).2)
    (names : List String) : P (ask make {} names) := by
  induction names using List.reverseRecOn with
  | nil => exact first
  | append_singleton names name ih =>
    rw [ask_concat]
    exact step _ name ih

theorem names_ask (make : Nat → Option α) (names : List String) : (ask make {} names).names = names.eraseDups := by
  induction names using List.reverseRecOn with
  | nil => rfl
  | append_singleton names name ih => rw [ask_concat, names_get, ih, Ordered.eraseDups_concat]

theorem nodup_names_get (unique : slots.names.Nodup) (make : Nat → Option α) (name : String) :
    (slots.get make name).2.names.Nodup := by
  rw [names_get]
  split
  · exact unique
  · next new =>
    rw [← List.concat_eq_append]
    exact unique.concat new

theorem nodup_names_ask (make : Nat → Option α) (names : List String) : (ask make {} names).names.Nodup :=
  ask_keeps (P := fun slots => slots.names.Nodup) List.nodup_nil
    (fun _ name unique => nodup_names_get unique make name) names

theorem contains_ask : (ask make {} names).contains name = true ↔ name ∈ names := by
  rw [contains_iff, names_ask, List.mem_eraseDups]

theorem size_ask (make : Nat → Option α) (names : List String) : (ask make {} names).size = names.toFinset.card := by
  have same : (ask make {} names).names.toFinset = names.toFinset := by
    ext name
    rw [List.mem_toFinset, List.mem_toFinset, names_ask, List.mem_eraseDups]
  rw [← same, List.toFinset_card_of_nodup (nodup_names_ask make names)]
  exact (List.length_map _).symm

/-- What a maker gives in one call it gives in no other. -/
def Apart (make : Nat → Option α) : Prop := ∀ j k a, make j = some a → make k = some a → j = k

/-- Every slot was made by an earlier call, and no two names have one slot. -/
structure Separate (make : Nat → Option α) (slots : Slots α) : Prop where
  made : ∀ name a, slots.slot? name = some a → ∃ k < slots.calls, make k = some a
  apart : ∀ name other a, slots.slot? name = some a → slots.slot? other = some a → name = other

theorem Separate.get (separate : Separate make slots) (apart : Apart make) (name : String) :
    Separate make (slots.get make name).2 := by
  cases found : slots.slot? name with
  | some a =>
    rw [get_of_made found]
    exact separate
  | none =>
    have slots' : ∀ other, (slots.get make name).2.slot? other =
        if other = name then make slots.calls else slots.slot? other := by
      intro other
      rw [slot?_get, get_of_empty found]
    have calls : (slots.get make name).2.calls = slots.calls + 1 := by rw [get_of_empty found]
    -- what is made now was made by none of the calls before
    have fresh : ∀ other a, slots.slot? other = some a → make slots.calls ≠ some a := by
      intro other a here again
      obtain ⟨k, earlier, gave⟩ := separate.made other a here
      exact Nat.ne_of_lt earlier (apart k slots.calls a gave again)
    constructor
    · intro other a here
      rw [slots'] at here
      rw [calls]
      split at here
      · exact ⟨slots.calls, Nat.lt_succ_self _, here⟩
      · obtain ⟨k, earlier, gave⟩ := separate.made other a here
        exact ⟨k, Nat.lt_succ_of_lt earlier, gave⟩
    · intro first second a here there
      rw [slots'] at here there
      split at here <;> split at there
      · next same same' => rw [same, same']
      · exact absurd here (fresh second a there)
      · exact absurd there (fresh first a here)
      · exact separate.apart first second a here there

theorem separate_empty (make : Nat → Option α) : Separate make {} where
  made := by rintro name a ⟨⟩
  apart := by rintro name other a ⟨⟩

theorem separate_ask (apart : Apart make) (names : List String) : Separate make (ask make {} names) :=
  ask_keeps (separate_empty make) (fun _ name separate => separate.get apart name) names

/-! A maker that never declines, and one that always does. -/

/-- Every slot was made, each by the call in which its name was new. -/
structure Filled (make : Nat → Option α) (slots : Slots α) : Prop where
  calls : slots.calls = slots.names.length
  made : ∀ k name, slots.names[k]? = some name → slots.slot? name = make k

theorem Filled.get (filled : Filled make slots) (gives : ∀ k, make k ≠ none) (name : String) :
    Filled make (slots.get make name).2 := by
  cases found : slots.slot? name with
  | some a =>
    rw [get_of_made found]
    exact filled
  | none =>
    have new : name ∉ slots.names := fun known => by
      obtain ⟨k, here⟩ := List.mem_iff_getElem?.mp known
      exact gives k ((filled.made k name here).symm.trans found)
    have listed : (slots.get make name).2.names = slots.names ++ [name] := (names_get make slots name).trans (if_neg new)
    refine ⟨?_, fun k other here => ?_⟩
    · rw [listed, List.length_append, ← filled.calls, get_of_empty found]
      rfl
    · rw [slot?_get, get_of_empty found]
      rw [listed] at here
      by_cases last : k = slots.names.length
      · subst last
        rw [List.getElem?_concat_length, Option.some.injEq] at here
        rw [if_pos here.symm, filled.calls]
      · have before : slots.names[k]? = some other := by
          have bound := (List.getElem?_eq_some_iff.mp here).1
          rw [List.length_append, List.length_singleton] at bound
          rwa [List.getElem?_append_left (by omega)] at here
        have different : other ≠ name := fun same => new (same ▸ List.mem_of_getElem? before)
        rw [if_neg different]
        exact filled.made k other before

theorem filled_ask (gives : ∀ k, make k ≠ none) (names : List String) : Filled make (ask make {} names) :=
  ask_keeps ⟨rfl, by rintro k name ⟨⟩⟩ (fun _ name filled => filled.get gives name) names

theorem slot_of_gives (gives : ∀ k, make k ≠ none) (names : List String) (name : String) :
    ((ask make {} names).get make name).1 = make ((names ++ [name]).eraseDups.idxOf name) := by
  have filled := filled_ask gives (names ++ [name])
  have member : name ∈ (names ++ [name]).eraseDups :=
    List.mem_eraseDups.mpr (List.mem_append_right _ (List.mem_singleton_self name))
  have listed : (ask make {} (names ++ [name])).names[(names ++ [name]).eraseDups.idxOf name]? = some name := by
    rw [names_ask, List.getElem?_eq_getElem (List.idxOf_lt_length_of_mem member), List.getElem_idxOf]
  have made := filled.made _ _ listed
  rw [ask_concat, slot?_get_self] at made
  exact made

theorem slot?_of_declining (declines : ∀ k, make k = none) (names : List String) :
    ∀ name, (ask make {} names).slot? name = none := by
  apply ask_keeps (P := fun slots => ∀ name, slots.slot? name = none)
  · exact fun _ => rfl
  · intro slots name empty other
    rw [slot?_get, get_of_empty (empty name)]
    split
    · exact declines _
    · exact empty other

theorem calls_of_declining (declines : ∀ k, make k = none) (names : List String) :
    (ask make {} names).calls = names.length := by
  induction names using List.reverseRecOn with
  | nil => rfl
  | append_singleton names name ih =>
    rw [ask_concat, get_of_empty (slot?_of_declining declines names name), List.length_append]
    exact congrArg Nat.succ ih

end TemplateCompiler.Slots
