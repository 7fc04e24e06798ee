import TemplateCompiler.Proofs.Text.Literal
import TemplateCompiler.Text.Octets

namespace TemplateCompiler

open Text (IsPlain)

def Text.Plain (s : String) : Prop := ∀ c ∈ s.toList, IsPlain c

instance (s : String) : Decidable (Text.Plain s) := List.decidableBAll IsPlain s.toList

namespace Octets

def ofPlain (s : String) : List UInt8 := s.toList.map fun c => UInt8.ofNat c.toNat

theorem decodeFrom_plain {cs : List Char} (plain : ∀ c ∈ cs, IsPlain c) (position : Nat) (done : List Char) :
    decodeFrom position done (cs.map fun c => UInt8.ofNat c.toNat) = .ok (done.reverse ++ cs) := by
  induction cs generalizing position done with
  | nil => rw [List.map_nil, decodeFrom, List.append_nil]
  | cons c rest ih =>
    have small : c.toNat ≤ 126 := (plain c List.mem_cons_self).2
    have octet : (UInt8.ofNat c.toNat).toNat = c.toNat := UInt8.toNat_ofNat_of_lt' (by simp [UInt8.size]; omega)
    have single : width? (UInt8.ofNat c.toNat) = some 1 := by
      have below : UInt8.ofNat c.toNat < 0x80 := by
        rw [UInt8.lt_iff_toNat_lt, octet]
        change c.toNat < 128
        omega
      rw [width?, if_pos below]
    have same : scalar (UInt8.ofNat c.toNat) [] = c := by
      rw [scalar, List.foldl_nil, leadBits.eq_def]
      change Char.ofNat (UInt8.ofNat c.toNat).toNat = c
      rw [octet, Char.ofNat_toNat]
    have others := ih (fun d member => plain d (List.mem_cons_of_mem c member)) (position + 1) (c :: done)
    rw [List.map_cons, decodeFrom, single]
    simp only [Nat.sub_self, List.take_zero, List.drop_zero, goodLength, List.length_nil, Nat.lt_irrefl, ↓reduceIte,
      same]
    rw [others, List.reverse_cons, List.append_assoc]
    rfl

theorem unifyNewlines_plain {cs : List Char} (plain : ∀ c ∈ cs, IsPlain c) (done : List Char) :
    unifyNewlines done cs = done.reverse ++ cs := by
  induction cs generalizing done with
  | nil => rw [unifyNewlines, List.append_nil]
  | cons c rest ih =>
    have other : c ≠ '\r' := by
      rintro rfl
      exact absurd (plain _ List.mem_cons_self).1 (by decide)
    have others := ih (fun d member => plain d (List.mem_cons_of_mem c member)) (c :: done)
    rw [unifyNewlines]
    · rw [others, List.reverse_cons, List.append_assoc]
      rfl
    · simp [other]
    · simp [other]

theorem toText_plain {s : String} (plain : Text.Plain s) : toText (ofPlain s) = .ok s := by
  rw [toText, ofPlain, decodeFrom_plain plain]
  simp [unifyNewlines_plain plain]

end Octets

end TemplateCompiler
