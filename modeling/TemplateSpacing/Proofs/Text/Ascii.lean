import TemplateSpacing.Text.Utf8

/-! # Plain texts as bytes

A text of plain characters, one byte each, is read back from its bytes.
-/

set_option autoImplicit false

namespace TemplateSpacing.Text

def ascii (text : String) : List UInt8 :=
  text.toList.map fun c => UInt8.ofNat c.toNat

def IsPlain (c : Char) : Prop :=
  c.toNat < 128 ∧ c ≠ '\r'

instance : DecidablePred IsPlain :=
  fun _ => inferInstanceAs (Decidable (_ ∧ _))

theorem isPlain_append {front back : String} (before : ∀ c ∈ front.toList, IsPlain c)
    (after : ∀ c ∈ back.toList, IsPlain c) : ∀ c ∈ (front ++ back).toList, IsPlain c := by
  intro c member
  rw [String.toList_append] at member
  rcases List.mem_append.mp member with first | last
  · exact before c first
  · exact after c last

section Plain

variable {cs : List Char}

theorem decodeFrom_plain (plain : ∀ c ∈ cs, IsPlain c) (position : Nat) (decoded : List Char) :
    decodeFrom position none decoded (cs.map fun c => UInt8.ofNat c.toNat) = .ok (decoded.reverse ++ cs) := by
  induction cs generalizing position decoded with
  | nil => rw [List.map_nil, decodeFrom, List.append_nil]
  | cons c rest ih =>
      obtain ⟨own, others⟩ := List.forall_mem_cons.mp plain
      have byte : (UInt8.ofNat c.toNat).toNat = c.toNat := by
        rw [UInt8.toNat_ofNat']
        exact Nat.mod_eq_of_lt (Nat.lt_trans own.1 (by decide))
      rw [List.map_cons, decodeFrom, byte, if_pos own.1, ih others, Char.ofNat_toNat, List.reverse_cons,
        List.append_assoc, List.singleton_append]

theorem unifyOnto_plain (plain : ∀ c ∈ cs, IsPlain c) (done : List Char) :
    unifyOnto done cs = cs.reverse ++ done := by
  induction cs generalizing done with
  | nil => rfl
  | cons c rest ih =>
      obtain ⟨own, others⟩ := List.forall_mem_cons.mp plain
      have next : unifyOnto done (c :: rest) = unifyOnto (c :: done) rest := by
        rw [unifyOnto]
        · exact fun _ isReturn _ => own.2 isReturn
        · exact own.2
      rw [next, ih others, List.reverse_cons, List.append_assoc, List.singleton_append]

theorem readText_ascii {text : String} (plain : ∀ c ∈ text.toList, IsPlain c) :
    readText (ascii text) = .ok text := by
  rw [readText, decodeUtf8, ascii, decodeFrom_plain plain, List.reverse_nil, List.nil_append, Except.map, Except.map,
    unifyLineEndings, String.toList_ofList, unifyOnto_plain plain, List.append_nil, List.reverse_reverse,
    String.ofList_toList]

end Plain

end TemplateSpacing.Text
