import Mathlib.Data.List.Infix

/-! Readers of a list of bytes, and the two laws of a field: whatever follows it, it reads back;
and a reader that is given only a part of it refuses. Both hold of a sequence of fields when
they hold of each. -/
namespace ByteReader

variable {ε α β : Type}

abbrev Reader (ε α : Type) := StateT (List UInt8) (Except ε) α

/-- `field` is read as `a`, and a strict prefix of it is refused with an error of the kind
`refusal`. -/
structure Reads (refusal : ε → Prop) (read : Reader ε α) (field : List UInt8) (a : α) : Prop where
  exact : ∀ rest, read.run (field ++ rest) = .ok (a, rest)
  cut : ∀ pre, pre <+: field → pre ≠ field → ∃ e, read.run pre = .error e ∧ refusal e

variable {refusal : ε → Prop}

theorem Reads.pure (a : α) : Reads refusal (pure a : Reader ε α) [] a := by
  refine ⟨fun rest => rfl, fun pre hpre hne => ?_⟩
  exact absurd (List.prefix_nil.mp hpre) hne

/-- A cut of two fields in a row is a cut of the first, or the first with a cut of the second. -/
theorem prefix_append_cases {pre l l' : List UInt8} (h : pre <+: l ++ l') :
    (pre <+: l ∧ pre ≠ l) ∨ ∃ pre', pre = l ++ pre' ∧ pre' <+: l' := by
  rcases List.prefix_or_prefix_of_prefix h (List.prefix_append l l') with hpre | ⟨pre', rfl⟩
  · by_cases heq : pre = l
    · exact .inr ⟨[], by simpa using heq, List.nil_prefix⟩
    · exact .inl ⟨hpre, heq⟩
  · exact .inr ⟨pre', rfl, (List.prefix_append_right_inj l).mp h⟩

theorem Reads.bind {read : Reader ε α} {next : α → Reader ε β} {field field' : List UInt8}
    {a : α} {b : β} (h : Reads refusal read field a) (h' : Reads refusal (next a) field' b) :
    Reads refusal (read >>= next) (field ++ field') b := by
  constructor
  · intro rest
    rw [StateT.run_bind, List.append_assoc, h.exact]
    exact h'.exact rest
  · intro pre hpre hne
    rw [StateT.run_bind]
    rcases prefix_append_cases hpre with ⟨hcut, hshort⟩ | ⟨pre', rfl, hcut⟩
    · obtain ⟨e, he, hrefusal⟩ := h.cut pre hcut hshort
      refine ⟨e, ?_, hrefusal⟩
      rw [he]
      rfl
    · rw [h.exact]
      exact h'.cut pre' hcut fun heq => hne (by rw [heq])

end ByteReader
