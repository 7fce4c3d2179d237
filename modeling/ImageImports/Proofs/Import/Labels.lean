import ImageImports.Proofs.Import.Contents
import ImageImports.Query

/-!
# What symbols are listed as

An ordinal is listed by its digits, and one with more than `Decimal.maxDigits` of them cannot be
written.  What lists the symbols of a table therefore has an answer exactly when no symbol is such
an ordinal (`Table.Listable`).  The thunks of images are too narrow for them, so the symbols of a
table that is read can always be listed.

## Main results

* `Entry.label?_eq`, `Library.labels?_eq` — which symbols can be listed, and as what.
* `listable_read` — the symbols of a table that is read can be listed.
-/

namespace ImageImports

/-! ## Numbers that can be written -/

theorem Decimal.tenTo_eq (k : Nat) : tenTo k = 10 ^ k := rfl

/-- A whole number can be written when it lies below the power of ten that is too long. -/
theorem Decimal.isWritable_iff {n : Int} : isWritable n = true ↔ n.natAbs < 10 ^ maxDigits := by
  rw [isWritable, decide_eq_true_iff, tenTo_eq]

/-- Steps that have an answer where a condition holds have all their answers when it holds
everywhere. -/
theorem mapM_eq_ite {α β : Type} {f : α → Option β} {g : α → β} {p : α → Prop} [DecidablePred p]
    (h : ∀ a, f a = if p a then some (g a) else none) (as : List α) :
    as.mapM f = if ∀ a ∈ as, p a then some (as.map g) else none := by
  induction as with
  | nil => rfl
  | cons a rest ih =>
    rw [List.mapM_cons, h a, ih]
    by_cases ha : p a
    · by_cases hrest : ∀ b ∈ rest, p b
      · rw [if_pos ha, if_pos hrest, if_pos (List.forall_mem_cons.2 ⟨ha, hrest⟩)]
        rfl
      · rw [if_pos ha, if_neg hrest, if_neg fun hall => hrest (List.forall_mem_cons.1 hall).2]
        rfl
    · rw [if_neg ha, if_neg fun hall => ha (List.forall_mem_cons.1 hall).1]
      rfl

namespace Import

/-! ## Symbols -/

namespace Entry

variable {e : Entry}

/-- The symbol is no ordinal with too many digits. -/
def Listable (e : Entry) : Prop :=
  e.isOrdinal = true → e.payload.natAbs < 10 ^ Decimal.maxDigits

instance : DecidablePred Listable := fun e =>
  inferInstanceAs (Decidable (e.isOrdinal = true → e.payload.natAbs < 10 ^ Decimal.maxDigits))

/-- A symbol that can be listed is listed as its label. -/
theorem label?_eq (e : Entry) : e.label? = if e.Listable then some e.label else none := by
  rw [label?]
  cases hordinal : e.isOrdinal with
  | false =>
    have hlistable : e.Listable := fun h => absurd (hordinal.symm.trans h) Bool.false_ne_true
    rw [if_pos hlistable]
    rfl
  | true =>
    by_cases hlt : e.payload.natAbs < 10 ^ Decimal.maxDigits
    · rw [Decimal.isWritable_iff.2 hlt, if_pos (show e.Listable from fun _ => hlt)]
      rfl
    · rw [Bool.eq_false_iff.2 (mt Decimal.isWritable_iff.1 hlt),
        if_neg (show ¬ e.Listable from fun h => hlt (h hordinal))]
      rfl

/-- An ordinal has a label exactly when it has no more digits than can be written. -/
theorem label?_of_isOrdinal (hordinal : e.isOrdinal = true) :
    e.label? = if e.payload.natAbs < 10 ^ Decimal.maxDigits then some e.label else none := by
  rw [label?_eq]
  exact if_congr (forall_prop_of_true hordinal) rfl rfl

/-- Every symbol that stands in an image can be listed. -/
theorem listable_of_stands {ctx : Context} {bytes : ByteArray} {offset : Int}
    (h : ctx.EntryStandsAt bytes offset e) : e.Listable := by
  have hpos : (0 : Int) < 2 ^ (ctx.width.bits - 1) := Int.pow_pos (by decide)
  have hwidth : (2 : Int) ^ (ctx.width.bits - 1) ≤ 2 ^ 63 := by
    cases ctx.width <;> decide
  have h0 : 0 ≤ e.payload := h.payload ▸ Int.emod_nonneg e.raw (Int.ne_of_gt hpos)
  have hlt : e.payload < 2 ^ 63 :=
    h.payload ▸ Int.lt_of_lt_of_le (Int.emod_lt_of_pos e.raw hpos) hwidth
  have hdigits : 2 ^ 63 ≤ 10 ^ Decimal.maxDigits := by decide +kernel
  intro _
  omega

end Entry

/-! ## Libraries and tables -/

/-- The symbols of a library are listed when each of them can be. -/
theorem Library.labels?_eq (l : Library) : l.labels? =
    if ∀ e ∈ l.entries, e.Listable then some (l.entries.map (·.label)) else none :=
  mapM_eq_ite Entry.label?_eq l.entries

/-- Every symbol of the table can be listed. -/
def Table.Listable (t : Table) : Prop := ∀ l ∈ t.libraries, ∀ e ∈ l.entries, e.Listable

instance : DecidablePred Table.Listable := fun t =>
  inferInstanceAs (Decidable (∀ l ∈ t.libraries, ∀ e ∈ l.entries, e.Listable))

/-- What a library of a table lists is its labels, where all symbols can be listed. -/
theorem Table.Listable.functionsOf?_eq {t : Table} (h : t.Listable) (name : String) :
    ∃ names, t.functionsOf? name = some names := by
  rw [functionsOf?]
  split
  · next l hfound =>
    rw [Library.labels?_eq, if_pos (h l (List.mem_of_find?_eq_some hfound))]
    exact ⟨_, rfl⟩
  · exact ⟨[], rfl⟩

/-- **The symbols of a table that is read can be listed**, whatever the bytes and the limits are. -/
theorem listable_read (r : Reader) (sections : SectionMap) (directories : List DataDirectory)
    (bits : Option Int) (limits : Limits) :
    (read r sections directories bits limits).table.Listable := by
  rcases read_cases sections directories bits with ⟨present, notes, stop?, hread⟩ |
    ⟨width, location, -, -, hread⟩
  · rw [hread]
    intro l hl
    cases hl
  · rw [hread]
    intro l hl e he
    obtain ⟨j, hj⟩ := List.mem_iff_getElem?.1 he
    obtain ⟨start, -, hstands⟩ :=
      (Context.readAt_stands ⟨sections, width, limits⟩ bits location r).libraries.entry l hl j e hj
    exact Entry.listable_of_stands hstands

end Import

end ImageImports
