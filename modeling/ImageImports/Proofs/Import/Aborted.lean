import ImageImports.Proofs.Import.Contents

/-!
# What an aborted reading keeps

A reading that the image ends early keeps what it has, and the failure says how far it
came.  There are three ways, and they exclude each other.

1. The directory was *not reached*: nothing is kept and nothing was warned of.
2. The reading stopped *among the descriptors*: the libraries before are kept without
   symbols, and the failure is at the record behind the last of them.
3. It stopped *among the lookup tables*: all libraries of the array are kept.  Those
   before the one that the failure names are complete, and those behind it have no
   symbols.

The second and the third may have the same kind, and a library may have an empty name, so
what parts them is the array: in the third it ends behind the libraries that are kept, and
in the second it does not.

## Main results

* `aborted_exactly_one` — an aborted reading is in exactly one of the three.
-/

namespace ImageImports.Import

namespace Context

variable (ctx : Context) (bytes : ByteArray)

/-! ## The three ways -/

/-- The failure in the lookup table of a library: what it says about where the table broke
off.  The symbols that were read before it tell which thunk that was. -/
def LookupBrokeOff (l : Library) (f : Failure) : Prop :=
  match f.kind with
  | .lookupTableUnreachable => l.entries = [] ∧
      f.offset = some ((ctx.sections.toOffset? l.descriptor.lookupRva).getD
        l.descriptor.lookupRva)
  | .possibleLoop => l.entries = [] ∧
      ∃ start, ctx.sections.toOffset? l.descriptor.lookupRva = some start
        ∧ f.offset = some start
  | .tableTooLarge | .lookupTableUnreadable =>
      ∃ start, ctx.sections.toOffset? l.descriptor.lookupRva = some start
        ∧ f.offset = some (start + ctx.width.bytes * l.entries.length)
  | .hintNameTableUnreachable =>
      ∃ start raw, ctx.sections.toOffset? l.descriptor.lookupRva = some start
        ∧ Bytes.number? bytes (start + ctx.width.bytes * l.entries.length)
          ctx.width.bytes = some raw
        ∧ ctx.sections.toOffset? (raw % 2 ^ 31) = none ∧ f.offset = some (raw % 2 ^ 31)
  | .hintNameUnreadable =>
      ∃ start raw place, ctx.sections.toOffset? l.descriptor.lookupRva = some start
        ∧ Bytes.number? bytes (start + ctx.width.bytes * l.entries.length)
          ctx.width.bytes = some raw
        ∧ ctx.sections.toOffset? (raw % 2 ^ 31) = some place ∧ f.offset = some place
  | _ => False

/-- The reading stopped among the descriptors. -/
structure StoppedInDescriptors (location : DataDirectory.Location) (t : Table)
    (f : Failure) :
    Prop where
  kind : f.kind = .descriptorUnreadable ∨ f.kind = .descriptorNameUnreadable
    ∨ f.kind = .tableTooLarge
  descriptors : ctx.DescriptorsStand bytes location t.libraries
  entries : ∀ l ∈ t.libraries, l.entries = []
  warnings : t.warnings = []
  library : f.library = ""
  offset : f.offset = some (location.offset + Descriptor.recordSize * t.libraries.length)
  firstName : f.kind = .descriptorNameUnreadable → t.libraries = []
  goesOn : ∀ d, ¬ ctx.ArrayEnds bytes location t.libraries.length d

/-- The reading stopped among the lookup tables. -/
structure StoppedInLookups (location : DataDirectory.Location) (t : Table) (f : Failure) :
    Prop where
  descriptors : ctx.DescriptorsStand bytes location t.libraries
  arrayEnds : ∃ d, ctx.ArrayEnds bytes location t.libraries.length d
  broken : ∃ (k : Nat) (l : Library), t.libraries[k]? = some l ∧ l.name = f.library
    ∧ ctx.LookupBrokeOff bytes l f
    ∧ (∀ (i : Nat) m, i < k → t.libraries[i]? = some m → ctx.EndsInZero bytes m)
    ∧ ∀ (i : Nat) m, k < i → t.libraries[i]? = some m → m.entries = []

/-! ## The first phase -/

theorem limitStop_eq_aborted {limit : Limit} {cause found : Cause}
    (h : limitStop limit cause = .aborted found) : found = cause := by
  simp only [limitStop] at h
  split at h
  · cases h
  · injection h with h
    exact h.symm

/-- What stands in twenty bytes can be read. -/
theorem run?_of_fieldsAt {offset : Nat} {d : Descriptor} (h : FieldsAt bytes offset d) :
    ∃ record, Bytes.run? bytes offset Descriptor.recordSize = some record := by
  obtain ⟨last, hlast, -⟩ := Option.map_eq_some_iff.1 h.firstThunk
  obtain ⟨-, hle, -⟩ := Bytes.run?_eq_some_iff.1 hlast
  refine ⟨_, Bytes.run?_eq_some_iff.2 ⟨Int.natCast_nonneg _, ?_, rfl⟩⟩
  simp only [Descriptor.recordSize]
  omega

/-- A record that is no end, taken by its own fields, is none by the fields that stand
there. -/
theorem not_last_of_decode {offset count : Nat} {record : ByteArray} {d : Descriptor}
    (hrecord : Bytes.run? bytes offset Descriptor.recordSize = some record)
    (hsentinel : ¬ (Descriptor.decode record).isSentinel = true)
    (hname : count = 0 ∨ ctx.nameIn bytes (Descriptor.decode record) ≠ .ok none)
    (hd : FieldsAt bytes offset d) :
    ¬ ((d.originalFirstThunk = 0 ∧ d.firstThunk = 0)
      ∨ (0 < count ∧ ctx.Nameless bytes d)) := by
  have heq := hd.unique bytes (fieldsAt_decode bytes hrecord)
  rintro (hzero | ⟨hpos, hless⟩)
  · rw [heq] at hzero
    exact hsentinel (isSentinel_iff.2 hzero)
  · rcases hname with hcount | hname
    · omega
    · have hnone : ctx.nameIn bytes d = .ok none := (ctx.nameIn_eq_none_iff bytes).2 hless
      rw [heq] at hnone
      exact hname hnone

/-- What stops the first phase is no record that may end its array. -/
theorem of_descriptorAt_stopped {tableEnd? : Option Int} {offset count : Nat} {stop : Stop}
    (h : ctx.descriptorAt bytes tableEnd? offset count = .error (.stopped stop))
    (hin : runsPast tableEnd? (offset + Descriptor.recordSize) = false) {d : Descriptor}
    (hd : FieldsAt bytes offset d) :
    ¬ ((d.originalFirstThunk = 0 ∧ d.firstThunk = 0) ∨ (0 < count ∧ ctx.Nameless bytes d)) := by
  cases ctx.descriptorStep bytes h with
  | unterminated hpast => cases hpast.symm.trans hin
  | unreadable hin hnone =>
    obtain ⟨record, hrecord⟩ := run?_of_fieldsAt bytes hd
    cases hnone.symm.trans hrecord
  | faulted hat htables hname =>
    refine ctx.not_last_of_decode bytes hat.run htables (.inr fun hnone => ?_) hd
    cases hname.symm.trans hnone
  | namelessFirst hat htables hname hcount =>
    exact ctx.not_last_of_decode bytes hat.run htables (.inl hcount) hd
  | full hat htables hname hfull hstop =>
    refine ctx.not_last_of_decode bytes hat.run htables (.inr fun hnone => ?_) hd
    cases hname.symm.trans hnone

/-- Where the first phase is aborted, and what the record there is not. -/
theorem of_descriptorAt_aborted {tableEnd? : Option Int} {offset count : Nat}
    {cause : Cause} (h : ctx.descriptorAt bytes tableEnd? offset count =
      .error (.stopped (.aborted cause))) :
    (cause.kind = .descriptorUnreadable
      ∨ (cause.kind = .descriptorNameUnreadable ∧ count = 0)
        ∨ cause.kind = .tableTooLarge)
      ∧ cause.library = "" ∧ cause.offset? = some (offset : Int)
      ∧ (runsPast tableEnd? (offset + Descriptor.recordSize) = false →
        ∀ d, FieldsAt bytes offset d →
          ¬ ((d.originalFirstThunk = 0 ∧ d.firstThunk = 0)
            ∨ (0 < count ∧ ctx.Nameless bytes d))) := by
  have hlast hin d hd := ctx.of_descriptorAt_stopped bytes h hin (d := d) hd
  cases ctx.descriptorStep bytes h with
  | unterminated hpast => exact ⟨.inr (.inr rfl), rfl, rfl, hlast⟩
  | unreadable hin hnone => exact ⟨.inl rfl, rfl, rfl, hlast⟩
  | namelessFirst hat htables hname hcount =>
    exact ⟨.inr (.inl ⟨rfl, hcount⟩), rfl, rfl, hlast⟩
  | full hat htables hname hfull hstop =>
    rw [limitStop_eq_aborted hstop]
    exact ⟨.inr (.inr rfl), rfl, rfl, hlast⟩

/-! ## The second phase -/

/-- What stops the reading of a hint and a name. -/
theorem of_hintNameIn_aborted {library : String} {e : Entry} {cause : Cause}
    (h : ctx.hintNameIn bytes library e = .error (.aborted cause)) :
    (ctx.sections.toOffset? e.hintNameRva = none
      ∧ cause = .hintUnreachable library e.hintNameRva)
      ∨ ∃ place, ctx.sections.toOffset? e.hintNameRva = some place
        ∧ cause = .hintUnreadable library place := by
  cases ctx.hintStep bytes h with
  | unreachable hname hnone => exact .inl ⟨hnone, rfl⟩
  | hintUnreadable hname hplace hnone => exact .inr ⟨_, hplace, rfl⟩
  | nameUnreadable hname hplace hhint htext => exact .inr ⟨_, hplace, rfl⟩

/-- Where a lookup table is aborted: at a thunk, or at the hint and the name that a thunk
leads to. -/
theorem of_entryAt_aborted {library : String} {tableEnd? : Option Int}
    {offset count : Nat} {cause : Cause}
    (h : ctx.entryAt bytes library tableEnd? offset count =
      .error (.stopped (.aborted cause))) :
    cause.library = library
      ∧ (((cause.kind = .tableTooLarge ∨ cause.kind = .lookupTableUnreadable)
          ∧ cause.offset? = some (offset : Int))
        ∨ ∃ raw, Bytes.number? bytes offset ctx.width.bytes = some raw
          ∧ ((cause.kind = .hintNameTableUnreachable
            ∧ ctx.sections.toOffset? (raw % 2 ^ 31) = none
              ∧ cause.offset? = some (raw % 2 ^ 31))
            ∨ ∃ place, cause.kind = .hintNameUnreadable
              ∧ ctx.sections.toOffset? (raw % 2 ^ 31) = some place
              ∧ cause.offset? = some place)) := by
  cases ctx.entryStep bytes h with
  | unterminated hpast => exact ⟨rfl, .inl ⟨.inl rfl, rfl⟩⟩
  | unreadable hin hnone => exact ⟨rfl, .inl ⟨.inr rfl, rfl⟩⟩
  | full hat hzero hfull hstop =>
    rw [limitStop_eq_aborted hstop]
    exact ⟨rfl, .inl ⟨.inl rfl, rfl⟩⟩
  | @hintStopped thunk _ hat hzero hfew hhint =>
    have hnumber : Bytes.number? bytes offset ctx.width.bytes =
        some (Bytes.littleEndian thunk : Int) := by
      rw [Bytes.number?, hat.run, Option.map_some]
    have hlow : (Entry.ofThunk (Bytes.littleEndian thunk)
        (ctx.width.bits - 1)).hintNameRva =
        (Bytes.littleEndian thunk : Int) % 2 ^ 31 := ctx.hintNameRva_ofThunk _
    rcases ctx.of_hintNameIn_aborted bytes hhint with ⟨hnone, rfl⟩ | ⟨place, hplace, rfl⟩
    · rw [hlow] at hnone
      exact ⟨rfl, .inr ⟨_, hnumber, .inl ⟨rfl, hnone, congrArg some hlow⟩⟩⟩
    · rw [hlow] at hplace
      exact ⟨rfl, .inr ⟨_, hnumber, .inr ⟨place, rfl, hplace, rfl⟩⟩⟩

/-- A lookup table that was given up names its library and the place where it broke
off. -/
theorem lookupBrokeOff_of_stoppedAt {arrayStart arrayEnd : Int} {cause : Cause}
    {l : Library} (h : ctx.StoppedAt bytes arrayStart arrayEnd (.aborted cause) l) :
    l.name = cause.library ∧ ctx.LookupBrokeOff bytes l cause.failure := by
  obtain ⟨hentries, hending⟩ := h
  rcases ctx.lookupIn_cases bytes arrayStart arrayEnd l.descriptor with
    ⟨hnone, hnil, hstop⟩ | ⟨start, hstart, ⟨-, hnil, hstop⟩ | ⟨-, -, hnil, hstop⟩ |
      ⟨⟨h0, -⟩, -, hrun⟩⟩
  · cases hending.symm.trans hstop
    refine ⟨rfl, hentries.trans hnil, ?_⟩
    rw [hnone]
    rfl
  · cases hending.symm.trans hstop
    refine ⟨rfl, hentries.trans hnil, ?_⟩
    rw [hstart]
    rfl
  · cases hending.symm.trans hstop
    exact ⟨rfl, hentries.trans hnil, start, hstart, rfl⟩
  · have hlast := hrun.last
    rw [hending, ← hentries] at hlast
    have hplace : ((start.toNat + ctx.width.bytes * l.entries.length : Nat) : Int) =
        start + ctx.width.bytes * l.entries.length := by
      rw [Int.natCast_add, Int.toNat_of_nonneg h0, Int.natCast_mul]
    obtain ⟨hlibrary, hwhere⟩ := ctx.of_entryAt_aborted bytes hlast
    rw [hplace] at hwhere
    refine ⟨hlibrary.symm, ?_⟩
    rcases hwhere with ⟨hkind | hkind, hoffset⟩ |
      ⟨raw, hraw, ⟨hkind, hnone, hoffset⟩ | ⟨place, hkind, htarget, hoffset⟩⟩
    · simp only [LookupBrokeOff, Cause.failure, hkind]
      exact ⟨start, hstart, hoffset⟩
    · simp only [LookupBrokeOff, Cause.failure, hkind]
      exact ⟨start, hstart, hoffset⟩
    · simp only [LookupBrokeOff, Cause.failure, hkind]
      exact ⟨start, raw, hstart, hraw, hnone, hoffset⟩
    · simp only [LookupBrokeOff, Cause.failure, hkind]
      exact ⟨start, raw, place, hstart, hraw, htarget, hoffset⟩

/-! ## A directory that was found -/

variable {bits : Option Int} {location : DataDirectory.Location}

/-- An array that lies outside the file ends nowhere. -/
theorem not_arrayEnds_of_outside
    (hout : ¬ (0 ≤ location.offset ∧ location.offset ≤ bytes.size))
    (d : Descriptor) : ¬ ctx.ArrayEnds bytes location 0 d := by
  intro hends
  have hfirst := hends.fields.originalFirstThunk
  obtain ⟨run, hrun, -⟩ := Option.map_eq_some_iff.1 hfirst
  obtain ⟨h0, hle, -⟩ := Bytes.run?_eq_some_iff.1 hrun
  apply hout
  omega

/-- A record that may end an array lies in the section of the array. -/
theorem ArrayEnds.runsPast {count : Nat} {d : Descriptor} (h0 : 0 ≤ location.offset)
    (h : ctx.ArrayEnds bytes location count d) :
    runsPast (ctx.sections.rawEndAt? location.rva)
      ((location.offset.toNat + Descriptor.recordSize * count : Nat)
        + Descriptor.recordSize) = false := by
  cases hend : ctx.sections.rawEndAt? location.rva with
  | none => rfl
  | some tableEnd =>
    have hinside := h.inside tableEnd hend
    rw [Int.mul_add, Int.mul_one] at hinside
    simp only [Import.runsPast, decide_eq_false_iff_not]
    omega

/-- The fields of a record that may end an array stand where the first phase came to. -/
theorem ArrayEnds.fieldsAt {count : Nat} {d : Descriptor} (h0 : 0 ≤ location.offset)
    (h : ctx.ArrayEnds bytes location count d) :
    FieldsAt bytes (location.offset.toNat + Descriptor.recordSize * count : Nat) d := by
  have hfields := h.fields
  rwa [Int.natCast_add, Int.toNat_of_nonneg h0, Int.natCast_mul]

/-- A directory beyond the end of the file is an array that broke off at its first
record. -/
theorem stopped_of_outside (r : Reader)
    (hout : ¬ (0 ≤ location.offset ∧ location.offset ≤ r.data.size)) {f : Failure}
    (hf : (readAt ctx bits location r).table.error = some f) :
    ctx.StoppedInDescriptors r.data location (readAt ctx bits location r).table f := by
  rw [readAt_of_outside ctx hout] at hf ⊢
  cases hf
  exact
    { kind := .inl rfl
      descriptors := fun i l hl => by cases hl
      entries := fun l hl => absurd hl List.not_mem_nil
      warnings := rfl
      library := rfl
      offset := congrArg some (by simp [outcome])
      firstName := fun h => by cases h
      goesOn := fun d => ctx.not_arrayEnds_of_outside r.data hout d }

/-- An array that the image broke off. -/
theorem stopped_of_descriptors (bits : Option Int) (r : Reader) (h0 : 0 ≤ location.offset)
    (hle : location.offset ≤ r.data.size) {cause : Cause}
    (hstop : (ctx.descriptorsIn r.data location).ending = .stopped (.aborted cause)) :
    ctx.StoppedInDescriptors r.data location (readAt ctx bits location r).table
      cause.failure := by
  have hlast := (ctx.descriptorsIn_follows r.data location).last
  rw [hstop] at hlast
  obtain ⟨hkind, hlibrary, hoffset, hgoes⟩ := ctx.of_descriptorAt_aborted r.data hlast
  have hplace (n : Nat) :
      ((location.offset.toNat + Descriptor.recordSize * n : Nat) : Int) =
      location.offset + Descriptor.recordSize * n := by
    rw [Int.natCast_add, Int.toNat_of_nonneg h0, Int.natCast_mul]
  rw [readAt_of_stopped ctx h0 hle hstop]
  have hlen :
      ((ctx.descriptorsIn r.data location).items.map fun d => Library.mk d []).length =
        (ctx.descriptorsIn r.data location).items.length := List.length_map ..
  exact
    { kind := by
        rcases hkind with hkind | ⟨hkind, -⟩ | hkind
        · exact .inl hkind
        · exact .inr (.inl hkind)
        · exact .inr (.inr hkind)
      descriptors := ctx.descriptorsStand_of_descriptors r.data h0
        (descriptors_unread _)
      entries := fun l hl => by
        obtain ⟨d, -, rfl⟩ := List.mem_map.1 hl
        rfl
      warnings := rfl
      library := hlibrary
      offset := by
        simp only [outcome, hlen, ← hplace]
        exact hoffset
      firstName := fun hname => by
        rcases hkind with hkind | ⟨-, hnone⟩ | hkind
        · cases hkind.symm.trans hname
        · simp only [outcome, List.eq_nil_of_length_eq_zero hnone, List.map_nil]
        · cases hkind.symm.trans hname
      goesOn := fun d hends => by
        simp only [outcome, hlen] at hends
        exact hgoes (hends.runsPast ctx r.data h0) d (hends.fieldsAt ctx r.data h0) hends.last }

/-- An array that was read to its end, and a lookup table that the image broke off. -/
theorem stopped_of_lookups {libraries : List Library} {cause : Cause}
    (h0 : 0 ≤ location.offset)
    (hended : ∀ stop, (ctx.descriptorsIn bytes location).ending ≠ .stopped stop)
    (hdescriptors : libraries.map (·.descriptor) =
      (ctx.descriptorsIn bytes location).items)
    (htables : ctx.LookupsRead bytes location libraries (some (.aborted cause)))
    {t : Table} (ht : t.libraries = libraries) :
    ctx.StoppedInLookups bytes location t cause.failure := by
  have hlen : libraries.length = (ctx.descriptorsIn bytes location).items.length := by
    rw [← hdescriptors, List.length_map]
  obtain ⟨before, l, behind, hsplit, hbefore, hl, hbehind⟩ := htables
  obtain ⟨hname, hbroke⟩ := ctx.lookupBrokeOff_of_stoppedAt bytes hl
  obtain ⟨d, hd⟩ := ctx.arrayEnds_of_descriptorsIn bytes h0 hended
  subst ht
  exact
    { descriptors := ctx.descriptorsStand_of_descriptors bytes h0 hdescriptors
      arrayEnds := ⟨d, hlen ▸ hd⟩
      broken := by
        refine ⟨before.length, l, ?_, hname, hbroke, ?_, ?_⟩
        · rw [hsplit, List.getElem?_append_right (Nat.le_refl _), Nat.sub_self]
          rfl
        · intro i m hi hm
          rw [hsplit, List.getElem?_append_left hi] at hm
          exact ctx.endsInZero_of_readToEnd bytes (hbefore m (List.mem_of_getElem? hm))
        · intro i m hi hm
          obtain ⟨n, rfl⟩ : ∃ n, i = before.length + (n + 1) :=
            ⟨i - before.length - 1, by omega⟩
          rw [hsplit, List.getElem?_append_right (Nat.le_add_right _ _),
            Nat.add_sub_cancel_left, List.getElem?_cons_succ] at hm
          exact hbehind m (List.mem_of_getElem? hm) }

/-- An aborted reading of a directory that was found stopped in one of the two loops. -/
theorem readAt_aborted (r : Reader) {f : Failure}
    (hf : (readAt ctx bits location r).table.error = some f) :
    ctx.StoppedInDescriptors r.data location (readAt ctx bits location r).table f
      ∨ ctx.StoppedInLookups r.data location (readAt ctx bits location r).table f := by
  rcases ctx.readAt_cases bits location r with ⟨hout, -⟩ | ⟨h0, hle, stop, hstop, hread⟩ |
    ⟨h0, -, hended, libraries, reader, stop?, hread, hdescriptors, htables⟩
  · exact .inl (ctx.stopped_of_outside r hout hf)
  · left
    cases stop with
    | aborted cause =>
      have hstands := ctx.stopped_of_descriptors bits r h0 hle hstop
      rw [hread] at hf
      cases hf
      exact hstands
    | fault fault =>
      rw [hread] at hf
      cases hf
  · right
    rw [hread] at hf ⊢
    rcases stop? with _ | cause | fault
    · cases hf
    · cases hf
      exact ctx.stopped_of_lookups r.data h0 hended hdescriptors htables rfl
    · cases hf

/-- Where the array goes on, the reading did not come to the lookup tables. -/
theorem StoppedInDescriptors.not_stoppedInLookups {t : Table} {f : Failure}
    (h : ctx.StoppedInDescriptors bytes location t f) :
    ¬ ctx.StoppedInLookups bytes location t f := by
  intro hlookups
  obtain ⟨d, hd⟩ := hlookups.arrayEnds
  exact h.goesOn d hd

/-- A failure in a lookup table is of another kind than a directory that was not
reached. -/
theorem StoppedInLookups.not_unreached {t : Table} {f : Failure}
    (h : ctx.StoppedInLookups bytes location t f) :
    f.kind ≠ .headerUnavailable ∧ f.kind ≠ .directoryUnreachable := by
  obtain ⟨k, l, -, -, hbroke, -⟩ := h.broken
  constructor
  · intro hkind
    simp only [LookupBrokeOff, hkind] at hbroke
  · intro hkind
    simp only [LookupBrokeOff, hkind] at hbroke

/-- A failure at a descriptor is of another kind than a directory that was not reached. -/
theorem StoppedInDescriptors.not_unreached {t : Table} {f : Failure}
    (h : ctx.StoppedInDescriptors bytes location t f) :
    f.kind ≠ .headerUnavailable ∧ f.kind ≠ .directoryUnreachable := by
  rcases h.kind with hkind | hkind | hkind
  · simp [hkind]
  · simp [hkind]
  · simp [hkind]

end Context

/-- The directory was not reached: the width is unknown, or no section backs the
directory. -/
structure NotReached (sections : SectionMap) (directories : List DataDirectory)
    (bits : Option Int) (t : Table) (f : Failure) : Prop where
  cause : (f.kind = .headerUnavailable ∧ bits ≠ some 32 ∧ bits ≠ some 64)
    ∨ (f.kind = .directoryUnreachable ∧ ∃ directory, directories[1]? = some directory
      ∧ directory.rva ≠ 0 ∧ sections.toOffset? directory.rva = none)
  libraries : t.libraries = []
  warnings : t.warnings = []

/-- Something holds of the place of a directory that was found, and of what the loops know
there. -/
def AtDirectory (sections : SectionMap) (directories : List DataDirectory)
    (bits : Option Int) (limits : Limits) (p : Context → DataDirectory.Location → Prop) :
    Prop :=
  ∃ (width : Width) (location : DataDirectory.Location), bits = some (width.bits : Int)
    ∧ DataDirectory.locate directories sections DataDirectory.importIndex =
      .ok (some location)
    ∧ p ⟨sections, width, limits⟩ location

/-- One of three holds, and no two of them do. -/
def ExactlyOne (first second third : Prop) : Prop :=
  (first ∨ second ∨ third) ∧ ¬ (first ∧ second) ∧ ¬ (first ∧ third) ∧ ¬ (second ∧ third)

section

variable {sections : SectionMap} {directories : List DataDirectory} {bits : Option Int}
  {limits : Limits}

/-- The directory that a failed search was for. -/
theorem directory_of_locate_error {e : DataDirectory.Unreachable}
    (h : DataDirectory.locate directories sections DataDirectory.importIndex = .error e) :
    ∃ directory, directories[1]? = some directory ∧ directory.rva ≠ 0
      ∧ sections.toOffset? directory.rva = none := by
  simp only [DataDirectory.locate] at h
  split at h
  · cases h
  · next directory hentry =>
    refine ⟨directory, hentry, ?_⟩
    split at h
    · cases h
    · next hzero =>
      split at h
      · next hnone => exact ⟨hzero, hnone⟩
      · cases h

theorem width_of_ofBits? {width : Width} (h : Width.ofBits? bits = some width) :
    bits = some (width.bits : Int) := by
  simp only [Width.ofBits?] at h
  split at h
  · cases h
    rfl
  · cases h
    rfl
  · cases h

theorem ne_of_ofBits?_eq_none (h : Width.ofBits? bits = none) :
    bits ≠ some 32 ∧ bits ≠ some 64 := by
  constructor
  · rintro rfl
    cases h
  · rintro rfl
    cases h

/-- A failure that left the directory unreached is none of a directory that was found. -/
theorem NotReached.not_atDirectory {t : Table} {f : Failure}
    (h : NotReached sections directories bits t f)
    {p : Context → DataDirectory.Location → Prop}
    (hp : ∀ ctx location, p ctx location →
      f.kind ≠ .headerUnavailable ∧ f.kind ≠ .directoryUnreachable) :
    ¬ AtDirectory sections directories bits limits p := by
  rintro ⟨width, location, -, -, hfound⟩
  obtain ⟨hheader, hdirectory⟩ := hp _ _ hfound
  rcases h.cause with ⟨hkind, -⟩ | ⟨hkind, -⟩
  · exact hheader hkind
  · exact hdirectory hkind

/-- A directory is found at one place only, so what holds of its place holds together. -/
theorem AtDirectory.and {p q : Context → DataDirectory.Location → Prop}
    (hp : AtDirectory sections directories bits limits p)
    (hq : AtDirectory sections directories bits limits q) :
    AtDirectory sections directories bits limits fun ctx location =>
      p ctx location ∧ q ctx location := by
  obtain ⟨width, location, hbits, hlocate, hfirst⟩ := hp
  obtain ⟨width', location', hbits', hlocate', hsecond⟩ := hq
  have hwidth : width = width' := by
    have heq := hbits.symm.trans hbits'
    cases width <;> cases width' <;> first | rfl | cases heq
  have hlocation : location = location' := by
    have heq := hlocate.symm.trans hlocate'
    injection heq with heq
    injection heq
  subst hwidth
  subst hlocation
  exact ⟨width, location, hbits, hlocate, hfirst, hsecond⟩

/-- An aborted reading is in one of the three ways: its width is unknown, its directory is
not reached, or one of the phases stopped. -/
theorem aborted_cases {r : Reader} {f : Failure}
    (hf : (read r sections directories bits limits).table.error = some f) :
    let t := (read r sections directories bits limits).table
    NotReached sections directories bits t f
      ∨ AtDirectory sections directories bits limits (fun ctx location =>
        ctx.StoppedInDescriptors r.data location t f)
      ∨ AtDirectory sections directories bits limits fun ctx location =>
        ctx.StoppedInLookups r.data location t f := by
  intro t
  rcases read_ways sections directories bits with ⟨hwidth, hread⟩ |
    ⟨width, hwidth, ⟨e, hlocate, hread⟩ | ⟨-, hread⟩ | ⟨location, hlocate, hread⟩⟩
  · left
    simp only [t]
    rw [hread] at hf ⊢
    cases hf
    exact ⟨.inl ⟨rfl, ne_of_ofBits?_eq_none hwidth⟩, rfl, rfl⟩
  · left
    simp only [t]
    rw [hread] at hf ⊢
    cases hf
    exact ⟨.inr ⟨rfl, directory_of_locate_error hlocate⟩, rfl, rfl⟩
  · rw [hread] at hf
    cases hf
  · right
    have hbits := width_of_ofBits? hwidth
    rw [hread] at hf
    have hstop := Context.readAt_aborted ⟨sections, width, limits⟩ r hf
    rw [← hread] at hstop
    rcases hstop with hstop | hstop
    · exact .inl ⟨width, location, hbits, hlocate, hstop⟩
    · exact .inr ⟨width, location, hbits, hlocate, hstop⟩

/-- **What an aborted reading keeps**: exactly one of the three — nothing, the libraries
before a record without their symbols, or all libraries with the symbols up to one
thunk. -/
theorem aborted_exactly_one {r : Reader} {f : Failure}
    (hf : (read r sections directories bits limits).table.error = some f) :
    let t := (read r sections directories bits limits).table
    ExactlyOne (NotReached sections directories bits t f)
      (AtDirectory sections directories bits limits fun ctx location =>
        ctx.StoppedInDescriptors r.data location t f)
      (AtDirectory sections directories bits limits fun ctx location =>
        ctx.StoppedInLookups r.data location t f) := by
  intro t
  refine ⟨aborted_cases hf, ?_, ?_, ?_⟩
  · rintro ⟨hnot, hstop⟩
    exact hnot.not_atDirectory (fun _ _ h => h.not_unreached) hstop
  · rintro ⟨hnot, hstop⟩
    exact hnot.not_atDirectory (fun _ _ h => h.not_unreached) hstop
  · rintro ⟨hdescriptors, hlookups⟩
    obtain ⟨width, location, -, -, hfirst, hsecond⟩ := hdescriptors.and hlookups
    exact hfirst.not_stoppedInLookups _ _ hsecond

/-- The sample under a limit of one symbol a library: the first symbol is kept, and the
failure is at the second thunk. -/
theorem aborted_sample :
    let limits : Limits := { maxEntriesPerLibrary := .ofInt 1 }
    let t := (read ⟨sample, 3⟩ sampleSections sampleDirectories (some 32) limits).table
    let f : Failure := ⟨.tableTooLarge, "a.dll imports more than 1 symbols.",
      some 0x34, "a.dll"⟩
    t.error = some f
      ∧ t.libraries.map (fun l => (l.name, l.entries)) =
        [("a.dll", [⟨0x103c, false, 0x103c, some 5, "f"⟩])]
      ∧ ExactlyOne (NotReached sampleSections sampleDirectories (some 32) t f)
        (AtDirectory sampleSections sampleDirectories (some 32) limits fun ctx location =>
          ctx.StoppedInDescriptors sample location t f)
        (AtDirectory sampleSections sampleDirectories (some 32) limits fun ctx location =>
          ctx.StoppedInLookups sample location t f) :=
  ⟨by decide +kernel, by decide +kernel,
    aborted_exactly_one (r := ⟨sample, 3⟩) (by decide +kernel)⟩

end

end ImageImports.Import
