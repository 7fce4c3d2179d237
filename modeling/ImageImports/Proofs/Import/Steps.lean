import ImageImports.Import.Directory
import ImageImports.Proofs.Reading

/-!
# The two loops, step by step

Both loops over an import directory move a reading head that side reads disturb and put
back.  Here each loop gets a *step*: what stands at an offset, as a function of the bytes,
the offset and the number of items accepted before, and of no head.  A step gives the next
item or the way the loop ends.

What can come of a step is listed once, one rule for each way, with everything that led to
it: `DescriptorStep`, `HintStep` and `EntryStep`.  Whatever is known of a step is read off
its rules, and a step that has what a rule asks for gives what the rule says (`.eq`).

`Scan.Follows` says that a scan is the run of a step: its `i`-th item is what the step
gives for `i`, and behind the last item the step gives the ending.  A step has one run at
most (`Scan.Follows.unique`), so whatever two runs share follows from their steps.

## Main results

* `Context.readDescriptors_follows`, `Context.readEntries_follows` — the loops are the
  runs of `descriptorAt` and `entryAt` at places that lie one record apart; no side read
  shifts them.
* `Context.pos_readDescriptors` — an array that ends by itself leaves the head behind the
  record that ended it.
* `Context.readLookupTables_spec` — the second phase reads every table from its own start,
  up to the first one that stops it.
* `Context.readAt_cases` — the three ways in which a directory is read.
-/

namespace ImageImports.Import

/-! ## Runs of a step -/

/-- The places of a run are counted from its first one. -/
theorem place_succ (start size i : Nat) :
    start + size + size * i = start + size * (i + 1) := by
  rw [Nat.mul_succ]
  omega

namespace Scan

variable {α : Type} {step : Nat → Except Ending α}

/-- The scan is the run of a step. -/
structure Follows (scan : Scan α) (step : Nat → Except Ending α) : Prop where
  item : ∀ i (h : i < scan.items.length), step i = .ok scan.items[i]
  last : step scan.items.length = .error scan.ending

/-- A run whose first place gives no item has none. -/
theorem Follows.of_error {stepAt : Nat → Nat → Except Ending α} {start size count : Nat}
    {reader : Reader} {ending : Ending} (h : stepAt start count = .error ending) :
    (finished reader ending : Scan α).Follows fun i =>
      stepAt (start + size * i) (count + i) where
  item i hi := absurd hi (Nat.not_lt_zero i)
  last := by
    show stepAt (start + size * 0) (count + 0) = .error ending
    rwa [Nat.mul_zero, Nat.add_zero, Nat.add_zero]

/-- A run goes on behind the item at its first place. -/
theorem Follows.cons {stepAt : Nat → Nat → Except Ending α} {start size count : Nat}
    {scan : Scan α} {a : α} (h0 : stepAt start count = .ok a)
    (h : scan.Follows fun i => stepAt (start + size + size * i) (count + 1 + i)) :
    (scan.cons a).Follows fun i => stepAt (start + size * i) (count + i) := by
  have hnext (i : Nat) : stepAt (start + size + size * i) (count + 1 + i) =
      stepAt (start + size * (i + 1)) (count + (i + 1)) := by
    rw [place_succ, Nat.add_assoc, Nat.add_comm 1]
  exact
    { item := fun i hi => by
        cases i with
        | zero =>
          show stepAt (start + size * 0) (count + 0) = .ok a
          rwa [Nat.mul_zero, Nat.add_zero, Nat.add_zero]
        | succ i => exact (hnext i).symm.trans (h.item i (Nat.lt_of_succ_lt_succ hi))
      last := (hnext _).symm.trans h.last }

theorem Follows.getElem? {scan : Scan α} (h : scan.Follows step) {i : Nat} {a : α}
    (ha : scan.items[i]? = some a) : step i = .ok a := by
  obtain ⟨hi, rfl⟩ := List.getElem?_eq_some_iff.1 ha
  exact h.item i hi

/-- A run ends where its step first gives no item. -/
theorem Follows.length_le {scan : Scan α} (h : scan.Follows step) {n : Nat}
    {ending : Ending} (hn : step n = .error ending) : scan.items.length ≤ n := by
  by_contra hlt
  have hitem := h.item n (Nat.lt_of_not_le hlt)
  rw [hn] at hitem
  cases hitem

/-- Where another step gives the items of a run, the run is the front of the other's. -/
theorem Follows.prefix_of_ok {few many : Nat → Except Ending α} {first second : Scan α}
    (hitem : ∀ i a, few i = .ok a → many i = .ok a) (h₁ : first.Follows few)
    (h₂ : second.Follows many) : first.items <+: second.items := by
  have hmany (i : Nat) (hi : i < first.items.length) : many i = .ok first.items[i] :=
    hitem i _ (h₁.item i hi)
  have hlen : first.items.length ≤ second.items.length := by
    by_contra hlt
    have hlast := hmany second.items.length (Nat.lt_of_not_le hlt)
    rw [h₂.last] at hlast
    cases hlast
  refine List.prefix_iff_getElem.2 ⟨hlen, fun i hi => ?_⟩
  have hboth := (hmany i hi).symm.trans (h₂.item i (Nat.lt_of_lt_of_le hi hlen))
  exact Except.ok.inj hboth

/-- A step has one run at most. -/
theorem Follows.unique {first second : Scan α} (h₁ : first.Follows step)
    (h₂ : second.Follows step) :
    first.items = second.items ∧ first.ending = second.ending := by
  have hlen : first.items.length = second.items.length :=
    Nat.le_antisymm (h₁.length_le h₂.last) (h₂.length_le h₁.last)
  constructor
  · apply List.ext_getElem hlen
    intro i hi hi'
    have hitem := (h₁.item i hi).symm.trans (h₂.item i hi')
    injection hitem
  · have hlast := h₁.last.symm.trans (hlen ▸ h₂.last)
    injection hlast

end Scan

namespace Context

variable (ctx : Context) (bytes : ByteArray)

/-! ## The step of the first phase -/

/-- The library name of a descriptor, read from the bytes alone. -/
def nameIn (d : Descriptor) : Except SettingFault (Option String) :=
  (ctx.libraryName ⟨bytes, 0⟩ d).1

/-- Where the head stands does not matter to a library name, and the head stays there. -/
theorem libraryName_eq (r : Reader) (d : Descriptor) :
    ctx.libraryName r d = (ctx.nameIn r.data d, r) := by
  refine Prod.ext ?_ (ctx.libraryName_snd r d)
  simp only [nameIn, libraryName]
  split
  · rfl
  · next offset _ =>
    simp only [Limit.readTextAt, Reader.aside_fst, Reader.seek?_eq r]
    cases Reader.seek? ⟨r.data, 0⟩ offset with
    | none => rfl
    | some there => rfl

theorem nameIn_of_libraryName {r back : Reader} {d : Descriptor}
    {name? : Except SettingFault (Option String)} (h : ctx.libraryName r d = (name?, back)) :
    ctx.nameIn r.data d = name? ∧ back = r := by
  rw [libraryName_eq] at h
  cases h
  exact ⟨rfl, rfl⟩

/-- What becomes of the record at an offset when `count` descriptors were accepted
before. -/
def acceptDescriptor (offset count : Nat) (d : Descriptor) : Except Ending Descriptor :=
  if d.isSentinel then .error .complete
  else match ctx.nameIn bytes d with
    | .error fault => .error (.stopped (.fault fault))
    | .ok none =>
      if count = 0 then .error
        (.stopped (.aborted (.firstNameUnreadable d.nameRva offset)))
      else .error (.abandoned (abandonedWarning count d))
    | .ok (some name) =>
      let limit := ctx.limits.maxLibraries
      if limit.reachedBy count then
        .error (.stopped (limitStop limit (.tooManyLibraries limit.label offset)))
      else .ok { d with name }

/-- What stands at an offset of a descriptor array when `count` descriptors were accepted
before. -/
def descriptorAt (tableEnd? : Option Int) (offset count : Nat) :
    Except Ending Descriptor :=
  if runsPast tableEnd? (offset + Descriptor.recordSize) then
    .error (.stopped (.aborted (.descriptorsUnterminated offset)))
  else match Bytes.run? bytes offset Descriptor.recordSize with
    | none => .error (.stopped (.aborted (.descriptorUnreadable offset)))
    | some record => ctx.acceptDescriptor bytes offset count (Descriptor.decode record)

/-- The record at an offset of a table lies in the table and in the file. -/
structure RecordAt (tableEnd? : Option Int) (offset size : Nat) (record : ByteArray) :
    Prop where
  inTable : runsPast tableEnd? (offset + size) = false
  run : Bytes.run? bytes offset size = some record

/-- What can come of an offset of a descriptor array. -/
inductive DescriptorStep (tableEnd? : Option Int) (offset count : Nat) :
    Except Ending Descriptor → Prop
  | unterminated (hpast : runsPast tableEnd? (offset + Descriptor.recordSize) = true) :
    DescriptorStep tableEnd? offset count
      (.error (.stopped (.aborted (.descriptorsUnterminated offset))))
  | unreadable (hin : runsPast tableEnd? (offset + Descriptor.recordSize) = false)
      (hnone : Bytes.run? bytes offset Descriptor.recordSize = none) :
    DescriptorStep tableEnd? offset count
      (.error (.stopped (.aborted (.descriptorUnreadable offset))))
  | sentinel {record : ByteArray}
      (hat : RecordAt bytes tableEnd? offset Descriptor.recordSize record)
      (hsentinel : (Descriptor.decode record).isSentinel = true) :
    DescriptorStep tableEnd? offset count (.error .complete)
  | faulted {record : ByteArray} {fault : SettingFault}
      (hat : RecordAt bytes tableEnd? offset Descriptor.recordSize record)
      (htables : ¬ (Descriptor.decode record).isSentinel = true)
      (hname : ctx.nameIn bytes (.decode record) = .error fault) :
    DescriptorStep tableEnd? offset count (.error (.stopped (.fault fault)))
  | namelessFirst {record : ByteArray}
      (hat : RecordAt bytes tableEnd? offset Descriptor.recordSize record)
      (htables : ¬ (Descriptor.decode record).isSentinel = true)
      (hname : ctx.nameIn bytes (.decode record) = .ok none) (hcount : count = 0) :
    DescriptorStep tableEnd? offset count (.error
      (.stopped (.aborted (.firstNameUnreadable (Descriptor.decode record).nameRva offset))))
  | nameless {record : ByteArray}
      (hat : RecordAt bytes tableEnd? offset Descriptor.recordSize record)
      (htables : ¬ (Descriptor.decode record).isSentinel = true)
      (hname : ctx.nameIn bytes (.decode record) = .ok none) (hcount : count ≠ 0) :
    DescriptorStep tableEnd? offset count
      (.error (.abandoned (abandonedWarning count (.decode record))))
  | full {record : ByteArray} {name : String} {stop : Stop}
      (hat : RecordAt bytes tableEnd? offset Descriptor.recordSize record)
      (htables : ¬ (Descriptor.decode record).isSentinel = true)
      (hname : ctx.nameIn bytes (.decode record) = .ok (some name))
      (hfull : ctx.limits.maxLibraries.reachedBy count = true)
      (hstop : limitStop ctx.limits.maxLibraries
        (.tooManyLibraries ctx.limits.maxLibraries.label offset) = stop) :
    DescriptorStep tableEnd? offset count (.error (.stopped stop))
  | accepted {record : ByteArray} {name : String}
      (hat : RecordAt bytes tableEnd? offset Descriptor.recordSize record)
      (htables : ¬ (Descriptor.decode record).isSentinel = true)
      (hname : ctx.nameIn bytes (.decode record) = .ok (some name))
      (hfew : ¬ ctx.limits.maxLibraries.reachedBy count = true) :
    DescriptorStep tableEnd? offset count (.ok { Descriptor.decode record with name })

/-- Whatever an offset of a descriptor array comes to, it is in one of these ways. -/
theorem descriptorStep {tableEnd? : Option Int} {offset count : Nat}
    {result : Except Ending Descriptor}
    (h : ctx.descriptorAt bytes tableEnd? offset count = result) :
    ctx.DescriptorStep bytes tableEnd? offset count result := by
  subst h
  rw [descriptorAt]
  split
  · next hpast => exact .unterminated hpast
  · next hpast =>
    rw [Bool.not_eq_true] at hpast
    split
    · next hnone => exact .unreadable hpast hnone
    · next record hrecord =>
      have hat : RecordAt bytes tableEnd? offset Descriptor.recordSize record :=
        ⟨hpast, hrecord⟩
      rw [acceptDescriptor]
      split
      · next hsentinel => exact .sentinel hat hsentinel
      · next htables =>
        split
        · next hname => exact .faulted hat htables hname
        · next hname =>
          split
          · next hcount => exact .namelessFirst hat htables hname hcount
          · next hcount => exact .nameless hat htables hname hcount
        · next name hname =>
          simp only
          split
          · next hfull => exact .full hat htables hname hfull rfl
          · next hfew => exact .accepted hat htables hname hfew

theorem RecordAt.descriptorAt {ctx : Context} {bytes record : ByteArray}
    {tableEnd? : Option Int} {offset : Nat}
    (hat : RecordAt bytes tableEnd? offset Descriptor.recordSize record) (count : Nat) :
    ctx.descriptorAt bytes tableEnd? offset count =
      ctx.acceptDescriptor bytes offset count (Descriptor.decode record) := by
  rw [Context.descriptorAt, hat.inTable, hat.run]
  rfl

/-- An offset of a descriptor array comes to nothing but what a rule says of it. -/
theorem DescriptorStep.eq {ctx : Context} {bytes : ByteArray} {tableEnd? : Option Int}
    {offset count : Nat} {result : Except Ending Descriptor}
    (h : ctx.DescriptorStep bytes tableEnd? offset count result) :
    ctx.descriptorAt bytes tableEnd? offset count = result := by
  cases h with
  | unterminated hpast => rw [descriptorAt, if_pos hpast]
  | unreadable hin hnone => rw [descriptorAt, if_neg (by simp [hin]), hnone]
  | sentinel hat hsentinel => rw [hat.descriptorAt, acceptDescriptor, if_pos hsentinel]
  | faulted hat htables hname =>
    rw [hat.descriptorAt, acceptDescriptor, if_neg htables, hname]
  | namelessFirst hat htables hname hcount =>
    rw [hat.descriptorAt, acceptDescriptor, if_neg htables, hname]
    exact if_pos hcount
  | nameless hat htables hname hcount =>
    rw [hat.descriptorAt, acceptDescriptor, if_neg htables, hname]
    exact if_neg hcount
  | full hat htables hname hfull hstop =>
    rw [hat.descriptorAt, acceptDescriptor, if_neg htables, hname, ← hstop]
    exact if_pos hfull
  | accepted hat htables hname hfew =>
    rw [hat.descriptorAt, acceptDescriptor, if_neg htables, hname]
    exact if_neg hfew

/-- The record that an exact read gives stands at the head. -/
theorem recordAt_of_readExact {r after : Reader} {tableEnd? : Option Int} {size : Nat}
    {record : ByteArray} (hsize : 0 < size) (hpast : ¬ runsPast tableEnd? (r.pos + size) = true)
    (hread : r.readExact size = (some record, after)) :
    RecordAt r.data tableEnd? r.pos size record ∧ after = ⟨r.data, r.pos + size⟩ := by
  obtain ⟨hrun, hafter⟩ := Reader.run?_of_readExact hsize hread
  exact ⟨⟨by simpa using hpast, hrun⟩, hafter⟩

/-- The first loop is the run of its step, at places that lie one record apart. -/
theorem readDescriptors_follows (tableEnd? : Option Int) (r : Reader) (count : Nat) :
    (ctx.readDescriptors tableEnd? r count).Follows fun i =>
      ctx.descriptorAt r.data tableEnd? (r.pos + Descriptor.recordSize * i)
        (count + i) := by
  fun_induction readDescriptors ctx tableEnd? r count with
  | case1 r count hpast => exact .of_error (DescriptorStep.unterminated hpast).eq
  | case2 r count hpast after hread =>
    have hnone := Reader.run?_of_readExact_none (by decide) hread
    exact .of_error (DescriptorStep.unreadable (by simpa using hpast) hnone).eq
  | case3 r count hpast record after hread d hsentinel =>
    obtain ⟨hat, rfl⟩ := recordAt_of_readExact (by decide) hpast hread
    exact .of_error (DescriptorStep.sentinel hat hsentinel).eq
  | case4 r count hpast record after hread d htables fault back hname =>
    obtain ⟨hat, rfl⟩ := recordAt_of_readExact (by decide) hpast hread
    obtain ⟨hin, rfl⟩ := ctx.nameIn_of_libraryName hname
    exact .of_error (DescriptorStep.faulted hat htables hin).eq
  | case5 r hpast record after hread d htables back hname =>
    obtain ⟨hat, rfl⟩ := recordAt_of_readExact (by decide) hpast hread
    obtain ⟨hin, rfl⟩ := ctx.nameIn_of_libraryName hname
    exact .of_error (DescriptorStep.namelessFirst hat htables hin rfl).eq
  | case6 r count hpast record after hread d htables back hname hcount =>
    obtain ⟨hat, rfl⟩ := recordAt_of_readExact (by decide) hpast hread
    obtain ⟨hin, rfl⟩ := ctx.nameIn_of_libraryName hname
    exact .of_error (DescriptorStep.nameless hat htables hin hcount).eq
  | case7 r count hpast record after hread d htables name back hname limit hfull =>
    obtain ⟨hat, rfl⟩ := recordAt_of_readExact (by decide) hpast hread
    obtain ⟨hin, rfl⟩ := ctx.nameIn_of_libraryName hname
    exact .of_error (DescriptorStep.full hat htables hin hfull rfl).eq
  | case8 r count hpast record after hread d htables name back hname limit hfew ih =>
    obtain ⟨hat, rfl⟩ := recordAt_of_readExact (by decide) hpast hread
    obtain ⟨hin, rfl⟩ := ctx.nameIn_of_libraryName hname
    exact .cons (DescriptorStep.accepted hat htables hin hfew).eq ih

/-- An array that ends by itself leaves the head behind the record that ended it. -/
theorem pos_readDescriptors (tableEnd? : Option Int) (r : Reader) (count : Nat)
    (h : ∀ stop, (ctx.readDescriptors tableEnd? r count).ending ≠ .stopped stop) :
    (ctx.readDescriptors tableEnd? r count).reader =
      ⟨r.data, r.pos + Descriptor.recordSize *
        ((ctx.readDescriptors tableEnd? r count).items.length + 1)⟩ := by
  fun_induction readDescriptors ctx tableEnd? r count with
  | case1 r count hpast => exact absurd rfl (h _)
  | case2 r count hpast after hread => exact absurd rfl (h _)
  | case3 r count hpast record after hread d hsentinel =>
    exact (Reader.run?_of_readExact (by decide) hread).2
  | case4 r count hpast record after hread d hsentinel fault back hname =>
    exact absurd rfl (h _)
  | case5 r hpast record after hread d hsentinel back hname => exact absurd rfl (h _)
  | case6 r count hpast record after hread d hsentinel back hname hcount =>
    exact (eq_of_libraryName hname).trans (Reader.run?_of_readExact (by decide) hread).2
  | case7 r count hpast record after hread d hsentinel name back hname limit hlimit =>
    exact absurd rfl (h _)
  | case8 r count hpast record after hread d hsentinel name back hname limit hlimit ih =>
    obtain ⟨hrun, rfl⟩ := Reader.run?_of_readExact (by decide) hread
    obtain rfl := eq_of_libraryName hname
    have hinner := ih h
    simp only [Scan.cons, List.length_cons]
    rw [hinner, place_succ]

/-- What an exact read leaves is over the same bytes. -/
theorem data_of_readExact {r after : Reader} {size : Int} {got : Option ByteArray}
    (h : r.readExact size = (got, after)) : after.data = r.data := by
  rw [← Reader.data_readExact r size, h]

/-- The first loop reads the same bytes all the time. -/
theorem data_readDescriptors (tableEnd? : Option Int) (r : Reader) (count : Nat) :
    (ctx.readDescriptors tableEnd? r count).reader.data = r.data := by
  fun_induction readDescriptors ctx tableEnd? r count with
  | case1 r count hpast => rfl
  | case2 r count hpast after hread => exact data_of_readExact hread
  | case3 r count hpast record after hread d hsentinel => exact data_of_readExact hread
  | case4 r count hpast record after hread d hsentinel fault back hname =>
    exact eq_of_libraryName hname ▸ data_of_readExact hread
  | case5 r hpast record after hread d hsentinel back hname =>
    exact eq_of_libraryName hname ▸ data_of_readExact hread
  | case6 r count hpast record after hread d hsentinel back hname hcount =>
    exact eq_of_libraryName hname ▸ data_of_readExact hread
  | case7 r count hpast record after hread d hsentinel name back hname limit hlimit =>
    exact eq_of_libraryName hname ▸ data_of_readExact hread
  | case8 r count hpast record after hread d hsentinel name back hname limit hlimit ih =>
    exact ih.trans (eq_of_libraryName hname ▸ data_of_readExact hread)

/-! ## The step of the second phase -/

/-- An entry with its hint and its name, read from the bytes alone. -/
def hintNameIn (library : String) (e : Entry) : Except Stop Entry :=
  (ctx.withHintName library ⟨bytes, 0⟩ e).1

/-- Where the head stands does not matter to a hint and a name, and the head stays there. -/
theorem withHintName_eq (library : String) (r : Reader) (e : Entry) :
    ctx.withHintName library r e = (ctx.hintNameIn r.data library e, r) := by
  refine Prod.ext ?_ (ctx.withHintName_snd library r e)
  simp only [hintNameIn, withHintName]
  split
  · rfl
  · split
    · rfl
    · next offset _ =>
      simp only [Reader.aside_fst, hintNameAt, Reader.seek?_eq r]
      cases (Reader.seek? ⟨r.data, 0⟩ offset).map (·.readExact 2) with
      | none => rfl
      | some found =>
        obtain ⟨_ | hint, after⟩ := found
        · rfl
        · rfl

theorem hintNameIn_of_withHintName {library : String} {r back : Reader} {e : Entry}
    {result : Except Stop Entry} (h : ctx.withHintName library r e = (result, back)) :
    ctx.hintNameIn r.data library e = result ∧ back = r := by
  rw [withHintName_eq] at h
  cases h
  exact ⟨rfl, rfl⟩

/-- What can come of an entry whose hint and name are looked for. -/
inductive HintStep (library : String) (e : Entry) : Except Stop Entry → Prop
  | ordinal (hordinal : e.isOrdinal = true) : HintStep library e (.ok e)
  | unreachable (hname : ¬ e.isOrdinal = true)
      (hnone : ctx.sections.toOffset? e.hintNameRva = none) :
    HintStep library e (.error (.aborted (.hintUnreachable library e.hintNameRva)))
  | hintUnreadable {place : Int} (hname : ¬ e.isOrdinal = true)
      (hplace : ctx.sections.toOffset? e.hintNameRva = some place)
      (hnone : Bytes.run? bytes place 2 = none) :
    HintStep library e (.error (.aborted (.hintUnreadable library place)))
  | nameUnreadable {place : Int} {hint : ByteArray} (hname : ¬ e.isOrdinal = true)
      (hplace : ctx.sections.toOffset? e.hintNameRva = some place)
      (hhint : Bytes.run? bytes place 2 = some hint)
      (htext : (ctx.limits.maxTextLength.readText ⟨bytes, place.toNat + 2⟩).1 = .ok none) :
    HintStep library e (.error (.aborted (.hintUnreadable library place)))
  | faulted {place : Int} {hint : ByteArray} {fault : SettingFault}
      (hname : ¬ e.isOrdinal = true)
      (hplace : ctx.sections.toOffset? e.hintNameRva = some place)
      (hhint : Bytes.run? bytes place 2 = some hint)
      (htext : (ctx.limits.maxTextLength.readText ⟨bytes, place.toNat + 2⟩).1 = .error fault) :
    HintStep library e (.error (.fault fault))
  | named {place : Int} {hint : ByteArray} {name : String} (hname : ¬ e.isOrdinal = true)
      (hplace : ctx.sections.toOffset? e.hintNameRva = some place)
      (hhint : Bytes.run? bytes place 2 = some hint)
      (htext : (ctx.limits.maxTextLength.readText ⟨bytes, place.toNat + 2⟩).1 =
        .ok (some name)) :
    HintStep library e (.ok { e with hint := some (Bytes.littleEndian hint : Int), name })

/-- Whatever the hint and the name of an entry come to, it is in one of these ways. -/
theorem hintStep {library : String} {e : Entry} {result : Except Stop Entry}
    (h : ctx.hintNameIn bytes library e = result) : ctx.HintStep bytes library e result := by
  subst h
  rw [hintNameIn, withHintName]
  split
  · next hordinal => exact .ordinal hordinal
  · next hname =>
    split
    · next hnone => exact .unreachable hname hnone
    · next place hplace =>
      have hnone (hread : ∀ hint after,
          (Reader.seek? ⟨bytes, 0⟩ place).map (·.readExact 2) ≠ some (some hint, after)) :
          Bytes.run? bytes place 2 = none := by
        refine Option.eq_none_iff_forall_ne_some.2 fun hint hhint => ?_
        exact hread hint _ ((Reader.map_readExact_eq_some_iff (by decide)).2 ⟨hhint, rfl⟩)
      rw [Reader.aside_fst, hintNameAt]
      split
      · next hread => exact .hintUnreadable hname hplace (hnone (by simp [hread]))
      · next hread => exact .hintUnreadable hname hplace (hnone (by simp [hread]))
      · next hint after hread =>
        obtain ⟨hhint, rfl⟩ := (Reader.map_readExact_eq_some_iff (by decide)).1 hread
        split
        · next htext => exact .faulted hname hplace hhint (congrArg Prod.fst htext)
        · next htext => exact .nameUnreadable hname hplace hhint (congrArg Prod.fst htext)
        · next htext => exact .named hname hplace hhint (congrArg Prod.fst htext)

theorem HintStep.eq {ctx : Context} {bytes : ByteArray} {library : String} {e : Entry}
    {result : Except Stop Entry} (h : ctx.HintStep bytes library e result) :
    ctx.hintNameIn bytes library e = result := by
  have hread {place : Int} {hint : ByteArray} (hhint : Bytes.run? bytes place 2 = some hint) :
      (Reader.seek? ⟨bytes, 0⟩ place).map (·.readExact 2) =
        some (some hint, ⟨bytes, place.toNat + 2⟩) :=
    (Reader.map_readExact_eq_some_iff (r := ⟨bytes, 0⟩) (by decide)).2 ⟨hhint, rfl⟩
  have hleft {there : Reader} {name? : Except SettingFault (Option String)}
      (htext : (ctx.limits.maxTextLength.readText there).1 = name?) :
      ∃ last, ctx.limits.maxTextLength.readText there = (name?, last) :=
    ⟨_, Prod.ext htext rfl⟩
  cases h with
  | ordinal hordinal => rw [hintNameIn, withHintName, if_pos hordinal]
  | unreachable hname hnone => rw [hintNameIn, withHintName, if_neg hname, hnone]
  | hintUnreadable hname hplace hnone =>
    simp only [hintNameIn, withHintName, if_neg hname, hplace, Reader.aside_fst, hintNameAt]
    split
    · rfl
    · rfl
    · next hint after hread =>
      obtain ⟨hhint, -⟩ := (Reader.map_readExact_eq_some_iff (by decide)).1 hread
      cases hnone.symm.trans hhint
  | nameUnreadable hname hplace hhint htext =>
    obtain ⟨last, hlast⟩ := hleft htext
    simp only [hintNameIn, withHintName, if_neg hname, hplace, Reader.aside_fst, hintNameAt,
      hread hhint, hlast]
  | faulted hname hplace hhint htext =>
    obtain ⟨last, hlast⟩ := hleft htext
    simp only [hintNameIn, withHintName, if_neg hname, hplace, Reader.aside_fst, hintNameAt,
      hread hhint, hlast]
  | named hname hplace hhint htext =>
    obtain ⟨last, hlast⟩ := hleft htext
    simp only [hintNameIn, withHintName, if_neg hname, hplace, Reader.aside_fst, hintNameAt,
      hread hhint, hlast]

/-- What becomes of the thunk at an offset when `count` thunks were accepted before. -/
def acceptThunk (library : String) (offset count value : Nat) : Except Ending Entry :=
  if value = 0 then .error .complete
  else
    let limit := ctx.limits.maxEntriesPerLibrary
    if limit.reachedBy count then
      .error (.stopped (limitStop limit (.tooManyEntries library limit.label offset)))
    else match ctx.hintNameIn bytes library (.ofThunk value (ctx.width.bits - 1)) with
      | .error stop => .error (.stopped stop)
      | .ok entry => .ok entry

/-- What stands at an offset of a lookup table when `count` thunks were accepted
before. -/
def entryAt (library : String) (tableEnd? : Option Int) (offset count : Nat) :
    Except Ending Entry :=
  if runsPast tableEnd? (offset + ctx.width.bytes) then
    .error (.stopped (.aborted (.lookupUnterminated library offset)))
  else match Bytes.run? bytes offset ctx.width.bytes with
    | none => .error (.stopped (.aborted (.lookupUnreadable library offset)))
    | some thunk => ctx.acceptThunk bytes library offset count (Bytes.littleEndian thunk)

theorem width_pos : 0 < ctx.width.bytes := by
  have := ctx.width.bytes_pos
  omega

/-- What can come of an offset of a lookup table. -/
inductive EntryStep (library : String) (tableEnd? : Option Int) (offset count : Nat) :
    Except Ending Entry → Prop
  | unterminated (hpast : runsPast tableEnd? (offset + ctx.width.bytes) = true) :
    EntryStep library tableEnd? offset count
      (.error (.stopped (.aborted (.lookupUnterminated library offset))))
  | unreadable (hin : runsPast tableEnd? (offset + ctx.width.bytes) = false)
      (hnone : Bytes.run? bytes offset ctx.width.bytes = none) :
    EntryStep library tableEnd? offset count
      (.error (.stopped (.aborted (.lookupUnreadable library offset))))
  | zero {thunk : ByteArray} (hat : RecordAt bytes tableEnd? offset ctx.width.bytes thunk)
      (hzero : Bytes.littleEndian thunk = 0) :
    EntryStep library tableEnd? offset count (.error .complete)
  | full {thunk : ByteArray} {stop : Stop}
      (hat : RecordAt bytes tableEnd? offset ctx.width.bytes thunk)
      (hzero : Bytes.littleEndian thunk ≠ 0)
      (hfull : ctx.limits.maxEntriesPerLibrary.reachedBy count = true)
      (hstop : limitStop ctx.limits.maxEntriesPerLibrary
        (.tooManyEntries library ctx.limits.maxEntriesPerLibrary.label offset) = stop) :
    EntryStep library tableEnd? offset count (.error (.stopped stop))
  | hintStopped {thunk : ByteArray} {stop : Stop}
      (hat : RecordAt bytes tableEnd? offset ctx.width.bytes thunk)
      (hzero : Bytes.littleEndian thunk ≠ 0)
      (hfew : ¬ ctx.limits.maxEntriesPerLibrary.reachedBy count = true)
      (hhint : ctx.hintNameIn bytes library
        (.ofThunk (Bytes.littleEndian thunk) (ctx.width.bits - 1)) = .error stop) :
    EntryStep library tableEnd? offset count (.error (.stopped stop))
  | accepted {thunk : ByteArray} {e : Entry}
      (hat : RecordAt bytes tableEnd? offset ctx.width.bytes thunk)
      (hzero : Bytes.littleEndian thunk ≠ 0)
      (hfew : ¬ ctx.limits.maxEntriesPerLibrary.reachedBy count = true)
      (hhint : ctx.hintNameIn bytes library
        (.ofThunk (Bytes.littleEndian thunk) (ctx.width.bits - 1)) = .ok e) :
    EntryStep library tableEnd? offset count (.ok e)

/-- Whatever an offset of a lookup table comes to, it is in one of these ways. -/
theorem entryStep {library : String} {tableEnd? : Option Int} {offset count : Nat}
    {result : Except Ending Entry}
    (h : ctx.entryAt bytes library tableEnd? offset count = result) :
    ctx.EntryStep bytes library tableEnd? offset count result := by
  subst h
  rw [entryAt]
  split
  · next hpast => exact .unterminated hpast
  · next hpast =>
    rw [Bool.not_eq_true] at hpast
    split
    · next hnone => exact .unreadable hpast hnone
    · next thunk hthunk =>
      have hat : RecordAt bytes tableEnd? offset ctx.width.bytes thunk := ⟨hpast, hthunk⟩
      rw [acceptThunk]
      split
      · next hzero => exact .zero hat hzero
      · next hzero =>
        simp only
        split
        · next hfull => exact .full hat hzero hfull rfl
        · next hfew =>
          split
          · next hhint => exact .hintStopped hat hzero hfew hhint
          · next hhint => exact .accepted hat hzero hfew hhint

theorem RecordAt.entryAt {ctx : Context} {bytes thunk : ByteArray} {tableEnd? : Option Int}
    {offset : Nat} (hat : RecordAt bytes tableEnd? offset ctx.width.bytes thunk)
    (library : String) (count : Nat) :
    ctx.entryAt bytes library tableEnd? offset count =
      ctx.acceptThunk bytes library offset count (Bytes.littleEndian thunk) := by
  rw [Context.entryAt, hat.inTable, hat.run]
  rfl

theorem EntryStep.eq {ctx : Context} {bytes : ByteArray} {library : String}
    {tableEnd? : Option Int} {offset count : Nat} {result : Except Ending Entry}
    (h : ctx.EntryStep bytes library tableEnd? offset count result) :
    ctx.entryAt bytes library tableEnd? offset count = result := by
  cases h with
  | unterminated hpast => rw [entryAt, if_pos hpast]
  | unreadable hin hnone => rw [entryAt, if_neg (by simp [hin]), hnone]
  | zero hat hzero => rw [hat.entryAt, acceptThunk, if_pos hzero]
  | full hat hzero hfull hstop =>
    rw [hat.entryAt, acceptThunk, if_neg hzero, ← hstop]
    exact if_pos hfull
  | hintStopped hat hzero hfew hhint =>
    rw [hat.entryAt, acceptThunk, if_neg hzero, hhint]
    exact if_neg hfew
  | accepted hat hzero hfew hhint =>
    rw [hat.entryAt, acceptThunk, if_neg hzero, hhint]
    exact if_neg hfew

/-- The second loop is the run of its step, at places that lie one thunk apart. -/
theorem readEntries_follows (library : String) (tableEnd? : Option Int) (r : Reader)
    (count : Nat) : (ctx.readEntries library tableEnd? r count).Follows fun i =>
      ctx.entryAt r.data library tableEnd? (r.pos + ctx.width.bytes * i) (count + i) := by
  have hpos := ctx.width_pos
  fun_induction readEntries ctx library tableEnd? r count with
  | case1 r count hpast => exact .of_error (EntryStep.unterminated hpast).eq
  | case2 r count hpast after hread =>
    have hnone := Reader.run?_of_readExact_none hpos hread
    exact .of_error (EntryStep.unreadable (by simpa using hpast) hnone).eq
  | case3 r count hpast thunk after hread value hzero =>
    obtain ⟨hat, rfl⟩ := recordAt_of_readExact hpos hpast hread
    exact .of_error (EntryStep.zero hat hzero).eq
  | case4 r count hpast thunk after hread value hzero limit hfull =>
    obtain ⟨hat, rfl⟩ := recordAt_of_readExact hpos hpast hread
    exact .of_error (EntryStep.full hat hzero hfull rfl).eq
  | case5 r count hpast thunk after hread value hzero limit hfew stop back hhint =>
    obtain ⟨hat, rfl⟩ := recordAt_of_readExact hpos hpast hread
    obtain ⟨hin, rfl⟩ := ctx.hintNameIn_of_withHintName hhint
    exact .of_error (EntryStep.hintStopped hat hzero hfew hin).eq
  | case6 r count hpast thunk after hread value hzero limit hfew entry back hhint ih =>
    obtain ⟨hat, rfl⟩ := recordAt_of_readExact hpos hpast hread
    obtain ⟨hin, rfl⟩ := ctx.hintNameIn_of_withHintName hhint
    exact .cons (EntryStep.accepted hat hzero hfew hin).eq ih

/-- The second loop reads the same bytes all the time. -/
theorem data_readEntries (library : String) (tableEnd? : Option Int) (r : Reader)
    (count : Nat) : (ctx.readEntries library tableEnd? r count).reader.data = r.data := by
  fun_induction readEntries ctx library tableEnd? r count with
  | case1 r count hpast => rfl
  | case2 r count hpast after hread => exact data_of_readExact hread
  | case3 r count hpast thunk after hread value hzero => exact data_of_readExact hread
  | case4 r count hpast thunk after hread value hzero limit hlimit => exact data_of_readExact hread
  | case5 r count hpast thunk after hread value hzero limit hlimit stop back hentry =>
    exact eq_of_withHintName hentry ▸ data_of_readExact hread
  | case6 r count hpast thunk after hread value hzero limit hlimit entry back hentry ih =>
    exact ih.trans (eq_of_withHintName hentry ▸ data_of_readExact hread)

/-- A lookup table has no tolerated end but its zero. -/
theorem entryAt_error {library : String} {tableEnd? : Option Int} {offset count : Nat}
    {ending : Ending} (h : ctx.entryAt bytes library tableEnd? offset count =
      .error ending) :
    ending = .complete ∨ ∃ stop, ending = .stopped stop := by
  cases ctx.entryStep bytes h with
  | unterminated hpast => exact .inr ⟨_, rfl⟩
  | unreadable hin hnone => exact .inr ⟨_, rfl⟩
  | zero hat hzero => exact .inl rfl
  | full hat hzero hfull hstop => exact .inr ⟨_, rfl⟩
  | hintStopped hat hzero hfew hhint => exact .inr ⟨_, rfl⟩

/-! ## One lookup table and all of them -/

/-- The thunks of a descriptor's lookup table, read from the bytes alone. -/
def lookupIn (arrayStart arrayEnd : Int) (d : Descriptor) : Scan Entry :=
  ctx.readLookupTable arrayStart arrayEnd ⟨bytes, 0⟩ d

variable {arrayStart arrayEnd : Int}

/-- Where the head stands before a lookup table is read does not matter. -/
theorem readLookupTable_eq (arrayStart arrayEnd : Int) (r : Reader) (d : Descriptor) :
    (ctx.readLookupTable arrayStart arrayEnd r d).items =
        (ctx.lookupIn r.data arrayStart arrayEnd d).items
      ∧ (ctx.readLookupTable arrayStart arrayEnd r d).ending =
        (ctx.lookupIn r.data arrayStart arrayEnd d).ending := by
  simp only [lookupIn, readLookupTable, Reader.seek?_eq r]
  split
  · exact ⟨rfl, rfl⟩
  · split
    · exact ⟨rfl, rfl⟩
    · exact ⟨rfl, rfl⟩

/-- What reading one lookup table can come to. -/
theorem lookupIn_cases (arrayStart arrayEnd : Int) (d : Descriptor) :
    let scan := ctx.lookupIn bytes arrayStart arrayEnd d
    (ctx.sections.toOffset? d.lookupRva = none ∧ scan.items = []
        ∧ scan.ending = .stopped (.aborted (.lookupUnreachable d.name d.lookupRva none)))
    ∨ ∃ start, ctx.sections.toOffset? d.lookupRva = some start
      ∧ ((¬ (0 ≤ start ∧ start ≤ bytes.size) ∧ scan.items = []
          ∧ scan.ending = .stopped
            (.aborted (.lookupUnreachable d.name d.lookupRva (some start))))
        ∨ ((0 ≤ start ∧ start ≤ bytes.size) ∧ (arrayStart ≤ start ∧ start < arrayEnd)
          ∧ scan.items = []
          ∧ scan.ending = .stopped (.aborted (.lookupInDescriptors d.name start)))
        ∨ ((0 ≤ start ∧ start ≤ bytes.size) ∧ ¬ (arrayStart ≤ start ∧ start < arrayEnd)
          ∧ scan.Follows fun i =>
            ctx.entryAt bytes d.name (ctx.sections.rawEndAt? d.lookupRva)
              (start.toNat + ctx.width.bytes * i) i)) := by
  simp only [lookupIn, readLookupTable]
  split
  · next hnone => exact .inl ⟨hnone, rfl, rfl⟩
  · next start hstart =>
    refine .inr ⟨start, hstart, ?_⟩
    split
    · next hseek =>
      refine .inl ⟨?_, rfl, rfl⟩
      rintro ⟨h0, hle⟩
      have hsome := (Reader.seek?_eq_some_iff (r := ⟨bytes, 0⟩)).2 ⟨h0, hle, rfl⟩
      rw [hseek] at hsome
      cases hsome
    · next there hthere =>
      obtain ⟨h0, hle, rfl⟩ := Reader.seek?_eq_some_iff.1 hthere
      split
      · next hin => exact .inr (.inl ⟨⟨h0, hle⟩, hin, rfl, rfl⟩)
      · next hout =>
        have hrun := ctx.readEntries_follows d.name (ctx.sections.rawEndAt? d.lookupRva)
          ⟨bytes, start.toNat⟩ 0
        simp only [Nat.zero_add] at hrun
        exact .inr (.inr ⟨⟨h0, hle⟩, hout, hrun⟩)

/-- A symbol of a lookup table is what its step gives at the place where it stands. -/
theorem entryAt_of_lookupIn {d : Descriptor} {j : Nat} {e : Entry}
    (h : (ctx.lookupIn bytes arrayStart arrayEnd d).items[j]? = some e) :
    ∃ start, ctx.sections.toOffset? d.lookupRva = some start ∧ 0 ≤ start
      ∧ ctx.entryAt bytes d.name (ctx.sections.rawEndAt? d.lookupRva)
        (start.toNat + ctx.width.bytes * j) j = .ok e := by
  rcases ctx.lookupIn_cases bytes arrayStart arrayEnd d with
    ⟨-, hnil, -⟩ | ⟨start, hstart, ⟨-, hnil, -⟩ | ⟨-, -, hnil, -⟩ | ⟨⟨h0, -⟩, -, hrun⟩⟩
  · rw [hnil] at h
    cases h
  · rw [hnil] at h
    cases h
  · rw [hnil] at h
    cases h
  · exact ⟨start, hstart, h0, hrun.getElem? h⟩

/-- Reading one lookup table reads the same bytes all the time. -/
theorem data_readLookupTable (r : Reader) (d : Descriptor) :
    (ctx.readLookupTable arrayStart arrayEnd r d).reader.data = r.data := by
  simp only [readLookupTable]
  split
  · rfl
  · split
    · rfl
    · next there hthere =>
      obtain ⟨-, -, rfl⟩ := Reader.seek?_eq_some_iff.1 hthere
      split
      · rfl
      · exact ctx.data_readEntries ..

/-- Reading all lookup tables reads the same bytes all the time. -/
theorem data_readLookupTables (r : Reader) (ds : List Descriptor) :
    (ctx.readLookupTables arrayStart arrayEnd r ds).2.1.data = r.data := by
  induction ds generalizing r with
  | nil => rfl
  | cons d rest ih =>
    simp only [readLookupTables]
    split
    · exact ctx.data_readLookupTable r d
    · exact (ih _).trans (ctx.data_readLookupTable r d)

/-- The library whose lookup table was read up to its zero. -/
def ReadToEnd (arrayStart arrayEnd : Int) (l : Library) : Prop :=
  l.entries = (ctx.lookupIn bytes arrayStart arrayEnd l.descriptor).items
    ∧ (ctx.lookupIn bytes arrayStart arrayEnd l.descriptor).ending = .complete

/-- The library whose lookup table was given up. -/
def StoppedAt (arrayStart arrayEnd : Int) (stop : Stop) (l : Library) : Prop :=
  l.entries = (ctx.lookupIn bytes arrayStart arrayEnd l.descriptor).items
    ∧ (ctx.lookupIn bytes arrayStart arrayEnd l.descriptor).ending = .stopped stop

theorem lookupIn_ending (arrayStart arrayEnd : Int) (d : Descriptor) :
    (ctx.lookupIn bytes arrayStart arrayEnd d).ending = .complete
      ∨ ∃ stop, (ctx.lookupIn bytes arrayStart arrayEnd d).ending = .stopped stop := by
  rcases ctx.lookupIn_cases bytes arrayStart arrayEnd d with
    ⟨-, -, h⟩ | ⟨start, -, ⟨-, -, h⟩ | ⟨-, -, -, h⟩ | ⟨-, -, h⟩⟩
  · exact .inr ⟨_, h⟩
  · exact .inr ⟨_, h⟩
  · exact .inr ⟨_, h⟩
  · exact ctx.entryAt_error bytes h.last

/-- Libraries without symbols keep their descriptors. -/
theorem descriptors_unread (ds : List Descriptor) :
    (ds.map fun d => Library.mk d []).map (·.descriptor) = ds :=
  (List.map_map ..).trans (List.map_id ds)

/-- Behind a lookup table that is read to its end, the second phase goes on. -/
theorem readLookupTables_of_complete {r : Reader} {d : Descriptor} (rest : List Descriptor)
    (h : (ctx.lookupIn r.data arrayStart arrayEnd d).ending = .complete) :
    let there := (ctx.readLookupTable arrayStart arrayEnd r d).reader
    let behind := ctx.readLookupTables arrayStart arrayEnd there rest
    ctx.readLookupTables arrayStart arrayEnd r (d :: rest) =
      (⟨d, (ctx.lookupIn r.data arrayStart arrayEnd d).items⟩ :: behind.1, behind.2) := by
  obtain ⟨hitems, hending⟩ := ctx.readLookupTable_eq arrayStart arrayEnd r d
  rw [h] at hending
  simp only [readLookupTables, hending, hitems]

/-- Behind a lookup table that stops it, the second phase leaves all libraries without
symbols. -/
theorem readLookupTables_of_stopped {r : Reader} {d : Descriptor} {stop : Stop}
    (rest : List Descriptor)
    (h : (ctx.lookupIn r.data arrayStart arrayEnd d).ending = .stopped stop) :
    ctx.readLookupTables arrayStart arrayEnd r (d :: rest) =
      (⟨d, (ctx.lookupIn r.data arrayStart arrayEnd d).items⟩ :: rest.map (⟨·, []⟩),
        (ctx.readLookupTable arrayStart arrayEnd r d).reader, some stop) := by
  obtain ⟨hitems, hending⟩ := ctx.readLookupTable_eq arrayStart arrayEnd r d
  rw [h] at hending
  simp only [readLookupTables, hending, hitems]

/-- The second phase keeps every descriptor.  It reads all tables to their ends, or up to
the first one that stops it, and leaves the libraries behind that one without symbols. -/
theorem readLookupTables_spec (arrayStart arrayEnd : Int) (r : Reader)
    (ds : List Descriptor) :
    let result := ctx.readLookupTables arrayStart arrayEnd r ds
    result.1.map (·.descriptor) = ds
      ∧ match result.2.2 with
        | none => ∀ l ∈ result.1, ctx.ReadToEnd r.data arrayStart arrayEnd l
        | some stop => ∃ before l behind, result.1 = before ++ l :: behind
            ∧ (∀ b ∈ before, ctx.ReadToEnd r.data arrayStart arrayEnd b)
            ∧ ctx.StoppedAt r.data arrayStart arrayEnd stop l
            ∧ ∀ b ∈ behind, b.entries = [] := by
  -- Each table is read from its own start: of the head, the induction needs the bytes alone.
  induction ds generalizing r with
  | nil => exact ⟨rfl, fun l hl => absurd hl List.not_mem_nil⟩
  | cons d rest ih =>
    rcases ctx.lookupIn_ending r.data arrayStart arrayEnd d with
      hdone | ⟨stop, hstop⟩
    · have hread : ctx.ReadToEnd r.data arrayStart arrayEnd
          ⟨d, (ctx.lookupIn r.data arrayStart arrayEnd d).items⟩ := ⟨rfl, hdone⟩
      have hrest := ih (ctx.readLookupTable arrayStart arrayEnd r d).reader
      rw [ctx.data_readLookupTable r d] at hrest
      simp only [ctx.readLookupTables_of_complete rest hdone, List.map_cons]
      refine ⟨by rw [hrest.1], ?_⟩
      cases hstops : (ctx.readLookupTables arrayStart arrayEnd
          (ctx.readLookupTable arrayStart arrayEnd r d).reader rest).2.2 with
      | none =>
        have hall := hrest.2
        rw [hstops] at hall
        intro l hl
        rcases List.mem_cons.1 hl with rfl | hl
        · exact hread
        · exact hall l hl
      | some stop =>
        have hsplit := hrest.2
        rw [hstops] at hsplit
        obtain ⟨before, l, behind, heq, hbefore, hl, hbehind⟩ := hsplit
        refine ⟨_ :: before, l, behind, by rw [heq]; rfl, ?_, hl, hbehind⟩
        intro b hb
        rcases List.mem_cons.1 hb with rfl | hb
        · exact hread
        · exact hbefore b hb
    · simp only [ctx.readLookupTables_of_stopped rest hstop, List.map_cons]
      refine ⟨congrArg (d :: ·) (descriptors_unread rest), [], _, rest.map (⟨·, []⟩), rfl, ?_,
        ⟨rfl, hstop⟩, ?_⟩
      · intro b hb
        exact absurd hb List.not_mem_nil
      · intro b hb
        obtain ⟨d', -, rfl⟩ := List.mem_map.1 hb
        rfl

/-! ## The whole directory -/

/-- The descriptor array of a directory, read from the bytes alone. -/
def descriptorsIn (location : DataDirectory.Location) : Scan Descriptor :=
  ctx.readDescriptors (ctx.sections.rawEndAt? location.rva) ⟨bytes,
    location.offset.toNat⟩ 0

theorem descriptorsIn_follows (location : DataDirectory.Location) :
    (ctx.descriptorsIn bytes location).Follows fun i =>
      ctx.descriptorAt bytes (ctx.sections.rawEndAt? location.rva)
        (location.offset.toNat + Descriptor.recordSize * i) i := by
  have h := ctx.readDescriptors_follows (ctx.sections.rawEndAt? location.rva)
    ⟨bytes, location.offset.toNat⟩ 0
  simp only [Nat.zero_add] at h
  exact h

/-- The warning that an abandoned array leaves. -/
def endWarnings : Ending → List String
  | .abandoned warning => [warning]
  | _ => []

/-- Where the second phase ended when the first one came to an end at `arrayEnd`. -/
def LookupsRead (location : DataDirectory.Location) (libraries : List Library) :
    Option Stop → Prop
  | none => ∀ l ∈ libraries, ctx.ReadToEnd bytes location.offset
      (location.offset.toNat + Descriptor.recordSize * (libraries.length + 1) : Nat) l
  | some stop => ∃ before l behind, libraries = before ++ l :: behind
      ∧ (∀ b ∈ before, ctx.ReadToEnd bytes location.offset
          (location.offset.toNat + Descriptor.recordSize * (libraries.length + 1) : Nat)
            b)
      ∧ ctx.StoppedAt bytes location.offset
          (location.offset.toNat + Descriptor.recordSize * (libraries.length + 1) : Nat)
            stop l
      ∧ ∀ b ∈ behind, b.entries = []

/-- A place outside the file ends the reading at once. -/
theorem readAt_of_outside {bits : Option Int} {location : DataDirectory.Location}
    {r : Reader} (hout : ¬ (0 ≤ location.offset ∧ location.offset ≤ r.data.size)) :
    readAt ctx bits location r =
      outcome bits [] true [] r []
        (some (.aborted (.directoryBeyondEnd location.offset))) := by
  cases hseek : r.seek? location.offset with
  | none => rw [readAt, hseek]
  | some there =>
    obtain ⟨h0, hle, -⟩ := Reader.seek?_eq_some_iff.1 hseek
    exact absurd ⟨h0, hle⟩ hout

/-- Where the first phase stops, its libraries are kept unread. -/
theorem readAt_of_stopped {bits : Option Int} {location : DataDirectory.Location}
    {r : Reader}
    (h0 : 0 ≤ location.offset) (hle : location.offset ≤ r.data.size) {stop : Stop}
    (hstop : (ctx.descriptorsIn r.data location).ending = .stopped stop) :
    readAt ctx bits location r =
      outcome bits ((ctx.descriptorsIn r.data location).items.map (⟨·, []⟩)) true []
        (ctx.descriptorsIn r.data location).reader [] (some stop) := by
  have hseek := (Reader.seek?_eq_some_iff (r := r)).2 ⟨h0, hle, rfl⟩
  rw [descriptorsIn] at hstop
  simp only [readAt, hseek, hstop, descriptorsIn]

/-- The second phase of a directory, behind its first one. -/
def lookupsIn (location : DataDirectory.Location) : List Library × Reader × Option Stop :=
  let scan := ctx.descriptorsIn bytes location
  ctx.readLookupTables location.offset scan.reader.pos scan.reader scan.items

/-- Where the first phase ends by itself, the second one follows it. -/
theorem readAt_eq_of_ended (bits : Option Int) {location : DataDirectory.Location}
    {r : Reader} (h0 : 0 ≤ location.offset) (hle : location.offset ≤ r.data.size)
    (hended : ∀ stop, (ctx.descriptorsIn r.data location).ending ≠ .stopped stop) :
    readAt ctx bits location r = outcome bits (ctx.lookupsIn r.data location).1 true
      (endWarnings (ctx.descriptorsIn r.data location).ending
        ++ duplicateWarnings ((ctx.descriptorsIn r.data location).items.map (·.name)))
      (ctx.lookupsIn r.data location).2.1 [] (ctx.lookupsIn r.data location).2.2 := by
  have hseek := (Reader.seek?_eq_some_iff (r := r)).2 ⟨h0, hle, rfl⟩
  cases hending : (ctx.descriptorsIn r.data location).ending with
  | complete =>
    rw [descriptorsIn] at hending
    simp only [readAt, hseek, hending]
    rfl
  | abandoned warning =>
    rw [descriptorsIn] at hending
    simp only [readAt, hseek, hending]
    rfl
  | stopped stop => exact absurd hending (hended stop)

/-- The first phase that ends by itself leaves the head behind its last record. -/
theorem reader_descriptorsIn {location : DataDirectory.Location}
    (hended : ∀ stop, (ctx.descriptorsIn bytes location).ending ≠ .stopped stop) :
    (ctx.descriptorsIn bytes location).reader =
      ⟨bytes, location.offset.toNat + Descriptor.recordSize *
        ((ctx.descriptorsIn bytes location).items.length + 1)⟩ :=
  ctx.pos_readDescriptors _ _ _ hended

/-- Behind a first phase that ended by itself, the second one reads the tables of all its
libraries. -/
theorem lookupsIn_spec {location : DataDirectory.Location}
    (hended : ∀ stop, (ctx.descriptorsIn bytes location).ending ≠ .stopped stop) :
    (ctx.lookupsIn bytes location).1.map (·.descriptor) =
        (ctx.descriptorsIn bytes location).items
      ∧ ctx.LookupsRead bytes location (ctx.lookupsIn bytes location).1
        (ctx.lookupsIn bytes location).2.2 := by
  have hreader := ctx.reader_descriptorsIn bytes hended
  obtain ⟨hdescriptors, htables⟩ := ctx.readLookupTables_spec location.offset
    (ctx.descriptorsIn bytes location).reader.pos
    (ctx.descriptorsIn bytes location).reader (ctx.descriptorsIn bytes location).items
  have hlen : (ctx.lookupsIn bytes location).1.length =
      (ctx.descriptorsIn bytes location).items.length := by
    rw [← hdescriptors, List.length_map, lookupsIn]
  refine ⟨hdescriptors, ?_⟩
  rw [hreader] at htables
  simp only [LookupsRead, hlen]
  simp only [lookupsIn, hreader]
  exact htables

/-- A directory whose array ends by itself: its libraries, and how their tables were
read. -/
theorem readAt_of_ended (bits : Option Int) {location : DataDirectory.Location}
    {r : Reader} (h0 : 0 ≤ location.offset) (hle : location.offset ≤ r.data.size)
    (hended : ∀ stop, (ctx.descriptorsIn r.data location).ending ≠ .stopped stop) :
    ∃ libraries reader stop?,
      readAt ctx bits location r = outcome bits libraries true
          (endWarnings (ctx.descriptorsIn r.data location).ending
            ++ duplicateWarnings ((ctx.descriptorsIn r.data location).items.map (·.name)))
          reader [] stop?
        ∧ libraries.map (·.descriptor) = (ctx.descriptorsIn r.data location).items
        ∧ ctx.LookupsRead r.data location libraries stop? :=
  ⟨_, _, _, ctx.readAt_eq_of_ended bits h0 hle hended, ctx.lookupsIn_spec r.data hended⟩

/-- A directory lies outside the file, or its array stops the reading, or its array ends by
itself and the lookup tables are read. -/
theorem readAt_cases (bits : Option Int) (location : DataDirectory.Location) (r : Reader) :
    (¬ (0 ≤ location.offset ∧ location.offset ≤ r.data.size)
        ∧ readAt ctx bits location r = outcome bits [] true [] r []
          (some (.aborted (.directoryBeyondEnd location.offset))))
      ∨ (0 ≤ location.offset ∧ location.offset ≤ r.data.size
        ∧ ∃ stop, (ctx.descriptorsIn r.data location).ending = .stopped stop
          ∧ readAt ctx bits location r = outcome bits
            ((ctx.descriptorsIn r.data location).items.map (⟨·, []⟩)) true []
            (ctx.descriptorsIn r.data location).reader [] (some stop))
      ∨ (0 ≤ location.offset ∧ location.offset ≤ r.data.size
        ∧ (∀ stop, (ctx.descriptorsIn r.data location).ending ≠ .stopped stop)
        ∧ ∃ libraries reader stop?,
          readAt ctx bits location r = outcome bits libraries true
              (endWarnings (ctx.descriptorsIn r.data location).ending
                ++ duplicateWarnings ((ctx.descriptorsIn r.data location).items.map (·.name)))
              reader [] stop?
            ∧ libraries.map (·.descriptor) = (ctx.descriptorsIn r.data location).items
            ∧ ctx.LookupsRead r.data location libraries stop?) := by
  by_cases hin : 0 ≤ location.offset ∧ location.offset ≤ r.data.size
  · obtain ⟨h0, hle⟩ := hin
    by_cases hstopped : ∃ stop, (ctx.descriptorsIn r.data location).ending = .stopped stop
    · obtain ⟨stop, hstop⟩ := hstopped
      exact .inr (.inl ⟨h0, hle, stop, hstop, readAt_of_stopped ctx h0 hle hstop⟩)
    · have hended stop : (ctx.descriptorsIn r.data location).ending ≠ .stopped stop :=
        fun h => hstopped ⟨stop, h⟩
      exact .inr (.inr ⟨h0, hle, hended, readAt_of_ended ctx bits h0 hle hended⟩)
  · exact .inl ⟨hin, readAt_of_outside ctx hin⟩

/-- The libraries of a directory that lies in the file are those of its array, however the
reading ended. -/
theorem descriptors_readAt (bits : Option Int) {location : DataDirectory.Location}
    {r : Reader} (h0 : 0 ≤ location.offset) (hle : location.offset ≤ r.data.size) :
    (readAt ctx bits location r).table.libraries.map (·.descriptor) =
      (ctx.descriptorsIn r.data location).items := by
  rcases ctx.readAt_cases bits location r with ⟨hout, -⟩ | ⟨-, -, stop, -, hread⟩ |
    ⟨-, -, -, libraries, reader, stop?, hread, hdescriptors, -⟩
  · exact absurd ⟨h0, hle⟩ hout
  · rw [hread]
    exact descriptors_unread _
  · rw [hread]
    exact hdescriptors

/-- Reading a directory reads the same bytes all the time. -/
theorem data_readAt (bits : Option Int) (location : DataDirectory.Location) (r : Reader) :
    (readAt ctx bits location r).reader.data = r.data := by
  simp only [readAt]
  split
  · rfl
  · next there hthere =>
    have hdata := Reader.data_seek? hthere
    split
    · exact (ctx.data_readDescriptors _ there 0).trans hdata
    · exact (ctx.data_readLookupTables _ _).trans
        ((ctx.data_readDescriptors _ there 0).trans hdata)

end Context

/-- A reading ends where it knows no width, reaches no directory or has none, and otherwise it
reads the directory at its place, whatever the bytes and the limits are. -/
theorem read_ways (sections : SectionMap) (directories : List DataDirectory)
    (bits : Option Int) :
    (Width.ofBits? bits = none
        ∧ ∀ r limits, read r sections directories bits limits =
          outcome bits [] true [] r [] (some (.aborted .widthUnknown)))
      ∨ ∃ width, Width.ofBits? bits = some width
        ∧ ((∃ e, DataDirectory.locate directories sections DataDirectory.importIndex = .error e
            ∧ ∀ r limits, read r sections directories bits limits =
              outcome bits [] true [] r [] (some (.aborted (.directoryUnreachable e))))
          ∨ (DataDirectory.locate directories sections DataDirectory.importIndex = .ok none
            ∧ ∀ r limits, read r sections directories bits limits =
              outcome bits [] false [] r [⟨.debug, none, "Image has no import directory"⟩] none)
          ∨ ∃ location, DataDirectory.locate directories sections DataDirectory.importIndex =
              .ok (some location)
            ∧ ∀ r limits, read r sections directories bits limits =
              readAt ⟨sections, width, limits⟩ bits location r) := by
  cases hwidth : Width.ofBits? bits with
  | none => exact .inl ⟨rfl, fun r limits => by rw [read, hwidth]⟩
  | some width =>
    refine .inr ⟨width, rfl, ?_⟩
    cases hlocate : DataDirectory.locate directories sections DataDirectory.importIndex with
    | error e => exact .inl ⟨e, rfl, fun r limits => by simp only [read, hwidth, hlocate]⟩
    | ok location? =>
      cases location? with
      | none => exact .inr (.inl ⟨rfl, fun r limits => by simp only [read, hwidth, hlocate]⟩)
      | some location =>
        exact .inr (.inr ⟨location, rfl, fun r limits => by simp only [read, hwidth, hlocate]⟩)

/-- The head that is left is one over the same bytes. -/
theorem data_read (r : Reader) (sections : SectionMap) (directories : List DataDirectory)
    (bits : Option Int) (limits : Limits) :
    (read r sections directories bits limits).reader.data = r.data := by
  rcases read_ways sections directories bits with ⟨-, hread⟩ |
    ⟨width, -, ⟨e, -, hread⟩ | ⟨-, hread⟩ | ⟨location, -, hread⟩⟩
  · rw [hread]
    rfl
  · rw [hread]
    rfl
  · rw [hread]
    rfl
  · rw [hread]
    exact Context.data_readAt ..

end ImageImports.Import
