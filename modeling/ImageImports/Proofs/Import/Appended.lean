import ImageImports.Proofs.Import.Complete

/-!
# More bytes behind a file

Two readings of the same directory, one of a file and one of that file with bytes
appended.  What a step finds in the shorter file stands in the longer one as well, at the
same place and with the same value.  A step can only change its mind where the shorter file
ended too early for it: such a step stopped, or gave up on a name.

A step is *firm* when it gives an item or the proper end of its table.  Firm steps are the
same in both readings, and so a run on the shorter file is the front of the run on the
longer one, and the whole of it once it comes to the proper end.

## Main results

* `Bytes.run?_append`, `Bytes.textAt?_append` — what a byte string holds at a place, it
  holds with more bytes behind it.
* `Context.descriptorAt_append`, `Context.entryAt_append` — firm steps do not change.
* `Import.frontOf_read_append` — a file that was cut off gives the front part of each table.
* `Import.read_append_of_terminated` — a directory that came to its proper end gives the
  same table, whatever is appended.
-/

namespace ImageImports

namespace Bytes

variable {bytes : ByteArray} {offset : Int}

/-! ## What stays where it stands -/

theorem after_append (more : ByteArray) {start : Nat} (h : start ≤ bytes.size) :
    after (bytes ++ more) start = after bytes start ++ more.data.toList := by
  rw [after, after, ByteArray.data_append, Array.toList_append, List.drop_append_of_le_length]
  rwa [length_toList]

theorem run?_append {run : ByteArray} {count : Nat} (more : ByteArray)
    (h : run? bytes offset count = some run) :
    run? (bytes ++ more) offset count = some run := by
  obtain ⟨h0, hle, rfl⟩ := run?_eq_some_iff.1 h
  have hlonger : offset + count ≤ (bytes ++ more).size := by
    rw [ByteArray.size_append]
    omega
  have hbehind : more.extract (offset.toNat - bytes.size)
      (offset.toNat + count - bytes.size) = ByteArray.empty :=
    ByteArray.extract_eq_empty_iff.2 (by omega)
  refine run?_eq_some_iff.2 ⟨h0, hlonger, ?_⟩
  rw [ByteArray.extract_append, hbehind, ByteArray.append_empty]

theorem terminated?_append {front found : List UInt8} (back : List UInt8)
    (h : terminated? front = some found) : terminated? (front ++ back) = some found := by
  rw [terminated?] at h ⊢
  split at h
  · next hzero =>
    have hshort : (front.takeWhile (· ≠ 0)).length ≠ front.length := by
      intro hlen
      have hall := List.takeWhile_eq_self_iff.1
        ((List.takeWhile_prefix (· ≠ 0)).eq_of_length hlen) 0 hzero
      simp at hall
    rw [if_pos (List.mem_append_left back hzero), List.takeWhile_append, if_neg hshort]
    exact h
  · cases h

/-- A place with a byte in front of a zero lies inside the byte string. -/
theorem lt_size_of_terminated? {start : Nat} {found : List UInt8}
    (h : terminated? (after bytes start) = some found) : start < bytes.size := by
  have hlen := length_after bytes start
  by_contra hout
  rw [List.eq_nil_of_length_eq_zero (by omega : (after bytes start).length = 0)] at h
  cases h

theorem terminated?_after_append {start : Nat} {found : List UInt8} (more : ByteArray)
    (h : terminated? (after bytes start) = some found) :
    terminated? (after (bytes ++ more) start) = some found := by
  rw [after_append more (Nat.le_of_lt (lt_size_of_terminated? h))]
  exact terminated?_append _ h

theorem textAt?_append {s : String} (more : ByteArray) (h : textAt? bytes offset = some s) :
    textAt? (bytes ++ more) offset = some s := by
  rw [textAt?] at h ⊢
  split at h
  · next h0 =>
    obtain ⟨found, hfound, rfl⟩ := Option.map_eq_some_iff.1 h
    rw [if_pos h0, terminated?_after_append more hfound, Option.map_some]
  · cases h

end Bytes

namespace Reader

/-- A head over a byte string with more bytes behind it. -/
def appended (r : Reader) (more : ByteArray) : Reader := ⟨r.data ++ more, r.pos⟩

theorem seek?_append {r there : Reader} {offset : Int} (more : ByteArray)
    (h : r.seek? offset = some there) :
    (r.appended more).seek? offset = some (there.appended more) := by
  obtain ⟨h0, hle, rfl⟩ := seek?_eq_some_iff.1 h
  refine seek?_eq_some_iff.2 ⟨h0, ?_, rfl⟩
  simp only [appended, ByteArray.size_append]
  omega

/-- Where the run is there, a read gives it and moves behind it. -/
theorem read_of_run? {r : Reader} {count : Nat} {run : ByteArray}
    (h : Bytes.run? r.data r.pos count = some run) :
    r.read count = (run, { r with pos := r.pos + count }) := by
  have hexact := readExact_of_run? h
  rw [readExact_eq] at hexact
  split at hexact
  · exact Prod.ext (Option.some.inj (Prod.mk.inj hexact).1) (Prod.mk.inj hexact).2
  · cases (Prod.mk.inj hexact).1

end Reader

namespace Bytes

/-- A block that ends in the middle of a text, and the longer block at the same place: the
text ends at the same zero. -/
theorem extract_zeroIndex_append {block longer : ByteArray} {rest back : List UInt8}
    {count : Nat} (hblock : block.data.toList = rest.take count)
    (hlonger : longer.data.toList = (rest ++ back).take count)
    (hzero : zeroIndex block < block.size) :
    zeroIndex longer < longer.size
      ∧ longer.extract 0 (zeroIndex longer) = block.extract 0 (zeroIndex block) := by
  have hfound := terminated?_append back (terminated?_of_zeroIndex_lt hblock hzero)
  have hin : zeroIndex longer < longer.size := by
    by_contra hout
    rw [terminated?_of_size_le_zeroIndex hlonger (Nat.le_of_not_lt hout)] at hfound
    obtain ⟨cs, -, hcs⟩ := Option.map_eq_some_iff.1 hfound
    have hlen := congrArg List.length hcs
    have hle : block.data.toList.length ≤ longer.data.toList.length := by
      rw [hblock, hlonger, List.length_take, List.length_take, List.length_append]
      omega
    rw [List.length_append, length_toList, length_toList, ByteArray.size_extract] at hlen
    rw [length_toList, length_toList] at hle
    omega
  refine ⟨hin, ByteArray.ext (Array.toList_inj.1 ?_)⟩
  exact Option.some.inj ((terminated?_of_zeroIndex_lt hlonger hin).symm.trans hfound)

end Bytes

namespace Import.Limit

/-! ## Texts under a limit -/

/-- A text that is read within a budget with a fraction is read with more bytes behind it.
The block in which it ends may be longer then, but the text ends at the same zero. -/
theorem readTextWithin_append {budget : Float} {fuel : Nat} {r : Reader} {consumed : Nat}
    {found : ByteArray} {s : String} (more : ByteArray)
    (h : (readTextWithin budget fuel r consumed found).1 = .ok (some s)) :
    ∀ longer, fuel ≤ longer →
      (readTextWithin budget longer (r.appended more) consumed found).1 = .ok (some s) := by
  fun_induction readTextWithin budget fuel r consumed found with
  | case1 => cases h
  | case2 => cases h
  | case3 => cases h
  | case4 => cases h
  | case5 fuel r consumed found left hleft hwhole got block stop hempty hstop =>
    rintro (_ | longer) hfuel
    · omega
    have hlist := r.toList_read Reader.blockSize
    have hinside : r.pos ≤ r.data.size :=
      Nat.le_of_lt (Bytes.lt_size_of_terminated? (Bytes.terminated?_of_zeroIndex_lt hlist hstop))
    have hlist' := (r.appended more).toList_read Reader.blockSize
    rw [show (r.appended more).data = r.data ++ more from rfl,
      show (r.appended more).pos = r.pos from rfl, Bytes.after_append more hinside] at hlist'
    obtain ⟨hin, hextract⟩ := Bytes.extract_zeroIndex_append hlist hlist' hstop
    have hne : ((r.appended more).read Reader.blockSize).1.size ≠ 0 := by omega
    rw [readTextWithin]
    simp only [left] at hleft hwhole
    simp only [hleft, hwhole, hne, hin, hextract]
    exact h
  | case6 fuel r consumed found left hleft hwhole got block stop hempty hstop ih =>
    rintro (_ | longer) hfuel
    · omega
    -- A text goes on behind the block, so the block is whole and no longer in the longer file.
    obtain ⟨cs, hcs, -⟩ := terminated?_of_readTextWithin h
    have hmore := Bytes.lt_size_of_terminated? hcs
    have hwholeBlock : (r.pos : Int) + Reader.blockSize ≤ r.data.size := by
      have hsize := r.size_read Reader.blockSize
      have hpos := r.pos_read Reader.blockSize
      have hdata := r.data_read Reader.blockSize
      simp only [Reader.size, Int.toNat_natCast] at hsize
      simp only [got, hdata, hpos] at hmore
      omega
    have hrun := Bytes.run?_eq_some_iff.2 ⟨Int.natCast_nonneg r.pos, hwholeBlock, rfl⟩
    have hshort : got = _ := Reader.read_of_run? hrun
    have hlong : (r.appended more).read Reader.blockSize = (block, got.2.appended more) := by
      simp only [block, hshort]
      rw [Reader.read_of_run? (r := r.appended more) (Bytes.run?_append more hrun)]
      rfl
    rw [readTextWithin, hlong]
    simp only [left] at hleft hwhole
    simp only [stop] at hstop
    simp only [hleft, hwhole, hempty, hstop]
    exact ih h longer (by omega)

/-- A text that is read is read with more bytes behind it, whatever kind of limit there
is. -/
theorem readText_append {limit : Limit} {r : Reader} {s : String} (more : ByteArray)
    (h : (limit.readText r).1 = .ok (some s)) :
    (limit.readText (r.appended more)).1 = .ok (some s) := by
  cases hkind : limit.kind with
  | whole =>
    rw [readText_of_whole hkind] at h ⊢
    obtain ⟨htext, hshort⟩ := Option.filter_eq_some_iff.1 (Except.ok.inj h)
    have hlonger : Bytes.textAt? (r.appended more).data (r.appended more).pos = some s :=
      Bytes.textAt?_append more htext
    rw [hlonger, Option.filter_some, if_pos hshort]
  | real x =>
    simp only [readText, hkind] at h ⊢
    refine readTextWithin_append more h _ ?_
    simp only [Reader.appended, Reader.size, ByteArray.size_append]
    omega
  | other word =>
    simp only [readText, hkind] at h
    cases h

theorem readTextAt_append {limit : Limit} {r : Reader} {offset : Int} {s : String}
    (more : ByteArray) (h : (limit.readTextAt r offset).1 = .ok (some s)) :
    (limit.readTextAt (r.appended more) offset).1 = .ok (some s) := by
  simp only [readTextAt, Reader.aside_fst] at h ⊢
  split at h
  · cases h
  · next there hthere =>
    simp only [Reader.seek?_append more hthere]
    exact readText_append more h

end Import.Limit

namespace Import

/-! ## Firm steps -/

/-- The answer of a step that more bytes cannot change: an item, or the proper end of the
table. -/
def Firm {α : Type} : Except Ending α → Prop
  | .ok _ => True
  | .error .complete => True
  | .error _ => False

namespace Context

variable (ctx : Context) {bytes : ByteArray}

theorem nameIn_append {d : Descriptor} {name : String} (more : ByteArray)
    (h : ctx.nameIn bytes d = .ok (some name)) :
    ctx.nameIn (bytes ++ more) d = .ok (some name) := by
  simp only [nameIn, libraryName] at h ⊢
  split at h
  · cases h
  · exact Limit.readTextAt_append more h

theorem RecordAt.append {record : ByteArray} {tableEnd? : Option Int} {offset size : Nat}
    (h : RecordAt bytes tableEnd? offset size record) (more : ByteArray) :
    RecordAt (bytes ++ more) tableEnd? offset size record :=
  ⟨h.inTable, Bytes.run?_append more h.run⟩

/-- A descriptor that is accepted, and the record that ends an array, are the same with
more bytes behind them. -/
theorem descriptorAt_append {tableEnd? : Option Int} {offset count : Nat} (more : ByteArray)
    (h : Firm (ctx.descriptorAt bytes tableEnd? offset count)) :
    ctx.descriptorAt (bytes ++ more) tableEnd? offset count =
      ctx.descriptorAt bytes tableEnd? offset count := by
  generalize hresult : ctx.descriptorAt bytes tableEnd? offset count = result at h ⊢
  cases ctx.descriptorStep bytes hresult with
  | unterminated hpast => exact h.elim
  | unreadable hin hnone => exact h.elim
  | sentinel hat hsentinel => exact (DescriptorStep.sentinel (hat.append more) hsentinel).eq
  | faulted hat htables hname => exact h.elim
  | namelessFirst hat htables hname hcount => exact h.elim
  | nameless hat htables hname hcount => exact h.elim
  | full hat htables hname hfull hstop => exact h.elim
  | accepted hat htables hname hfew =>
    have hname := ctx.nameIn_append more hname
    exact (DescriptorStep.accepted (hat.append more) htables hname hfew).eq

/-- A symbol whose hint and name are read is the same with more bytes behind them. -/
theorem hintNameIn_append {library : String} {e found : Entry} (more : ByteArray)
    (h : ctx.hintNameIn bytes library e = .ok found) :
    ctx.hintNameIn (bytes ++ more) library e = .ok found := by
  cases ctx.hintStep bytes h with
  | ordinal hordinal => exact (HintStep.ordinal hordinal).eq
  | named hname hplace hhint htext =>
    have hhint := Bytes.run?_append more hhint
    have htext := Limit.readText_append more htext
    exact (HintStep.named hname hplace hhint htext).eq

/-- A symbol that is accepted, and the zero that ends a table, are the same with more bytes
behind them. -/
theorem entryAt_append {library : String} {tableEnd? : Option Int} {offset count : Nat}
    (more : ByteArray) (h : Firm (ctx.entryAt bytes library tableEnd? offset count)) :
    ctx.entryAt (bytes ++ more) library tableEnd? offset count =
      ctx.entryAt bytes library tableEnd? offset count := by
  generalize hresult : ctx.entryAt bytes library tableEnd? offset count = result at h ⊢
  cases ctx.entryStep bytes hresult with
  | unterminated hpast => exact h.elim
  | unreadable hin hnone => exact h.elim
  | zero hat hzero => exact (EntryStep.zero (hat.append more) hzero).eq
  | full hat hzero hfull hstop => exact h.elim
  | hintStopped hat hzero hfew hhint => exact h.elim
  | accepted hat hzero hfew hhint =>
    have hhint := ctx.hintNameIn_append more hhint
    exact (EntryStep.accepted (hat.append more) hzero hfew hhint).eq

end Context

/-! ## Runs on the shorter file -/

namespace Scan

variable {α : Type} {few many : Nat → Except Ending α} {first second : Scan α}

/-- Where the firm answers of a step are also those of another one, its run is the front of
the other's. -/
theorem Follows.prefix_of_firm (hfirm : ∀ i, Firm (few i) → many i = few i)
    (h₁ : first.Follows few) (h₂ : second.Follows many) : first.items <+: second.items := by
  refine h₁.prefix_of_ok (fun i a ha => ?_) h₂
  rw [hfirm i (by rw [ha]; trivial), ha]

/-- A run that comes to the proper end is the run of the other step as well. -/
theorem Follows.of_complete (hfirm : ∀ i, Firm (few i) → many i = few i)
    (h : first.Follows few) (hcomplete : first.ending = .complete) : first.Follows many where
  item i hi := by
    have hstep := h.item i hi
    rw [hfirm i (by rw [hstep]; trivial), hstep]
  last := by
    have hstep := h.last
    rw [hcomplete] at hstep
    rw [hfirm _ (by rw [hstep]; trivial), hstep, hcomplete]

end Scan

namespace Context

variable (ctx : Context) {bytes : ByteArray} {location : DataDirectory.Location}
  {arrayStart arrayEnd : Int}

theorem descriptorsIn_prefix (more : ByteArray) :
    (ctx.descriptorsIn bytes location).items <+:
      (ctx.descriptorsIn (bytes ++ more) location).items :=
  (ctx.descriptorsIn_follows bytes location).prefix_of_firm
    (fun _ h => ctx.descriptorAt_append more h)
    (ctx.descriptorsIn_follows (bytes ++ more) location)

theorem descriptorsIn_of_complete (more : ByteArray)
    (h : (ctx.descriptorsIn bytes location).ending = .complete) :
    (ctx.descriptorsIn bytes location).items =
        (ctx.descriptorsIn (bytes ++ more) location).items
      ∧ (ctx.descriptorsIn (bytes ++ more) location).ending = .complete := by
  have hrun := (ctx.descriptorsIn_follows bytes location).of_complete
    (fun _ hfirm => ctx.descriptorAt_append more hfirm) h
  obtain ⟨hitems, hending⟩ := hrun.unique (ctx.descriptorsIn_follows (bytes ++ more) location)
  exact ⟨hitems, hending.symm.trans h⟩

/-- A lookup table that the longer file holds to its end is cut off in the shorter one, but
not changed.  The two arrays need not end at the same place: the table that is complete lies
outside its own array, and one that lies inside the other array has no symbols. -/
theorem lookupIn_prefix (more : ByteArray) {d : Descriptor} {arrayEnd' : Int}
    (h : (ctx.lookupIn (bytes ++ more) arrayStart arrayEnd' d).ending = .complete) :
    (ctx.lookupIn bytes arrayStart arrayEnd d).items <+:
      (ctx.lookupIn (bytes ++ more) arrayStart arrayEnd' d).items := by
  rcases ctx.lookupIn_cases bytes arrayStart arrayEnd d with
    ⟨-, hnil, -⟩ | ⟨start, hstart, ⟨-, hnil, -⟩ | ⟨-, -, hnil, -⟩ | ⟨-, -, hrun⟩⟩
  · rw [hnil]
    exact List.nil_prefix
  · rw [hnil]
    exact List.nil_prefix
  · rw [hnil]
    exact List.nil_prefix
  · rcases ctx.lookupIn_cases (bytes ++ more) arrayStart arrayEnd' d with
      ⟨-, -, hstop⟩ | ⟨start', hstart', ⟨-, -, hstop⟩ | ⟨-, -, -, hstop⟩ | ⟨-, -, hrun'⟩⟩
    · cases h.symm.trans hstop
    · cases h.symm.trans hstop
    · cases h.symm.trans hstop
    · cases hstart.symm.trans hstart'
      exact hrun.prefix_of_firm (fun _ hfirm => ctx.entryAt_append more hfirm) hrun'

/-- A lookup table that is complete stays as it is. -/
theorem lookupIn_of_complete (more : ByteArray) {d : Descriptor}
    (h : (ctx.lookupIn bytes arrayStart arrayEnd d).ending = .complete) :
    (ctx.lookupIn bytes arrayStart arrayEnd d).items =
        (ctx.lookupIn (bytes ++ more) arrayStart arrayEnd d).items
      ∧ (ctx.lookupIn (bytes ++ more) arrayStart arrayEnd d).ending = .complete := by
  rcases ctx.lookupIn_cases bytes arrayStart arrayEnd d with
    ⟨-, -, hstop⟩ | ⟨start, hstart, ⟨-, -, hstop⟩ | ⟨-, -, -, hstop⟩ | ⟨hin, hout, hrun⟩⟩
  · cases h.symm.trans hstop
  · cases h.symm.trans hstop
  · cases h.symm.trans hstop
  · have hin' : 0 ≤ start ∧ start ≤ (bytes ++ more).size := by
      rw [ByteArray.size_append]
      omega
    have hrun := hrun.of_complete (fun _ hfirm => ctx.entryAt_append more hfirm) h
    rcases ctx.lookupIn_cases (bytes ++ more) arrayStart arrayEnd d with
      ⟨hnone, -, -⟩ | ⟨start', hstart', ⟨hfar, -, -⟩ | ⟨-, hinside, -, -⟩ | ⟨-, -, hrun'⟩⟩
    · cases hstart.symm.trans hnone
    · cases hstart.symm.trans hstart'
      exact absurd hin' hfar
    · cases hstart.symm.trans hstart'
      exact absurd hinside hout
    · cases hstart.symm.trans hstart'
      obtain ⟨hitems, hending⟩ := hrun.unique hrun'
      exact ⟨hitems, hending.symm.trans h⟩

/-! ## What a reading leaves -/

variable {bits : Option Int} {r : Reader}

/-- The libraries of a table are the first of the array, and each has the symbols of its
lookup table or none. -/
theorem libraries_readAt (bits : Option Int) (location : DataDirectory.Location) (r : Reader) :
    (readAt ctx bits location r).table.libraries.map (·.descriptor) <+:
        (ctx.descriptorsIn r.data location).items
      ∧ ∀ l ∈ (readAt ctx bits location r).table.libraries, l.entries = []
        ∨ ∃ arrayEnd, l.entries =
          (ctx.lookupIn r.data location.offset arrayEnd l.descriptor).items := by
  rcases ctx.readAt_cases bits location r with ⟨-, hread⟩ | ⟨-, -, stop, -, hread⟩ |
    ⟨-, -, -, libraries, reader, stop?, hread, hdescriptors, htables⟩
  · rw [hread]
    exact ⟨List.nil_prefix, fun l hl => absurd hl List.not_mem_nil⟩
  · rw [hread]
    refine ⟨(descriptors_unread _).symm ▸ List.prefix_rfl, fun l hl => ?_⟩
    obtain ⟨d, -, rfl⟩ := List.mem_map.1 hl
    exact .inl rfl
  · rw [hread]
    refine ⟨hdescriptors ▸ List.prefix_rfl, fun l hl => ?_⟩
    rcases htables.entries ctx r.data hl with hnil | hitems
    · exact .inl hnil
    · exact .inr ⟨_, hitems⟩

/-- What a reading that ended well has gone through. -/
structure ReadWell (bits : Option Int) (location : DataDirectory.Location) (bytes : ByteArray)
    (t : Table) : Prop where
  inside : 0 ≤ location.offset ∧ location.offset ≤ bytes.size
  ended : ∀ stop, (ctx.descriptorsIn bytes location).ending ≠ .stopped stop
  descriptors : t.libraries.map (·.descriptor) = (ctx.descriptorsIn bytes location).items
  tables : ctx.LookupsRead bytes location t.libraries none
  rest (r : Reader) : t = (outcome bits t.libraries true
    (endWarnings (ctx.descriptorsIn bytes location).ending
      ++ duplicateWarnings ((ctx.descriptorsIn bytes location).items.map (·.name)))
    r [] none).table

theorem readWell_of_ok (hret : (readAt ctx bits location r).fault? = none)
    (hok : (readAt ctx bits location r).table.ok = true) :
    ctx.ReadWell bits location r.data (readAt ctx bits location r).table := by
  rcases ctx.readAt_cases bits location r with ⟨-, hread⟩ | ⟨-, -, stop, -, hread⟩ |
    ⟨h0, hle, hended, libraries, reader, stop?, hread, hdescriptors, htables⟩
  · rw [hread] at hok
    cases hok
  · rw [hread] at hret hok
    cases stop with
    | aborted cause => cases hok
    | fault fault => cases hret
  · rw [hread] at hret hok ⊢
    rcases stop? with _ | cause | fault
    · exact ⟨⟨h0, hle⟩, hended, hdescriptors, htables, fun r => rfl⟩
    · cases hok
    · cases hret

end Context

/-! ## The whole directory -/

/-- The libraries of a file that was cut off, in front of those of the whole file: the first
of them, each with the first of its symbols. -/
structure FrontOf (few many : List Library) : Prop where
  descriptors : few.map (·.descriptor) <+: many.map (·.descriptor)
  entries : ∀ (i : Nat) l m, few[i]? = some l → many[i]? = some m → l.entries <+: m.entries

/-- The array of a table ends in a record without tables, or there is no directory. -/
def ArrayTerminated (bytes : ByteArray) (sections : SectionMap)
    (directories : List DataDirectory) (t : Table) : Prop :=
  t.directoryPresent = false
    ∨ ∃ location d, DataDirectory.locate directories sections DataDirectory.importIndex =
        .ok (some location)
      ∧ Context.FieldsAt bytes
        (location.offset + Descriptor.recordSize * t.libraries.length) d
      ∧ d.originalFirstThunk = 0 ∧ d.firstThunk = 0

namespace Context

variable (ctx : Context) {location : DataDirectory.Location} {bits : Option Int}

theorem frontOf_readAt_append {r longer : Reader} {more : ByteArray}
    (hdata : longer.data = r.data ++ more)
    (hwell : ctx.ReadWell bits location longer.data (readAt ctx bits location longer).table) :
    FrontOf (readAt ctx bits location r).table.libraries
      (readAt ctx bits location longer).table.libraries := by
  obtain ⟨hfew, hentries⟩ := ctx.libraries_readAt bits location r
  have hfront := hfew.trans (ctx.descriptorsIn_prefix more)
  rw [← hdata, ← hwell.descriptors] at hfront
  refine ⟨hfront, fun i l m hl hm => ?_⟩
  have hsame : l.descriptor = m.descriptor := by
    obtain ⟨behind, hsplit⟩ := hfront
    have hat := congrArg (·[i]?) hsplit
    obtain ⟨hi, -⟩ := List.getElem?_eq_some_iff.1 hl
    simp only [List.getElem?_append_left ((List.length_map _).symm ▸ hi),
      List.getElem?_map, hl, hm, Option.map_some] at hat
    exact Option.some.inj hat
  obtain ⟨hitems, hcomplete⟩ := hwell.tables m (List.mem_of_getElem? hm)
  rw [hdata] at hitems hcomplete
  rw [hitems]
  rcases hentries l (List.mem_of_getElem? hl) with hnil | ⟨arrayEnd, hshort⟩
  · rw [hnil]
    exact List.nil_prefix
  · rw [hshort, hsame]
    exact ctx.lookupIn_prefix more hcomplete

/-- A reading that ended well, behind a record without tables, came to the proper end of the
array. -/
theorem ReadWell.complete {bytes : ByteArray} {t : Table} {d : Descriptor}
    (hwell : ctx.ReadWell bits location bytes t)
    (hfields : FieldsAt bytes (location.offset + Descriptor.recordSize * t.libraries.length) d)
    (hzero : d.originalFirstThunk = 0 ∧ d.firstThunk = 0) :
    (ctx.descriptorsIn bytes location).ending = .complete := by
  have hlast := (ctx.descriptorsIn_follows bytes location).last
  have hin := (ctx.ends_of_descriptorAt bytes hlast hwell.ended).1
  have hlen : t.libraries.length = (ctx.descriptorsIn bytes location).items.length := by
    rw [← hwell.descriptors, List.length_map]
  have hplace : location.offset + Descriptor.recordSize * t.libraries.length =
      ((location.offset.toNat + Descriptor.recordSize *
        (ctx.descriptorsIn bytes location).items.length : Nat) : Int) := by
    rw [hlen, Int.natCast_add, Int.toNat_of_nonneg hwell.inside.1, Int.natCast_mul]
  rw [hplace] at hfields
  rw [ctx.descriptorAt_of_zero bytes hin hfields hzero] at hlast
  injection hlast with hlast
  exact hlast.symm

/-- An array that came to its proper end, and lookup tables that are complete: everything is
the same with more bytes behind it. -/
theorem readAt_append_of_complete {r longer : Reader} {more : ByteArray}
    (hdata : longer.data = r.data ++ more)
    (hwell : ctx.ReadWell bits location r.data (readAt ctx bits location r).table)
    (hcomplete : (ctx.descriptorsIn r.data location).ending = .complete) :
    (readAt ctx bits location longer).table = (readAt ctx bits location r).table
      ∧ (readAt ctx bits location longer).fault? = none := by
  obtain ⟨hitems, hcomplete'⟩ := ctx.descriptorsIn_of_complete more hcomplete
  rw [← hdata] at hitems hcomplete'
  have hin : location.offset ≤ longer.data.size := by
    have hle := hwell.inside.2
    rw [hdata, ByteArray.size_append]
    omega
  have htables : ctx.LookupsRead longer.data location
      (readAt ctx bits location r).table.libraries none := by
    intro l hl
    obtain ⟨hentries, hend⟩ := hwell.tables l hl
    obtain ⟨hsame, hend'⟩ := ctx.lookupIn_of_complete more hend
    rw [← hdata] at hsame hend'
    exact ⟨hentries.trans hsame, hend'⟩
  obtain ⟨reader, hread⟩ := ctx.readAt_of_complete bits hwell.inside.1 hin
    (hitems.symm.trans hwell.descriptors.symm) hcomplete' htables
  have hrest := hwell.rest reader
  rw [hcomplete, ← hwell.descriptors] at hrest
  rw [hread]
  exact ⟨hrest.symm, rfl⟩

end Context

section

variable {sections : SectionMap} {directories : List DataDirectory} {bits : Option Int}
  {limits : Limits} {r longer : Reader} {more : ByteArray}

/-- **A cut gives the front part**: when a file is read well, every table of the file cut
off anywhere is the front of the whole one. -/
theorem frontOf_read_append (hdata : longer.data = r.data ++ more)
    (hret : (read longer sections directories bits limits).fault? = none)
    (hok : (read longer sections directories bits limits).table.ok = true) :
    FrontOf (read r sections directories bits limits).table.libraries
      (read longer sections directories bits limits).table.libraries := by
  rcases read_cases sections directories bits with
    ⟨present, notes, stop?, hread⟩ | ⟨width, location, -, -, hread⟩
  · rw [hread, hread]
    exact ⟨List.prefix_rfl, fun i l m hl => by cases hl⟩
  · rw [hread] at hret hok
    rw [hread, hread]
    exact Context.frontOf_readAt_append _ hdata (Context.readWell_of_ok _ hret hok)

/-- **What ended properly stays**: an import directory that was read well up to a record
without tables, or that is not there, gives the same table with more bytes behind it. -/
theorem read_append_of_terminated (hdata : longer.data = r.data ++ more)
    (hret : (read r sections directories bits limits).fault? = none)
    (hok : (read r sections directories bits limits).table.ok = true)
    (hend : ArrayTerminated r.data sections directories
      (read r sections directories bits limits).table) :
    (read longer sections directories bits limits).table =
        (read r sections directories bits limits).table
      ∧ (read longer sections directories bits limits).fault? = none := by
  cases hwidth : Width.ofBits? bits with
  | none =>
    simp only [read, hwidth] at hok
    cases hok
  | some width =>
    cases hlocate : DataDirectory.locate directories sections
        DataDirectory.importIndex with
    | error e =>
      simp only [read, hwidth, hlocate] at hok
      cases hok
    | ok location? =>
      cases location? with
      | none =>
        simp only [read, hwidth, hlocate]
        exact ⟨rfl, rfl⟩
      | some location =>
        simp only [read, hwidth, hlocate] at hret hok hend ⊢
        have hwell := Context.readWell_of_ok _ hret hok
        refine Context.readAt_append_of_complete _ hdata hwell ?_
        rcases hend with hgone | ⟨found, d, hfound, hfields, hzero⟩
        · rw [hwell.rest r] at hgone
          cases hgone
        · cases hlocate.symm.trans hfound
          exact hwell.complete _ hfields hzero

end

end Import

end ImageImports
