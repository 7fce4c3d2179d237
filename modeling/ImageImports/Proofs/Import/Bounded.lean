import ImageImports.Proofs.Import.Mapped
import ImageImports.Proofs.Import.Rearranged

/-!
# How far a reading goes

Three caps bound the reading of an import directory: the end of the raw data that a table
starts in, the end of the file, and the limits.  The limits may be any integers, so a reading
ends even where they bound nothing.  What ends it then is the head: a turn of a loop that does
not end the loop leaves the head one record farther, because what it reads aside does not move
the head, and the head stays in the file.

That loops end is a fact about their turns, and the bounds follow from what a turn that gives
an item has checked.

## Main results

* `Reader.textLoop` — the search for the end of a text ends.
* `Import.read_bounded` — how many libraries and symbols a table has, how far its tables go,
  and how long its names are, whatever the file and the limits.
* `Import.beyond_not_bounded` — why the room behind a directory counts from zero: beyond the
  end of the file it is negative.
-/

namespace ImageImports

/-! ## The search for the end of a text -/

namespace Reader

/-- What a search for the end of a text has: the head, the bytes that it may still look at,
and the bytes that it passed. -/
structure TextSearch where
  reader : Reader
  budget : Nat
  found : ByteArray

/-- A turn of the search: an answer, or the search behind one more block without a zero. -/
def textTurn (now : TextSearch) : Except (Option String × Reader) TextSearch :=
  match now.budget with
  | 0 => .error (none, now.reader)
  | left + 1 =>
    let got := now.reader.read (min blockSize (left + 1))
    let block := got.1
    let stop := Bytes.zeroIndex block
    if block.size = 0 then .error (none, got.2)
    else if stop < block.size then
      .error (some (Bytes.text (now.found ++ block.extract 0 stop)),
        { got.2 with pos := now.reader.pos + stop + 1 })
    else .ok ⟨got.2, left + 1 - block.size, now.found ++ block⟩

/-- The search is the iteration of its turn. -/
theorem readTextBlocks_eq_turn (now : TextSearch) :
    now.reader.readTextBlocks now.budget now.found =
      match textTurn now with
      | .error answer => answer
      | .ok next => next.reader.readTextBlocks next.budget next.found := by
  obtain ⟨r, budget, found⟩ := now
  cases budget with
  | zero =>
    rw [readTextBlocks]
    rfl
  | succ left =>
    rw [readTextBlocks]
    simp only [textTurn]
    by_cases hnone : (r.read (min blockSize (left + 1))).1.size = 0
    · simp only [hnone, if_true, dite_true]
    · simp only [hnone, if_false, dite_false]
      split
      · rfl
      · rfl

/-- A block that holds a byte takes from the budget. -/
theorem budget_lt_of_textTurn {now next : TextSearch} (h : textTurn now = .ok next) :
    next.budget < now.budget := by
  obtain ⟨r, budget, found⟩ := now
  cases budget with
  | zero => cases h
  | succ left =>
    simp only [textTurn] at h
    split at h
    · cases h
    · next hsome =>
      split at h
      · cases h
      · rw [← Except.ok.inj h]
        show left + 1 - (r.read (min blockSize (left + 1))).1.size < left + 1
        omega

/-- A search that iterates the turn, and has no endless sequence of turns. -/
structure TextLoop (search : TextSearch → Option String × Reader) : Prop where
  stops : ∀ now answer, textTurn now = .error answer → search now = answer
  goesOn : ∀ now next, textTurn now = .ok next → search now = search next
  ends : WellFounded fun next now => textTurn now = .ok next

/-- The search for the end of a text ends, however long the text may be. -/
theorem textLoop : TextLoop fun now => now.reader.readTextBlocks now.budget now.found where
  stops now answer h := by rw [readTextBlocks_eq_turn, h]
  goesOn now next h := by rw [readTextBlocks_eq_turn, h]
  ends := Subrelation.wf budget_lt_of_textTurn (measure TextSearch.budget).wf

end Reader

namespace Import

/-! ## What an accepted item has passed -/

namespace Limit

variable {limit : Limit} {s : String}

theorem lt_bound_of_not_reachedBy {count : Int} (h : ¬ limit.reachedBy count = true) :
    count < limit.bound := by
  simpa [reachedBy] using h

/-- A text that a whole limit admits is no longer than its bound. -/
theorem length_le_of_readText (hwhole : limit.kind = .whole) {r : Reader}
    (h : (limit.readText r).1 = .ok (some s)) : (s.length : Int) ≤ limit.bound := by
  rw [readText_of_whole hwhole] at h
  have hshort := (Option.filter_eq_some_iff.1 (Except.ok.inj h)).2
  simpa using hshort

theorem length_le_of_readTextAt (hwhole : limit.kind = .whole) {r : Reader} {offset : Int}
    (h : (limit.readTextAt r offset).1 = .ok (some s)) : (s.length : Int) ≤ limit.bound := by
  rw [readTextAt_of_whole hwhole] at h
  have hshort := (Option.filter_eq_some_iff.1 (Except.ok.inj h)).2
  simpa using hshort

end Limit

namespace Context

variable (ctx : Context) (bytes : ByteArray)

/-- A descriptor that is accepted is one of as many as the limit admits, and its name was
read under the limit of texts. -/
theorem of_descriptorAt {tableEnd? : Option Int} {offset count : Nat} {d : Descriptor}
    (h : ctx.descriptorAt bytes tableEnd? offset count = .ok d) :
    (count : Int) < ctx.limits.maxLibraries.bound
      ∧ ∃ place, (ctx.limits.maxTextLength.readTextAt ⟨bytes, 0⟩ place).1 = .ok (some d.name) := by
  cases ctx.descriptorStep bytes h with
  | accepted hat htables hname hfew =>
    refine ⟨Limit.lt_bound_of_not_reachedBy hfew, ?_⟩
    rw [nameIn, libraryName] at hname
    split at hname
    · cases hname
    · exact ⟨_, hname⟩

/-- A name that is read aside was read under the limit of texts. -/
theorem of_hintNameIn {library : String} {e found : Entry}
    (h : ctx.hintNameIn bytes library e = .ok found) :
    found = e ∨ ∃ there, (ctx.limits.maxTextLength.readText there).1 = .ok (some found.name) := by
  cases ctx.hintStep bytes h with
  | ordinal hordinal => exact .inl rfl
  | named hname hplace hhint htext => exact .inr ⟨_, htext⟩

/-- A symbol that is accepted is one of as many as the limit admits, and its name, if it has
one, was read under the limit of texts. -/
theorem of_entryAt {library : String} {tableEnd? : Option Int} {offset count : Nat} {e : Entry}
    (h : ctx.entryAt bytes library tableEnd? offset count = .ok e) :
    (count : Int) < ctx.limits.maxEntriesPerLibrary.bound
      ∧ (e.name = ""
        ∨ ∃ there, (ctx.limits.maxTextLength.readText there).1 = .ok (some e.name)) := by
  cases ctx.entryStep bytes h with
  | accepted hat hzero hfew hhint =>
    refine ⟨Limit.lt_bound_of_not_reachedBy hfew, ?_⟩
    rcases ctx.of_hintNameIn bytes hhint with rfl | hname
    · exact .inl rfl
    · exact .inr hname

end Context

/-! ## Room for items -/

/-- Where every item has a number below a bound, there are no more items than that. -/
theorem length_le_of_getElem?_lt {α : Type} {items : List α} {bound : Int}
    (h : ∀ (i : Nat) a, items[i]? = some a → (i : Int) < bound) :
    (items.length : Int) ≤ max 0 bound := by
  cases hlen : items.length with
  | zero => exact Int.le_max_left 0 bound
  | succ n =>
    have hlast := h n _ (List.getElem?_eq_getElem (by omega))
    omega

/-- Items that lie one behind the other, the last of them in front of the end of the table
and in the file, have room between the first place and both ends. -/
theorem InsideAt.extent {bytes : ByteArray} {tableEnd start : Int} {size n : Nat}
    (h0 : 0 ≤ start) (h : InsideAt bytes (some tableEnd) (start.toNat + size * n) size) :
    (size * (n + 1) : Int) ≤ min (bytes.size : Int) tableEnd - start := by
  have htable := h.inTable tableEnd rfl
  have hfile := h.inFile
  have hplace : ((start.toNat + size * n : Nat) : Int) = start + size * n := by
    rw [Int.natCast_add, Int.toNat_of_nonneg h0, Int.natCast_mul]
  have hstep : (size * (n + 1) : Int) = size * n + size := by
    rw [Int.mul_add, Int.mul_one]
  omega

/-! ## The bounds of a table -/

/-- The limits bound how many libraries and symbols there are, and how long names are. -/
structure Limits.Bound (limits : Limits) (libraries : List Library) : Prop where
  count : (libraries.length : Int) ≤ max 0 limits.maxLibraries.bound
  entryCount : ∀ l ∈ libraries,
    (l.entries.length : Int) ≤ max 0 limits.maxEntriesPerLibrary.bound
  libraryName : ∀ l ∈ libraries, (l.name.length : Int) ≤ limits.maxTextLength.bound
  entryName : ∀ l ∈ libraries, ∀ e ∈ l.entries,
    (e.name.length : Int) ≤ limits.maxTextLength.bound

theorem Limits.bound_nil (limits : Limits) : limits.Bound [] where
  count := Int.le_max_left 0 _
  entryCount _ hl := absurd hl List.not_mem_nil
  libraryName _ hl := absurd hl List.not_mem_nil
  entryName _ hl := absurd hl List.not_mem_nil

namespace Context

/-- The tables of a directory lie in front of the ends of their sections and of the file, and
none that was read begins in the array of descriptors.  A directory that lies beyond the end
of the file has no libraries. -/
structure Within (ctx : Context) (bytes : ByteArray) (location : DataDirectory.Location)
    (libraries : List Library) : Prop where
  array : ∃ tableEnd, ctx.sections.rawEndAt? location.rva = some tableEnd
    ∧ (20 * libraries.length : Int) ≤ max 0 (min (bytes.size : Int) tableEnd - location.offset)
    ∧ (location.offset ≤ bytes.size →
      (20 * libraries.length : Int) ≤ min (bytes.size : Int) tableEnd - location.offset)
  tables : ∀ l ∈ libraries, l.entries ≠ [] → ∃ start tableEnd,
    ctx.sections.toOffset? l.descriptor.lookupRva = some start
      ∧ ctx.sections.rawEndAt? l.descriptor.lookupRva = some tableEnd
      ∧ (ctx.width.bytes * l.entries.length : Int) ≤ min (bytes.size : Int) tableEnd - start
      ∧ ¬ (location.offset ≤ start
        ∧ start < (ctx.descriptorsIn bytes location).reader.pos)

variable {ctx : Context} {bits : Option Int} {location : DataDirectory.Location} {r : Reader}

/-- A symbol that was read stands in front of the ends of its section and of the file. -/
theorem insideAt_of_lookupIn (bytes : ByteArray) {arrayStart arrayEnd : Int}
    {d : Descriptor} {j : Nat} (hj : j < (ctx.lookupIn bytes arrayStart arrayEnd d).items.length) :
    ∃ start tableEnd, ctx.sections.toOffset? d.lookupRva = some start ∧ 0 ≤ start
      ∧ ctx.sections.rawEndAt? d.lookupRva = some tableEnd
      ∧ ¬ (arrayStart ≤ start ∧ start < arrayEnd)
      ∧ InsideAt bytes (some tableEnd) (start.toNat + ctx.width.bytes * j) ctx.width.bytes := by
  rcases ctx.lookupIn_cases bytes arrayStart arrayEnd d with
    ⟨-, hnil, -⟩ | ⟨start, hstart, ⟨-, hnil, -⟩ | ⟨-, -, hnil, -⟩ | ⟨⟨h0, -⟩, hout, hrun⟩⟩
  · rw [hnil] at hj
    cases hj
  · rw [hnil] at hj
    cases hj
  · rw [hnil] at hj
    cases hj
  · obtain ⟨s, -, -, -, -, -, hend⟩ := SectionMap.section_of_toOffset? hstart
    have hinside := ctx.insideAt_of_entryAt bytes (hrun.item j hj)
    rw [hend] at hinside
    exact ⟨start, s.rawEnd, hstart, h0, hend, hout, hinside⟩

/-- The symbols of a table are those of its lookup table, read behind the whole array, or
none. -/
theorem entries_readAt {l : Library}
    (hl : l ∈ (readAt ctx bits location r).table.libraries) :
    l.entries = [] ∨ l.entries = (ctx.lookupIn r.data location.offset
      (ctx.descriptorsIn r.data location).reader.pos l.descriptor).items := by
  rcases ctx.readAt_cases bits location r with ⟨-, hread⟩ | ⟨-, -, stop, -, hread⟩ |
    ⟨-, -, hended, libraries, reader, stop?, hread, hdescriptors, htables⟩
  · rw [hread] at hl
    cases hl
  · rw [hread] at hl
    obtain ⟨d, -, rfl⟩ := List.mem_map.1 hl
    exact .inl rfl
  · have hlen : libraries.length = (ctx.descriptorsIn r.data location).items.length := by
      rw [← hdescriptors, List.length_map]
    rw [hread] at hl
    rw [ctx.reader_descriptorsIn r.data hended, ← hlen]
    exact htables.entries ctx r.data hl

/-- A descriptor that is kept was accepted at some place of the array. -/
theorem descriptorAt_of_mem_readAt {l : Library}
    (hl : l ∈ (readAt ctx bits location r).table.libraries) :
    ∃ i offset, ctx.descriptorAt r.data (ctx.sections.rawEndAt? location.rva) offset i =
      .ok l.descriptor := by
  have hmem := (ctx.libraries_readAt bits location r).1.subset (List.mem_map_of_mem hl)
  obtain ⟨i, hi⟩ := List.mem_iff_getElem?.1 hmem
  exact ⟨i, _, (ctx.descriptorsIn_follows r.data location).getElem? hi⟩

/-- The limits bound the table of a directory. -/
theorem bound_readAt (hwhole : ctx.limits.maxTextLength.kind = .whole) :
    ctx.limits.Bound (readAt ctx bits location r).table.libraries where
  count := by
    have hle := (ctx.libraries_readAt bits location r).1.length_le
    rw [List.length_map] at hle
    have hfew := length_le_of_getElem?_lt fun i d hd =>
      (ctx.of_descriptorAt r.data ((ctx.descriptorsIn_follows r.data location).getElem? hd)).1
    omega
  entryCount l hl := by
    rcases entries_readAt hl with hnil | hitems
    · rw [hnil]
      exact Int.le_max_left 0 _
    · rw [hitems]
      refine length_le_of_getElem?_lt fun j e he => ?_
      obtain ⟨start, -, -, hat⟩ := ctx.entryAt_of_lookupIn r.data he
      exact (ctx.of_entryAt r.data hat).1
  libraryName l hl := by
    obtain ⟨i, offset, hd⟩ := descriptorAt_of_mem_readAt hl
    obtain ⟨-, place, hname⟩ := ctx.of_descriptorAt r.data hd
    exact Limit.length_le_of_readTextAt hwhole hname
  entryName l hl e he := by
    obtain ⟨i, offset, hd⟩ := descriptorAt_of_mem_readAt hl
    obtain ⟨-, place, hlibrary⟩ := ctx.of_descriptorAt r.data hd
    have hsome := Limit.length_le_of_readTextAt hwhole hlibrary
    rcases entries_readAt hl with hnil | hitems
    · rw [hnil] at he
      cases he
    · rw [hitems] at he
      obtain ⟨j, hj⟩ := List.mem_iff_getElem?.1 he
      obtain ⟨start, -, -, hat⟩ := ctx.entryAt_of_lookupIn r.data hj
      rcases (ctx.of_entryAt r.data hat).2 with hempty | ⟨there, hname⟩
      · -- The limit admitted the name of the library, and so it admits no name at all.
        rw [hempty]
        show (0 : Int) ≤ _
        omega
      · exact Limit.length_le_of_readText hwhole hname

/-- A directory that does not begin in the file has no libraries. -/
theorem libraries_readAt_of_outside
    (hout : ¬ (0 ≤ location.offset ∧ location.offset ≤ r.data.size)) :
    (readAt ctx bits location r).table.libraries = [] := by
  rw [readAt_of_outside ctx hout]
  rfl

/-- The records of the libraries stand in front of the ends of their section and of the
file. -/
theorem room_readAt {tableEnd : Int} (hle : location.offset ≤ r.data.size)
    (hend : ctx.sections.rawEndAt? location.rva = some tableEnd)
    (hlt : location.offset < tableEnd) :
    (20 * (readAt ctx bits location r).table.libraries.length : Int) ≤
      min (r.data.size : Int) tableEnd - location.offset := by
  cases hlen : (readAt ctx bits location r).table.libraries.length with
  | zero => omega
  | succ n =>
    have h0 : 0 ≤ location.offset := by
      by_contra hneg
      rw [libraries_readAt_of_outside fun hin => hneg hin.1] at hlen
      cases hlen
    have hfront := (ctx.libraries_readAt bits location r).1.length_le
    rw [List.length_map] at hfront
    have hlast := (ctx.descriptorsIn_follows r.data location).item n (by omega)
    have hinside := ctx.insideAt_of_descriptorAt r.data hlast
    rw [hend] at hinside
    have hroom := hinside.extent h0
    rw [Descriptor.recordSize] at hroom
    exact_mod_cast hroom

/-- The tables of a directory stay in their sections and in the file. -/
theorem within_readAt (hstart : ctx.sections.toOffset? location.rva = some location.offset) :
    ctx.Within r.data location (readAt ctx bits location r).table.libraries where
  array := by
    obtain ⟨s, -, -, -, -, hlt, hend⟩ := SectionMap.section_of_toOffset? hstart
    refine ⟨s.rawEnd, hend, ?_, fun hle => room_readAt hle hend hlt⟩
    by_cases hle : location.offset ≤ r.data.size
    · exact (room_readAt hle hend hlt).trans (Int.le_max_right 0 _)
    · rw [libraries_readAt_of_outside fun hin => hle hin.2]
      exact Int.le_max_left 0 _
  tables l hl hsome := by
    rcases entries_readAt hl with hnil | hitems
    · exact absurd hnil hsome
    · obtain ⟨n, hn⟩ : ∃ n, l.entries.length = n + 1 :=
        Nat.exists_eq_succ_of_ne_zero fun hzero => hsome (List.eq_nil_of_length_eq_zero hzero)
      obtain ⟨start, tableEnd, hplace, h0, hend, hout, hinside⟩ :=
        insideAt_of_lookupIn (j := n) r.data (hitems ▸ (by omega : n < l.entries.length))
      refine ⟨start, tableEnd, hplace, hend, ?_, hout⟩
      have hroom := hinside.extent h0
      rw [hn]
      exact_mod_cast hroom

end Context

/-! ## The whole reading -/

section

variable (r : Reader) (sections : SectionMap) (directories : List DataDirectory)
  (bits : Option Int)

/-- The limits bound the table of every reading. -/
theorem Limits.Whole.bound_read {limits : Limits} (hwhole : limits.Whole) :
    limits.Bound (read r sections directories bits limits).table.libraries := by
  rcases read_cases sections directories bits with
    ⟨present, notes, stop?, hread⟩ | ⟨width, location, -, -, hread⟩
  · rw [hread]
    exact limits.bound_nil
  · rw [hread]
    exact @Context.bound_readAt ⟨sections, width, limits⟩ bits location r hwhole.text

/-- Libraries come from a directory only, and under a known width. -/
theorem located_of_libraries {limits : Limits}
    (hsome : (read r sections directories bits limits).table.libraries ≠ []) :
    ∃ (width : Width) (location : DataDirectory.Location), bits = some (width.bits : Int)
      ∧ DataDirectory.locate directories sections DataDirectory.importIndex =
        .ok (some location) := by
  rcases read_cases sections directories bits with
    ⟨present, notes, stop?, hread⟩ | ⟨width, location, hwidth, hlocate, -⟩
  · rw [hread] at hsome
    exact absurd rfl hsome
  · exact ⟨width, location, width_of_ofBits? hwidth, hlocate⟩

end

/-- **Every reading is bounded**: whatever the file, the sections, the directories, the width
and the whole limits, a reading returns.  Its table has no more libraries and symbols than the
limits admit, and no longer names.  Libraries come from a directory only; its records and the
thunks of every library lie in front of the ends of their sections and of the file, and the
thunks do not begin among the records.  Both loops advance by one record a turn, and they and
the search for the end of a text come to an end. -/
theorem read_bounded {limits : Limits} (hwhole : limits.Whole) (r : Reader)
    (sections : SectionMap) (directories : List DataDirectory) (bits : Option Int) :
    let result := read r sections directories bits limits
    result.fault? = none
      ∧ limits.Bound result.table.libraries
      ∧ (result.table.libraries ≠ [] → ∃ (width : Width) (location : DataDirectory.Location),
        bits = some (width.bits : Int)
          ∧ DataDirectory.locate directories sections DataDirectory.importIndex =
            .ok (some location))
      ∧ (∀ (width : Width) location, bits = some (width.bits : Int) →
        DataDirectory.locate directories sections DataDirectory.importIndex =
          .ok (some location) →
        Context.Within ⟨sections, width, limits⟩ r.data location result.table.libraries)
      ∧ (∀ (ctx : Context) (tableEnd? : Option Int),
        RecordLoop 20 (ctx.readDescriptors tableEnd?) (ctx.descriptorTurn tableEnd?)
          ∧ ∀ library, RecordLoop ctx.width.bytes (ctx.readEntries library tableEnd?)
            (ctx.entryTurn library tableEnd?))
      ∧ Reader.TextLoop fun now => now.reader.readTextBlocks now.budget now.found := by
  intro result
  refine ⟨hwhole.read_returned r sections directories bits,
    hwhole.bound_read r sections directories bits,
    located_of_libraries r sections directories bits,
    fun width location hbits hlocate => ?_, fun ctx tableEnd? =>
      ⟨ctx.recordLoop_descriptors tableEnd?, fun library =>
        ctx.recordLoop_entries library tableEnd?⟩,
    Reader.textLoop⟩
  subst hbits
  simp only [result, read_of_located r width limits hlocate]
  exact Context.within_readAt (toOffset?_of_locate hlocate)

/-- Sections whose data begins beyond the end of the sample. -/
def farSections : SectionMap :=
  [{ virtualAddress := 0x1000, virtualSize := 64, rawOffset := 100, rawSize := 64 }]

/-- A directory may have an offset beyond the end of the file.  The room behind it is then
less than none, and not even an empty table fits there. -/
theorem beyond_not_bounded :
    let t := (read ⟨sample, 0⟩ farSections sampleDirectories (some 32) {}).table
    DataDirectory.locate sampleDirectories farSections DataDirectory.importIndex =
        .ok (some ⟨1, 0x1000, 40, 100⟩)
      ∧ farSections.rawEndAt? 0x1000 = some 164 ∧ t.libraries.length = 0
      ∧ ¬ (20 * t.libraries.length : Int) ≤ min (sample.size : Int) 164 - 100 :=
  ⟨rfl, rfl, rfl, by decide⟩

/-- The sample under a limit of one symbol a library: its one record and one thunk have room
in front of the end of the file. -/
theorem read_bounded_sample :
    let limits : Limits := { maxEntriesPerLibrary := .ofInt 1 }
    let t := (read ⟨sample, 3⟩ sampleSections sampleDirectories (some 32) limits).table
    limits.Whole ∧ t.libraries.map (fun l => (l.name, l.entries.length)) = [("a.dll", 1)]
      ∧ limits.Bound t.libraries
      ∧ Context.Within ⟨sampleSections, .narrow, limits⟩ sample ⟨1, 0x1000, 40, 0⟩
        t.libraries := by
  intro limits t
  have hwhole : limits.Whole := ⟨rfl, rfl, rfl⟩
  obtain ⟨-, hbound, -, hwithin, -⟩ :=
    read_bounded hwhole ⟨sample, 3⟩ sampleSections sampleDirectories (some 32)
  exact ⟨hwhole, by decide +kernel, hbound, hwithin .narrow _ rfl rfl⟩

end Import

end ImageImports
