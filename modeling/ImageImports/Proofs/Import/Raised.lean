import ImageImports.Proofs.Import.Appended

/-!
# Higher counts

Two readings of one directory under limits that differ in the counts alone, the second under
counts that are no smaller.  At every place the two steps give the same, unless the first
one has reached its count: the count is looked at behind the proper end of a table and
behind the name of a library, so neither of these can hide it or be hidden by it.

So a run under the smaller count is the run under the larger one, or the front of it.  Only
a run that reached its count is cut short, and such a reading is no good one.

## Main results

* `Context.descriptorAt_withCounts`, `Context.entryAt_withCounts` — the steps agree below
  the smaller count.
* `Scan.Follows.extendedBy` — runs of such steps: the front, or the same.
* `Import.read_withCounts_of_le` — libraries, symbols and warnings under the smaller counts
  are the front of those under the larger ones, and a good table is the same.
-/

namespace ImageImports.Import

/-- The limits with other counts. -/
def Limits.withCounts (limits : Limits) (libraries entries : Int) : Limits :=
  { limits with maxLibraries := .ofInt libraries, maxEntriesPerLibrary := .ofInt entries }

/-- What reaches a count reaches every smaller one. -/
theorem Limit.reachedBy_of_le {few many count : Int} (hle : few ≤ many)
    (h : (Limit.ofInt many).reachedBy count = true) : (Limit.ofInt few).reachedBy count = true := by
  have hmany : many ≤ count := of_decide_eq_true h
  exact decide_eq_true (Int.le_trans hle hmany)

/-! ## Runs that reach a count -/

/-- The end that a count gives to a run. -/
def Ending.IsCount : Ending → Prop
  | .stopped (.aborted (.tooManyLibraries ..)) | .stopped (.aborted (.tooManyEntries ..)) => True
  | _ => False

theorem Ending.IsCount.aborted {ending : Ending} (h : ending.IsCount) :
    ∃ cause, ending = .stopped (.aborted cause) := by
  cases ending with
  | complete => exact h.elim
  | abandoned warning => exact h.elim
  | stopped stop =>
    cases stop with
    | aborted cause => exact ⟨cause, rfl⟩
    | fault fault => exact h.elim

namespace Scan

variable {α : Type} {few many : Nat → Except Ending α} {first second : Scan α}

/-- A scan that goes on where another one reached a count, and is the same otherwise. -/
structure ExtendedBy (first second : Scan α) : Prop where
  items : first.items <+: second.items
  rest : first.ending.IsCount
    ∨ (second.items = first.items ∧ second.ending = first.ending)

theorem ExtendedBy.of_eq (hitems : second.items = first.items)
    (hending : second.ending = first.ending) : first.ExtendedBy second :=
  ⟨hitems ▸ List.prefix_rfl, .inr ⟨hitems, hending⟩⟩

/-- The runs of two steps that agree wherever the first one has not reached its count. -/
theorem Follows.extendedBy
    (hagree : ∀ i, many i = few i ∨ ∃ ending, few i = .error ending ∧ ending.IsCount)
    (h₁ : first.Follows few) (h₂ : second.Follows many) : first.ExtendedBy second := by
  have hitem (i : Nat) (a : α) (ha : few i = .ok a) : many i = .ok a := by
    rcases hagree i with heq | ⟨ending, herror, -⟩
    · rw [heq, ha]
    · rw [ha] at herror
      cases herror
  refine ⟨h₁.prefix_of_ok hitem h₂, ?_⟩
  rcases hagree first.items.length with heq | ⟨ending, herror, hcount⟩
  · -- The last step is shared, so the run of the first step is one of the second.
    have hrun : first.Follows many :=
      { item := fun i hi => hitem i _ (h₁.item i hi)
        last := heq.trans h₁.last }
    exact .inr (h₂.unique hrun)
  · have hlast := h₁.last.symm.trans herror
    injection hlast with hlast
    exact .inl (hlast ▸ hcount)

end Scan

/-! ## Fronts -/

theorem FrontOf.refl (libraries : List Library) : FrontOf libraries libraries where
  descriptors := List.prefix_rfl
  entries _ _ _ hl hm := Option.some.inj (hl.symm.trans hm) ▸ List.prefix_rfl

/-- Libraries without symbols are in front of others when their descriptors are. -/
theorem FrontOf.unread {ds : List Descriptor} {many : List Library}
    (h : ds <+: many.map (·.descriptor)) :
    FrontOf (ds.map fun d => Library.mk d []) many where
  descriptors := (Context.descriptors_unread ds).symm ▸ h
  entries i l m hl hm := by
    obtain ⟨d, -, rfl⟩ := List.mem_map.1 (List.mem_of_getElem? hl)
    exact List.nil_prefix

theorem FrontOf.cons {l m : Library} {few many : List Library}
    (hsame : l.descriptor = m.descriptor) (hentries : l.entries <+: m.entries)
    (h : FrontOf few many) : FrontOf (l :: few) (m :: many) where
  descriptors := by
    rw [List.map_cons, List.map_cons, hsame]
    exact List.cons_prefix_cons.2 ⟨rfl, h.descriptors⟩
  entries i a b ha hb := by
    cases i with
    | zero =>
      cases ha
      cases hb
      exact hentries
    | succ i => exact h.entries i a b ha hb

/-- A table and what larger counts make of it: libraries, symbols and warnings may be added
behind, and a good table is the same. -/
structure Table.ExtendedBy (few many : Table) : Prop where
  libraries : FrontOf few.libraries many.libraries
  warnings : few.warnings <+: many.warnings
  unchanged : few.ok = true → many = few

theorem Table.ExtendedBy.refl (t : Table) : t.ExtendedBy t :=
  ⟨.refl _, List.prefix_rfl, fun _ => rfl⟩

namespace Context

variable (ctx : Context) (bytes : ByteArray) {few many fewEntries manyEntries : Int}

/-- What the loops know, with other counts. -/
def withCounts (libraries entries : Int) : Context :=
  { ctx with limits := ctx.limits.withCounts libraries entries }

/-! ## The steps below the smaller count -/

/-- The first step under two counts: the same, or the smaller count is reached. -/
theorem descriptorAt_withCounts (hle : few ≤ many) (fewEntries manyEntries : Int)
    (tableEnd? : Option Int) (offset count : Nat) :
    let small := (ctx.withCounts few fewEntries).descriptorAt bytes tableEnd? offset count
    (ctx.withCounts many manyEntries).descriptorAt bytes tableEnd? offset count = small
      ∨ ∃ ending, small = .error ending ∧ ending.IsCount := by
  intro small
  generalize hresult : small = result
  cases descriptorStep _ bytes hresult with
  | unterminated hpast => exact .inl (DescriptorStep.eq (.unterminated hpast))
  | unreadable hin hnone => exact .inl (DescriptorStep.eq (.unreadable hin hnone))
  | sentinel hat hsentinel => exact .inl (DescriptorStep.eq (.sentinel hat hsentinel))
  | faulted hat htables hname => exact .inl (DescriptorStep.eq (.faulted hat htables hname))
  | namelessFirst hat htables hname hcount =>
    exact .inl (DescriptorStep.eq (.namelessFirst hat htables hname hcount))
  | nameless hat htables hname hcount =>
    exact .inl (DescriptorStep.eq (.nameless hat htables hname hcount))
  | full hat htables hname hfull hstop =>
    subst hstop
    exact .inr ⟨_, rfl, trivial⟩
  | accepted hat htables hname hfew =>
    have hmany : ¬ (Limit.ofInt many).reachedBy count = true :=
      mt (Limit.reachedBy_of_le hle) hfew
    exact .inl (DescriptorStep.eq (.accepted hat htables hname hmany))

/-- The second step under two counts: the same, or the smaller count is reached. -/
theorem entryAt_withCounts (few many : Int) (hle : fewEntries ≤ manyEntries)
    (library : String) (tableEnd? : Option Int) (offset count : Nat) :
    let small := (ctx.withCounts few fewEntries).entryAt bytes library tableEnd? offset count
    (ctx.withCounts many manyEntries).entryAt bytes library tableEnd? offset count = small
      ∨ ∃ ending, small = .error ending ∧ ending.IsCount := by
  intro small
  generalize hresult : small = result
  cases entryStep _ bytes hresult with
  | unterminated hpast => exact .inl (EntryStep.eq (.unterminated hpast))
  | unreadable hin hnone => exact .inl (EntryStep.eq (.unreadable hin hnone))
  | zero hat hzero => exact .inl (EntryStep.eq (.zero hat hzero))
  | full hat hzero hfull hstop =>
    subst hstop
    exact .inr ⟨_, rfl, trivial⟩
  | hintStopped hat hzero hfew hhint =>
    have hmany : ¬ (Limit.ofInt manyEntries).reachedBy count = true :=
      mt (Limit.reachedBy_of_le hle) hfew
    exact .inl (EntryStep.eq (.hintStopped hat hzero hmany hhint))
  | accepted hat hzero hfew hhint =>
    have hmany : ¬ (Limit.ofInt manyEntries).reachedBy count = true :=
      mt (Limit.reachedBy_of_le hle) hfew
    exact .inl (EntryStep.eq (.accepted hat hzero hmany hhint))

/-! ## The two phases -/

variable {arrayStart arrayEnd : Int} {location : DataDirectory.Location}

theorem descriptorsIn_withCounts (location : DataDirectory.Location) (hle : few ≤ many)
    (fewEntries manyEntries : Int) :
    ((ctx.withCounts few fewEntries).descriptorsIn bytes location).ExtendedBy
      ((ctx.withCounts many manyEntries).descriptorsIn bytes location) :=
  Scan.Follows.extendedBy
    (fun _ => ctx.descriptorAt_withCounts bytes hle fewEntries manyEntries _ _ _)
    (descriptorsIn_follows _ bytes location) (descriptorsIn_follows _ bytes location)

/-- One lookup table under two counts.  Its place depends on no count, so only the loop can
tell the two apart. -/
theorem lookupIn_withCounts (few many : Int) (hle : fewEntries ≤ manyEntries)
    (d : Descriptor) :
    ((ctx.withCounts few fewEntries).lookupIn bytes arrayStart arrayEnd d).ExtendedBy
      ((ctx.withCounts many manyEntries).lookupIn bytes arrayStart arrayEnd d) := by
  simp only [lookupIn, readLookupTable, withCounts]
  split
  · exact .of_eq rfl rfl
  · split
    · exact .of_eq rfl rfl
    · split
      · exact .of_eq rfl rfl
      · exact Scan.Follows.extendedBy
          (fun _ => ctx.entryAt_withCounts _ few many hle _ _ _ _)
          (readEntries_follows _ _ _ _ _) (readEntries_follows _ _ _ _ _)

/-- The first library of the second phase has the symbols of its lookup table, and the
libraries behind it are kept. -/
theorem readLookupTables_cons (arrayStart arrayEnd : Int) (r : Reader) (d : Descriptor)
    (rest : List Descriptor) :
    ∃ behind, (ctx.readLookupTables arrayStart arrayEnd r (d :: rest)).1 =
        ⟨d, (ctx.lookupIn r.data arrayStart arrayEnd d).items⟩ :: behind
      ∧ behind.map (·.descriptor) = rest := by
  rcases ctx.lookupIn_ending r.data arrayStart arrayEnd d with hdone | ⟨stop, hstop⟩
  · rw [ctx.readLookupTables_of_complete rest hdone]
    exact ⟨_, rfl, (ctx.readLookupTables_spec _ _ _ rest).1⟩
  · rw [ctx.readLookupTables_of_stopped rest hstop]
    exact ⟨_, rfl, descriptors_unread rest⟩

/-- The second phase under two counts: up to a table that reaches the smaller one, all
tables are the same. -/
theorem readLookupTables_withCounts (few many : Int) (hle : fewEntries ≤ manyEntries)
    {r r' : Reader} (hdata : r'.data = r.data) (ds : List Descriptor) :
    let small := (ctx.withCounts few fewEntries).readLookupTables arrayStart arrayEnd r ds
    let large :=
      (ctx.withCounts many manyEntries).readLookupTables arrayStart arrayEnd r' ds
    FrontOf small.1 large.1
      ∧ ((∃ cause, small.2.2 = some (.aborted cause))
        ∨ (large.1 = small.1 ∧ large.2.2 = small.2.2)) := by
  -- A longer table leaves the head elsewhere, so only the bytes are the same for both runs.
  induction ds generalizing r r' with
  | nil => exact ⟨.refl [], .inr ⟨rfl, rfl⟩⟩
  | cons d rest ih =>
    have hextended : Scan.ExtendedBy
        ((ctx.withCounts few fewEntries).lookupIn r.data arrayStart arrayEnd d)
        ((ctx.withCounts many manyEntries).lookupIn r'.data arrayStart arrayEnd d) :=
      hdata ▸ ctx.lookupIn_withCounts r.data few many hle d
    rcases hextended.rest with hcount | ⟨hitems, hending⟩
    · obtain ⟨cause, hstop⟩ := hcount.aborted
      obtain ⟨behind, hlarge, hbehind⟩ :=
        (ctx.withCounts many manyEntries).readLookupTables_cons arrayStart arrayEnd r' d
          rest
      simp only [readLookupTables_of_stopped _ rest hstop, hlarge]
      exact ⟨.cons rfl hextended.items (.unread (hbehind ▸ List.prefix_rfl)),
        .inl ⟨cause, rfl⟩⟩
    · rcases lookupIn_ending (ctx.withCounts few fewEntries) r.data arrayStart arrayEnd d
        with hdone | ⟨stop, hstop⟩
      · have hthere :
            ((ctx.withCounts many manyEntries).readLookupTable arrayStart arrayEnd r'
              d).reader.data =
            ((ctx.withCounts few fewEntries).readLookupTable arrayStart arrayEnd r
              d).reader.data := by
          rw [data_readLookupTable, data_readLookupTable, hdata]
        obtain ⟨hfront, hrest⟩ := ih hthere
        simp only [readLookupTables_of_complete _ rest hdone,
          readLookupTables_of_complete _ rest (hending.trans hdone)]
        refine ⟨.cons rfl hextended.items hfront, ?_⟩
        rcases hrest with haborted | ⟨hsame, hstops⟩
        · exact .inl haborted
        · exact .inr ⟨by rw [hitems, hsame], hstops⟩
      · rw [readLookupTables_of_stopped _ rest hstop,
          readLookupTables_of_stopped _ rest (hending.trans hstop), hitems]
        exact ⟨.refl _, .inr ⟨rfl, rfl⟩⟩

/-! ## The whole directory -/

/-- The second phase under two counts, behind a first phase that is the same. -/
theorem lookupsIn_withCounts (few many : Int) (hle : fewEntries ≤ manyEntries)
    (hended : ∀ stop,
      ((ctx.withCounts few fewEntries).descriptorsIn bytes location).ending ≠ .stopped stop)
    (hitems : ((ctx.withCounts many manyEntries).descriptorsIn bytes location).items =
      ((ctx.withCounts few fewEntries).descriptorsIn bytes location).items)
    (hending : ((ctx.withCounts many manyEntries).descriptorsIn bytes location).ending =
      ((ctx.withCounts few fewEntries).descriptorsIn bytes location).ending) :
    let small := (ctx.withCounts few fewEntries).lookupsIn bytes location
    let large := (ctx.withCounts many manyEntries).lookupsIn bytes location
    FrontOf small.1 large.1
      ∧ ((∃ cause, small.2.2 = some (.aborted cause))
        ∨ (large.1 = small.1 ∧ large.2.2 = small.2.2)) := by
  have hreader : ((ctx.withCounts many manyEntries).descriptorsIn bytes location).reader =
      ((ctx.withCounts few fewEntries).descriptorsIn bytes location).reader := by
    rw [reader_descriptorsIn _ bytes (hending ▸ hended), reader_descriptorsIn _ bytes hended,
      hitems]
  simp only [lookupsIn]
  rw [hitems, hreader]
  exact ctx.readLookupTables_withCounts few many hle rfl _

theorem readAt_withCounts (hlibraries : few ≤ many) (hentries : fewEntries ≤ manyEntries)
    (bits : Option Int) (location : DataDirectory.Location) (r : Reader) :
    (readAt (ctx.withCounts few fewEntries) bits location r).table.ExtendedBy
      (readAt (ctx.withCounts many manyEntries) bits location r).table := by
  by_cases hin : 0 ≤ location.offset ∧ location.offset ≤ r.data.size
  · obtain ⟨h0, hle⟩ := hin
    have hextended := ctx.descriptorsIn_withCounts r.data location hlibraries fewEntries
      manyEntries
    rcases hextended.rest with hcount | ⟨hitems, hending⟩
    · -- The first phase reached its count: no symbols, no warnings.
      obtain ⟨cause, hstop⟩ := hcount.aborted
      have hlarge := descriptors_readAt (ctx.withCounts many manyEntries) bits h0 hle
      rw [readAt_of_stopped _ h0 hle hstop]
      exact
        { libraries := .unread (by rw [hlarge]; exact hextended.items)
          warnings := List.nil_prefix
          unchanged := fun hok => by cases hok }
    · by_cases hstopped : ∃ stop, ((ctx.withCounts few fewEntries).descriptorsIn r.data
          location).ending = .stopped stop
      · obtain ⟨stop, hstop⟩ := hstopped
        rw [readAt_of_stopped _ h0 hle hstop, readAt_of_stopped _ h0 hle (hending.trans hstop),
          hitems]
        exact .refl _
      · have hended stop : ((ctx.withCounts few fewEntries).descriptorsIn r.data
            location).ending ≠ .stopped stop := fun h => hstopped ⟨stop, h⟩
        obtain ⟨hfront, hrest⟩ :=
          ctx.lookupsIn_withCounts r.data few many hentries hended hitems hending
        rw [readAt_eq_of_ended _ bits h0 hle hended,
          readAt_eq_of_ended _ bits h0 hle (hending ▸ hended), hitems, hending]
        refine ⟨hfront, List.prefix_rfl, fun hok => ?_⟩
        rcases hrest with ⟨cause, hstop⟩ | ⟨hsame, hstops⟩
        · rw [hstop] at hok
          cases hok
        · rw [hsame, hstops]
          rfl
  · rw [readAt_of_outside _ hin, readAt_of_outside _ hin]
    exact .refl _

end Context

/-- **Higher counts only add**: under limits that differ in the counts alone, the libraries
and the warnings of the lower counts are the first of those of the higher ones, and so are
the symbols of each library.  A table that is good under the lower counts is the same under
the higher ones.  Neither reading fails for its settings when texts have a whole limit. -/
theorem read_withCounts_of_le {few many fewEntries manyEntries : Int}
    (hlibraries : few ≤ many) (hentries : fewEntries ≤ manyEntries) (r : Reader)
    (sections : SectionMap) (directories : List DataDirectory) (bits : Option Int)
    (limits : Limits) :
    let small := read r sections directories bits (limits.withCounts few fewEntries)
    let large := read r sections directories bits (limits.withCounts many manyEntries)
    small.table.ExtendedBy large.table
      ∧ (limits.maxTextLength.kind = .whole →
        small.fault? = none ∧ large.fault? = none) := by
  refine ⟨?_, fun hwhole => ?_⟩
  · rcases read_cases sections directories bits with
      ⟨present, notes, stop?, hread⟩ | ⟨width, location, -, -, hread⟩
    · rw [hread, hread]
      exact .refl _
    · rw [hread, hread]
      exact Context.readAt_withCounts ⟨sections, width, limits⟩ hlibraries hentries bits
        location r
  · have hwholes (libraries entries : Int) : (limits.withCounts libraries entries).Whole :=
      ⟨rfl, rfl, hwhole⟩
    exact ⟨(hwholes ..).read_returned .., (hwholes ..).read_returned ..⟩

/-- The sample under one symbol a library and under two: the table of the first stops behind
the first symbol, the second one is complete. -/
theorem read_withCounts_sample :
    let small := read ⟨sample, 0⟩ sampleSections sampleDirectories (some 32)
      (({} : Limits).withCounts 1 1)
    let large := read ⟨sample, 0⟩ sampleSections sampleDirectories (some 32)
      (({} : Limits).withCounts 1 2)
    (1 : Int) ≤ 1 ∧ (1 : Int) ≤ 2
      ∧ small.table.libraries.map (·.entries.map (·.label)) = [["f"]]
      ∧ small.table.ok = false
      ∧ large.table.libraries.map (·.entries.map (·.label)) = [["f", "#7"]]
      ∧ large.table.ok = true
      ∧ small.table.ExtendedBy large.table :=
  ⟨by decide, by decide, by decide +kernel, by decide +kernel, by decide +kernel,
    by decide +kernel,
    (read_withCounts_of_le (by decide) (by decide) ⟨sample, 0⟩ sampleSections
      sampleDirectories (some 32) {}).1⟩

end ImageImports.Import
