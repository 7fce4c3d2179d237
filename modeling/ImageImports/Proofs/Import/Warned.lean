import ImageImports.Proofs.Import.Aborted
import ImageImports.Unicode.Case

/-!
# What a reading warns about

Two things are tolerated with a warning: an array of descriptors that goes on with a record whose
name cannot be read, and libraries that several descriptors name.  The second one is found by a
walk that remembers the names it came by.  Here it is told without a walk: a list falls apart into
groups of equal keys, which are numbered by their first members, and there is a warning for every
group of more than one.

The walk compares the letters of ASCII only.  The names of an image have no others, so its groups
are those of the names in lower case.

## Main results

* `duplicateWarnings_eq` — the walk warns about every group of several names.
* `Context.warns_readAt` — the warnings of a directory that was found.
* `read_warned` — the warnings of a reading, and that they are what it logs.
-/

namespace ImageImports.Import

/-! ## Groups -/

section

variable {α κ : Type} [DecidableEq κ] {key : α → κ}

/-- The first member of every key, in order, with the number of members that have the key. -/
def groups (key : α → κ) (as : List α) : List (α × Nat) :=
  (as.eraseDupsBy fun a b => key a = key b).map fun a => (a, as.countP (key · = key a))

theorem mem_of_mem_eraseDupsBy {r : α → α → Bool} {a : α} {as : List α}
    (h : a ∈ as.eraseDupsBy r) : a ∈ as := by
  induction hn : as.length using Nat.strong_induction_on generalizing as with
  | _ n ih =>
    cases as with
    | nil => exact h
    | cons b rest =>
      rw [List.eraseDupsBy_cons] at h
      rcases List.mem_cons.1 h with rfl | h
      · exact List.mem_cons_self
      · have hlt : (rest.filter fun c => r c b = false).length < n := by
          rw [← hn]
          exact Nat.lt_succ_of_le (List.length_filter_le _ _)
        exact List.mem_cons_of_mem b (List.mem_filter.1 (ih _ hlt h rfl)).1

/-- Behind the group of its first member, a list has the groups of its other members. -/
theorem groups_cons (key : α → κ) (a : α) (rest : List α) :
    groups key (a :: rest) =
      (a, 1 + rest.countP (key · = key a)) :: groups key (rest.filter (key · ≠ key a)) := by
  have hothers : (rest.filter fun b => (decide (key b = key a)) = false) =
      rest.filter (key · ≠ key a) := by
    refine List.filter_congr fun b _ => ?_
    rw [decide_eq_decide, decide_eq_false_iff_not]
  have hfirst : (a :: rest).countP (key · = key a) = 1 + rest.countP (key · = key a) := by
    rw [List.countP_cons_of_pos (p := (key · = key a)) (decide_eq_true rfl), Nat.add_comm]
  rw [groups, List.eraseDupsBy_cons, List.map_cons, hothers, groups, hfirst]
  congr 1
  · refine List.map_congr_left fun b hb => ?_
    have hne : key b ≠ key a :=
      of_decide_eq_true (List.mem_filter.1 (mem_of_mem_eraseDupsBy hb)).2
    have hcount : rest.countP (key · = key b) =
        (rest.filter (key · ≠ key a)).countP (key · = key b) := by
      rw [List.countP_filter]
      refine List.countP_congr fun c _ => ?_
      rw [Bool.and_eq_true, decide_eq_true_iff, decide_eq_true_iff]
      exact ⟨fun h => ⟨h, h ▸ hne⟩, And.left⟩
    rw [List.countP_cons_of_neg (by rw [decide_eq_true_iff]; exact hne.symm), hcount]

/-- Keys that tell the same members apart make the same groups. -/
theorem groups_congr {κ' : Type} [DecidableEq κ'] {key' : α → κ'} {as : List α}
    (h : ∀ a ∈ as, ∀ b ∈ as, key a = key b ↔ key' a = key' b) : groups key as = groups key' as := by
  -- What a group leaves over is no tail of the list, but it is shorter.
  induction hn : as.length using Nat.strong_induction_on generalizing as with
  | _ n ih =>
    cases as with
    | nil => rfl
    | cons a rest =>
      have hfirst : ∀ b ∈ rest, key b = key a ↔ key' b = key' a := fun b hb =>
        h b (List.mem_cons_of_mem a hb) a List.mem_cons_self
      have hcount : rest.countP (key · = key a) = rest.countP (key' · = key' a) :=
        List.countP_congr fun b hb => by simpa using hfirst b hb
      have hothers : rest.filter (key · ≠ key a) = rest.filter (key' · ≠ key' a) :=
        List.filter_congr fun b hb => decide_eq_decide.2 (not_congr (hfirst b hb))
      have hlt : (rest.filter (key · ≠ key a)).length < n := by
        rw [← hn]
        exact Nat.lt_succ_of_le (List.length_filter_le _ _)
      have hrest : groups key (rest.filter (key · ≠ key a)) =
          groups key' (rest.filter (key · ≠ key a)) :=
        ih _ hlt (fun b hb c hc =>
          h b (List.mem_cons_of_mem a (List.mem_filter.1 hb).1)
            c (List.mem_cons_of_mem a (List.mem_filter.1 hc).1)) rfl
      rw [groups_cons, groups_cons, hcount, hrest, hothers]

end

/-! ## Names that several descriptors have -/

/-- The warning about a name that `count` descriptors have. -/
def repeatedWarning (name : String) (count : Nat) : String :=
  s!"Library {name} is imported by {count} descriptors."

/-- One warning for every group of several names that have the same key. -/
def warningsOf {κ : Type} [DecidableEq κ] (key : String → κ) (names : List String) : List String :=
  ((groups key names).filter (2 ≤ ·.2)).map fun (name, count) => repeatedWarning name count

/-- The warning about the first name comes first, if other names are in its group. -/
theorem warningsOf_cons {κ : Type} [DecidableEq κ] (key : String → κ) (name : String)
    (rest : List String) :
    warningsOf key (name :: rest) =
      if rest.countP (key · = key name) = 0 then
        warningsOf key (rest.filter (key · ≠ key name))
      else repeatedWarning name (1 + rest.countP (key · = key name)) ::
        warningsOf key (rest.filter (key · ≠ key name)) := by
  rw [warningsOf, groups_cons]
  split
  · next hnone =>
    rw [hnone, List.filter_cons_of_neg (Bool.eq_false_iff.1 rfl)]
    rfl
  · next hsome =>
    rw [List.filter_cons_of_pos (by rw [decide_eq_true_iff]; omega)]
    rfl

/-- What is warned about is the name of a member. -/
theorem exists_of_mem_warningsOf {κ : Type} [DecidableEq κ] {key : String → κ}
    {names : List String} {warning : String} (h : warning ∈ warningsOf key names) :
    ∃ name ∈ names, ∃ count, warning = repeatedWarning name count := by
  obtain ⟨⟨name, count⟩, hgroup, rfl⟩ := List.mem_map.1 h
  obtain ⟨other, hother, heq⟩ := List.mem_map.1 (List.mem_filter.1 hgroup).1
  cases heq
  exact ⟨_, mem_of_mem_eraseDupsBy hother, _, rfl⟩

/-- A walk that came by some keys warns about the groups of the others. -/
theorem go_eq_warningsOf (seen names : List String) :
    duplicateWarnings.go seen names =
      warningsOf nameKey (names.filter (nameKey · ∉ seen)) := by
  induction names generalizing seen with
  | nil => rfl
  | cons name rest ih =>
    have hcount : (rest.filter (nameKey · = nameKey name)).length =
        rest.countP (nameKey · = nameKey name) := List.countP_eq_length_filter.symm
    rw [duplicateWarnings.go, ih, hcount]
    by_cases hseen : nameKey name ∈ seen
    · rw [if_pos (.inl hseen), List.filter_cons_of_neg (by simpa using hseen)]
      congr 1
      refine List.filter_congr fun other _ => ?_
      rw [decide_eq_decide, List.mem_cons, not_or]
      exact ⟨And.right, fun h => ⟨fun heq => h (heq ▸ hseen), h⟩⟩
    · -- the walk counts in all that is left, of which no name of this group is left out
      have hkept : (rest.filter (nameKey · ∉ seen)).countP (nameKey · = nameKey name) =
          rest.countP (nameKey · = nameKey name) := by
        rw [List.countP_filter]
        refine List.countP_congr fun other _ => ?_
        rw [Bool.and_eq_true, decide_eq_true_iff, decide_eq_true_iff]
        exact ⟨And.left, fun heq => ⟨heq, heq ▸ hseen⟩⟩
      have hothers : rest.filter (nameKey · ∉ nameKey name :: seen) =
          (rest.filter (nameKey · ∉ seen)).filter (nameKey · ≠ nameKey name) := by
        rw [List.filter_filter]
        refine List.filter_congr fun other _ => ?_
        rw [← Bool.decide_and, decide_eq_decide, List.mem_cons, not_or]
      rw [List.filter_cons_of_pos (by simpa using hseen), warningsOf_cons, hkept, hothers]
      by_cases hnone : rest.countP (nameKey · = nameKey name) = 0
      · rw [if_pos hnone, if_pos (.inr (by rw [hnone]))]
      · rw [if_neg hnone, if_neg (not_or.2 ⟨hseen, by omega⟩)]
        rfl

/-- The walk warns about every group of several names. -/
theorem duplicateWarnings_eq (names : List String) :
    duplicateWarnings names = warningsOf nameKey names := by
  have hall : names.filter (nameKey · ∉ []) = names :=
    List.filter_eq_self.2 fun _ _ => decide_eq_true List.not_mem_nil
  rw [duplicateWarnings, go_eq_warningsOf, hall]

/-! ### Names of an image -/

/-- A name in lower case. -/
def folded (name : String) : List Char := Unicode.lowerText name.toList

/-- The characters that bytes are shown as. -/
theorem lowerText_char (b : UInt8) :
    Unicode.lowerText [Bytes.char b] = [(Bytes.char b).toLower] := by
  by_cases hb : b < 128
  · have hascii : ∀ n < 128, Unicode.lowerText [Char.ofNat n] = [(Char.ofNat n).toLower] := by
      decide +kernel
    rw [Bytes.char, if_pos hb]
    exact hascii b.toNat (UInt8.lt_iff_toNat_lt.1 hb)
  · rw [Bytes.char, if_neg hb]
    decide +kernel

/-- Names that bytes are shown as are equal in lower case if they are when only the letters of ASCII
are compared. -/
theorem folded_textAt? {bytes : ByteArray} {place : Int} {name : String}
    (h : Bytes.textAt? bytes place = some name) : folded name = (nameKey name).toList := by
  have hspelled : ∃ bs : List UInt8, name = String.ofList (bs.map Bytes.char) := by
    rw [Bytes.textAt?] at h
    split at h
    · obtain ⟨bs, -, rfl⟩ := Option.map_eq_some_iff.1 h
      exact ⟨bs, rfl⟩
    · cases h
  obtain ⟨bs, rfl⟩ := hspelled
  clear h
  rw [folded, nameKey, String.toList_map, String.toList_ofList, List.map_map]
  induction bs with
  | nil => rfl
  | cons b rest ih =>
    rw [List.map_cons, List.map_cons, ← ih, Function.comp_apply]
    have hfirst := lowerText_char b
    rw [Unicode.lowerText, List.flatMap_cons, List.flatMap_nil, List.append_nil] at hfirst
    rw [Unicode.lowerText, List.flatMap_cons, hfirst]
    rfl

/-- The warnings about repeated names go by the names in lower case. -/
theorem duplicateWarnings_of_names {bytes : ByteArray} {names : List String}
    (h : ∀ name ∈ names, ∃ place, Bytes.textAt? bytes place = some name) :
    duplicateWarnings names = warningsOf folded names := by
  have hkeys : groups nameKey names = groups folded names := by
    refine groups_congr fun a ha b hb => ?_
    obtain ⟨place, ha⟩ := h a ha
    obtain ⟨place', hb⟩ := h b hb
    rw [folded_textAt? ha, folded_textAt? hb, String.toList_inj]
  rw [duplicateWarnings_eq, warningsOf, hkeys, warningsOf]

namespace Context

variable (ctx : Context) (bytes : ByteArray)

/-! ## The end of an array -/

variable {location : DataDirectory.Location}

/-- An array that was abandoned has left the warning about the record that stands there. -/
theorem endWarnings_of_descriptorAt {tableEnd? : Option Int} {offset count : Nat}
    {ending : Ending} (h : ctx.descriptorAt bytes tableEnd? offset count = .error ending)
    (hended : ∀ stop, ending ≠ .stopped stop) {d : Descriptor} (hd : FieldsAt bytes offset d) :
    endWarnings ending = if d.isSentinel then [] else [abandonedWarning count d] := by
  have heq {record : ByteArray}
      (hrecord : Bytes.run? bytes offset Descriptor.recordSize = some record) :
      d = { Descriptor.decode record with name := d.name } :=
    hd.unique bytes (fieldsAt_decode bytes hrecord)
  cases ctx.descriptorStep bytes h with
  | unterminated hpast => exact absurd rfl (hended _)
  | unreadable hin hnone => exact absurd rfl (hended _)
  | sentinel hat hsentinel =>
    have hlast : d.isSentinel = true := by
      rw [heq hat.run]
      exact hsentinel
    rw [if_pos hlast]
    rfl
  | faulted hat htables hname => exact absurd rfl (hended _)
  | namelessFirst hat htables hname hcount => exact absurd rfl (hended _)
  | nameless hat htables hname hcount =>
    have hnext : ¬ d.isSentinel = true := by
      rw [heq hat.run]
      exact htables
    rw [if_neg hnext, heq hat.run]
    rfl
  | full hat htables hname hfull hstop => exact absurd rfl (hended _)

/-- An array that was read to its end is warned about when a record without a name ended it. -/
theorem endWarnings_of_arrayEnds (h0 : 0 ≤ location.offset)
    (hended : ∀ stop, (ctx.descriptorsIn bytes location).ending ≠ .stopped stop) {d : Descriptor}
    (hd : ctx.ArrayEnds bytes location (ctx.descriptorsIn bytes location).items.length d) :
    endWarnings (ctx.descriptorsIn bytes location).ending =
      if d.isSentinel then []
      else [abandonedWarning (ctx.descriptorsIn bytes location).items.length d] :=
  ctx.endWarnings_of_descriptorAt bytes (ctx.descriptorsIn_follows bytes location).last hended
    (hd.fieldsAt ctx bytes h0)

/-- An array that something stopped does not end where it was stopped. -/
theorem not_arrayEnds_of_stopped (h0 : 0 ≤ location.offset) {stop : Stop}
    (hstop : (ctx.descriptorsIn bytes location).ending = .stopped stop) (d : Descriptor) :
    ¬ ctx.ArrayEnds bytes location (ctx.descriptorsIn bytes location).items.length d := by
  intro hd
  have hlast := (ctx.descriptorsIn_follows bytes location).last
  rw [hstop] at hlast
  exact ctx.of_descriptorAt_stopped bytes hlast (hd.runsPast ctx bytes h0)
    (hd.fieldsAt ctx bytes h0) hd.last

/-! ## A directory that was found -/

/-- What a reading warns about, by the record behind the last library: nothing when that record does
not end the array, and otherwise the record, if it is one without a name, and the libraries that
several descriptors name. -/
structure Warns (location : DataDirectory.Location) (result : Outcome) : Prop where
  brokeOff : (∀ d, ¬ ctx.ArrayEnds bytes location result.table.libraries.length d) →
    result.table.warnings = []
      ∧ (result.fault? ≠ none ∨ ∃ f, result.table.error = some f
        ∧ ctx.StoppedInDescriptors bytes location result.table f)
  ended : ∀ d, ctx.ArrayEnds bytes location result.table.libraries.length d →
    d.isSentinel = true →
    result.table.warnings = warningsOf folded (result.table.libraries.map (·.name))
  abandoned : ∀ d, ctx.ArrayEnds bytes location result.table.libraries.length d →
    d.isSentinel = false →
    0 < result.table.libraries.length ∧ ctx.Nameless bytes d
      ∧ result.table.warnings = abandonedWarning result.table.libraries.length d
        :: warningsOf folded (result.table.libraries.map (·.name))

/-- The names of the array are texts of the image. -/
theorem names_descriptorsIn (location : DataDirectory.Location) :
    ∀ name ∈ (ctx.descriptorsIn bytes location).items.map (·.name),
      ∃ place, Bytes.textAt? bytes place = some name := by
  intro name hname
  obtain ⟨d, hd, rfl⟩ := List.mem_map.1 hname
  obtain ⟨i, hi, rfl⟩ := List.mem_iff_getElem.1 hd
  have hstands := ctx.stands_of_descriptorAt bytes
    ((ctx.descriptorsIn_follows bytes location).item i hi)
  obtain ⟨place, -, htext⟩ := hstands.name
  exact ⟨place, htext⟩

/-- A reading whose array ends nowhere warns about nothing. -/
theorem warns_of_brokeOff {result : Outcome}
    (hnever : ∀ d, ¬ ctx.ArrayEnds bytes location result.table.libraries.length d)
    (hwarnings : result.table.warnings = [])
    (hwhy : result.fault? ≠ none ∨ ∃ f, result.table.error = some f
      ∧ ctx.StoppedInDescriptors bytes location result.table f) :
    ctx.Warns bytes location result where
  brokeOff _ := ⟨hwarnings, hwhy⟩
  ended d hd := absurd hd (hnever d)
  abandoned d hd := absurd hd (hnever d)

/-- A reading whose array ends warns about its last record and its names. -/
theorem warns_of_ended {result : Outcome} (h0 : 0 ≤ location.offset)
    (hended : ∀ stop, (ctx.descriptorsIn bytes location).ending ≠ .stopped stop)
    (hlen : result.table.libraries.length = (ctx.descriptorsIn bytes location).items.length)
    (hwarnings : result.table.warnings = endWarnings (ctx.descriptorsIn bytes location).ending
      ++ warningsOf folded (result.table.libraries.map (·.name))) :
    ctx.Warns bytes location result where
  brokeOff hnever := by
    obtain ⟨last, hlast⟩ := ctx.arrayEnds_of_descriptorsIn bytes h0 hended
    rw [← hlen] at hlast
    exact absurd hlast (hnever last)
  ended d hd hsentinel := by
    rw [hlen] at hd
    rw [hwarnings, ctx.endWarnings_of_arrayEnds bytes h0 hended hd, if_pos hsentinel]
    rfl
  abandoned d hd hsentinel := by
    have hless : 0 < result.table.libraries.length ∧ ctx.Nameless bytes d := by
      refine hd.last.resolve_left fun hzero => ?_
      cases hsentinel.symm.trans (isSentinel_iff.2 hzero)
    refine ⟨hless.1, hless.2, ?_⟩
    rw [hlen] at hd
    rw [hwarnings, ctx.endWarnings_of_arrayEnds bytes h0 hended hd,
      if_neg (by rw [hsentinel]; exact Bool.false_ne_true), hlen]
    rfl

/-- The table of a directory warns as the record behind its last library says. -/
theorem warns_readAt (bits : Option Int) (location : DataDirectory.Location) (r : Reader) :
    ctx.Warns r.data location (readAt ctx bits location r) := by
  rcases ctx.readAt_cases bits location r with ⟨hout, hread⟩ | ⟨h0, hle, stop, hstop, hread⟩ |
    ⟨h0, -, hended, libraries, reader, stop?, hread, hdescriptors, -⟩
  · have herror : (readAt ctx bits location r).table.error =
        some (Cause.directoryBeyondEnd location.offset).failure := by
      rw [hread]
      rfl
    have hbroke := ctx.stopped_of_outside r hout herror
    exact ctx.warns_of_brokeOff r.data hbroke.goesOn hbroke.warnings (.inr ⟨_, herror, hbroke⟩)
  · cases stop with
    | aborted cause =>
      have hbroke := ctx.stopped_of_descriptors bits r h0 hle hstop
      refine ctx.warns_of_brokeOff r.data hbroke.goesOn hbroke.warnings
        (.inr ⟨_, ?_, hbroke⟩)
      rw [hread]
      rfl
    | fault fault =>
      rw [hread]
      refine ctx.warns_of_brokeOff r.data (fun d => ?_) rfl (.inl fun h => by cases h)
      show ¬ ctx.ArrayEnds r.data location (List.map _ _).length d
      rw [List.length_map]
      exact ctx.not_arrayEnds_of_stopped r.data h0 hstop d
  · have hnames : libraries.map (·.name) =
        (ctx.descriptorsIn r.data location).items.map (·.name) := by
      rw [← hdescriptors, List.map_map]
      rfl
    rw [hread]
    apply ctx.warns_of_ended r.data h0 hended
    · show libraries.length = _
      rw [← hdescriptors, List.length_map]
    · show endWarnings _ ++ duplicateWarnings _ = _ ++ warningsOf folded (libraries.map (·.name))
      rw [hnames, duplicateWarnings_of_names (ctx.names_descriptorsIn r.data location)]

end Context

/-! ## The whole reading -/

/-- A warning of a reading is about a record without a name or about the name of a library. -/
theorem warning_cases {r : Reader} {sections : SectionMap} {directories : List DataDirectory}
    {bits : Option Int} {limits : Limits} {warning : String}
    (h : warning ∈ (read r sections directories bits limits).table.warnings) :
    (∃ count d, warning = Context.abandonedWarning count d)
      ∨ ∃ l ∈ (read r sections directories bits limits).table.libraries, ∃ count,
        warning = repeatedWarning l.name count := by
  rcases read_cases sections directories bits with
    ⟨present, notes, stop?, hread⟩ | ⟨width, location, -, -, hread⟩
  · rw [hread] at h
    cases h
  · rw [hread] at h ⊢
    have hwarns := Context.warns_readAt ⟨sections, width, limits⟩ bits location r
    by_cases hends : ∃ d, Context.ArrayEnds ⟨sections, width, limits⟩ r.data location
        (readAt ⟨sections, width, limits⟩ bits location r).table.libraries.length d
    · obtain ⟨d, hd⟩ := hends
      have hnamed {warning : String} (h : warning ∈ warningsOf folded
          ((readAt ⟨sections, width, limits⟩ bits location r).table.libraries.map (·.name))) :
          ∃ l ∈ (readAt ⟨sections, width, limits⟩ bits location r).table.libraries, ∃ count,
            warning = repeatedWarning l.name count := by
        obtain ⟨name, hname, count, rfl⟩ := exists_of_mem_warningsOf h
        obtain ⟨l, hl, rfl⟩ := List.mem_map.1 hname
        exact ⟨l, hl, count, rfl⟩
      cases hsentinel : d.isSentinel with
      | true =>
        rw [hwarns.ended d hd hsentinel] at h
        exact .inr (hnamed h)
      | false =>
        rw [(hwarns.abandoned d hd hsentinel).2.2] at h
        rcases List.mem_cons.1 h with rfl | h
        · exact .inl ⟨_, d, rfl⟩
        · exact .inr (hnamed h)
    · rw [(hwarns.brokeOff fun d hd => hends ⟨d, hd⟩).1] at h
      cases h

/-- The record that a warning is logged as. -/
def warningRecord (warning : String) : Log.Record := ⟨.warning, some operationName, warning⟩

/-- Every reading leaves an outcome whose notes are no warnings. -/
theorem read_eq_outcome (r : Reader) (sections : SectionMap) (directories : List DataDirectory)
    (bits : Option Int) (limits : Limits) :
    ∃ libraries present warnings reader notes stop?,
      read r sections directories bits limits =
          outcome bits libraries present warnings reader notes stop?
        ∧ ∀ note ∈ notes, note.level = .debug := by
  rcases read_ways sections directories bits with ⟨-, hread⟩ |
    ⟨width, -, ⟨e, -, hread⟩ | ⟨-, hread⟩ | ⟨location, -, hread⟩⟩
  · exact ⟨_, _, _, _, _, _, hread r limits, by simp⟩
  · exact ⟨_, _, _, _, _, _, hread r limits, by simp⟩
  · exact ⟨_, _, _, _, _, _, hread r limits, by simp⟩
  · rcases Context.readAt_cases ⟨sections, width, limits⟩ bits location r with
      ⟨-, hat⟩ | ⟨-, -, stop, -, hat⟩ | ⟨-, -, -, libraries, reader, stop?, hat, -, -⟩
    · exact ⟨_, _, _, _, _, _, (hread r limits).trans hat, by simp⟩
    · exact ⟨_, _, _, _, _, _, (hread r limits).trans hat, by simp⟩
    · exact ⟨_, _, _, _, _, _, (hread r limits).trans hat, by simp⟩

/-- An outcome has logged its warnings, each once, and no others. -/
theorem warnings_log_outcome {bits : Option Int} {libraries : List Library} {present : Bool}
    {warnings : List String} {reader : Reader} {notes : List Log.Record} {stop? : Option Stop}
    (h : ∀ note ∈ notes, note.level = .debug) :
    (outcome bits libraries present warnings reader notes stop?).log.filter (·.level = .warning) =
      warnings.map warningRecord := by
  have hnotes : (notes.map (·.within operationName)).filter (·.level = .warning) = [] := by
    refine List.filter_eq_nil_iff.2 fun record hrecord => ?_
    obtain ⟨note, hnote, rfl⟩ := List.mem_map.1 hrecord
    rw [Log.Record.within, h note hnote]
    decide
  have hwarned : ((warnings.map fun message => (⟨.warning, none, message⟩ : Log.Record)).map
      (·.within operationName)).filter (·.level = .warning) = warnings.map warningRecord := by
    rw [List.map_map]
    refine List.filter_eq_self.2 fun record hrecord => ?_
    obtain ⟨warning, -, rfl⟩ := List.mem_map.1 hrecord
    rfl
  have haborted (cause? : Option Cause) : ((cause?.toList.map fun cause => (⟨.error, none,
      s!"Import parsing aborted ({cause.kind.word}): {cause.message}"⟩ : Log.Record)).map
        (·.within operationName)).filter (·.level = .warning) = [] := by
    cases cause? <;> rfl
  simp only [outcome, List.map_append, List.filter_append, hnotes, hwarned, haborted,
    List.nil_append, List.append_nil]

/-- What a reading warns about, and that its log holds the same. -/
structure Warned (bytes : ByteArray) (sections : SectionMap) (directories : List DataDirectory)
    (bits : Option Int) (limits : Limits) (result : Outcome) : Prop where
  unreached : ¬ AtDirectory sections directories bits limits (fun _ _ => True) →
    result.table.warnings = []
  reached : ∀ (width : Width) (location : DataDirectory.Location),
    bits = some (width.bits : Int) →
    DataDirectory.locate directories sections DataDirectory.importIndex = .ok (some location) →
    Context.Warns ⟨sections, width, limits⟩ bytes location result
  logged : result.log.filter (·.level = .warning) = result.table.warnings.map warningRecord

/-- **Warnings are what was tolerated**, and the log holds each of them once, in the same order. -/
theorem read_warned (r : Reader) (sections : SectionMap) (directories : List DataDirectory)
    (bits : Option Int) (limits : Limits) :
    Warned r.data sections directories bits limits
      (read r sections directories bits limits) where
  unreached hnot := by
    rcases read_cases sections directories bits with
      ⟨present, notes, stop?, hread⟩ | ⟨width, location, hwidth, hlocate, -⟩
    · rw [hread]
      rfl
    · exact absurd ⟨width, location, width_of_ofBits? hwidth, hlocate, trivial⟩ hnot
  reached width location hbits hlocate := by
    subst hbits
    rw [read_of_located r width limits hlocate]
    exact Context.warns_readAt _ _ location r
  logged := by
    obtain ⟨libraries, present, warnings, reader, notes, stop?, heq, hnotes⟩ :=
      read_eq_outcome r sections directories bits limits
    rw [heq]
    exact warnings_log_outcome hnotes

/-- Three descriptors, two of which have a name in common but for its case, and one behind them
whose name is nowhere. -/
def repeatedNames : ByteArray := ⟨#[
  0x50, 0x10, 0, 0, 0, 0, 0, 0, 0, 0, 0, 0, 0x54, 0x10, 0, 0, 0x50, 0x10, 0, 0,
  0x50, 0x10, 0, 0, 0, 0, 0, 0, 0, 0, 0, 0, 0x5a, 0x10, 0, 0, 0x50, 0x10, 0, 0,
  0x50, 0x10, 0, 0, 0, 0, 0, 0, 0, 0, 0, 0, 0x60, 0x10, 0, 0, 0x50, 0x10, 0, 0,
  0x50, 0x10, 0, 0, 0, 0, 0, 0, 0, 0, 0, 0, 0, 0x90, 0, 0, 0x50, 0x10, 0, 0,
  0, 0, 0, 0, 0x41, 0x2e, 0x64, 0x6c, 0x6c, 0, 0x62, 0x2e, 0x64, 0x6c, 0x6c, 0,
  0x61, 0x2e, 0x44, 0x4c, 0x4c, 0, 0, 0]⟩

/-- The section of `repeatedNames`, which is all of it. -/
def repeatedSections : SectionMap :=
  [{ virtualAddress := 0x1000, virtualSize := 104, rawOffset := 0, rawSize := 104 }]

/-- The record behind the third library of `repeatedNames` has a table, and no name. -/
theorem arrayEnds_repeatedNames :
    Context.ArrayEnds ⟨repeatedSections, .narrow, {}⟩ repeatedNames ⟨1, 0x1000, 80, 0⟩ 3
      { originalFirstThunk := 0x1050, nameRva := 0x9000, firstThunk := 0x1050 } where
  fields := ⟨rfl, rfl, rfl, rfl, rfl⟩
  inside tableEnd hend := by
    have hsection : SectionMap.rawEndAt? repeatedSections 0x1000 = some 104 := rfl
    cases hsection.symm.trans hend
    decide
  last := by
    refine .inr ⟨by decide, fun place hplace => ?_⟩
    have hnowhere : SectionMap.toOffset? repeatedSections 0x9000 = none := rfl
    have hbeyond : Bytes.textAt? repeatedNames 0x9000 = none := rfl
    rcases hplace with hplace | ⟨-, -, rfl⟩
    · cases hnowhere.symm.trans hplace
    · intro name hname
      cases hbeyond.symm.trans hname

/-- The sample is warned about twice. -/
theorem read_warned_repeatedNames :
    let result := read ⟨repeatedNames, 0⟩ repeatedSections [{}, { rva := 0x1000, size := 80 }]
      (some Width.narrow.bits) {}
    result.table.libraries.map (·.name) = ["A.dll", "b.dll", "a.DLL"]
      ∧ result.table.warnings =
        ["Could not read the name of import descriptor #3 (name RVA 0x9000); "
            ++ "keeping the 3 libraries read so far.",
          "Library A.dll is imported by 2 descriptors."]
      ∧ result.log.filter (·.level = .warning) = result.table.warnings.map warningRecord := by
  intro result
  have hnames : result.table.libraries.map (·.name) = ["A.dll", "b.dll", "a.DLL"] := by
    decide +kernel
  have hlen : result.table.libraries.length = 3 := by
    rw [← List.length_map (f := (·.name)), hnames]
    rfl
  have hall := read_warned ⟨repeatedNames, 0⟩ repeatedSections [{}, { rva := 0x1000, size := 80 }]
    (some Width.narrow.bits) {}
  have hends := arrayEnds_repeatedNames
  rw [← hlen] at hends
  obtain ⟨-, -, hwarnings⟩ :=
    (hall.reached .narrow ⟨1, 0x1000, 80, 0⟩ rfl rfl).abandoned _ hends rfl
  refine ⟨hnames, ?_, hall.logged⟩
  rw [hwarnings, hlen, hnames]
  decide +kernel

end ImageImports.Import
