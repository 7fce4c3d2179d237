import ImageImports.Query
import ImageImports.Proofs.Success

/-!
# What a search finds

A search goes through the libraries and then through the symbols of those it chose, and either
pattern can stop it: when it is read, or, since matching itself can come to no answer, at a name.
Here both are told apart.  `hitsByLibrary` is what is to be found, as a filter of a table by two
relations on names, and without a test that could fail; the names of ordinals do not occur in it.

## Main results

* `Table.succeeds_searchByLibrary_iff` — when a search comes to its end.
* `Table.search_meets` — a search by patterns finds what the relations of its patterns leave of the
  table.
-/

namespace ImageImports.Import

/-! ## Selections -/

section

variable {α β : Type} {name : α → String} {test : NameTest} {as : List α}

/-- A selection goes through when the test has an answer for every name. -/
theorem succeeds_select_iff :
    Succeeds (select name test as) ↔ ∀ a ∈ as, Succeeds (test (name a)) := by
  induction as with
  | nil => exact iff_of_true (succeeds_ok []) (fun a ha => by cases ha)
  | cons a rest ih =>
    rw [select, succeeds_bind_iff, List.forall_mem_cons, ← ih]
    constructor
    · rintro ⟨passes, hpasses, h⟩
      obtain ⟨others, hothers, -⟩ := succeeds_bind_iff.1 h
      exact ⟨⟨passes, hpasses⟩, ⟨others, hothers⟩⟩
    · rintro ⟨⟨passes, hpasses⟩, ⟨others, hothers⟩⟩
      exact ⟨passes, hpasses, succeeds_bind_iff.2 ⟨others, hothers, succeeds_pure _⟩⟩

/-- A test that answers every name selects as a filter does. -/
theorem select_eq_filter {passes : String → Bool}
    (h : ∀ a ∈ as, test (name a) = .ok (passes (name a))) :
    select name test as = .ok (as.filter fun a => passes (name a)) := by
  induction as with
  | nil => rfl
  | cons a rest ih =>
    have hrest := ih fun b hb => h b (List.mem_cons_of_mem a hb)
    rw [select, h a List.mem_cons_self, hrest, List.filter_cons]
    rfl

/-- What a selection holds passed the test. -/
theorem of_mem_select {found : List α} (h : select name test as = .ok found) {a : α} :
    a ∈ found ↔ a ∈ as ∧ test (name a) = .ok true := by
  induction as generalizing found with
  | nil =>
    cases h
    exact iff_of_false List.not_mem_nil fun h => List.not_mem_nil h.1
  | cons b rest ih =>
    rw [select] at h
    obtain ⟨passes, hpasses, h⟩ := bind_eq_ok_iff.1 h
    obtain ⟨others, hothers, h⟩ := bind_eq_ok_iff.1 h
    cases h
    have hrest := ih hothers
    cases passes with
    | true =>
      rw [if_pos rfl, List.mem_cons, List.mem_cons, hrest]
      constructor
      · rintro (rfl | ⟨hmem, htest⟩)
        · exact ⟨.inl rfl, hpasses⟩
        · exact ⟨.inr hmem, htest⟩
      · rintro ⟨rfl | hmem, htest⟩
        · exact .inl rfl
        · exact .inr ⟨hmem, htest⟩
    | false =>
      rw [if_neg Bool.false_ne_true, List.mem_cons, hrest]
      constructor
      · rintro ⟨hmem, htest⟩
        exact ⟨.inr hmem, htest⟩
      · rintro ⟨rfl | hmem, htest⟩
        · cases hpasses.symm.trans htest
        · exact ⟨hmem, htest⟩

/-- Selecting commutes with a change that leaves the names. -/
theorem select_map {change : β → α} {bs : List β} :
    select name test (bs.map change) =
      (select (fun b => name (change b)) test bs).map (List.map change) := by
  induction bs with
  | nil => rfl
  | cons b rest ih =>
    rw [List.map_cons, select, select, ih]
    cases test (name (change b)) with
    | error fault => rfl
    | ok passes =>
      cases select (fun b => name (change b)) test rest with
      | error fault => rfl
      | ok others =>
        cases passes with
        | true | false => rfl

end

/-! ## What is to be found -/

/-- The names of a library's symbols that satisfy a relation, in the order of its lookup table:
those of symbols imported by a name that is not empty. -/
def Library.hits (inSymbols : String → Bool) (l : Library) : List String :=
  (l.entries.filter fun e => !e.isOrdinal && e.name ≠ "" && inSymbols e.name).map Entry.name

theorem Library.filter_searchable (inSymbols : String → Bool) (l : Library) :
    l.searchable.filter inSymbols = l.hits inSymbols := by
  rw [searchable, hits, List.filter_map, List.filter_filter]
  congr 1
  refine List.filter_congr fun e _ => ?_
  have hempty : e.name.isEmpty = decide (e.name = "") := by
    rw [Bool.eq_iff_iff, String.isEmpty_iff, decide_eq_true_iff]
  rw [Function.comp_apply, hempty, Bool.and_comm, decide_not]

namespace Table

/-- The names of a table's symbols that can be searched for. -/
def symbolNames (t : Table) : List String := t.libraries.flatMap Library.searchable

/-- What two relations on names leave of a table, library by library: libraries whose name satisfies
the one, with their symbols that satisfy the other, if there are any. -/
def hitsByLibrary (inSymbols inLibraries : String → Bool) (t : Table) :
    List (String × List String) :=
  (t.libraries.filter fun l => inLibraries l.name && !(l.hits inSymbols).isEmpty).map fun l =>
    (l.name, l.hits inSymbols)

/-- The table without the symbols that are imported by ordinal. -/
def withoutOrdinals (t : Table) : Table :=
  { t with
    libraries := t.libraries.map fun l => { l with entries := l.entries.filter (!·.isOrdinal) } }

/-! ## Search by tests -/

/-- What passes a test in chosen libraries, also where that is nothing. -/
def foundIn (symbols : NameTest) (chosen : List Library) :
    Except Pattern.PatternFault (List (String × List String)) :=
  chosen.mapM fun l => (l.symbolsWhere symbols).map (l.name, ·)

section

variable {t : Table} {symbols libraries : NameTest}

/-- A search chooses libraries, looks through them, and drops those without symbols. -/
theorem symbolsByLibrary_eq_bind (t : Table) (symbols libraries : NameTest) :
    t.symbolsByLibrary symbols libraries =
      (t.librariesWhere libraries >>= fun chosen => foundIn symbols chosen >>= fun found =>
        pure (found.filter fun (_, names) => !names.isEmpty)) := rfl

theorem succeeds_foundIn_iff {chosen : List Library} : Succeeds (foundIn symbols chosen) ↔
    ∀ l ∈ chosen, ∀ name ∈ l.searchable, Succeeds (symbols name) := by
  rw [foundIn, succeeds_mapM_iff]
  exact forall₂_congr fun l _ => succeeds_map_iff.trans succeeds_select_iff

/-- Tests that answer every name they are asked find the names that pass. -/
theorem foundIn_eq {inSymbols : String → Bool} {chosen : List Library}
    (h : ∀ l ∈ chosen, ∀ name ∈ l.searchable, symbols name = .ok (inSymbols name)) :
    foundIn symbols chosen = .ok (chosen.map fun l => (l.name, l.hits inSymbols)) := by
  refine mapM_eq_ok_map fun l hl => ?_
  have hselect : select id symbols l.searchable = .ok (l.searchable.filter inSymbols) :=
    select_eq_filter (h l hl)
  rw [Library.symbolsWhere, hselect]
  exact congrArg (fun names => Except.ok (l.name, names)) (l.filter_searchable inSymbols)

/-- A search by tests goes through when they answer every name it comes to: all libraries, and the
symbols of those that are chosen. -/
theorem succeeds_symbolsByLibrary_iff :
    Succeeds (t.symbolsByLibrary symbols libraries) ↔
      (∀ l ∈ t.libraries, Succeeds (libraries l.name))
        ∧ ∀ l ∈ t.libraries, libraries l.name = .ok true →
          ∀ name ∈ l.searchable, Succeeds (symbols name) := by
  rw [symbolsByLibrary_eq_bind, succeeds_bind_iff, librariesWhere]
  constructor
  · rintro ⟨chosen, hchosen, h⟩
    obtain ⟨found, hfound, -⟩ := succeeds_bind_iff.1 h
    refine ⟨succeeds_select_iff.1 ⟨chosen, hchosen⟩, fun l hl hpasses => ?_⟩
    have hin : l ∈ chosen := (of_mem_select hchosen).2 ⟨hl, hpasses⟩
    exact succeeds_foundIn_iff.1 ⟨found, hfound⟩ l hin
  · rintro ⟨hlibraries, hall⟩
    obtain ⟨chosen, hchosen⟩ : Succeeds (select Library.name libraries t.libraries) :=
      succeeds_select_iff.2 hlibraries
    refine ⟨chosen, hchosen, Succeeds.bind (succeeds_foundIn_iff.2 fun l hl => ?_) fun found _ =>
      succeeds_pure _⟩
    obtain ⟨hmem, hpasses⟩ := (of_mem_select hchosen).1 hl
    exact hall l hmem hpasses

/-- Tests that answer every name they are asked find what is to be found. -/
theorem symbolsByLibrary_eq {inSymbols inLibraries : String → Bool}
    (hlibraries : ∀ l ∈ t.libraries, libraries l.name = .ok (inLibraries l.name))
    (hsymbols : ∀ l ∈ t.libraries, ∀ name ∈ l.searchable, symbols name = .ok (inSymbols name)) :
    t.symbolsByLibrary symbols libraries = .ok (t.hitsByLibrary inSymbols inLibraries) := by
  have hchosen : t.librariesWhere libraries =
      .ok (t.libraries.filter fun l => inLibraries l.name) := select_eq_filter hlibraries
  have hfound : foundIn symbols (t.libraries.filter fun l => inLibraries l.name) = .ok _ :=
    foundIn_eq fun l hl => hsymbols l (List.mem_filter.1 hl).1
  have hgroups : ((t.libraries.filter fun l => inLibraries l.name).map fun l =>
      (l.name, l.hits inSymbols)).filter (fun (_, names) => !names.isEmpty) =
        t.hitsByLibrary inSymbols inLibraries := by
    rw [List.filter_map, List.filter_filter, hitsByLibrary]
    congr 1
    exact List.filter_congr fun l _ => Bool.and_comm ..
  rw [symbolsByLibrary_eq_bind, hchosen, ← hgroups]
  show (foundIn symbols _ >>= fun _ => _) = _
  rw [hfound]
  rfl

/-- The library without its symbols by ordinal is searched through alike. -/
theorem searchable_withoutOrdinals (l : Library) :
    Library.searchable { l with entries := l.entries.filter (!·.isOrdinal) } = l.searchable := by
  rw [Library.searchable, Library.searchable, List.filter_filter]
  congr 1
  refine List.filter_congr fun e _ => ?_
  cases e.isOrdinal <;> simp

/-- Symbols by ordinal make no difference to a search, whatever their names are. -/
theorem symbolsByLibrary_withoutOrdinals (t : Table) (symbols libraries : NameTest) :
    t.withoutOrdinals.symbolsByLibrary symbols libraries =
      t.symbolsByLibrary symbols libraries := by
  have hlibraries : t.withoutOrdinals.librariesWhere libraries =
      (t.librariesWhere libraries).map (List.map fun l =>
        { l with entries := l.entries.filter (!·.isOrdinal) }) := select_map
  have hfound (chosen : List Library) : foundIn symbols
      (chosen.map fun l => { l with entries := l.entries.filter (!·.isOrdinal) }) =
        foundIn symbols chosen := by
    rw [foundIn, foundIn, List.mapM_map]
    congr 1
    funext l
    rw [Function.comp_apply, Library.symbolsWhere, searchable_withoutOrdinals]
    rfl
  rw [symbolsByLibrary_eq_bind, symbolsByLibrary_eq_bind, hlibraries]
  cases t.librariesWhere libraries with
  | error fault => rfl
  | ok chosen =>
    show (foundIn symbols (chosen.map _) >>= _) = (foundIn symbols chosen >>= _)
    rw [hfound]

end

/-! ## Search by patterns -/

section

variable {t : Table} {symbols libraries : String} {caseSensitive : Bool}

/-- A search by patterns goes through when both can be read and have an answer for every name that
the search comes to. -/
theorem succeeds_searchByLibrary_iff :
    Succeeds (t.searchByLibrary symbols libraries caseSensitive) ↔
      ∃ symbolTest libraryTest, nameTest symbols caseSensitive = .ok symbolTest
        ∧ nameTest libraries caseSensitive = .ok libraryTest
        ∧ (∀ l ∈ t.libraries, Succeeds (libraryTest l.name))
        ∧ ∀ l ∈ t.libraries, libraryTest l.name = .ok true →
          ∀ name ∈ l.searchable, Succeeds (symbolTest name) := by
  rw [searchByLibrary, succeeds_bind_iff]
  constructor
  · rintro ⟨symbolTest, hsymbols, h⟩
    obtain ⟨libraryTest, hlibraries, h⟩ := succeeds_bind_iff.1 h
    exact ⟨symbolTest, libraryTest, hsymbols, hlibraries, succeeds_symbolsByLibrary_iff.1 h⟩
  · rintro ⟨symbolTest, libraryTest, hsymbols, hlibraries, h⟩
    exact ⟨symbolTest, hsymbols,
      succeeds_bind_iff.2 ⟨libraryTest, hlibraries, succeeds_symbolsByLibrary_iff.2 h⟩⟩

/-- A search gives the symbols of its groups one after the other. -/
theorem search_eq (t : Table) (symbols libraries : String) (caseSensitive : Bool) :
    t.search symbols libraries caseSensitive =
      (t.searchByLibrary symbols libraries caseSensitive).map (·.flatMap (·.2)) := rfl

theorem succeeds_search_iff :
    Succeeds (t.search symbols libraries caseSensitive) ↔
      Succeeds (t.searchByLibrary symbols libraries caseSensitive) := succeeds_map_iff

theorem searchByLibrary_withoutOrdinals (t : Table) (symbols libraries : String)
    (caseSensitive : Bool) :
    t.withoutOrdinals.searchByLibrary symbols libraries caseSensitive =
      t.searchByLibrary symbols libraries caseSensitive := by
  simp only [searchByLibrary, symbolsByLibrary_withoutOrdinals]

end

end Table

/-- A relation is how a pattern matches some names: where the pattern can be read, matching has an
answer for each of them, and the relation gives it. -/
def MatchedBy (pattern : String) (caseSensitive : Bool) (relation : String → Bool)
    (names : List String) : Prop :=
  ∀ test, nameTest pattern caseSensitive = .ok test →
    ∀ name ∈ names, test name = .ok (relation name)

instance (pattern : String) (caseSensitive : Bool) (relation : String → Bool)
    (names : List String) : Decidable (MatchedBy pattern caseSensitive relation names) :=
  match h : nameTest pattern caseSensitive with
  | .error _ => isTrue fun test htest => by rw [h] at htest; cases htest
  | .ok test =>
    decidable_of_iff (∀ name ∈ names, test name = .ok (relation name))
      ⟨fun hall test' htest => by rw [h] at htest; cases htest; exact hall, fun hby => hby test h⟩

namespace Table

/-- What a search by two patterns comes to, when they match names as `inSymbols` and `inLibraries`
say. -/
structure SearchMeets (t : Table) (symbols libraries : String) (caseSensitive : Bool)
    (inSymbols inLibraries : String → Bool) : Prop where
  succeeds_iff : Succeeds (t.searchByLibrary symbols libraries caseSensitive) ↔
    Succeeds (nameTest symbols caseSensitive) ∧ Succeeds (nameTest libraries caseSensitive)
  flat_succeeds_iff : Succeeds (t.search symbols libraries caseSensitive) ↔
    Succeeds (nameTest symbols caseSensitive) ∧ Succeeds (nameTest libraries caseSensitive)
  symbolsAtFault : ∀ fault, nameTest symbols caseSensitive = .error fault →
    t.searchByLibrary symbols libraries caseSensitive = .error fault
      ∧ t.search symbols libraries caseSensitive = .error fault
  librariesAtFault : ∀ fault, Succeeds (nameTest symbols caseSensitive) →
    nameTest libraries caseSensitive = .error fault →
    t.searchByLibrary symbols libraries caseSensitive = .error fault
      ∧ t.search symbols libraries caseSensitive = .error fault
  found : Succeeds (nameTest symbols caseSensitive) → Succeeds (nameTest libraries caseSensitive) →
    t.searchByLibrary symbols libraries caseSensitive = .ok (t.hitsByLibrary inSymbols inLibraries)
      ∧ t.search symbols libraries caseSensitive =
        .ok ((t.hitsByLibrary inSymbols inLibraries).flatMap (·.2))
  ordinals : t.withoutOrdinals.searchByLibrary symbols libraries caseSensitive =
      t.searchByLibrary symbols libraries caseSensitive
    ∧ t.withoutOrdinals.search symbols libraries caseSensitive =
      t.search symbols libraries caseSensitive

section

variable {t : Table} {symbols libraries : String} {caseSensitive : Bool}
  {inSymbols inLibraries : String → Bool}

theorem searchByLibrary_eq_of_error {fault : Pattern.PatternFault}
    (h : nameTest symbols caseSensitive = .error fault) :
    t.searchByLibrary symbols libraries caseSensitive = .error fault := by
  rw [searchByLibrary, h]
  rfl

theorem searchByLibrary_eq_of_ok_error {test : NameTest} {fault : Pattern.PatternFault}
    (hsymbols : nameTest symbols caseSensitive = .ok test)
    (h : nameTest libraries caseSensitive = .error fault) :
    t.searchByLibrary symbols libraries caseSensitive = .error fault := by
  rw [searchByLibrary, hsymbols, h]
  rfl

/-- Two patterns that can be read find what is to be found by their relations. -/
theorem searchByLibrary_eq (hsymbols : MatchedBy symbols caseSensitive inSymbols t.symbolNames)
    (hlibraries : MatchedBy libraries caseSensitive inLibraries t.libraryNames)
    (hreadSymbols : Succeeds (nameTest symbols caseSensitive))
    (hreadLibraries : Succeeds (nameTest libraries caseSensitive)) :
    t.searchByLibrary symbols libraries caseSensitive =
      .ok (t.hitsByLibrary inSymbols inLibraries) := by
  obtain ⟨symbolTest, hsymbolTest⟩ := hreadSymbols
  obtain ⟨libraryTest, hlibraryTest⟩ := hreadLibraries
  rw [searchByLibrary, hsymbolTest, hlibraryTest]
  refine symbolsByLibrary_eq (fun l hl => ?_) fun l hl name hname => ?_
  · exact hlibraries libraryTest hlibraryTest l.name (List.mem_map_of_mem hl)
  · exact hsymbols symbolTest hsymbolTest name (List.mem_flatMap.2 ⟨l, hl, hname⟩)

/-- **A search finds what its patterns leave of the table**, whatever the table is and in whichever
way the patterns match its names. -/
theorem search_meets (hsymbols : MatchedBy symbols caseSensitive inSymbols t.symbolNames)
    (hlibraries : MatchedBy libraries caseSensitive inLibraries t.libraryNames) :
    t.SearchMeets symbols libraries caseSensitive inSymbols inLibraries := by
  have hfound := searchByLibrary_eq hsymbols hlibraries
  have hsucceeds : Succeeds (t.searchByLibrary symbols libraries caseSensitive) ↔
      Succeeds (nameTest symbols caseSensitive) ∧ Succeeds (nameTest libraries caseSensitive) := by
    constructor
    · intro h
      obtain ⟨symbolTest, libraryTest, hsymbolTest, hlibraryTest, -⟩ :=
        succeeds_searchByLibrary_iff.1 h
      exact ⟨⟨symbolTest, hsymbolTest⟩, ⟨libraryTest, hlibraryTest⟩⟩
    · exact fun ⟨hreadSymbols, hreadLibraries⟩ => ⟨_, hfound hreadSymbols hreadLibraries⟩
  exact
    { succeeds_iff := hsucceeds
      flat_succeeds_iff := succeeds_search_iff.trans hsucceeds
      symbolsAtFault := fun fault hfault => by
        have hsearch : t.searchByLibrary symbols libraries caseSensitive = .error fault :=
          searchByLibrary_eq_of_error hfault
        exact ⟨hsearch, by rw [search_eq, hsearch]; rfl⟩
      librariesAtFault := fun fault ⟨test, htest⟩ hfault => by
        have hsearch := searchByLibrary_eq_of_ok_error (t := t) htest hfault
        exact ⟨hsearch, by rw [search_eq, hsearch]; rfl⟩
      found := fun hreadSymbols hreadLibraries => by
        have hsearch := hfound hreadSymbols hreadLibraries
        exact ⟨hsearch, by rw [search_eq, hsearch]; rfl⟩
      ordinals := by
        have hsearch := searchByLibrary_withoutOrdinals t symbols libraries caseSensitive
        exact ⟨hsearch, by rw [search_eq, search_eq, hsearch]⟩ }

/-- Two libraries of one name with another between them. -/
def searched : Table where
  libraries :=
    [⟨{ name := "b.dll" }, [⟨0x2000, false, 0x2000, some 0, "Zeta"⟩,
        ⟨0x80000007, true, 7, none, "Alpha"⟩, ⟨0x2010, false, 0x2010, some 1, "Alpha"⟩,
        ⟨0x2010, false, 0x2010, some 1, "Alpha"⟩, ⟨0x2020, false, 0x2020, some 2, ""⟩]⟩,
      ⟨{ name := "a.dll" }, [⟨0x2030, false, 0x2030, some 0, "Alpha"⟩]⟩,
      ⟨{ name := "b.dll" }, [⟨0x2040, false, 0x2040, some 0, "alpha"⟩]⟩,
      ⟨{ name := "b.dll" }, [⟨0x2050, false, 0x2050, some 3, "Zeta"⟩]⟩]

/-- Two groups of one name are found, without the symbol by ordinal and the one without a name. -/
theorem search_meets_searched :
    let inSymbols := fun name => name = "Alpha" || name = "Zeta"
    let inLibraries := fun name => name = "b.dll"
    MatchedBy "Alpha|Zeta" true inSymbols searched.symbolNames
      ∧ MatchedBy "^b\\.dll$" true inLibraries searched.libraryNames
      ∧ Succeeds (nameTest "Alpha|Zeta" true) ∧ Succeeds (nameTest "^b\\.dll$" true)
      ∧ searched.hitsByLibrary inSymbols inLibraries =
        [("b.dll", ["Zeta", "Alpha", "Alpha"]), ("b.dll", ["Zeta"])]
      ∧ searched.SearchMeets "Alpha|Zeta" "^b\\.dll$" true inSymbols inLibraries := by
  intro inSymbols inLibraries
  have hsymbols : MatchedBy "Alpha|Zeta" true inSymbols searched.symbolNames := by decide +kernel
  have hlibraries : MatchedBy "^b\\.dll$" true inLibraries searched.libraryNames := by
    decide +kernel
  exact ⟨hsymbols, hlibraries, by decide +kernel, by decide +kernel, rfl,
    search_meets hsymbols hlibraries⟩

end

end Table

end ImageImports.Import
