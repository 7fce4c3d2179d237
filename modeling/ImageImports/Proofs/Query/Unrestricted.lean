import ImageImports.Proofs.Image.Appended
import ImageImports.Proofs.Lines
import ImageImports.Proofs.Pattern.Repetition
import ImageImports.Proofs.Query.Search
import Mathlib.Data.List.Flatten

/-!
# A search in any library

The pattern that libraries are searched by unless asked otherwise matches any run of characters on
one line.  A library whose name has a line feed is not searched, and nothing tells so: the search
gives what it would give if that library were not there.

## Main results

* `matchedBy_anyLibrary` — the pattern matches the names that take one line.
* `Table.search_anyLibrary` — what such a search finds, and when it is all there is to be found.
-/

namespace ImageImports.Import

/-! ## The pattern of any library -/

/-- One character of any run: all but the line feed. -/
theorem all_passes_any {name : String} :
    (name.toList.all fun c => Pattern.CharTest.passes c.toNat (.any false)) =
      decide (Text.OneLine name) := by
  rw [Bool.eq_iff_iff, decide_eq_true_iff, Text.oneLine_iff_all]
  refine iff_of_eq (congrArg (name.toList.all · = true) (funext fun c => ?_))
  rw [Pattern.CharTest.passes, Bool.false_or, Bool.eq_iff_iff, decide_eq_true_iff, bne_iff_ne,
    ne_eq, ne_eq, ← Char.toNat_inj]
  rfl

/-- The pattern can be read, with or without case. -/
theorem exists_nameTest_anyLibrary (caseSensitive : Bool) :
    ∃ spans, nameTest anyLibrary caseSensitive =
      .ok (Pattern.Parsed.matchesAll ⟨.rep .greedy 0 none (.char (.any false)), spans⟩) := by
  cases caseSensitive with
  | true | false => exact ⟨_, rfl⟩

/-- The pattern matches the names that take one line, whatever the names are. -/
theorem matchedBy_anyLibrary (caseSensitive : Bool) (names : List String) :
    MatchedBy anyLibrary caseSensitive (fun name => decide (Text.OneLine name)) names := by
  intro test htest name _
  obtain ⟨spans, hany⟩ := exists_nameTest_anyLibrary caseSensitive
  obtain rfl := Except.ok.inj (htest.symm.trans hany)
  rw [Pattern.Parsed.matchesAll_star, all_passes_any]

/-! ## What is found without a choice of libraries -/

section

variable {α β : Type} {p : α → Bool} {f : α → List β}

/-- Leaving members out leaves nothing out exactly if they have nothing. -/
theorem flatMap_filter_eq_iff {as : List α} :
    (as.filter p).flatMap f = as.flatMap f ↔ ∀ a ∈ as, p a = false → f a = [] := by
  induction as with
  | nil => exact iff_of_true rfl fun a ha => absurd ha List.not_mem_nil
  | cons a rest ih =>
    rw [List.forall_mem_cons, ← ih, List.flatMap_cons]
    by_cases hp : p a = true
    · rw [List.filter_cons_of_pos hp, List.flatMap_cons, List.append_cancel_left_eq]
      exact ⟨fun h => ⟨fun hno => absurd hp (by rw [hno]; exact Bool.false_ne_true), h⟩, And.right⟩
    · rw [List.filter_cons_of_neg hp]
      constructor
      · intro h
        have hle : ((rest.filter p).flatMap f).length ≤ (rest.flatMap f).length :=
          (List.filter_sublist.flatMap f).length_le
        have hnone : f a = [] := by
          rw [h, List.length_append] at hle
          exact List.eq_nil_of_length_eq_zero (by omega)
        rw [hnone, List.nil_append] at h
        exact ⟨fun _ => hnone, h⟩
      · rintro ⟨hnone, hrest⟩
        rw [hnone (Bool.eq_false_iff.2 hp), List.nil_append, hrest]

end

namespace Table

variable {t : Table} {symbols : String} {caseSensitive : Bool} {inSymbols : String → Bool}

/-- The groups of a search, one after the other, are the hits of the libraries chosen. -/
theorem flatMap_hitsByLibrary (inSymbols inLibraries : String → Bool) (t : Table) :
    (t.hitsByLibrary inSymbols inLibraries).flatMap (·.2) =
      (t.libraries.filter fun l => inLibraries l.name).flatMap (·.hits inSymbols) := by
  have hgroups : t.libraries.filter (fun l => inLibraries l.name && !(l.hits inSymbols).isEmpty) =
      (t.libraries.filter fun l => inLibraries l.name).filter fun l =>
        !(l.hits inSymbols).isEmpty := by
    rw [List.filter_filter]
    exact List.filter_congr fun l _ => Bool.and_comm ..
  rw [hitsByLibrary, List.flatMap_map, hgroups]
  refine flatMap_filter_eq_iff.2 fun l _ hnone => ?_
  exact List.isEmpty_iff.1 (by simpa using hnone)

/-- **A search in any library finds what the libraries have whose name takes one line.**  That is
all there is to be found exactly if no library with a line feed in its name has a hit. -/
theorem search_anyLibrary (hread : Succeeds (nameTest symbols caseSensitive))
    (hsymbols : MatchedBy symbols caseSensitive inSymbols t.symbolNames) :
    t.search symbols anyLibrary caseSensitive =
        .ok ((t.libraries.filter fun l => Text.OneLine l.name).flatMap (·.hits inSymbols))
      ∧ (t.search symbols anyLibrary caseSensitive =
          .ok (t.libraries.flatMap (·.hits inSymbols)) ↔
        ∀ l ∈ t.libraries, ¬ Text.OneLine l.name → l.hits inSymbols = []) := by
  obtain ⟨spans, hany⟩ := exists_nameTest_anyLibrary caseSensitive
  have hgroups := searchByLibrary_eq hsymbols
    (matchedBy_anyLibrary caseSensitive t.libraryNames) hread ⟨_, hany⟩
  have hsearch : t.search symbols anyLibrary caseSensitive =
      .ok ((t.libraries.filter fun l => Text.OneLine l.name).flatMap (·.hits inSymbols)) := by
    have hflat := flatMap_hitsByLibrary inSymbols (fun name => decide (Text.OneLine name)) t
    rw [search_eq, hgroups]
    exact congrArg Except.ok hflat
  refine ⟨hsearch, ?_⟩
  rw [hsearch, Except.ok.injEq, flatMap_filter_eq_iff]
  exact forall₂_congr fun l _ => by rw [decide_eq_false_iff_not]

/-! ### A library named on two lines -/

/-- An image that imports `f` from a library whose name is `a` on one line and `b` on the next. -/
def brokenName : ByteArray := sampleHeaders ++ ⟨#[
  0x30, 0x10, 0, 0, 0, 0, 0, 0, 0, 0, 0, 0, 0x28, 0x10, 0, 0, 0x30, 0x10, 0, 0,
  0, 0, 0, 0, 0, 0, 0, 0, 0, 0, 0, 0, 0, 0, 0, 0, 0, 0, 0, 0,
  0x61, 0x0a, 0x62, 0, 0, 0, 0, 0,
  0x3c, 0x10, 0, 0, 0, 0, 0, 0, 0, 0, 0, 0,
  5, 0, 0x66, 0]⟩

/-- What the image holds: its one library has a hit, but takes two lines for its name. -/
theorem brokenName_read :
    let result := (Dissection.start "a.exe" brokenName).parse {}
    let t := result.dissection.imports
    let inSymbols := fun name => decide (Text.OneLine name)
    result.accepted = true ∧ t.ok = true
      ∧ t.libraries.map (fun l => (l.name, l.hits inSymbols)) = [("a\nb", ["f"])]
      ∧ (t.libraries.filter fun l => Text.OneLine l.name).flatMap (·.hits inSymbols) = []
      ∧ ¬ ∀ l ∈ t.libraries, ¬ Text.OneLine l.name → l.hits inSymbols = [] := by
  decide +kernel

/-- The image is read without an error, and a search for every symbol does not find the one that it
imports. -/
theorem search_anyLibrary_brokenName :
    let result := (Dissection.start "a.exe" brokenName).parse {}
    let t := result.dissection.imports
    let inSymbols := fun name => decide (Text.OneLine name)
    result.accepted = true ∧ t.ok = true
      ∧ t.libraries.map (fun l => (l.name, l.hits inSymbols)) = [("a\nb", ["f"])]
      ∧ Succeeds (nameTest ".*" true) ∧ MatchedBy ".*" true inSymbols t.symbolNames
      ∧ t.search ".*" anyLibrary true = .ok []
      ∧ t.search ".*" anyLibrary true ≠ .ok (t.libraries.flatMap (·.hits inSymbols)) := by
  have hparsed := brokenName_read
  dsimp only at hparsed ⊢
  obtain ⟨haccepted, hok, hnamed, hnone, hmissed⟩ := hparsed
  have hread : Succeeds (nameTest ".*" true) := by decide
  have hsymbols := matchedBy_anyLibrary true
    ((Dissection.start "a.exe" brokenName).parse {}).dissection.imports.symbolNames
  obtain ⟨hsearch, hall⟩ := search_anyLibrary hread hsymbols
  rw [hnone] at hsearch
  exact ⟨haccepted, hok, hnamed, hread, hsymbols, hsearch, mt hall.1 hmissed⟩

end Table

end ImageImports.Import
