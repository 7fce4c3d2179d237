import ImageImports.Image.Stored

/-!
# Stored analyses are read back

Every record that a writer makes passes the demands of the reader it belongs to, and gives
back what was written.  A record of named fields is looked up in the order in which it was
written, so each law is by computation once the values in its places are read back; lists
go by induction.

## Main results

* `Analysis.decode_encode` — a stored analysis is read back as it was.
-/

namespace ImageImports

namespace Schema

variable {α : Type} {f : α → Json}

/-- Items that are read back one by one are read back from a list. -/
theorem traverse_map {read : Json → Checked α} (h : ∀ a, read (f a) = .ok a) (index : Nat)
    (as : List α) : Checked.traverse read index (as.map f) = .ok as := by
  induction as generalizing index with
  | nil => rfl
  | cons a rest ih =>
    rw [List.map_cons, Checked.traverse, h, ih]
    rfl

theorem list_map {read : Json → Checked α} (h : ∀ a, read (f a) = .ok a) (as : List α) :
    list read (.list (as.map f)) = .ok as := traverse_map h 0 as

theorem sequence_map {read : Json → Checked α} (h : ∀ a, read (f a) = .ok a)
    (as : List α) :
    sequence read (.list (as.map f)) = .ok as := traverse_map h 0 as

/-- Texts are read back from a list. -/
theorem sequence_ofTexts (texts : List String) :
    sequence text (.ofTexts texts) = .ok texts :=
  sequence_map (f := .text) (fun _ => rfl) texts

end Schema

namespace Import

theorem Descriptor.read_encodeFields (d : Descriptor) :
    Descriptor.read (.object d.encodeFields) = .ok d := rfl

theorem Entry.read_encodeFields (e : Entry) :
    Entry.read (.object e.encodeFields) = .ok e := by
  obtain ⟨raw, isOrdinal, payload, hint, name⟩ := e
  cases hint <;> rfl

theorem Library.read_encode (l : Library) : Library.read l.encode = .ok l := by
  have hdescriptor := Descriptor.read_encodeFields l.descriptor
  have hentries := Schema.sequence_map Entry.read_encodeFields l.entries
  show (((Descriptor.read (.object l.descriptor.encodeFields)).within "descriptor").map
      Library.mk).seq
    ((Schema.sequence Entry.read _).within _) = _
  rw [hdescriptor, hentries]
  rfl

theorem Failure.read_encode (f : Failure) : Failure.read f.encode = .ok f := by
  obtain ⟨kind, message, offset, library⟩ := f
  cases kind <;> cases offset <;> rfl

/-- A failure, or none, is read back. -/
theorem Failure.read_encode? (f : Option Failure) :
    Schema.optional Failure.read (Failure.encode? f) = .ok f := by
  cases f with
  | none => rfl
  | some f =>
    show (Failure.read f.encode).map some = _
    rw [Failure.read_encode]
    rfl

/-- A stored table is read back as it was. -/
theorem Table.decode_encode (t : Table) : Table.decode t.encode = .ok t := by
  have hlibraries := Schema.sequence_map Library.read_encode t.libraries
  have herror := Failure.read_encode? t.error
  have hwarnings := Schema.sequence_ofTexts t.warnings
  show (((((Schema.sequence Library.read _).within _ |>.map Table.mk).seq
      (.ok t.bits)).seq
    (.ok t.directoryPresent)).seq ((Schema.optional Failure.read _).within _)).seq
    ((Schema.sequence Schema.text _).within _) = _
  rw [hlibraries, herror, hwarnings]
  rfl

end Import

theorem Section.decode_encodeFields (s : Section) :
    Section.decode (.object s.encodeFields) = .ok s :=
  rfl

theorem DataDirectory.decode_encode (d : DataDirectory) :
    DataDirectory.decode d.encode = .ok d := rfl

theorem ImageInfo.decode_encodeFields (i : ImageInfo) :
    ImageInfo.decode (.object i.encodeFields) = .ok i := rfl

/-- A stored analysis is read back as it was. -/
theorem Analysis.decode_encode (a : Analysis) : Analysis.decode a.encode = .ok a := by
  have hinfo := ImageInfo.decode_encodeFields a.info
  have hsections := Schema.list_map Section.decode_encodeFields a.sections
  have hdirectories := Schema.list_map DataDirectory.decode_encode a.directories
  have himports := Import.Table.decode_encode a.imports
  show (((((ImageInfo.decode (.object a.info.encodeFields)).within "info" |>.map
      Analysis.mk).seq
    ((Schema.list Section.decode _).within _)).seq
      ((Schema.list DataDirectory.decode _).within _)).seq
    ((Import.Table.decode _).within _)).seq (.ok a.parsed) = _
  rw [hinfo, hsections, hdirectories, himports]
  rfl

end ImageImports
