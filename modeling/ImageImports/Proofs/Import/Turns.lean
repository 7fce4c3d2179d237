import ImageImports.Proofs.Import.Steps

/-!
# The two loops as turns

Each loop over an import directory is the iteration of a *turn*, which takes the head and the number
of items before and either ends the loop or gives an item and the next head.  A turn is told by the
bytes and the place of the head: the loops move the head aside and back within a turn, and that it
is back is what has to be shown of them here.

That loops end is then a fact about turns: a turn that does not end the loop leaves the head one
record farther, and the head stays in the file.  So a turn has one loop.

## Main results

* `Context.recordLoop_descriptors`, `Context.recordLoop_entries` — both loops advance by one
  record a turn and end.
* `RecordLoop.unique` — a turn has one loop.
-/

namespace ImageImports

namespace Import

/-! ## Turns -/

/-- A turn of a loop, from the head and the number of items before: an end of the loop, or an
item and the head of the next turn. -/
abbrev Turn (α : Type) : Type := Reader → Nat → Except (Ending × Reader) (α × Reader)

/-- One turn goes on to the next. -/
def Turn.GoesOn {α : Type} (turn : Turn α) (next now : Reader × Nat) : Prop :=
  next.2 = now.2 + 1 ∧ ∃ a, turn now.1 now.2 = .ok (a, next.1)

/-- What a turn makes of a loop: the loop ends where the turn ends it, and otherwise gives the
item of the turn and goes on behind it. -/
def Turn.run {α : Type} (turn : Turn α) (loop : Reader → Nat → Scan α) (r : Reader)
    (count : Nat) : Scan α :=
  match turn r count with
  | .error (ending, after) => .finished after ending
  | .ok (a, after) => (loop after (count + 1)).cons a

/-- A loop over records: it iterates its turn, a turn that goes on moves the head by one
record of the file, and there is no endless sequence of turns. -/
structure RecordLoop {α : Type} (size : Nat) (loop : Reader → Nat → Scan α) (turn : Turn α) :
    Prop where
  iterates : ∀ r count, loop r count = turn.run loop r count
  advances : ∀ r count a after, turn r count = .ok (a, after) →
    after = ⟨r.data, r.pos + size⟩ ∧ r.pos + size ≤ r.size
  ends : WellFounded turn.GoesOn

/-- A turn that comes to an end is the turn of one loop only. -/
theorem RecordLoop.unique {α : Type} {size : Nat} {loop other : Reader → Nat → Scan α}
    {turn : Turn α} (h : RecordLoop size loop turn) (h' : RecordLoop size other turn) :
    loop = other := by
  funext r count
  have hsame (now : Reader × Nat) : loop now.1 now.2 = other now.1 now.2 := by
    induction now using h.ends.induction with
    | _ now ih =>
      rw [h.iterates, h'.iterates, Turn.run, Turn.run]
      split
      · rfl
      · next a after hturn => rw [ih (after, now.2 + 1) ⟨rfl, a, hturn⟩]
  exact hsame (r, count)

/-- Turns that move the head forward, and not beyond the end, come to an end. -/
theorem Turn.wellFounded_goesOn {α : Type} {turn : Turn α} {size : Nat} (hsize : 0 < size)
    (hadvances : ∀ r count a after, turn r count = .ok (a, after) →
      after = ⟨r.data, r.pos + size⟩ ∧ r.pos + size ≤ r.size) :
    WellFounded turn.GoesOn := by
  refine Subrelation.wf ?_ (measure fun now : Reader × Nat => now.1.size - now.1.pos).wf
  rintro next now ⟨-, a, hturn⟩
  obtain ⟨hnext, hinside⟩ := hadvances _ _ _ _ hturn
  show next.1.size - next.1.pos < now.1.size - now.1.pos
  rw [hnext]
  show now.1.size - (now.1.pos + size) < now.1.size - now.1.pos
  omega

/-- A turn at a record of some size: it ends the loop in front of the end of the table, and at
the end of the file, and otherwise does with the record what `accept` says. -/
def recordTurn {α : Type} (size : Nat) (tableEnd? : Option Int) (r : Reader)
    (unterminated unreadable : Cause) (accept : ByteArray → Except Ending α) :
    Except (Ending × Reader) (α × Reader) :=
  if runsPast tableEnd? (r.pos + size) then .error (.stopped (.aborted unterminated), r)
  else match r.readExact size with
    | (none, after) => .error (.stopped (.aborted unreadable), after)
    | (some record, after) => match accept record with
      | .error ending => .error (ending, after)
      | .ok a => .ok (a, after)

/-- A turn that goes on has read one record, and no more. -/
theorem recordTurn_eq_ok {α : Type} {size : Nat} (hsize : 0 < size) {tableEnd? : Option Int}
    {r after : Reader} {unterminated unreadable : Cause}
    {accept : ByteArray → Except Ending α} {a : α}
    (h : recordTurn size tableEnd? r unterminated unreadable accept = .ok (a, after)) :
    after = ⟨r.data, r.pos + size⟩ ∧ r.pos + size ≤ r.size := by
  rw [recordTurn] at h
  split at h
  · cases h
  · split at h
    · cases h
    · next record there hread =>
      obtain ⟨hrun, hthere⟩ := Reader.run?_of_readExact hsize hread
      obtain ⟨-, hle, -⟩ := Bytes.run?_eq_some_iff.1 hrun
      split at h
      · cases h
      · injection h with h
        injection h with _ h
        refine ⟨h.symm.trans hthere, ?_⟩
        rw [Reader.size]
        exact_mod_cast hle

namespace Context

variable (ctx : Context)

/-- A turn of the first loop. -/
def descriptorTurn (tableEnd? : Option Int) : Turn Descriptor := fun r count =>
  recordTurn Descriptor.recordSize tableEnd? r (.descriptorsUnterminated r.pos)
    (.descriptorUnreadable r.pos) fun record =>
      ctx.acceptDescriptor r.data r.pos count (.decode record)

/-- A turn of the second loop. -/
def entryTurn (library : String) (tableEnd? : Option Int) : Turn Entry := fun r count =>
  recordTurn ctx.width.bytes tableEnd? r (.lookupUnterminated library r.pos)
    (.lookupUnreadable library r.pos) fun thunk =>
      ctx.acceptThunk r.data library r.pos count (Bytes.littleEndian thunk)

/-- The first loop is the iteration of its turn: what a turn reads aside has left the head behind
the record when the next turn begins. -/
theorem readDescriptors_eq_turn (tableEnd? : Option Int) (r : Reader) (count : Nat) :
    ctx.readDescriptors tableEnd? r count =
      (ctx.descriptorTurn tableEnd?).run (ctx.readDescriptors tableEnd?) r count := by
  rw [Turn.run, descriptorTurn, recordTurn]
  fun_cases readDescriptors ctx tableEnd? r count with
  | case1 hpast =>
    rw [if_pos hpast]
    rfl
  | case2 hpast after hread =>
    rw [if_neg hpast, hread]
    rfl
  | case3 hpast record after hread d hsentinel =>
    rw [if_neg hpast, hread]
    simp only [acceptDescriptor, d, hsentinel, if_true]
  | case4 hpast record after hread d htables fault back hname =>
    obtain ⟨-, rfl⟩ := Reader.run?_of_readExact (by decide) hread
    obtain ⟨hin, rfl⟩ := ctx.nameIn_of_libraryName hname
    rw [if_neg hpast, hread]
    simp only [acceptDescriptor, d, htables, hin]
    rfl
  | case5 hpast record after hread d htables back hname hcount =>
    obtain ⟨-, rfl⟩ := Reader.run?_of_readExact (by decide) hread
    obtain ⟨hin, rfl⟩ := ctx.nameIn_of_libraryName hname
    rw [if_neg hpast, hread]
    simp only [acceptDescriptor, d, htables, hin, hcount]
    rfl
  | case6 hpast record after hread d htables back hname hcount =>
    obtain ⟨-, rfl⟩ := Reader.run?_of_readExact (by decide) hread
    obtain ⟨hin, rfl⟩ := ctx.nameIn_of_libraryName hname
    rw [if_neg hpast, hread]
    simp only [acceptDescriptor, d, htables, hin, hcount]
    rfl
  | case7 hpast record after hread d htables name back hname limit hfull =>
    obtain ⟨-, rfl⟩ := Reader.run?_of_readExact (by decide) hread
    obtain ⟨hin, rfl⟩ := ctx.nameIn_of_libraryName hname
    rw [if_neg hpast, hread]
    simp only [acceptDescriptor, d, limit, htables, hin, hfull]
    rfl
  | case8 hpast record after hread d htables name back hname limit hfew =>
    obtain ⟨-, rfl⟩ := Reader.run?_of_readExact (by decide) hread
    obtain ⟨hin, rfl⟩ := ctx.nameIn_of_libraryName hname
    rw [if_neg hpast, hread]
    simp only [acceptDescriptor, d, limit, htables, hin, hfew]
    rfl

/-- The second loop is the iteration of its turn. -/
theorem readEntries_eq_turn (library : String) (tableEnd? : Option Int) (r : Reader)
    (count : Nat) :
    ctx.readEntries library tableEnd? r count =
      (ctx.entryTurn library tableEnd?).run (ctx.readEntries library tableEnd?) r count := by
  rw [Turn.run, entryTurn, recordTurn]
  fun_cases readEntries ctx library tableEnd? r count with
  | case1 hpast =>
    rw [if_pos hpast]
    rfl
  | case2 hpast after hread =>
    rw [if_neg hpast, hread]
    rfl
  | case3 hpast thunk after hread value hzero =>
    rw [if_neg hpast, hread]
    simp only [acceptThunk, value, hzero, if_true]
  | case4 hpast thunk after hread value hzero limit hfull =>
    rw [if_neg hpast, hread]
    simp only [acceptThunk, value, limit, hzero, hfull]
    rfl
  | case5 hpast thunk after hread value hzero limit hfew stop back hhint =>
    obtain ⟨-, rfl⟩ := Reader.run?_of_readExact ctx.width_pos hread
    obtain ⟨hin, rfl⟩ := ctx.hintNameIn_of_withHintName hhint
    rw [if_neg hpast, hread]
    simp only [acceptThunk, value, limit, hzero, hfew, hin]
    rfl
  | case6 hpast thunk after hread value hzero limit hfew entry back hhint =>
    obtain ⟨-, rfl⟩ := Reader.run?_of_readExact ctx.width_pos hread
    obtain ⟨hin, rfl⟩ := ctx.hintNameIn_of_withHintName hhint
    rw [if_neg hpast, hread]
    simp only [acceptThunk, value, limit, hzero, hfew, hin]
    rfl

/-- The first loop goes over records of twenty bytes, and ends. -/
theorem recordLoop_descriptors (tableEnd? : Option Int) :
    RecordLoop 20 (ctx.readDescriptors tableEnd?) (ctx.descriptorTurn tableEnd?) where
  iterates := ctx.readDescriptors_eq_turn tableEnd?
  advances _ _ _ _ := recordTurn_eq_ok (by decide)
  ends := Turn.wellFounded_goesOn (by decide) fun _ _ _ _ => recordTurn_eq_ok (by decide)

/-- The second loop goes over thunks of the image's width, and ends. -/
theorem recordLoop_entries (library : String) (tableEnd? : Option Int) :
    RecordLoop ctx.width.bytes (ctx.readEntries library tableEnd?)
      (ctx.entryTurn library tableEnd?) where
  iterates := ctx.readEntries_eq_turn library tableEnd?
  advances _ _ _ _ := recordTurn_eq_ok ctx.width_pos
  ends := Turn.wellFounded_goesOn ctx.width_pos fun _ _ _ _ => recordTurn_eq_ok ctx.width_pos

end Context

end Import

end ImageImports
