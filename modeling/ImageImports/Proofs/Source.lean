import ImageImports.Proofs.Reading
import ImageImports.Source

/-!
# The head of a byte source

A program that leaves a source over bytes in memory open changes one thing, the place of the head.
This module says by rules what every step answers and where it leaves the head, in terms of the
bytes and of that place, without a reader and without the saving and restoring that a
source does.  Running a program obeys the rules, whatever the offsets and counts are.

A read asks for at most `countLimit` bytes less one: a larger count is refused before the
bytes are looked at, however few of them are left.

## Main results

* `step_obeys` — what one step answers, and that the head stays between the two ends.
* `run_disciplined` — the same of whole programs, and that steps aside leave no trace.
-/

namespace ImageImports.Source

/-! ## Programs that leave a source open -/

mutual

/-- Whether a step leaves a source open: neither it nor a step inside it closes it. -/
def Step.staysOpen : Step → Bool
  | .close => false
  | .preserve steps => stayOpen steps
  | _ => true

/-- Whether all of some steps leave a source open. -/
def stayOpen : List Step → Bool
  | [] => true
  | step :: rest => step.staysOpen && stayOpen rest

end

/-- Whether a step is taken aside: the head comes back to where it stood. -/
def Step.isAside : Step → Bool
  | .readAt .. | .readTextAt .. | .preserve .. => true
  | _ => false

/-- The source over bytes in memory whose head stands at `pos`. -/
def headAt (bytes : ByteArray) (name : String) (pos : Nat) : Source :=
  ⟨⟨bytes, pos⟩, name, .memory, true⟩

/-! ## The rules -/

section

variable (bytes : ByteArray) (name : String)

/-- The bytes that a read of `count` bytes at `pos` covers, fewer at the end. -/
def covered (pos : Nat) (count : Int) : ByteArray :=
  bytes.extract pos (pos + count.toNat)

/-- Where a read of `count` bytes at `pos` leaves the head. -/
def behind (pos : Nat) (count : Int) : Nat := min (pos + count.toNat) bytes.size

/-- Whether `offset` is a place of the head. -/
def IsPlace (offset : Int) : Prop := 0 ≤ offset ∧ offset ≤ bytes.size

mutual

/-- What a step answers when the head stands at the first place, and the place it leaves
the head at. -/
inductive Obeys : Nat → Step → Except Fault Answer → Nat → Prop
  | seekInside {pos : Nat} {offset : Int} : IsPlace bytes offset →
      Obeys pos (.seek offset) (.ok (.flag true)) offset.toNat
  | seekOutside {pos : Nat} {offset : Int} : ¬ IsPlace bytes offset →
      Obeys pos (.seek offset) (.ok (.flag false)) pos
  | tell {pos : Nat} : Obeys pos .tell (.ok (.number pos)) pos
  | read {pos : Nat} {count : Int} : count < countLimit →
      Obeys pos (.read count) (.ok (.bytes (some (covered bytes pos count))))
        (behind bytes pos count)
  | readTooLarge {pos : Nat} {count : Int} : countLimit ≤ count →
      Obeys pos (.read count) (.error .countTooLarge) pos
  | readExact {pos : Nat} {count : Int} : count < countLimit →
      0 ≤ count → pos + count ≤ bytes.size →
      Obeys pos (.readExact count) (.ok (.bytes (some (covered bytes pos count))))
        (behind bytes pos count)
  | readShort {pos : Nat} {count : Int} : count < countLimit →
      count < 0 ∨ bytes.size < pos + count →
      Obeys pos (.readExact count) (.ok (.bytes none)) (behind bytes pos count)
  | readExactTooLarge {pos : Nat} {count : Int} : countLimit ≤ count →
      Obeys pos (.readExact count) (.error .countTooLarge) pos
  /-- An exact read aside answers what one at the offset does. -/
  | readAtInside {pos last : Nat} {offset count : Int} {answer} : IsPlace bytes offset →
      Obeys offset.toNat (.readExact count) answer last →
      Obeys pos (.readAt offset count) answer pos
  | readAtOutside {pos : Nat} {offset count : Int} : ¬ IsPlace bytes offset →
      Obeys pos (.readAt offset count) (.ok (.bytes none)) pos
  | readText {pos last : Nat} {maxLength : Int} : pos ≤ last →
      Obeys pos (.readText maxLength)
        (.ok (.text ((Bytes.textAt? bytes pos).filter fun s => (s.length : Int) ≤ maxLength)))
        last
  /-- A text aside is the one at the offset. -/
  | readTextAtInside {pos last : Nat} {offset maxLength : Int} {answer} : IsPlace bytes offset →
      Obeys offset.toNat (.readText maxLength) answer last →
      Obeys pos (.readTextAt offset maxLength) answer pos
  | readTextAtOutside {pos : Nat} {offset maxLength : Int} : ¬ IsPlace bytes offset →
      Obeys pos (.readTextAt offset maxLength) (.ok (.text none)) pos
  | size {pos : Nat} : Obeys pos .size (.ok (.number bytes.size)) pos
  | name {pos : Nat} : Obeys pos .name (.ok (.name name)) pos
  /-- A block answers what its steps do, and puts the head back. -/
  | preserve {pos last : Nat} {steps outcomes} : ObeysAll pos steps outcomes last →
      Obeys pos (.preserve steps) (.ok (.preserved pos outcomes)) pos

/-- What some steps answer in order; the head lies between the two ends after each. -/
inductive ObeysAll : Nat → List Step → List Outcome → Nat → Prop
  | nil {pos : Nat} : ObeysAll pos [] [] pos
  | cons {pos next last : Nat} {step answer rest outcomes} : Obeys pos step answer next →
      next ≤ bytes.size → ObeysAll next rest outcomes last →
      ObeysAll pos (step :: rest) ((answer, some next) :: outcomes) last

end

end

/-! ## Readings where the head stands -/

section

variable {bytes : ByteArray} {name : String} {pos : Nat}

/-- A read gives what it covers and leaves the head behind that. -/
theorem read_eq (hpos : pos ≤ bytes.size) (count : Int) :
    (⟨bytes, pos⟩ : Reader).read count =
      (covered bytes pos count, ⟨bytes, behind bytes pos count⟩) := by
  have hblock : ((⟨bytes, pos⟩ : Reader).read count).1 = covered bytes pos count := by
    refine ByteArray.ext (Array.ext' ?_)
    rw [Reader.toList_read, covered, Bytes.toList_extract]
  have hsize : (covered bytes pos count).size = min count.toNat (bytes.size - pos) := by
    rw [← hblock, Reader.size_read]
    rfl
  have hbehind : pos + (covered bytes pos count).size = behind bytes pos count := by
    rw [hsize, behind]
    omega
  rw [← hbehind, ← hblock]
  rfl

theorem behind_le (count : Int) : behind bytes pos count ≤ bytes.size :=
  Nat.min_le_right ..

/-- An exact read gives what it covers when that is as much as asked for. -/
theorem readExact_eq_of_le (hpos : pos ≤ bytes.size) {count : Int} (hcount : 0 ≤ count)
    (hle : pos + count ≤ bytes.size) :
    (⟨bytes, pos⟩ : Reader).readExact count =
      (some (covered bytes pos count), ⟨bytes, behind bytes pos count⟩) := by
  have hsize := Reader.size_read ⟨bytes, pos⟩ count
  rw [read_eq hpos] at hsize
  have hfull : ((covered bytes pos count).size : Int) = count := by
    simp only [Reader.size] at hsize
    omega
  rw [Reader.readExact_eq, read_eq hpos, if_pos hfull]

/-- An exact read gives nothing when less is left, or less than nothing is asked for. -/
theorem readExact_eq_none (hpos : pos ≤ bytes.size) {count : Int}
    (hshort : count < 0 ∨ bytes.size < pos + count) :
    (⟨bytes, pos⟩ : Reader).readExact count =
      (none, ⟨bytes, behind bytes pos count⟩) := by
  have hsize := Reader.size_read ⟨bytes, pos⟩ count
  rw [read_eq hpos] at hsize
  have hpart : ¬ ((covered bytes pos count).size : Int) = count := by
    simp only [Reader.size] at hsize
    omega
  rw [Reader.readExact_eq, read_eq hpos, if_neg hpart]

/-- Looking for a text moves the head forward, and not beyond the end. -/
theorem pos_readTextBlocks {r : Reader} (hpos : r.pos ≤ r.size) (budget : Nat)
    (found : ByteArray) :
    r.pos ≤ (r.readTextBlocks budget found).2.pos
      ∧ (r.readTextBlocks budget found).2.pos ≤ r.size := by
  fun_induction Reader.readTextBlocks r budget found with
  | case1 r found => exact ⟨Nat.le_refl _, hpos⟩
  | case2 r found left got block hnone => exact ⟨Nat.le_add_right .., Reader.pos_read_le hpos _⟩
  | case3 r found left got block hsome stop hstop =>
    have hsize : block.size =
        min (min Reader.blockSize (left + 1) : Int).toNat (r.size - r.pos) :=
      r.size_read _
    constructor
    · show r.pos ≤ r.pos + stop + 1
      omega
    · show r.pos + stop + 1 ≤ r.size
      omega
  | case4 r found left got block hsome stop hstop ih =>
    obtain ⟨hle, hend⟩ := ih (Reader.pos_read_le hpos _)
    have hfront : r.pos ≤ got.2.pos := Nat.le_add_right ..
    exact ⟨Nat.le_trans hfront hle, hend⟩

/-- A text is looked for from the head on, which stays between the two ends. -/
theorem readText_obeys (hpos : pos ≤ bytes.size) (maxLength : Int) :
    ∃ text? last, (⟨bytes, pos⟩ : Reader).readText maxLength = (text?, ⟨bytes, last⟩)
      ∧ last ≤ bytes.size
      ∧ Obeys bytes name pos (.readText maxLength) (.ok (.text text?)) last := by
  have htext := Reader.readText_fst ⟨bytes, pos⟩ maxLength
  have hdata := Reader.data_readText ⟨bytes, pos⟩ maxLength
  obtain ⟨hle, hend⟩ :=
    pos_readTextBlocks (r := ⟨bytes, pos⟩) hpos (maxLength + 1).toNat .empty
  cases hread : (⟨bytes, pos⟩ : Reader).readText maxLength with
  | mk text? after =>
    obtain ⟨data, last⟩ := after
    rw [Reader.readText] at hread
    rw [hread] at hle hend
    rw [Reader.readText, hread] at htext hdata
    cases hdata
    refine ⟨text?, last, rfl, hend, ?_⟩
    rw [show text? = _ from htext]
    exact .readText hle

theorem isPlace_toNat_le {offset : Int} (h : IsPlace bytes offset) :
    offset.toNat ≤ bytes.size := by
  obtain ⟨hfrom, hto⟩ := h
  omega

/-- Taking a place inside moves the head there. -/
theorem seek?_of_isPlace {offset : Int} (h : IsPlace bytes offset) :
    (⟨bytes, pos⟩ : Reader).seek? offset = some ⟨bytes, offset.toNat⟩ :=
  Reader.seek?_eq_some_iff.2 ⟨h.1, h.2, rfl⟩

/-- A place outside is not taken. -/
theorem seek?_of_not_isPlace {offset : Int} (h : ¬ IsPlace bytes offset) :
    (⟨bytes, pos⟩ : Reader).seek? offset = none := if_neg h

theorem inRange_headAt (offset : Int) :
    (headAt bytes name pos).inRange offset = true ↔ IsPlace bytes offset := by
  rw [inRange, Bool.and_eq_true, decide_eq_true_iff, decide_eq_true_iff]
  rfl

/-! ## What a step does -/

/-- A step of the source whose head stands at `pos` obeys the rules and leaves a source of
the same kind. -/
def StepObeys (bytes : ByteArray) (name : String) (pos : Nat) (step : Step) : Prop :=
  ∃ answer next, (headAt bytes name pos).step step = (answer, headAt bytes name next)
    ∧ next ≤ bytes.size ∧ Obeys bytes name pos step answer next

theorem seek_obeys (hpos : pos ≤ bytes.size) (offset : Int) :
    StepObeys bytes name pos (.seek offset) := by
  by_cases hplace : IsPlace bytes offset
  · refine ⟨_, _, ?_, isPlace_toNat_le hplace, .seekInside hplace⟩
    rw [step, seek, if_pos ((inRange_headAt offset).2 hplace)]
    show (headAt bytes name pos).answer none _ = _
    simp only [answer, headAt, seek?_of_isPlace hplace]
  · refine ⟨_, _, ?_, hpos, .seekOutside hplace⟩
    rw [step, seek, if_neg (mt (inRange_headAt offset).1 hplace)]
    simp only [answer, headAt, seek?_of_not_isPlace hplace]

theorem readFault?_headAt_of_lt {count : Int} (h : count < countLimit) :
    (headAt bytes name pos).readFault? count = none := by
  rw [readFault?]
  by_cases hnone : count ≤ 0
  · rw [if_pos hnone]
  · rw [if_neg hnone, if_neg (Int.not_le.2 h)]
    rfl

theorem readFault?_headAt_of_le {count : Int} (h : countLimit ≤ count) :
    (headAt bytes name pos).readFault? count = some .countTooLarge := by
  have hlimit : (0 : Int) < countLimit := by decide
  rw [readFault?, if_neg (by omega), if_pos h]

theorem read_obeys (hpos : pos ≤ bytes.size) (count : Int) :
    StepObeys bytes name pos (.read count) := by
  by_cases hcount : count < countLimit
  · refine ⟨_, _, ?_, behind_le count, .read hcount⟩
    rw [step, readFault?_headAt_of_lt hcount]
    simp only [answer, headAt, read_eq hpos]
  · have hlarge := Int.not_lt.1 hcount
    refine ⟨_, _, ?_, hpos, .readTooLarge hlarge⟩
    rw [step, readFault?_headAt_of_le hlarge]
    rfl

/-- What an exact read answers below the largest count. -/
theorem readExact_obeys_of_lt (hpos : pos ≤ bytes.size) {count : Int}
    (hcount : count < countLimit) :
    ∃ block?, (⟨bytes, pos⟩ : Reader).readExact count =
        (block?, ⟨bytes, behind bytes pos count⟩)
      ∧ Obeys bytes name pos (.readExact count) (.ok (.bytes block?))
        (behind bytes pos count) := by
  by_cases hfull : 0 ≤ count ∧ pos + count ≤ bytes.size
  · obtain ⟨hfrom, hto⟩ := hfull
    exact ⟨_, readExact_eq_of_le hpos hfrom hto, .readExact hcount hfrom hto⟩
  · have hshort : count < 0 ∨ bytes.size < pos + count := by omega
    exact ⟨_, readExact_eq_none hpos hshort, .readShort hcount hshort⟩

theorem readExact_obeys (hpos : pos ≤ bytes.size) (count : Int) :
    StepObeys bytes name pos (.readExact count) := by
  by_cases hcount : count < countLimit
  · obtain ⟨block?, hread, hobeys⟩ := @readExact_obeys_of_lt bytes name pos hpos count hcount
    refine ⟨_, _, ?_, behind_le count, hobeys⟩
    rw [step, readFault?_headAt_of_lt hcount]
    simp only [answer, headAt, hread]
  · have hlarge := Int.not_lt.1 hcount
    refine ⟨_, _, ?_, hpos, .readExactTooLarge hlarge⟩
    rw [step, readFault?_headAt_of_le hlarge]
    rfl

theorem readAt_obeys (hpos : pos ≤ bytes.size) (offset count : Int) :
    StepObeys bytes name pos (.readAt offset count) := by
  by_cases hplace : IsPlace bytes offset
  · have hfault : ((headAt bytes name pos).closedFault? .tell).or
        (if (headAt bytes name pos).inRange offset then
          (headAt bytes name pos).readFault? count else none) =
        (headAt bytes name pos).readFault? count := by
      rw [if_pos ((inRange_headAt offset).2 hplace)]
      rfl
    by_cases hcount : count < countLimit
    · obtain ⟨block?, hread, hobeys⟩ :=
        @readExact_obeys_of_lt bytes name _ (isPlace_toNat_le hplace) count hcount
      refine ⟨_, _, ?_, hpos, .readAtInside hplace hobeys⟩
      rw [step, hfault, readFault?_headAt_of_lt hcount]
      simp only [answer, headAt, Reader.readAt, Reader.aside, seek?_of_isPlace hplace, hread]
    · have hlarge := Int.not_lt.1 hcount
      refine ⟨_, _, ?_, hpos, .readAtInside hplace (.readExactTooLarge hlarge)⟩
      rw [step, hfault, readFault?_headAt_of_le hlarge]
      rfl
  · refine ⟨_, _, ?_, hpos, .readAtOutside hplace⟩
    rw [step, if_neg (mt (inRange_headAt offset).1 hplace)]
    show (headAt bytes name pos).answer none _ = _
    simp only [answer, headAt, Reader.readAt, Reader.aside, seek?_of_not_isPlace hplace]

theorem readTextAt_obeys (hpos : pos ≤ bytes.size) (offset maxLength : Int) :
    StepObeys bytes name pos (.readTextAt offset maxLength) := by
  by_cases hplace : IsPlace bytes offset
  · obtain ⟨text?, last, hread, -, hobeys⟩ :=
      @readText_obeys bytes name _ (isPlace_toNat_le hplace) maxLength
    refine ⟨_, _, ?_, hpos, .readTextAtInside hplace hobeys⟩
    rw [step]
    show (headAt bytes name pos).answer none _ = _
    simp only [answer, headAt, Reader.readTextAt, Reader.aside, seek?_of_isPlace hplace, hread]
  · refine ⟨_, _, ?_, hpos, .readTextAtOutside hplace⟩
    rw [step]
    show (headAt bytes name pos).answer none _ = _
    simp only [answer, headAt, Reader.readTextAt, Reader.aside, seek?_of_not_isPlace hplace]

end

/-! ## Whole programs -/

section

variable {bytes : ByteArray} {name : String}

mutual

/-- A step obeys the rules wherever the head stands; a block does because its steps do. -/
theorem step_obeys {pos : Nat} (hpos : pos ≤ bytes.size) (step : Step)
    (h : step.staysOpen = true) : StepObeys bytes name pos step := by
  cases step with
  | seek offset => exact seek_obeys hpos offset
  | tell => exact ⟨_, _, rfl, hpos, .tell⟩
  | read count => exact read_obeys hpos count
  | readExact count => exact readExact_obeys hpos count
  | readAt offset count => exact readAt_obeys hpos offset count
  | readText maxLength =>
    obtain ⟨text?, last, hread, hend, hobeys⟩ := @readText_obeys bytes name pos hpos maxLength
    refine ⟨_, _, ?_, hend, hobeys⟩
    have hopen : (if 0 ≤ maxLength then (headAt bytes name pos).closedFault? .read else none) =
        none := by
      split
      · rfl
      · rfl
    rw [Source.step, hopen]
    simp only [answer, headAt, hread]
  | readTextAt offset maxLength => exact readTextAt_obeys hpos offset maxLength
  | size => exact ⟨_, _, rfl, hpos, .size⟩
  | name => exact ⟨_, _, rfl, hpos, .name⟩
  | close => cases h
  | preserve steps =>
    obtain ⟨outcomes, last, hrun, -, hobeys⟩ := run_obeys hpos steps h
    refine ⟨_, _, ?_, hpos, .preserve hobeys⟩
    rw [Source.step]
    show (match (headAt bytes name pos).run steps with
      | (inner, after) => _) = _
    rw [hrun]
    rfl
termination_by sizeOf step

/-- Steps that follow one another obey the rules. -/
theorem run_obeys {pos : Nat} (hpos : pos ≤ bytes.size) (steps : List Step)
    (h : stayOpen steps = true) :
    ∃ outcomes last,
      (headAt bytes name pos).run steps = (outcomes, headAt bytes name last)
        ∧ last ≤ bytes.size ∧ ObeysAll bytes name pos steps outcomes last := by
  cases steps with
  | nil => exact ⟨[], pos, rfl, hpos, .nil⟩
  | cons step rest =>
    obtain ⟨hstep, hrest⟩ := Bool.and_eq_true_iff.1 h
    obtain ⟨answer, next, heq, hnext, hobeys⟩ := step_obeys hpos step hstep
    obtain ⟨outcomes, last, hrun, hlast, hall⟩ := run_obeys hnext rest hrest
    refine ⟨(answer, some next) :: outcomes, last, ?_, hlast, .cons hobeys hnext hall⟩
    rw [Source.run, heq]
    simp only [hrun]
    rfl
termination_by sizeOf steps

end

/-! ## Steps aside -/

/-- The rules leave the head of a step aside where it stood. -/
theorem Obeys.eq_of_isAside {pos next : Nat} {step : Step} {answer : Except Fault Answer}
    (h : Obeys bytes name pos step answer next) (haside : step.isAside = true) :
    next = pos := by
  cases h with
  | readAtInside => rfl
  | readAtOutside => rfl
  | readTextAtInside => rfl
  | readTextAtOutside => rfl
  | preserve => rfl
  | _ => cases haside

theorem run_cons (s : Source) (step : Step) (rest : List Step) :
    s.run (step :: rest) =
      (((s.step step).1, (s.step step).2.tell?) :: ((s.step step).2.run rest).1,
        ((s.step step).2.run rest).2) := by
  rw [Source.run]

theorem run_append (s : Source) (front back : List Step) :
    s.run (front ++ back) =
      ((s.run front).1 ++ ((s.run front).2.run back).1, ((s.run front).2.run back).2) := by
  induction front generalizing s with
  | nil => rfl
  | cons step rest ih =>
    rw [List.cons_append, run_cons, run_cons, ih]
    rfl

theorem length_run (s : Source) (steps : List Step) :
    (s.run steps).1.length = steps.length := by
  induction steps generalizing s with
  | nil => rfl
  | cons step rest ih =>
    rw [run_cons, List.length_cons, List.length_cons, ih]

theorem stayOpen_append (front back : List Step) :
    stayOpen (front ++ back) = (stayOpen front && stayOpen back) := by
  induction front with
  | nil => rfl
  | cons step rest ih =>
    rw [List.cons_append, stayOpen, stayOpen, ih, Bool.and_assoc]

/-- A program without one of its steps aside answers all the rest alike. -/
theorem run_without_aside {pos : Nat} (hpos : pos ≤ bytes.size) {front back : List Step}
    {step : Step} (h : stayOpen (front ++ step :: back) = true)
    (haside : step.isAside = true) :
    (headAt bytes name pos).run (front ++ back) =
      (((headAt bytes name pos).run (front ++ step :: back)).1.eraseIdx front.length,
        ((headAt bytes name pos).run (front ++ step :: back)).2) := by
  rw [stayOpen_append, stayOpen, Bool.and_eq_true, Bool.and_eq_true] at h
  obtain ⟨hfront, hstep, -⟩ := h
  obtain ⟨outcomes, last, hrun, hlast, -⟩ := @run_obeys bytes name pos hpos front hfront
  obtain ⟨answer, next, heq, -, hobeys⟩ := @step_obeys bytes name _ hlast step hstep
  have hstay := hobeys.eq_of_isAside haside
  subst hstay
  have hlength : outcomes.length = front.length := by
    rw [← length_run (headAt bytes name pos) front, hrun]
  rw [run_append, run_append, hrun]
  simp only [run_cons, heq]
  rw [← hlength, List.eraseIdx_append_of_length_le (Nat.le_refl _), Nat.sub_self]
  rfl

/-- **The head of a source is kept in order**: a program that leaves the source open, run
from any place of the head, obeys the rules step by step, so the head never leaves the
bytes; and without one of its steps aside it answers all the rest alike. -/
theorem run_disciplined {pos : Nat} {steps : List Step} (hpos : pos ≤ bytes.size)
    (h : stayOpen steps = true) :
    ∃ outcomes last,
      (headAt bytes name pos).run steps = (outcomes, headAt bytes name last)
        ∧ last ≤ bytes.size
        ∧ ObeysAll bytes name pos steps outcomes last
        ∧ ∀ front step back, steps = front ++ step :: back → step.isAside = true →
          (headAt bytes name pos).run (front ++ back) =
            (outcomes.eraseIdx front.length, headAt bytes name last) := by
  obtain ⟨outcomes, last, hrun, hlast, hobeys⟩ := @run_obeys bytes name pos hpos steps h
  refine ⟨outcomes, last, hrun, hlast, hobeys, fun front step back heq haside => ?_⟩
  rw [heq] at h hrun
  rw [run_without_aside hpos h haside, hrun]

/-- Three bytes, and a block between two reads of them in which a read is refused. -/
def sampleSteps : List Step :=
  [.read 1, .preserve [.seek 3, .readExact countLimit], .readExact 2]

/-- The block leaves no trace: with it and without it the second read gives the two bytes
behind the first. -/
theorem run_disciplined_sample :
    let s := headAt ⟨#[0x4d, 0x5a, 0]⟩ "a" 0
    stayOpen sampleSteps = true
      ∧ ∃ outcomes, s.run sampleSteps = (outcomes, headAt ⟨#[0x4d, 0x5a, 0]⟩ "a" 3)
        ∧ ObeysAll ⟨#[0x4d, 0x5a, 0]⟩ "a" 0 sampleSteps outcomes 3
        ∧ s.run [.read 1, .readExact 2] =
          (outcomes.eraseIdx 1, headAt ⟨#[0x4d, 0x5a, 0]⟩ "a" 3) := by
  intro s
  have hopen : stayOpen sampleSteps = true := by decide
  obtain ⟨outcomes, last, hrun, -, hobeys, haside⟩ :=
    @run_disciplined ⟨#[0x4d, 0x5a, 0]⟩ "a" 0 sampleSteps (Nat.zero_le _) hopen
  have hlast : 3 = last := congrArg (fun run => run.2.reader.pos) hrun
  subst hlast
  exact ⟨hopen, outcomes, hrun, hobeys, haside [.read 1] _ [.readExact 2] rfl rfl⟩

end

end ImageImports.Source
