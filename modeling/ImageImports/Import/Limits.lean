import ImageImports.Reader

/-!
# Bounds on an import directory

Every loop over an import directory is bounded by a limit from the settings.  Settings are not
checked when they are read, so a limit may turn out to be no number at the moment it is used, which
is a fault of the settings and not of the image.  A limit that is no number is never met without
being compared, so it has the bound zero: the first comparison is the fault.

## Main results

* `Limit.readTextAt_snd` — reading a text aside leaves the head where it was, whatever the limit is.
-/

namespace ImageImports.Import

/-- What kind of value a limit was given as. -/
inductive LimitKind where
  | whole
  /-- A number with a fraction, which no byte count can be. -/
  | real (x : Float)
  /-- No number; the word is how its kind is called. -/
  | other (word : String)

/-- A limit as the settings give it. -/
structure Limit where
  /-- The least count that reaches the limit. -/
  bound : Int
  /-- How messages write the limit. -/
  label : String
  kind : LimitKind

/-- The limit that an integer is. -/
def Limit.ofInt (n : Int) : Limit := ⟨n, toString n, .whole⟩

/-- A setting that was used as a number and is none. -/
inductive SettingFault where
  /-- A count was compared with the setting. -/
  | notComparable (operator : String) (word : String)
  /-- One was added to the setting. -/
  | notAddable (word : String)
  /-- A part of a byte was to be read. -/
  | notWhole
  deriving DecidableEq, Inhabited

/-- How the fault is told. -/
def SettingFault.message : SettingFault → String
  | notComparable operator word =>
    s!"'{operator}' not supported between instances of 'int' and '{word}'"
  | notAddable word =>
    if word = "str" ∨ word = "list" then s!"can only concatenate {word} (not \"int\") to {word}"
    else s!"unsupported operand type(s) for +: '{word}' and 'int'"
  | notWhole => "argument should be integer or None, not 'float'"

namespace Limit

/-- Whether `count` reaches the limit. -/
def reachedBy (limit : Limit) (count : Int) : Bool := limit.bound ≤ count

/-- Whether `count` lies beyond the limit. -/
def exceededBy (limit : Limit) (count : Int) : Bool :=
  match limit.kind with
  | .real x => if x.floor == x then limit.bound < count else limit.bound ≤ count
  | _ => limit.bound < count

/-- The fault of comparing with the limit. -/
def comparisonFault? (limit : Limit) (operator : String) : Option SettingFault :=
  match limit.kind with
  | .other word => some (.notComparable operator word)
  | _ => none

/-- Reads a text by blocks against a budget with a fraction: a last block of a part of a byte cannot
be read. -/
def readTextWithin (budget : Float) : Nat → Reader → Nat → ByteArray →
    Except SettingFault (Option String) × Reader
  | 0, r, _, _ => (.ok none, r)
  | fuel + 1, r, consumed, found =>
    let left := budget - consumed.toFloat
    if !(0 < left) then (.ok none, r)
    else if left < Reader.blockSize.toFloat then (.error .notWhole, r)
    else
      let got := r.read Reader.blockSize
      let block := got.1
      let stop := Bytes.zeroIndex block
      if block.size = 0 then (.ok none, got.2)
      else if stop < block.size then
        (.ok (some (Bytes.text (found ++ block.extract 0 stop))),
          { got.2 with pos := r.pos + stop + 1 })
      else readTextWithin budget fuel got.2 (consumed + block.size) (found ++ block)

/-- The text at the head, if it is no longer than the limit says. -/
def readText (limit : Limit) (r : Reader) : Except SettingFault (Option String) × Reader :=
  match limit.kind with
  | .whole =>
    let (text?, after) := r.readText limit.bound
    (.ok text?, after)
  | .real x => readTextWithin (x + 1) (r.size + 1) r 0 .empty
  | .other word => (.error (.notAddable word), r)

/-- The text at an offset, if the offset lies in the bytes and the text in the limit; the head stays
where it is. -/
def readTextAt (limit : Limit) (r : Reader) (offset : Int) :
    Except SettingFault (Option String) × Reader :=
  r.aside fun r =>
    match r.seek? offset with
    | none => (.ok none, r)
    | some there => limit.readText there

theorem data_readTextWithin (budget : Float) (fuel : Nat) (r : Reader) (consumed : Nat)
    (found : ByteArray) : (readTextWithin budget fuel r consumed found).2.data = r.data := by
  fun_induction readTextWithin budget fuel r consumed found with
  | case1 => rfl
  | case2 => rfl
  | case3 => rfl
  | case4 => rfl
  | case5 => rfl
  | case6 fuel r consumed found left hleft hwhole got block stop hsome hgoes ih => exact ih

theorem data_readText (limit : Limit) (r : Reader) : (limit.readText r).2.data = r.data := by
  rw [readText]
  split
  · exact r.data_readText limit.bound
  · exact data_readTextWithin ..
  · rfl

/-- Reading a text aside leaves the head where it was. -/
theorem readTextAt_snd (limit : Limit) (r : Reader) (offset : Int) :
    (limit.readTextAt r offset).2 = r := by
  apply Reader.aside_snd
  split
  · rfl
  · next there hthere => exact (limit.data_readText there).trans (Reader.data_seek? hthere)

end Limit

/-- The limits of an analysis. -/
structure Limits where
  maxFileSize : Limit := .ofInt 209715200
  maxLibraries : Limit := .ofInt 1000
  maxEntriesPerLibrary : Limit := .ofInt 10000
  maxTextLength : Limit := .ofInt 4096
  /-- Whether a library name outside every section is looked for at its address taken as offset. -/
  nameOffsetFallback : Bool := true

end ImageImports.Import
