/-!
# Batches

A batch is a list of jobs that run side by side and finish in any order.  Each result goes to the
place of its job, so the order in which the jobs finish does not show in what the batch returns.

## Main results

* `collect_eq_map` — a batch whose jobs all finish returns the results in the order of the jobs.
-/

namespace ImageImports.Batch

variable {α β : Type}

/-- The places of a batch with the result of one finished job put into its place. -/
def put (run : α → β) (jobs : List α) (places : List (Option β)) (index : Nat) : List (Option β) :=
  match jobs[index]? with
  | some job => places.set index (some (run job))
  | none => places

/-- The places of a batch after jobs have finished in the order in which `finished` names them. -/
def fill (run : α → β) (jobs : List α) (finished : List Nat) : List (Option β) :=
  finished.foldl (put run jobs) (List.replicate jobs.length none)

/-- The results of a batch, in the order of its jobs, once every job has finished. -/
def collect (run : α → β) (jobs : List α) (finished : List Nat) : Option (List β) :=
  (fill run jobs finished).mapM id

/-- The order in which the jobs finish when they run one after the other. -/
def inOrder (jobs : List α) : List Nat := List.range jobs.length

theorem length_put (run : α → β) (jobs : List α) (places : List (Option β)) (index : Nat) :
    (put run jobs places index).length = places.length := by
  unfold put
  split <;> simp

/-- A place that is filled holds the result of its job. -/
def Sound (run : α → β) (jobs : List α) (places : List (Option β)) : Prop :=
  ∀ (i : Nat) (r : β), places[i]? = some (some r) → jobs[i]?.map run = some r

theorem Sound.put {run : α → β} {jobs : List α} {places : List (Option β)} (h : Sound run jobs places)
    (index : Nat) : Sound run jobs (put run jobs places index) := by
  intro i r hi
  unfold Batch.put at hi
  split at hi
  · rename_i job hjob
    rw [List.getElem?_set] at hi
    split at hi
    · rename_i hij
      subst hij
      split at hi
      · simp_all
      · cases hi
    · exact h i r hi
  · exact h i r hi

theorem put_getElem?_isSome {run : α → β} {jobs : List α} {places : List (Option β)}
    (hlen : places.length = jobs.length) (index i : Nat)
    (h : i = index ∨ ∃ r, places[i]? = some (some r)) (hi : i < jobs.length) :
    ∃ r, (put run jobs places index)[i]? = some (some r) := by
  unfold put
  rcases h with rfl | ⟨r, hr⟩
  · simp [hlen, hi]
  · split
    · rw [List.getElem?_set]
      split
      · rename_i hij
        subst hij
        simp [hlen, hi]
      · exact ⟨r, hr⟩
    · exact ⟨r, hr⟩

theorem foldl_put (run : α → β) (jobs : List α) (finished : List Nat) (places : List (Option β))
    (hlen : places.length = jobs.length) (hs : Sound run jobs places) :
    (finished.foldl (put run jobs) places).length = jobs.length
      ∧ Sound run jobs (finished.foldl (put run jobs) places)
      ∧ ∀ i < jobs.length, (i ∈ finished ∨ ∃ r, places[i]? = some (some r)) →
          ∃ r, (finished.foldl (put run jobs) places)[i]? = some (some r) := by
  induction finished generalizing places with
  | nil => exact ⟨hlen, hs, fun i _ h => by simpa using h⟩
  | cons index rest ih =>
    obtain ⟨h₁, h₂, h₃⟩ := ih (put run jobs places index) (by rw [length_put, hlen]) (hs.put index)
    refine ⟨h₁, h₂, fun i hi h => h₃ i hi ?_⟩
    rcases h with h | h
    · rcases List.mem_cons.1 h with rfl | h
      · exact .inr (put_getElem?_isSome hlen i i (.inl rfl) hi)
      · exact .inl h
    · exact .inr (put_getElem?_isSome hlen index i (.inr h) hi)

theorem fill_eq_map {run : α → β} {jobs : List α} {finished : List Nat}
    (h : ∀ i < jobs.length, i ∈ finished) :
    fill run jobs finished = jobs.map fun job => some (run job) := by
  obtain ⟨hlen, hs, hall⟩ := foldl_put run jobs finished (List.replicate jobs.length none)
    (by simp) (by intro i r hi; simp [List.getElem?_replicate] at hi)
  apply List.ext_getElem?
  intro i
  by_cases hi : i < jobs.length
  · obtain ⟨r, hr⟩ := hall i hi (.inl (h i hi))
    have := hs i r hr
    rw [fill, hr]
    simp [List.getElem?_eq_getElem hi] at this ⊢
    exact this.symm
  · rw [List.getElem?_eq_none (by rw [fill, hlen]; omega),
      List.getElem?_eq_none (by simpa using hi)]

/-- However the jobs finish, the batch returns one result per job, in the order of the jobs. -/
theorem collect_eq_map {run : α → β} {jobs : List α} {finished : List Nat}
    (h : ∀ i < jobs.length, i ∈ finished) : collect run jobs finished = some (jobs.map run) := by
  rw [collect, fill_eq_map h]
  clear h
  induction jobs with
  | nil => rfl
  | cons job rest ih =>
    rw [List.map_cons, List.mapM_cons, ih]
    rfl

end ImageImports.Batch
