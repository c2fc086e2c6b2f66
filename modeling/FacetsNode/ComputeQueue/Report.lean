import FacetsNode.ComputeQueue.Items

/-!
# The report of an occurrence

`reconcileReport` counts the items of a list by what has happened to them and refuses counters that
contradict each other. For items that pass their own validation it never refuses: what the
validation of one item implies, summed over the list, is what `validateLogicalBounds` asks of the
counters.
-/

namespace FacetsNode.ComputeQueue

@[ext] structure ReportCounters where
  targeted : Int := 0
  prepared : Int := 0
  submitted : Int := 0
  completed : Int := 0
  applied : Int := 0
  skippedSourceMissing : Int := 0
  skippedSourceMissingBeforeDisclosure : Int := 0
  skippedSourceChangedBeforeDisclosure : Int := 0
  resultNotAppliedSourceMissing : Int := 0
  resultNotAppliedSourceChanged : Int := 0
  failedPreparation : Int := 0
  failedExecution : Int := 0
  invalidResult : Int := 0
  cancelledBeforeDisclosure : Int := 0
  cancelledAfterDisclosure : Int := 0
  cancellationUnconfirmed : Int := 0
  deriving DecidableEq

namespace ReportCounters

def terminalCount (r : ReportCounters) : Int :=
  r.applied + r.skippedSourceMissing + r.skippedSourceMissingBeforeDisclosure +
    r.skippedSourceChangedBeforeDisclosure + r.resultNotAppliedSourceMissing +
    r.resultNotAppliedSourceChanged + r.failedPreparation + r.failedExecution + r.invalidResult +
    r.cancelledBeforeDisclosure + r.cancelledAfterDisclosure

/-- The counters of `values`, without the first. -/
def parts (r : ReportCounters) : List Int :=
  [r.prepared, r.submitted, r.completed, r.applied, r.skippedSourceMissing,
    r.skippedSourceMissingBeforeDisclosure, r.skippedSourceChangedBeforeDisclosure,
    r.resultNotAppliedSourceMissing, r.resultNotAppliedSourceChanged, r.failedPreparation,
    r.failedExecution, r.invalidResult, r.cancelledBeforeDisclosure, r.cancelledAfterDisclosure,
    r.cancellationUnconfirmed]

/-- `resultTerminal` in `ValidateLogicalBounds`. -/
def resultTerminal (r : ReportCounters) : Int :=
  r.applied + r.resultNotAppliedSourceMissing + r.resultNotAppliedSourceChanged + r.invalidResult

def validateLogicalBounds (r : ReportCounters) (allTerminal : Bool) : Check := do
  rejectIf (r.targeted < 0 ∨ maximumItems < r.targeted) "counters.targeted"
  rejectIf (∃ current ∈ r.parts, current < 0 ∨ r.targeted < current) "counters.bounds"
  let executionTerminal := r.resultTerminal + r.failedExecution + r.cancelledAfterDisclosure
  rejectIf (r.targeted < r.prepared ∨ r.prepared < r.submitted ∨ r.submitted < r.completed ∨
    r.completed < r.applied ∨ r.completed < r.resultTerminal ∨ r.submitted < executionTerminal ∨
    r.targeted < r.terminalCount ∨ r.submitted < r.cancellationUnconfirmed ∨
    r.targeted < r.cancellationUnconfirmed + r.terminalCount ∨
    allTerminal = true ∧ r.terminalCount ≠ r.targeted) "counters.bounds"

end ReportCounters

namespace ItemRecord

def submitted (v : ItemRecord) : Bool := v.history.any (·.executionInputCommittedAt.isSome)

def completed (v : ItemRecord) : Bool := v.history.any (·.resultCompletedAt.isSome)

def unconfirmed (v : ItemRecord) : Bool := v.currentExecution.any (·.cancellationUnconfirmed)

end ItemRecord

/-- `r.Counter++` under a condition. -/
def tick (c : Prop) [Decidable c] : Int := if c then 1 else 0

/-- One turn of the loop of `ReconcileReport`. -/
def ReportCounters.add (r : ReportCounters) (v : ItemRecord) : ReportCounters :=
  let ended (d : ItemDisposition) : Int := tick (v.disposition = some d)
  { targeted := r.targeted
    prepared := r.prepared + tick (v.preparedAt.isSome = true)
    submitted := r.submitted + tick (v.submitted = true)
    completed := r.completed + tick (v.completed = true)
    applied := r.applied + ended .applied
    skippedSourceMissing := r.skippedSourceMissing + ended .skippedSourceMissing
    skippedSourceMissingBeforeDisclosure :=
      r.skippedSourceMissingBeforeDisclosure + ended .skippedSourceMissingBeforeDisclosure
    skippedSourceChangedBeforeDisclosure :=
      r.skippedSourceChangedBeforeDisclosure + ended .skippedSourceChangedBeforeDisclosure
    resultNotAppliedSourceMissing :=
      r.resultNotAppliedSourceMissing + ended .resultNotAppliedSourceMissing
    resultNotAppliedSourceChanged :=
      r.resultNotAppliedSourceChanged + ended .resultNotAppliedSourceChanged
    failedPreparation := r.failedPreparation + ended .failedPreparation
    failedExecution := r.failedExecution + ended .failedExecution
    invalidResult := r.invalidResult + ended .invalidResult
    cancelledBeforeDisclosure := r.cancelledBeforeDisclosure + ended .cancelledBeforeDisclosure
    cancelledAfterDisclosure := r.cancelledAfterDisclosure + ended .cancelledAfterDisclosure
    cancellationUnconfirmed := r.cancellationUnconfirmed + tick (v.unconfirmed = true) }

def reconcileItems (r : ReportCounters) : List ItemRecord → ReportCounters × Check
  | [] => (r, r.validateLogicalBounds false)
  | item :: rest =>
    match item.validate with
    | .error e => ({}, .error e)
    | .ok _ => reconcileItems (r.add item) rest

def reconcileReport (items : List ItemRecord) : ReportCounters × Check :=
  reconcileItems { targeted := items.length } items

/-! ## What the validation of one item implies -/

theorem ItemRecord.validateExecutions_validate {v : ItemRecord} {index : Nat}
    {l : List ItemExecutionRecord} (h : v.validateExecutions index l = .ok ()) :
    ∀ e ∈ l, e.validate = .ok () := by
  induction l generalizing index with
  | nil => simp
  | cons e l ih =>
    simp only [validateExecutions, then_eq_ok] at h
    obtain ⟨he, -, -, hl⟩ := h
    simpa using ⟨he, ih hl⟩

/-- What the counters need to know of a valid item. -/
structure ItemRecord.Counted (v : ItemRecord) : Prop where
  prepared : v.submitted = true → v.preparedAt.isSome = true
  submitted : v.completed = true → v.submitted = true
  completed : v.disposition ∈ [some .applied, some .resultNotAppliedSourceMissing,
    some .resultNotAppliedSourceChanged, some .invalidResult] → v.completed = true
  executed : v.disposition ∈ [some .failedExecution, some .cancelledAfterDisclosure] →
    v.submitted = true
  unconfirmed : v.unconfirmed = true → v.submitted = true ∧ v.disposition = none
  known : ∀ text, v.disposition ≠ some (.other text)

open List

section

variable {v : ItemRecord}

theorem ItemExecutionRecord.input_of_validate {e : ItemExecutionRecord} (h : e.validate = .ok ()) :
    (e.resultCompletedAt.isSome → e.executionInputCommittedAt.isSome) ∧
      (e.disclosureCommittedAt.isSome → e.executionInputCommittedAt.isSome) ∧
      (e.cancellationUnconfirmed = true →
        e.outcome = none ∧ e.executionInputCommittedAt.isSome) := by
  simp only [validate, then_eq_ok, rejectIf_eq_ok] at h
  obtain ⟨-, -, -, -, -, -, -, -, -, -, hdisclosed, -, hresult, -, -, hunconfirmed, -⟩ := h
  simp only [not_and, not_or] at hdisclosed hresult hunconfirmed
  refine ⟨fun h => ?_, fun h => ?_, fun h => ?_⟩
  · exact Option.isSome_iff_ne_none.mpr (hresult h)
  · exact Option.isSome_iff_ne_none.mpr (hdisclosed h)
  · obtain ⟨houtcome, hinput, -⟩ := hunconfirmed h
    exact ⟨by simpa using houtcome, Option.isSome_iff_ne_none.mpr hinput⟩

/-- What is set in the current execution is set in one of the executions. -/
theorem ItemRecord.any_of_current {p : ItemExecutionRecord → Bool}
    (h : v.currentExecution.any p = true) : v.history.any p = true := by
  obtain ⟨e, he, hp⟩ := (Option.any_eq_true _ _).mp h
  exact any_eq_true.mpr ⟨e, mem_of_getLast? he, hp⟩

theorem ItemRecord.counted_of_validate (h : v.validate = .ok ()) : v.Counted := by
  simp only [validate, then_eq_ok, rejectIf_eq_ok] at h
  obtain ⟨-, -, -, -, -, -, -, -, -, hexecutions, -, hprepared, -, hknown, -, -, -, happlied,
    hdisposition, -⟩ := h
  have hvalid := validateExecutions_validate hexecutions
  have hsubmitted : ∀ e ∈ v.history, e.executionInputCommittedAt.isSome → v.submitted = true :=
    fun e he hi => any_eq_true.mpr ⟨e, he, hi⟩
  have hcurrent : ∀ e, v.currentExecution = some e → e ∈ v.history :=
    fun e he => mem_of_getLast? he
  refine ⟨fun hs => ?_, fun hc => ?_, fun hd => ?_, fun hd => ?_, fun hu => ?_,
    fun text htext => ?_⟩
  · obtain ⟨e, he, -⟩ := any_eq_true.mp hs
    have hne : v.history ≠ [] := ne_nil_of_mem he
    simpa [Option.isSome_iff_ne_none] using fun hnone => hprepared ⟨hne, hnone⟩
  · obtain ⟨e, he, hresult⟩ := any_eq_true.mp hc
    exact hsubmitted e he ((ItemExecutionRecord.input_of_validate (hvalid e he)).1 hresult)
  · -- each of the four dispositions asks the current execution for a result
    refine any_of_current (p := (·.resultCompletedAt.isSome)) ?_
    cases hexec : v.currentExecution with
    | none =>
      simp only [mem_cons, not_mem_nil, or_false] at hd
      obtain hd | hd | hd | hd := hd <;>
        simp [hd, hexec, validateDisposition] at happlied hdisposition
    | some e =>
      simp only [mem_cons, not_mem_nil, or_false] at hd
      obtain hd | hd | hd | hd := hd <;>
        simp_all [validateDisposition, Option.isSome_iff_ne_none]
  · cases hexec : v.currentExecution with
    | none =>
      simp only [mem_cons, not_mem_nil, or_false] at hd
      obtain hd | hd := hd <;> simp [hd, hexec, validateDisposition] at hdisposition
    | some e =>
      refine hsubmitted e (hcurrent e hexec) ?_
      simp only [mem_cons, not_mem_nil, or_false] at hd
      obtain hd | hd := hd
      · simp only [validateDisposition, hd, hexec, rejectIf_eq_ok] at hdisposition
        simpa [Option.isSome_iff_ne_none] using fun hnone => hdisposition (.inl hnone)
      · simp only [validateDisposition, hd, hexec, rejectIf_eq_ok] at hdisposition
        refine (ItemExecutionRecord.input_of_validate (hvalid e (hcurrent e hexec))).2.1 ?_
        simpa [Option.isSome_iff_ne_none] using fun hnone => hdisposition (.inr (.inl hnone))
  · obtain ⟨e, hexec, hunconfirmed⟩ := (Option.any_eq_true _ _).mp hu
    obtain ⟨houtcome, hinput⟩ :=
      (ItemExecutionRecord.input_of_validate (hvalid e (hcurrent e hexec))).2.2 hunconfirmed
    refine ⟨hsubmitted e (hcurrent e hexec) hinput, ?_⟩
    -- every disposition asks for an outcome of the current execution, or that it had no input
    cases hd : v.disposition with
    | none => rfl
    | some d =>
      cases d <;>
        simp_all [validateDisposition, Option.isSome_iff_ne_none, ItemDisposition.unknown]
  · simp [htext, ItemDisposition.unknown] at hknown

end

/-! ## The counters of a list -/

open ReportCounters

/-- The inequalities of `validateLogicalBounds`, with the number of items counted so far. -/
structure ReportCounters.Consistent (r : ReportCounters) (count : Int) : Prop where
  parts : ∀ current ∈ r.parts, 0 ≤ current
  prepared : r.prepared ≤ count
  submitted : r.submitted ≤ r.prepared
  completed : r.completed ≤ r.submitted
  results : r.resultTerminal ≤ r.completed
  executed : r.resultTerminal + r.failedExecution + r.cancelledAfterDisclosure ≤ r.submitted
  unconfirmed : r.cancellationUnconfirmed ≤ r.submitted
  terminal : r.cancellationUnconfirmed + r.terminalCount ≤ count

section

variable {r : ReportCounters} {count : Int} {v : ItemRecord} {items : List ItemRecord}

theorem tick_nonneg (c : Prop) [Decidable c] : 0 ≤ tick c := by
  unfold tick
  split <;> decide

theorem tick_le_one (c : Prop) [Decidable c] : tick c ≤ 1 := by
  unfold tick
  split <;> decide

theorem tick_le_tick {c d : Prop} [Decidable c] [Decidable d] (h : c → d) : tick c ≤ tick d := by
  unfold tick
  split
  · rw [if_pos (h ‹c›)]
  · split <;> decide

@[simp] theorem tick_true {c : Prop} [Decidable c] (h : c) : tick c = 1 := if_pos h

@[simp] theorem tick_false {c : Prop} [Decidable c] (h : ¬ c) : tick c = 0 := if_neg h

/-- The counters of one valid item contradict nothing. -/
theorem ItemRecord.Counted.consistent (hv : v.Counted) :
    (ReportCounters.add {} v).Consistent 1 := by
  have hp := tick_le_one (v.preparedAt.isSome = true)
  have hs := tick_le_tick hv.prepared
  have hc := tick_le_tick hv.submitted
  have hc0 := tick_nonneg (v.completed = true)
  have hu := tick_le_tick fun hu => (hv.unconfirmed hu).1
  have hu0 := tick_nonneg (v.unconfirmed = true)
  cases hd : v.disposition with
  | none =>
    constructor <;> simp [ReportCounters.add, ReportCounters.parts, resultTerminal,
      terminalCount, hd] <;> omega
  | some d =>
    have hnone : tick (v.unconfirmed = true) = 0 :=
      tick_false fun hu => by cases (hv.unconfirmed hu).2.symm.trans hd
    have hresult : d ∈ [.applied, .resultNotAppliedSourceMissing, .resultNotAppliedSourceChanged,
        .invalidResult] → tick (v.completed = true) = 1 :=
      fun h => tick_true (hv.completed (by simpa [hd] using h))
    have hexecuted : d ∈ [.failedExecution, .cancelledAfterDisclosure] →
        tick (v.submitted = true) = 1 :=
      fun h => tick_true (hv.executed (by simpa [hd] using h))
    cases d with
    | other text => exact absurd hd (hv.known text)
    | _ =>
      simp at hresult hexecuted
      constructor <;> simp [ReportCounters.add, ReportCounters.parts,
        resultTerminal, terminalCount, hd] <;> omega

theorem ReportCounters.Consistent.add (h : r.Consistent count) (hv : v.Counted) :
    (r.add v).Consistent (count + 1) := by
  -- every counter of `r.add v` is that of `r` and that of the item alone
  obtain ⟨hparts, hp, hs, hc, hr, he, hu, ht⟩ := h
  obtain ⟨hparts', hp', hs', hc', hr', he', hu', ht'⟩ := hv.consistent
  simp only [ReportCounters.add, ReportCounters.parts, resultTerminal,
    terminalCount, forall_mem_cons, not_mem_nil, false_implies,
    implies_true, and_true, zero_add] at hparts hr he ht hparts' hp' hs' hc' hr' he' hu' ht'
  constructor
  all_goals
    simp only [ReportCounters.add, ReportCounters.parts, resultTerminal,
      terminalCount, forall_mem_cons, not_mem_nil, false_implies,
      implies_true, and_true]
    omega

theorem ReportCounters.Consistent.validate (h : r.Consistent r.targeted)
    (hmaximum : r.targeted ≤ maximumItems) : r.validateLogicalBounds false = .ok () := by
  obtain ⟨hparts, hp, hs, hc, hr, he, hu, ht⟩ := h
  simp only [ReportCounters.parts, resultTerminal, terminalCount,
    forall_mem_cons, not_mem_nil, false_implies, implies_true, and_true] at hparts hr he ht
  simp only [validateLogicalBounds, then_eq_ok, rejectIf_eq_ok]
  refine ⟨by omega, ?_, ?_⟩
  · simp only [ReportCounters.parts, mem_cons, not_mem_nil, or_false, exists_eq_or_imp,
      exists_eq_left, not_or, not_lt]
    omega
  · simp only [resultTerminal, terminalCount, Bool.false_eq_true,
      false_and, or_false, not_or, not_lt]
    omega

theorem ReportCounters.terminalCount_add (hv : v.Counted) :
    (r.add v).terminalCount = r.terminalCount + tick (v.disposition.isSome = true) := by
  cases hd : v.disposition with
  | none => simp [add, terminalCount, hd]
  | some d =>
    cases d with
    | other text => exact absurd hd (hv.known text)
    | _ => simp [add, terminalCount, hd]; ring

theorem ReportCounters.add_right_comm (a b : ItemRecord) : (r.add a).add b = (r.add b).add a := by
  ext <;> simp only [add] <;> ring

/-- Over valid items the loop counts them all. -/
theorem reconcileItems_eq (h : ∀ v ∈ items, v.validate = .ok ()) : reconcileItems r items =
      (items.foldl .add r, (items.foldl .add r).validateLogicalBounds false) := by
  induction items generalizing r with
  | nil => rfl
  | cons v items ih =>
    rw [forall_mem_cons] at h
    simp only [reconcileItems, h.1, foldl_cons]
    exact ih h.2

/-- What the loop keeps: the inequalities, and the number of items with a disposition. -/
theorem foldl_add_consistent (h : ∀ v ∈ items, v.validate = .ok ()) (hr : r.Consistent count) :
    (items.foldl .add r).Consistent (count + items.length) ∧
      (items.foldl .add r).targeted = r.targeted ∧ (items.foldl .add r).terminalCount =
        r.terminalCount + items.countP (·.disposition.isSome) := by
  induction items generalizing r count with
  | nil => simpa using hr
  | cons v items ih =>
    rw [forall_mem_cons] at h
    have hv := ItemRecord.counted_of_validate h.1
    obtain ⟨hcons, htargeted, hterminal⟩ := ih h.2 (hr.add hv)
    refine ⟨?_, htargeted, ?_⟩
    · simpa [add_assoc, add_comm (1 : Int)] using hcons
    · rw [foldl_cons, hterminal, terminalCount_add hv, countP_cons, tick]
      push_cast
      ring

theorem ReportCounters.consistent_zero (targeted : Int) :
    ({ targeted := targeted } : ReportCounters).Consistent 0 := by
  constructor <;> simp [parts, resultTerminal, terminalCount]

/-- **Reports are consistent.** Valid items, in any order, give one report; it is accepted, counts
the list and the items that have ended, and its counters bound one another. -/
theorem reconcileReport_consistent (items : List ItemRecord) (hlength : items.length ≤ maximumItems)
    (hvalid : ∀ v ∈ items, v.validate = .ok ()) : (reconcileReport items).2 = .ok () ∧
      (∀ items', items'.Perm items → reconcileReport items' = reconcileReport items) ∧
      let r := (reconcileReport items).1
      r.targeted = items.length ∧ r.terminalCount = items.countP (·.disposition.isSome) ∧
        r.applied + r.resultNotAppliedSourceMissing + r.resultNotAppliedSourceChanged +
          r.invalidResult ≤ r.completed ∧
        r.completed ≤ r.submitted ∧ r.submitted ≤ r.prepared ∧ r.prepared ≤ r.targeted ∧
        r.cancellationUnconfirmed + r.terminalCount ≤ r.targeted := by
  obtain ⟨hr, htargeted, hterminal⟩ := foldl_add_consistent hvalid
    (consistent_zero items.length)
  have heq := reconcileItems_eq (r := { targeted := items.length }) hvalid
  refine ⟨?_, fun items' hperm => ?_, ?_⟩
  · rw [reconcileReport, heq]
    refine Consistent.validate ?_ ?_
    · simpa [htargeted] using hr
    · simpa [htargeted] using hlength
  · have hvalid' : ∀ v ∈ items', v.validate = .ok () := fun v hv => hvalid v (hperm.mem_iff.mp hv)
    rw [reconcileReport, reconcileReport, reconcileItems_eq hvalid', heq, hperm.length_eq,
      hperm.foldl_eq' fun a _ b _ r => add_right_comm a b]
  · rw [reconcileReport, heq]
    obtain ⟨-, hp, hs, hc, hresults, -, -, hend⟩ := hr
    simp only [zero_add] at hp hend
    refine ⟨htargeted, by simpa [terminalCount] using hterminal, hresults, hc, hs, ?_,
      ?_⟩
    · simpa [htargeted] using hp
    · simpa [htargeted] using hend

end

/-! ## A sample item -/

namespace Sample

/-- The first execution of the item, on this device; it has run and its result is there. -/
def execution : ItemExecutionRecord :=
  ⟨1, 1, id 1, id 2, .directLocal, id 3, 1, id 4, none, some 10, none, none, some 20, some 30,
    some (digest 1), false, some .succeeded, none⟩

def item : ItemRecord :=
  ⟨1, id 2, id 1, 1, .directLocal, ⟨goString "facets:root", goString "note", goString "n1"⟩, none,
    some (digest 2), some 5, some [execution], some 40, some (id 5), some .applied, none⟩

end Sample

theorem reconcileReport_consistent_sample :
    Sample.item.validate = .ok () ∧ (reconcileReport [Sample.item, Sample.item]).2 = .ok () := by
  have hvalid : Sample.item.validate = .ok () := by decide +kernel
  exact ⟨hvalid, (reconcileReport_consistent [Sample.item, Sample.item] (by decide)
    (by simpa using hvalid)).1⟩

end FacetsNode.ComputeQueue
