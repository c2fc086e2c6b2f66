import FacetsNode.ComputeQueue.Report

/-!
# The history of an item

Whatever functions accept the revisions of an item, its executions only grow: a step keeps them,
revises the last one, or appends one (`HistoryStep`). What an execution has once recorded stays, and
so no counter of the report goes down, the unconfirmed cancellations apart.

The functions validate the new record and not the one before it. A record that never passed
`validate` may hold a result digest without a result, and that digest may still change.
-/

namespace FacetsNode.ComputeQueue

variable (sha256 : List UInt8 → List UInt8)

/-- A revision of an item that one of the three functions accepts. -/
inductive ItemStep (previous v : ItemRecord) : Prop
  | updated (h : v.validateUpdateFrom previous = .ok ())
  | reconciled (assignment : AssignmentRecord) (receipts : List VerifiedReceipt)
      (h : v.validateReconciledUpdateFrom sha256 previous assignment receipts = .ok ())
  | retried (attempt : AuthorizedAttempt) (h : v.validateRetryAppendFrom previous attempt = .ok ())

/-- The milestones of `prior` stand in `current`. -/
structure ItemExecutionRecord.Keeps (prior current : ItemExecutionRecord) : Prop where
  input : prior.executionInputCommittedAt.isSome →
    current.executionInputCommittedAt = prior.executionInputCommittedAt
  disclosure : prior.disclosureCommittedAt.isSome →
    current.disclosureCommittedAt = prior.disclosureCommittedAt
  custody : prior.custodyAcceptedAt.isSome → current.custodyAcceptedAt = prior.custodyAcceptedAt
  result : prior.resultCompletedAt.isSome → current.resultCompletedAt = prior.resultCompletedAt
  digest : prior.validate = .ok () → prior.resultDigest.isSome →
    current.resultDigest = prior.resultDigest
  terminal : prior.validate = .ok () → prior.terminalAt.isSome →
    current.terminalAt = prior.terminalAt

open Option

namespace ItemExecutionRecord

variable {prior current next : ItemExecutionRecord}

theorem Keeps.refl : prior.Keeps prior :=
  ⟨fun _ => rfl, fun _ => rfl, fun _ => rfl, fun _ => rfl, fun _ _ => rfl, fun _ _ => rfl⟩

theorem Keeps.trans (h : prior.Keeps current) (h' : current.Keeps next)
    (hvalid : current.validate = .ok ()) : prior.Keeps next where
  input hs := (h'.input (h.input hs ▸ hs)).trans (h.input hs)
  disclosure hs := (h'.disclosure (h.disclosure hs ▸ hs)).trans (h.disclosure hs)
  custody hs := (h'.custody (h.custody hs ▸ hs)).trans (h.custody hs)
  result hs := (h'.result (h.result hs ▸ hs)).trans (h.result hs)
  digest hv hs := (h'.digest hvalid (h.digest hv hs ▸ hs)).trans (h.digest hv hs)
  terminal hv hs := (h'.terminal hvalid (h.terminal hv hs ▸ hs)).trans (h.terminal hv hs)

/-- In a valid execution a digest stands beside a result, and an end beside an outcome. -/
theorem pairs_of_validate (h : prior.validate = .ok ()) :
    (prior.resultCompletedAt = none ↔ prior.resultDigest = none) ∧
      (prior.terminalAt = none ↔ prior.outcome = none) := by
  simp only [validate, then_eq_ok, rejectIf_eq_ok, not_or, not_not] at h
  obtain ⟨-, -, -, -, -, -, -, -, -, -, -, -, -, hpairs, -⟩ := h
  exact hpairs

/-- A valid execution without an outcome has no end. -/
theorem terminal_of_open (hopen : prior.outcome = none) (hvalid : prior.validate = .ok ()) :
    ¬ prior.terminalAt.isSome := by
  simp [(pairs_of_validate hvalid).2.mpr hopen]

theorem keeps_of_update (h : current.validateUpdateFrom prior = .ok ()) :
    prior.Keeps current ∧ (prior.cancellationUnconfirmed = true →
      current.cancellationUnconfirmed = true) := by
  simp only [validateUpdateFrom, then_eq_ok, rejectIf_eq_ok, not_and, not_not, not_or,
    Bool.not_eq_true, isSome_eq_false_iff, isNone_iff_eq_none] at h
  obtain ⟨-, -, hinput, hdisclosure, hcustody, hresult, hunconfirmed, hopen⟩ := h
  refine ⟨⟨hinput, hdisclosure, hcustody, fun hs => (hresult hs).1, fun hvalid hs => ?_,
    fun hvalid hs => absurd hs (terminal_of_open hopen hvalid)⟩, fun hu => by
      simpa using hunconfirmed hu⟩
  refine (hresult ?_).2
  rw [isSome_iff_ne_none] at hs ⊢
  exact fun hnone => hs ((pairs_of_validate hvalid).1.mp hnone)

theorem keeps_of_reconciliation
    (h : current.validateCancellationReconciliationFrom prior = .ok ()) : prior.Keeps current := by
  simp only [validateCancellationReconciliationFrom, then_eq_ok, rejectIf_eq_ok, not_or, not_not,
    Bool.not_eq_true, isSome_eq_false_iff, isNone_iff_eq_none] at h
  obtain ⟨-, -, hinput, hdisclosure, hcustody, hresult, hdigest, -, -, hopen, -⟩ := h
  exact ⟨fun _ => hinput, fun _ => hdisclosure, fun _ => hcustody, fun _ => hresult,
    fun _ _ => hdigest, fun hvalid hs => absurd hs (terminal_of_open hopen hvalid)⟩

end ItemExecutionRecord

/-! ## One step -/

/-- What a step makes of the executions; only a settled cancellation is no longer unconfirmed. -/
inductive HistoryStep (settles : Prop) : List ItemExecutionRecord → List ItemExecutionRecord → Prop
  | same (l : List ItemExecutionRecord) : HistoryStep settles l l
  | revised (l : List ItemExecutionRecord) (prior current : ItemExecutionRecord)
      (hkeeps : prior.Keeps current)
      (hunconfirmed : ¬ settles → prior.cancellationUnconfirmed = true →
        current.cancellationUnconfirmed = true) :
      HistoryStep settles (l ++ [prior]) (l ++ [current])
  | appended (l : List ItemExecutionRecord) (e : ItemExecutionRecord) :
      HistoryStep settles l (l ++ [e])

/-- What every accepted step says of the two records. -/
structure ItemStep.Facts (previous v : ItemRecord) : Prop where
  valid : v.validate = .ok ()
  identity : v.id = previous.id ∧ v.occurrenceID = previous.occurrenceID ∧
    v.destinationKind = previous.destinationKind ∧ v.sourceObjectID = previous.sourceObjectID
  revision : previous.revision ≠ maxUint64 ∧ v.revision = previous.revision + 1
  prepared : previous.preparedAt.isSome → v.preparedAt = previous.preparedAt
  unfinished : previous.disposition = none
  history : HistoryStep (∃ assignment receipts,
    v.validateReconciledUpdateFrom sha256 previous assignment receipts = .ok ())
    previous.history v.history

open List

section

variable {sha256} {previous v : ItemRecord}

theorem ItemRecord.eq_concat {e} (h : v.currentExecution = some e) :
    v.history = v.history.dropLast ++ [e] :=
  (dropLast_append_getLast? e h).symm

theorem ItemRecord.historyStep_of_validateHistory {settles : Prop} {allow}
    (hsettles : allow = true → settles) (h : v.validateHistory previous allow = .ok ()) :
    HistoryStep settles previous.history v.history := by
  unfold validateHistory at h
  split at h
  · next hlength =>
    split at h
    · next current prior hcurrent hprior =>
      simp only [then_eq_ok, rejectIf_eq_ok, not_not] at h
      obtain ⟨hearlier, hlast⟩ := h
      rw [eq_concat hcurrent, eq_concat hprior, hearlier]
      split at hlast
      · next heq => exact heq ▸ .same _
      · split at hlast
        · next hallow =>
          exact .revised _ _ _ (ItemExecutionRecord.keeps_of_reconciliation hlast)
            fun hnot => absurd (hsettles hallow) hnot
        · obtain ⟨hkeeps, hunconfirmed⟩ := ItemExecutionRecord.keeps_of_update hlast
          exact .revised _ _ _ hkeeps fun _ => hunconfirmed
    · next hnone =>
      -- one of the two has no last execution, so neither has any
      have hempty : previous.history = [] ∨ v.history = [] := by
        by_contra hne
        rw [not_or] at hne
        exact hnone _ _ (List.getLast?_eq_some_getLast hne.2)
          (List.getLast?_eq_some_getLast hne.1)
      have hboth : previous.history = [] ∧ v.history = [] := by
        obtain hempty | hempty := hempty
        · exact ⟨hempty, length_eq_zero_iff.mp (by rw [hlength, hempty]; rfl)⟩
        · exact ⟨length_eq_zero_iff.mp (by rw [← hlength, hempty]; rfl), hempty⟩
      rw [hboth.1, hboth.2]
      exact .same _
  · simp only [rejectIf_eq_ok, not_or, not_not] at h
    obtain ⟨hempty, hone⟩ := h
    obtain ⟨e, l, hcons, -, hl⟩ := map_eq_cons_iff.mp hone
    rw [hempty, hcons, map_eq_nil_iff.mp hl]
    exact .appended [] e

theorem ItemRecord.facts_of_validateUpdate {allow} (hsettles : allow = true → ∃ assignment receipts,
      v.validateReconciledUpdateFrom sha256 previous assignment receipts = .ok ())
    (h : v.validateUpdate previous allow = .ok ()) : ItemStep.Facts sha256 previous v := by
  simp only [validateUpdate, then_eq_ok, rejectIf_eq_ok, not_or, not_and, not_not,
    Bool.not_eq_true, isSome_eq_false_iff, isNone_iff_eq_none] at h
  obtain ⟨hvalid, hidentity, hrevision, hhistory, -, hprepared, -, hunfinished⟩ := h
  exact ⟨hvalid, hidentity, hrevision, fun hs => (hprepared hs).2.2, hunfinished,
    historyStep_of_validateHistory hsettles hhistory⟩

theorem ItemStep.facts (h : ItemStep sha256 previous v) : ItemStep.Facts sha256 previous v := by
  cases h with
  | updated h => exact ItemRecord.facts_of_validateUpdate (absurd · Bool.false_ne_true) h
  | reconciled assignment receipts h =>
    refine ItemRecord.facts_of_validateUpdate (fun _ : true = true => ⟨assignment, receipts, h⟩) ?_
    unfold ItemRecord.validateReconciledUpdateFrom at h
    obtain ⟨index, -, h⟩ := bind_eq_ok.mp h
    dsimp only at h
    split at h
    · simp only [then_eq_ok] at h
      exact h.2.2.2.2
    · exact absurd h invalid_ne_ok
  | retried attempt h =>
    simp only [ItemRecord.validateRetryAppendFrom, then_eq_ok, rejectIf_eq_ok, not_or, not_not,
      Bool.not_eq_true, isSome_eq_false_iff, isNone_iff_eq_none] at h
    obtain ⟨hvalid, ⟨hid, hoccurrence, hkind, hobject, -, -, hprepared, hmax, hrevision,
      hunfinished, -, -, -, -, hlength, hearlier⟩, -⟩ := h
    refine ⟨hvalid, ⟨hid, hoccurrence, hkind, hobject⟩, ⟨hmax, hrevision⟩, fun _ => hprepared,
      hunfinished, ?_⟩
    have hne : v.history ≠ [] := ne_nil_of_length_eq_add_one hlength
    rw [← dropLast_append_getLast hne, hearlier]
    exact .appended _ _

end

/-! ## Chains -/

/-- What a chain from `first` to `last` has kept. -/
structure ItemRecord.Extends (first last : ItemRecord) : Prop where
  identity : last.id = first.id ∧ last.occurrenceID = first.occurrenceID ∧
    last.destinationKind = first.destinationKind ∧ last.sourceObjectID = first.sourceObjectID
  length : first.history.length ≤ last.history.length
  earlier : ∀ i, i + 1 < first.history.length → last.history[i]? = first.history[i]?
  milestones : ∀ (i : Nat) (e : ItemExecutionRecord), first.history[i]? = some e →
    ∃ e', last.history[i]? = some e' ∧ e.Keeps e'
  prepared : first.preparedAt.isSome → last.preparedAt = first.preparedAt

section

variable {sha256} {first previous last v : ItemRecord}

theorem HistoryStep.extends {settles : Prop} {l l' : List ItemExecutionRecord}
    (h : HistoryStep settles l l') : l.length ≤ l'.length ∧
      (∀ i, i + 1 < l.length → l'[i]? = l[i]?) ∧
      ∀ (i : Nat) (e : ItemExecutionRecord), l[i]? = some e → ∃ e', l'[i]? = some e' ∧ e.Keeps e' ∧
          (¬ settles → e.cancellationUnconfirmed = true → e'.cancellationUnconfirmed = true) := by
  cases h with
  | same => exact ⟨le_rfl, fun _ _ => rfl, fun i e he => ⟨e, he, .refl, fun _ hu => hu⟩⟩
  | revised l prior current hkeeps hunconfirmed =>
    refine ⟨by simp, fun i hi => ?_, fun i e he => ?_⟩
    · have hlt : i < l.length := by simpa using hi
      rw [List.getElem?_append_left hlt, List.getElem?_append_left hlt]
    · by_cases hlt : i < l.length
      · rw [List.getElem?_append_left hlt] at he
        exact ⟨e, (List.getElem?_append_left hlt).trans he, .refl, fun _ hu => hu⟩
      · have hbound := (List.getElem?_eq_some_iff.mp he).1
        have hi : i = l.length := by
          rw [length_append, length_singleton] at hbound
          omega
        subst hi
        rw [List.getElem?_concat_length, some.injEq] at he
        exact ⟨current, List.getElem?_concat_length, he ▸ hkeeps, he ▸ hunconfirmed⟩
  | appended l e =>
    have hleft : ∀ i, i < l.length → (l ++ [e])[i]? = l[i]? :=
      fun i hi => List.getElem?_append_left hi
    refine ⟨by simp, fun i hi => hleft i (by omega), fun i prior he => ?_⟩
    have hi : i < l.length := (List.getElem?_eq_some_iff.mp he).1
    exact ⟨prior, (hleft i hi).trans he, .refl, fun _ hu => hu⟩

theorem ItemStep.Facts.extends (h : ItemStep.Facts sha256 previous v) : previous.Extends v := by
  obtain ⟨hlength, hearlier, hmilestones⟩ := h.history.extends
  refine ⟨h.identity, hlength, hearlier, fun i e he => ?_, h.prepared⟩
  obtain ⟨e', he', hkeeps, -⟩ := hmilestones i e he
  exact ⟨e', he', hkeeps⟩

theorem ItemRecord.Extends.refl : first.Extends first :=
  ⟨⟨rfl, rfl, rfl, rfl⟩, le_rfl, fun _ _ => rfl, fun _ e he => ⟨e, he, .refl⟩, fun _ => rfl⟩

theorem ItemRecord.valid_of_mem_history (h : v.validate = .ok ()) :
    ∀ e ∈ v.history, e.validate = .ok () := by
  simp only [validate, then_eq_ok] at h
  exact validateExecutions_validate h.2.2.2.2.2.2.2.2.2.1

theorem ItemRecord.Extends.trans (h : first.Extends previous) (h' : previous.Extends last)
    (hvalid : previous.validate = .ok ()) : first.Extends last where
  identity := ⟨h'.identity.1.trans h.identity.1, h'.identity.2.1.trans h.identity.2.1,
    h'.identity.2.2.1.trans h.identity.2.2.1, h'.identity.2.2.2.trans h.identity.2.2.2⟩
  length := h.length.trans h'.length
  earlier i hi := (h'.earlier i (hi.trans_le h.length)).trans (h.earlier i hi)
  milestones i e he := by
    obtain ⟨e₁, he₁, hkeeps⟩ := h.milestones i e he
    obtain ⟨e₂, he₂, hkeeps'⟩ := h'.milestones i e₁ he₁
    exact ⟨e₂, he₂, hkeeps.trans hkeeps'
      (valid_of_mem_history hvalid e₁ (mem_of_getElem? he₁))⟩
  prepared hs := (h'.prepared (h.prepared hs ▸ hs)).trans (h.prepared hs)

/-- A chain with a step ends in a valid record, and its first record had not ended. -/
theorem extends_of_chain (h : Relation.ReflTransGen (ItemStep sha256) first last) :
    first.Extends last ∧ (first = last ∨ first.disposition = none ∧ last.validate = .ok ()) := by
  induction h with
  | refl => exact ⟨.refl, .inl rfl⟩
  | tail _ hstep ih =>
    obtain ⟨hextends, hends⟩ := ih
    have hfacts := hstep.facts
    obtain rfl | ⟨hunfinished, hvalid⟩ := hends
    · exact ⟨hfacts.extends, .inr ⟨hfacts.unfinished, hfacts.valid⟩⟩
    · exact ⟨hextends.trans hfacts.extends hvalid, .inr ⟨hunfinished, hfacts.valid⟩⟩

/-! ## The report along a chain -/

/-- No counter but the last, the unconfirmed cancellations, is smaller in the second report. -/
def ReportCounters.Grows (r r' : ReportCounters) : Prop :=
  List.Forall₂ (· ≤ ·) (r.targeted :: r.parts.dropLast) (r'.targeted :: r'.parts.dropLast)

/-- What an execution has recorded, an execution of the later record has. -/
theorem ItemRecord.Extends.any {p : ItemExecutionRecord → Bool} (h : first.Extends last)
    (hp : ∀ e e', ItemExecutionRecord.Keeps e e' → p e = true → p e' = true)
    (hany : first.history.any p = true) : last.history.any p = true := by
  obtain ⟨e, he, hpe⟩ := any_eq_true.mp hany
  obtain ⟨i, hi⟩ := mem_iff_getElem?.mp he
  obtain ⟨e', he', hkeeps⟩ := h.milestones i e hi
  exact any_eq_true.mpr ⟨e', mem_of_getElem? he', hp e e' hkeeps hpe⟩

theorem ReportCounters.add_grows {r : ReportCounters} (h : first.Extends last)
    (hunfinished : first.disposition = none) : (r.add first).Grows (r.add last) := by
  have hprepared := tick_le_tick fun hs : first.preparedAt.isSome = true => h.prepared hs ▸ hs
  have hsubmitted := tick_le_tick (h.any (p := (·.executionInputCommittedAt.isSome))
    fun e e' hkeeps hs => hkeeps.input hs ▸ hs)
  have hcompleted := tick_le_tick (h.any (p := (·.resultCompletedAt.isSome))
    fun e e' hkeeps hs => hkeeps.result hs ▸ hs)
  have hnone : ∀ d, tick (first.disposition = some d) = 0 := fun d =>
    tick_false (by simp [hunfinished])
  have hended := fun d => tick_nonneg (last.disposition = some d)
  simp only [Grows, ReportCounters.add, ReportCounters.parts, hnone, dropLast_cons_cons,
    dropLast_singleton, forall₂_cons, forall₂_nil_left_iff, add_zero, le_refl,
    add_le_add_iff_left, le_add_iff_nonneg_right, hended, and_true, true_and]
  exact ⟨hprepared, hsubmitted, hcompleted⟩

/-- One item of a list is counted last as well as in its place. -/
theorem foldl_add_middle (r : ReportCounters) (a b : List ItemRecord) (v : ItemRecord) :
    (a ++ v :: b).foldl .add r = ((a ++ b).foldl .add r).add v := by
  have hperm : (a ++ v :: b).Perm ((a ++ b) ++ [v]) :=
    perm_middle.trans (perm_append_singleton v (a ++ b)).symm
  rw [hperm.foldl_eq' fun x _ y _ r => ReportCounters.add_right_comm x y, foldl_append]
  rfl

theorem reconcileItems_refused {items : List ItemRecord} {r}
    (h : ¬ ∀ v ∈ items, v.validate = .ok ()) : (reconcileItems r items).1 = {} := by
  induction items generalizing r with
  | nil => simp at h
  | cons v items ih =>
    unfold reconcileItems
    split
    · rfl
    · next hv =>
      refine ih fun hall => h (forall_mem_cons.mpr ⟨hv, hall⟩)

/-- No counter is negative, whether the report is accepted or not. -/
theorem ReportCounters.zero_grows (items : List ItemRecord) :
    ({} : ReportCounters).Grows (reconcileReport items).1 := by
  by_cases hvalid : ∀ v ∈ items, v.validate = .ok ()
  · rw [reconcileReport, reconcileItems_eq hvalid]
    obtain ⟨hr, htargeted, -⟩ :=
      foldl_add_consistent hvalid (ReportCounters.consistent_zero items.length)
    have hparts := hr.parts
    simp only [ReportCounters.parts, forall_mem_cons] at hparts
    simp only [Grows, ReportCounters.parts, dropLast_cons_cons, dropLast_singleton,
      forall₂_cons, htargeted, Int.natCast_nonneg, true_and]
    simp [hparts]
  · rw [reconcileReport, reconcileItems_refused hvalid]
    simp [Grows, ReportCounters.parts]

theorem reconcileReport_grows (h : Relation.ReflTransGen (ItemStep sha256) first last)
    (a b : List ItemRecord) :
    (reconcileReport (a ++ first :: b)).1.Grows (reconcileReport (a ++ last :: b)).1 := by
  obtain ⟨hextends, rfl | ⟨hunfinished, hlast⟩⟩ := extends_of_chain h
  · exact forall₂_refl _
  · by_cases hvalid : ∀ v ∈ a ++ first :: b, v.validate = .ok ()
    · have hvalid' : ∀ v ∈ a ++ last :: b, v.validate = .ok () := by
        simp only [mem_append, mem_cons] at hvalid ⊢
        rintro v (hv | rfl | hv)
        · exact hvalid v (.inl hv)
        · exact hlast
        · exact hvalid v (.inr (.inr hv))
      have hlength : (a ++ last :: b).length = (a ++ first :: b).length := by simp
      rw [reconcileReport, reconcileReport, reconcileItems_eq hvalid, reconcileItems_eq hvalid',
        hlength, foldl_add_middle, foldl_add_middle]
      exact ReportCounters.add_grows hextends hunfinished
    · rw [show (reconcileReport (a ++ first :: b)).1 = {} from reconcileItems_refused hvalid]
      exact ReportCounters.zero_grows _

/-- **Item histories are append-only.** Take any record of a chain and a later one. The identity,
the executions before the last and every milestone stand; a result digest and an end stand where the
execution that has them is valid, as those of every record after the first are. A further step adds
one to the revision, finds no disposition, and clears an unconfirmed cancellation only as a
reconciled update. The later record in the place of the earlier lowers no counter but that of the
unconfirmed cancellations. -/
theorem item_history (first last : ItemRecord)
    (h : Relation.ReflTransGen (ItemStep sha256) first last) :
    first.Extends last ∧
      (∀ a b, (reconcileReport (a ++ first :: b)).1.Grows (reconcileReport (a ++ last :: b)).1) ∧
      ∀ v, ItemStep sha256 last v → v.validate = .ok () ∧ last.disposition = none ∧
        last.revision ≠ maxUint64 ∧ v.revision = last.revision + 1 ∧
        ∀ (i : Nat) (e e' : ItemExecutionRecord), last.history[i]? = some e →
          v.history[i]? = some e' → e.cancellationUnconfirmed = true →
          e'.cancellationUnconfirmed = false → ∃ assignment receipts,
            v.validateReconciledUpdateFrom sha256 last assignment receipts = .ok () := by
  refine ⟨(extends_of_chain h).1, reconcileReport_grows h, fun v hstep => ?_⟩
  have hfacts := hstep.facts
  refine ⟨hfacts.valid, hfacts.unfinished, hfacts.revision.1, hfacts.revision.2, ?_⟩
  intro i e e' he he' hunconfirmed hcleared
  obtain ⟨-, -, hexecutions⟩ := hfacts.history.extends
  obtain ⟨e'', he'', -, hkept⟩ := hexecutions i e he
  obtain rfl := some.inj (he'.symm.trans he'')
  by_contra hnot
  cases (hkept hnot hunconfirmed).symm.trans hcleared

end

namespace Sample

/-- The item before its execution ended. -/
def running : ItemRecord :=
  { item with
    executions := some [{ execution with
      resultCompletedAt := none, resultDigest := none, terminalAt := none, outcome := none }]
    terminalAt := none, applicationReceiptID := none, disposition := none }

/-- The next revision: the result is there. -/
def answered : ItemRecord :=
  { running with
    revision := 2
    executions := some [{ execution with revision := 2, terminalAt := none, outcome := none }] }

/-- The execution has ended. -/
def ended : ItemRecord :=
  { running with revision := 3, executions := some [{ execution with revision := 3 }] }

/-- The result is applied. -/
def disposed : ItemRecord :=
  { item with revision := 4, executions := some [{ execution with revision := 3 }] }

/-- The end and the result in one revision. -/
def finished : ItemRecord :=
  { running with revision := 2, executions := some [{ execution with revision := 2 }] }

/-- A record that does not pass `validate`: a result digest and an end, and no result. -/
def unpaired : ItemRecord :=
  { running with executions := some (running.history.map fun e =>
      { e with resultDigest := some (digest 7), terminalAt := some 25 }) }

end Sample

open Sample

/-- From the running item over its result and its end, and then to the application of the result. -/
theorem item_history_sample : running.validate = .ok () ∧ running.Extends ended ∧
      (reconcileReport [item, running]).1.Grows (reconcileReport [item, ended]).1 ∧
      ended.disposition = none ∧ disposed.revision = ended.revision + 1 := by
  have hanswered : ItemStep id running answered := .updated (by decide +kernel)
  have hended : ItemStep id answered ended := .updated (by decide +kernel)
  have hdisposed : ItemStep id ended disposed := .updated (by decide +kernel)
  obtain ⟨hextends, hgrows, hstep⟩ :=
    item_history running ended ((Relation.ReflTransGen.single hanswered).tail hended)
  obtain ⟨-, hunfinished, -, hrevision, -⟩ := hstep disposed hdisposed
  exact ⟨by decide +kernel, hextends, hgrows [item] [], hunfinished, hrevision⟩

/-- After a record that is not valid, a result digest and an end change. -/
theorem unpaired_digest_changes : finished.validateUpdateFrom unpaired = .ok () ∧
      unpaired.history.map (fun e => (e.resultDigest, e.terminalAt)) =
        [(some (digest 7), some 25)] ∧
      finished.history.map (fun e => (e.resultDigest, e.terminalAt)) =
        [(some (digest 1), some 30)] ∧ digest 7 ≠ digest 1 := by
  decide +kernel

end FacetsNode.ComputeQueue
