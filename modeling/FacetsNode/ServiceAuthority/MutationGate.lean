import FacetsNode.Lib.Run
import FacetsNode.Relay.Model

/-!
# The mutation gate of a scope

`ScopeMutationGate` (`serviceauthority`) admits any number of mutations of a scope, or one migration
drain. Its state is read and written in sections under the scope's lock; in between a call waits on
the channel it found there, and every section that may let somebody in closes that channel and puts
a new one in its place.

A run is a list of events: somebody calls `AcquireMutation` or `AcquireMigrationDrain`, a context is
cancelled, a lease is released (by anybody, and again), or a call runs on to its next point — one
section under the lock, or one `select`. So every interleaving of the sections is a run.

* `Move` — what one event does to one call and to the state of its scope;
* `ScopeOK` — the counters count the calls, and nobody waits in vain;
* `gate_of_run` — what follows for every run.
-/

namespace FacetsNode.ServiceAuthority

open Relay (UUID uuidNil)

structure Scope where
  kind : GoString
  scopeID : UUID
  deriving DecidableEq

/-- `Scope.Validate`, with `ScopeKind.Valid`. -/
def Scope.validate (s : Scope) : Bool :=
  ["device_sync", "shared_space", "compute_pool", "backup_custody"].any (goString · == s.kind) &&
    s.scopeID != uuidNil

/-- `scopeMutationState`. Channels are numbered as they are made. -/
structure ScopeMutationState where
  changed : Nat := 0
  activeMutations : Int := 0
  exclusiveActive : Bool := false
  exclusiveWaiters : Int := 0
  deriving DecidableEq

/-- What is acquired: a mutation or a migration drain. -/
inductive LeaseKind where
  | mutation
  | drain
  deriving DecidableEq

namespace ScopeMutationState

/-- `signalLocked`: the channel is closed, and a new one is made. -/
def signalLocked (s : ScopeMutationState) : ScopeMutationState :=
  { s with changed := s.changed + 1 }

/-- A channel is closed when it is replaced. -/
def closed (s : ScopeMutationState) (channel : Nat) : Bool := decide (channel < s.changed)

/-- The condition under which a call is admitted. -/
def admits (s : ScopeMutationState) : LeaseKind → Bool
  | .mutation => !s.exclusiveActive && s.exclusiveWaiters == 0
  | .drain => !s.exclusiveActive && s.activeMutations == 0

end ScopeMutationState

/-- The errors of a call: `ErrInvalid` and that of its context. -/
inductive GateError where
  | invalid
  | context
  deriving DecidableEq

/-- Where a call stands, and later its lease. -/
inductive Phase where
  | called
  /-- A drain that has yet to be counted as a waiter. -/
  | queueing
  /-- At the head of the loop. -/
  | looking
  /-- In the `select`, with the channel it found. -/
  | waiting (channel : Nat)
  /-- A drain that gave up, before its deferred section. -/
  | leaving
  | failed (error : GateError)
  | held
  /-- Inside `once.Do`, before the section that releases. -/
  | releasing
  | released
  deriving DecidableEq

/-- A call with its arguments; `context` is `none` for `nil`, and else says whether it is
cancelled. -/
structure Call where
  kind : LeaseKind
  scope : Scope
  context : Option Bool
  phase : Phase := .called
  deriving DecidableEq

namespace Call

/-- The lease of the call is out: `Release` has not got through. -/
def holds (c : Call) : Bool :=
  match c.phase with
  | .held | .releasing => true
  | _ => false

/-- The call is a drain that is counted as a waiter. -/
def queued (c : Call) : Bool :=
  decide (c.kind = .drain) && match c.phase with
    | .looking | .waiting _ | .leaving => true
    | _ => false

/-- The section at the head of the loop. -/
def look (c : Call) (s : ScopeMutationState) : Call × ScopeMutationState :=
  if s.admits c.kind then
    ({ c with phase := .held }, match c.kind with
      | .mutation => { s with activeMutations := s.activeMutations + 1 }
      | .drain => { s with
          exclusiveWaiters := s.exclusiveWaiters - 1, exclusiveActive := true }.signalLocked)
  else
    ({ c with phase := .waiting s.changed }, s)

/-- The section of `Release`. -/
def release (c : Call) (s : ScopeMutationState) : ScopeMutationState :=
  match c.kind with
  | .mutation => { s with activeMutations := s.activeMutations - 1 }.signalLocked
  | .drain => { s with exclusiveActive := false }.signalLocked

/-- `AcquireMutation`, `AcquireMigrationDrain` and `Release` up to their next point. Where both
cases of the `select` are ready, `done` says which one is taken; a call whose case is not ready
stays. -/
def next (c : Call) (done : Bool) (s : ScopeMutationState) : Call × ScopeMutationState :=
  match c.phase with
  | .called =>
    ({ c with phase := match c.context with
      | none => .failed .invalid
      | some true => .failed .context
      | some false =>
        if !c.scope.validate then .failed .invalid
        else if c.kind = .mutation then .looking else .queueing }, s)
  | .queueing =>
    ({ c with phase := .looking },
      { s with exclusiveWaiters := s.exclusiveWaiters + 1 }.signalLocked)
  | .looking => c.look s
  | .waiting channel =>
    if c.context = some true ∧ (done || !s.closed channel) then
      ({ c with phase := if c.kind = .mutation then .failed .context else .leaving }, s)
    else if s.closed channel then
      ({ c with phase := .looking }, s)
    else
      (c, s)
  | .leaving =>
    ({ c with phase := .failed .context },
      { s with exclusiveWaiters := s.exclusiveWaiters - 1 }.signalLocked)
  | .releasing => ({ c with phase := .released }, c.release s)
  | .failed _ | .held | .released => (c, s)

end Call

/-- `ScopeMutationGate`. The state of a scope is made when it is first asked for; until then it is
the new one. States are never replaced, so a call finds the state it was given under its scope. -/
structure Gate where
  scopes : Scope → ScopeMutationState := fun _ => {}
  calls : List Call := []

inductive Event where
  | acquire (kind : LeaseKind) (scope : Scope) (context : Option Bool)
  | cancel (i : Nat)
  /-- `Release` is called on the lease of call `i`. -/
  | release (i : Nat)
  /-- Call `i` runs on. -/
  | next (i : Nat) (done : Bool)

/-- What an event does to the call it is about. A call that has failed has no lease, and `once` lets
the first `Release` through. -/
def Event.apply (e : Event) (c : Call) (s : ScopeMutationState) : Call × ScopeMutationState :=
  match e with
  | .acquire .. => (c, s)
  | .cancel _ => ({ c with context := c.context.map fun _ => true }, s)
  | .release _ => (if c.phase = .held then { c with phase := .releasing } else c, s)
  | .next _ done => c.next done s

namespace Gate

/-- One event at call `i`. -/
def onCall (e : Event) (i : Nat) (g : Gate) : Gate :=
  match g.calls[i]? with
  | none => g
  | some c =>
    let (c', s') := e.apply c (g.scopes c.scope)
    ⟨Function.update g.scopes c.scope s', g.calls.set i c'⟩

def step (e : Event) (g : Gate) : Gate :=
  match e with
  | .acquire kind scope context => { g with calls := g.calls ++ [⟨kind, scope, context, .called⟩] }
  | .cancel i | .release i | .next i _ => g.onCall e i

/-- How many calls satisfy `p`. -/
def tally (g : Gate) (p : Call → Bool) : Int := g.calls.countP p

/-- The calls for a scope whose lease is out. -/
def leases (g : Gate) (scope : Scope) (kind : LeaseKind) : Int :=
  g.tally fun c => decide (c.scope = scope) && (decide (c.kind = kind) && c.holds)

/-- The drains waiting for a scope. -/
def waiters (g : Gate) (scope : Scope) : Int := g.tally fun c =>
    decide (c.scope = scope) && c.queued

end Gate

/-! ## One event -/

/-- 1 where `p` holds, and else 0. -/
def unit (p : Bool) : Int := if p then 1 else 0

@[simp] theorem unit_true : unit true = 1 := rfl

@[simp] theorem unit_false : unit false = 0 := rfl

/-- Only drains queue, and only drains have a deferred section. -/
def Call.Sane (c : Call) : Prop := c.phase = .queueing ∨ c.phase = .leaving → c.kind = .drain

/-- What an event does to its call and to the state of the scope. The counters follow the call; a
section that does not signal lets nobody in; and a call that starts to wait has just been
refused. -/
structure Move (c : Call) (s : ScopeMutationState) (c' : Call)
    (s' : ScopeMutationState) : Prop where
  scope : c'.scope = c.scope
  kind : c'.kind = c.kind
  sane : c'.Sane
  mutations : s'.activeMutations = s.activeMutations +
    unit (decide (c.kind = .mutation) && c'.holds) - unit (decide (c.kind = .mutation) && c.holds)
  waiters : s'.exclusiveWaiters = s.exclusiveWaiters + unit c'.queued - unit c.queued
  drains : (c.kind = .drain → c.holds → s.exclusiveActive) → unit s'.exclusiveActive =
    unit s.exclusiveActive + unit (decide (c.kind = .drain) && c'.holds) -
      unit (decide (c.kind = .drain) && c.holds)
  exclusive : (s.exclusiveActive → s.activeMutations ≤ 0) → s'.exclusiveActive →
    s'.activeMutations ≤ 0
  signals : 0 ≤ s.activeMutations → s.changed < s'.changed ∨
    s'.changed = s.changed ∧ ∀ kind, s'.admits kind → s.admits kind
  waits : ∀ channel, c'.phase = .waiting channel →
    c.phase = .waiting channel ∧ s' = s ∨ channel = s.changed ∧ s' = s ∧ ¬ s.admits c.kind
  admitted : c'.holds → ¬ c.holds → s.admits c.kind

/-- An event that leaves the state, and the standing of the call, alone. -/
theorem Move.quiet {c c' : Call} (s : ScopeMutationState) (hscope : c'.scope = c.scope)
    (hkind : c'.kind = c.kind) (hsane : c'.Sane) (hholds : c'.holds = c.holds)
    (hqueued : c'.queued = c.queued)
    (hwaits : ∀ channel, c'.phase = .waiting channel →
      c.phase = .waiting channel) : Move c s c' s where
  scope := hscope
  kind := hkind
  sane := hsane
  mutations := by rw [hholds]; omega
  waiters := by rw [hqueued]; omega
  drains _ := by rw [hholds]; omega
  exclusive := id
  signals _ := .inr ⟨rfl, fun _ => id⟩
  waits channel h := .inl ⟨hwaits channel h, rfl⟩
  admitted h h' := absurd (hholds ▸ h) h'

theorem move_look (c : Call) (s : ScopeMutationState) (hlooking : c.phase = .looking) :
    Move c s (c.look s).1 (c.look s).2 := by
  obtain ⟨kind, scope, context, phase⟩ := c
  subst hlooking
  unfold Call.look
  by_cases hadmits : s.admits kind
  · rw [if_pos hadmits]
    have hfree := hadmits
    cases kind with
    | mutation =>
      simp only [ScopeMutationState.admits, Bool.and_eq_true, Bool.not_eq_true',
        beq_iff_eq] at hfree
      constructor <;> try simp [Call.Sane, Call.holds, Call.queued, hfree,
        ScopeMutationState.admits]
      -- the one section that does not signal: one more mutation lets no drain in
      intro hnonneg kind
      cases kind <;> simp
      omega
    | drain =>
      simp only [ScopeMutationState.admits, Bool.and_eq_true, Bool.not_eq_true',
        beq_iff_eq] at hfree
      constructor <;> simp [Call.Sane, Call.holds, Call.queued, hfree, hadmits,
        ScopeMutationState.signalLocked]
  · rw [if_neg hadmits]
    constructor <;> simp [Call.Sane, Call.holds, Call.queued, hadmits]

theorem move_release (c : Call) (s : ScopeMutationState) (hreleasing : c.phase = .releasing) :
    Move c s { c with phase := .released } (c.release s) := by
  obtain ⟨kind, scope, context, phase⟩ := c
  subst hreleasing
  unfold Call.release
  cases kind <;> constructor <;>
    simp +contextual [Call.Sane, Call.holds, Call.queued, ScopeMutationState.signalLocked]
  intro hfree hactive
  have := hfree hactive
  omega

/-- One section that writes the number of waiters only, and signals. -/
theorem move_waiters {c c' : Call} {s : ScopeMutationState} {n : Int} (hscope : c'.scope = c.scope)
    (hkind : c'.kind = c.kind) (hsane : c'.Sane) (hholds : c'.holds = c.holds)
    (hn : n = s.exclusiveWaiters + unit c'.queued - unit c.queued)
    (hwaits : ∀ channel, c'.phase ≠ .waiting channel) :
    Move c s c' { s with exclusiveWaiters := n }.signalLocked where
  scope := hscope
  kind := hkind
  sane := hsane
  mutations := by simp [hholds, ScopeMutationState.signalLocked]
  waiters := hn
  drains _ := by simp [hholds, ScopeMutationState.signalLocked]
  exclusive := id
  signals _ := .inl (Nat.lt_succ_self _)
  waits channel h := absurd h (hwaits channel)
  admitted h h' := absurd (hholds ▸ h) h'

theorem move_next (c : Call) (hsane : c.Sane) (done : Bool) (s : ScopeMutationState) :
    Move c s (c.next done s).1 (c.next done s).2 := by
  obtain ⟨kind, scope, context, phase⟩ := c
  cases phase with
  | called =>
    rcases context with _ | _ | _ <;> cases kind <;> cases hvalid : scope.validate <;>
      refine .quiet s rfl rfl ?_ ?_ ?_ ?_ <;> simp [Call.next, Call.Sane, Call.holds, Call.queued,
        hvalid]
  | queueing =>
    obtain rfl : kind = .drain := hsane (.inl rfl)
    simp only [Call.next]
    exact move_waiters rfl rfl (by simp [Call.Sane]) rfl (by simp [Call.queued]) (by simp)
  | looking => exact move_look _ s rfl
  | waiting channel =>
    simp only [Call.next]
    split
    · cases kind <;> refine .quiet s rfl rfl ?_ ?_ ?_ ?_ <;>
        simp [Call.Sane, Call.holds, Call.queued]
    · split
      · refine .quiet s rfl rfl ?_ ?_ ?_ ?_ <;> simp [Call.Sane, Call.holds, Call.queued]
      · exact .quiet s rfl rfl hsane rfl rfl fun _ => id
  | leaving =>
    obtain rfl : kind = .drain := hsane (.inr rfl)
    simp only [Call.next]
    exact move_waiters rfl rfl (by simp [Call.Sane]) rfl (by simp [Call.queued]) (by simp)
  | releasing => exact move_release _ s rfl
  | failed | held | released => exact .quiet s rfl rfl hsane rfl rfl fun _ => id

theorem move_apply (e : Event) (c : Call) (hsane : c.Sane) (s : ScopeMutationState) :
    Move c s (e.apply c s).1 (e.apply c s).2 := by
  cases e with
  | acquire | cancel => exact .quiet s rfl rfl hsane rfl rfl fun _ => id
  | release =>
    simp only [Event.apply]
    split
    · next hheld => refine .quiet s rfl rfl ?_ ?_ ?_ ?_ <;> simp [Call.Sane, Call.holds,
        Call.queued, hheld]
    · exact .quiet s rfl rfl hsane rfl rfl fun _ => id
  | next _ done => exact move_next c hsane done s

/-! ## Runs -/

/-- The counters of the scope count its calls, a drain and a mutation are not out together, and a
call that waits on an open channel would not be admitted. -/
structure ScopeOK (g : Gate) (scope : Scope) : Prop where
  sane : ∀ c ∈ g.calls, c.Sane
  mutations : (g.scopes scope).activeMutations = g.leases scope .mutation
  waiters : (g.scopes scope).exclusiveWaiters = g.waiters scope
  drains : unit (g.scopes scope).exclusiveActive = g.leases scope .drain
  exclusive : (g.scopes scope).exclusiveActive → (g.scopes scope).activeMutations ≤ 0
  channels : ∀ c ∈ g.calls, c.scope = scope → ∀ channel, c.phase = .waiting channel →
    channel < (g.scopes scope).changed ∨
      channel = (g.scopes scope).changed ∧ ¬ (g.scopes scope).admits c.kind

variable {g : Gate} {i : Nat} {c : Call} {scope : Scope}

theorem Gate.tally_nonneg (g : Gate) (p : Call → Bool) : 0 ≤ g.tally p := Int.natCast_nonneg _

theorem Gate.tally_set {p : Call → Bool} (hc : g.calls[i]? = some c) (c' : Call)
    (scopes : Scope → ScopeMutationState) :
    Gate.tally ⟨scopes, g.calls.set i c'⟩ p = g.tally p + unit (p c') - unit (p c) := by
  unfold tally unit
  grind

theorem Gate.tally_pos {p : Call → Bool} (hc : c ∈ g.calls) (hp : p c) : 0 < g.tally p :=
  Int.natCast_pos.mpr (List.countP_pos_iff.mpr ⟨c, hc, hp⟩)

/-- An event at another scope's call. -/
theorem ScopeOK.other (h : ScopeOK g scope) (hc : g.calls[i]? = some c) (hscope : c.scope ≠ scope)
    {c' : Call} {s' : ScopeMutationState} (hmove : Move c (g.scopes c.scope) c' s') :
    ScopeOK ⟨Function.update g.scopes c.scope s', g.calls.set i c'⟩ scope := by
  have hscope' : c'.scope ≠ scope := hmove.scope ▸ hscope
  refine ⟨fun a ha => (List.mem_or_eq_of_mem_set ha).elim (h.sane a)
    (· ▸ hmove.sane), ?_, ?_, ?_, ?_, ?_⟩
  all_goals simp only [Function.update_of_ne hscope.symm, Gate.leases, Gate.waiters,
    Gate.tally_set hc, hscope, hscope', decide_false, Bool.false_and, unit_false, add_zero,
      sub_zero]
  · exact h.mutations
  · exact h.waiters
  · exact h.drains
  · exact h.exclusive
  · intro a ha hat
    exact (List.mem_or_eq_of_mem_set ha).elim (h.channels a · hat) fun heq =>
      absurd (heq ▸ hat) hscope'

/-- An event at a call of the scope. -/
theorem ScopeOK.own (h : ScopeOK g c.scope) (hc : g.calls[i]? = some c)
    {c' : Call} {s' : ScopeMutationState} (hmove : Move c (g.scopes c.scope) c' s') :
    ScopeOK ⟨Function.update g.scopes c.scope s', g.calls.set i c'⟩ c.scope := by
  have hmem : c ∈ g.calls := List.mem_of_getElem? hc
  have hnonneg : 0 ≤ (g.scopes c.scope).activeMutations := h.mutations ▸ g.tally_nonneg _
  have hactive : c.kind = .drain → c.holds → (g.scopes c.scope).exclusiveActive := by
    intro hkind hholds
    have hpos : 0 < g.leases c.scope .drain := Gate.tally_pos hmem (by simp [hkind, hholds])
    rw [← h.drains] at hpos
    cases hactive : (g.scopes c.scope).exclusiveActive with
    | true => rfl
    | false => simp [hactive] at hpos
  refine ⟨fun a ha => (List.mem_or_eq_of_mem_set ha).elim (h.sane a)
    (· ▸ hmove.sane), ?_, ?_, ?_, ?_, ?_⟩
  all_goals simp only [Function.update_self, Gate.leases, Gate.waiters, Gate.tally_set hc,
    hmove.scope, hmove.kind, decide_true, Bool.true_and]
  · rw [hmove.mutations, h.mutations]
    rfl
  · rw [hmove.waiters, h.waiters]
    rfl
  · rw [hmove.drains hactive, h.drains]
    rfl
  · exact hmove.exclusive h.exclusive
  · intro a ha hat channel hwaits
    have hsignals := hmove.signals hnonneg
    -- whoever waits on the channel that was open before is woken, or is still not admitted
    have hbefore : ∀ kind, (channel < (g.scopes c.scope).changed ∨
        channel = (g.scopes c.scope).changed ∧ ¬ (g.scopes c.scope).admits kind) →
        channel < s'.changed ∨ channel = s'.changed ∧ ¬ s'.admits kind := by
      rintro kind (hclosed | ⟨rfl, hnot⟩)
      · exact .inl (by omega)
      · rcases hsignals with hlt | ⟨heq, hadmits⟩
        · exact .inl hlt
        · exact .inr ⟨heq.symm, fun hnow => hnot (hadmits _ hnow)⟩
    rcases List.mem_or_eq_of_mem_set ha with ha | rfl
    · exact hbefore _ (h.channels a ha hat channel hwaits)
    · rw [hmove.kind]
      rcases hmove.waits channel hwaits with ⟨hwaited, -⟩ | ⟨rfl, -, hnot⟩
      · exact hbefore _ (h.channels c hmem rfl channel hwaited)
      · exact hbefore _ (.inr ⟨rfl, hnot⟩)

theorem ScopeOK.step (h : ∀ scope, ScopeOK g scope) (e : Event) (scope : Scope) :
    ScopeOK (g.step e) scope := by
  have hat : ∀ i, ScopeOK (g.onCall e i) scope := by
    intro i
    unfold Gate.onCall
    split
    · exact h scope
    · next c hc =>
      have hmove := move_apply e c ((h scope).sane c (List.mem_of_getElem? hc)) (g.scopes c.scope)
      by_cases hscope : c.scope = scope
      · subst hscope
        exact (h c.scope).own hc hmove
      · exact (h scope).other hc hscope hmove
  cases e with
  | acquire kind at_ context =>
    -- a new call is counted nowhere yet
    have hnew : ∀ a ∈ (g.step (.acquire kind at_ context)).calls,
        a ∈ g.calls ∨ a = ⟨kind, at_, context, .called⟩ := by simp [Gate.step]
    have htally : ∀ p : Call → Bool, p ⟨kind, at_, context, .called⟩ = false →
        (g.step (.acquire kind at_ context)).tally p = g.tally p := by
      intro p hp
      simp [Gate.step, Gate.tally, List.countP_append, hp]
    refine ⟨fun a ha => ?_, ?_, ?_, ?_, (h scope).exclusive, fun a ha => ?_⟩
    · exact (hnew a ha).elim ((h scope).sane a) fun heq => by simp [heq, Call.Sane]
    · exact (h scope).mutations.trans (htally _ (by simp [Call.holds])).symm
    · exact (h scope).waiters.trans (htally _ (by simp [Call.queued])).symm
    · exact (h scope).drains.trans (htally _ (by simp [Call.holds])).symm
    · exact (hnew a ha).elim ((h scope).channels a) fun heq _ channel hwaits =>
        by simp [heq] at hwaits
  | cancel i => exact hat i
  | release i => exact hat i
  | next i done => exact hat i

theorem scopeOK_run (events : List Event) (scope : Scope) : ScopeOK
    (run Gate.step {} events) scope := by
  refine invariant (P := fun _ _ => True) (I := fun g => ∀ scope, ScopeOK g scope) (fun scope => ?_)
    (fun g e h _ scope => .step h e scope) (along_true events) scope
  constructor <;> simp [Gate.leases, Gate.waiters, Gate.tally]

/-- A call that an event admits was admissible. -/
theorem Gate.admitted_step (h : ∀ c ∈ g.calls, c.Sane) {e : Event} {c' : Call}
    (hc : g.calls[i]? = some c)
    (hc' : (g.step e).calls[i]? = some c') (hbefore : ¬ c.holds) (hafter : c'.holds) :
    (g.scopes c.scope).admits c.kind := by
  have hat : ∀ j, (g.onCall e j).calls[i]? = some c' → (g.scopes c.scope).admits c.kind := by
    intro j hget
    unfold Gate.onCall at hget
    split at hget
    · rw [hc, Option.some.injEq] at hget
      exact absurd (hget ▸ hafter) hbefore
    · next a ha =>
      rw [List.getElem?_set] at hget
      split at hget
      · next heq =>
        subst heq
        obtain rfl : a = c := Option.some.inj (ha.symm.trans hc)
        rw [if_pos (List.getElem?_eq_some_iff.mp hc).1] at hget
        cases hget
        exact (move_apply e a (h a (List.mem_of_getElem? hc)) _).admitted hafter hbefore
      · rw [hc, Option.some.injEq] at hget
        exact absurd (hget ▸ hafter) hbefore
  cases e with
  | acquire kind scope context =>
    rw [Gate.step, List.getElem?_append_left (List.getElem?_eq_some_iff.mp hc).1, hc,
      Option.some.injEq] at hc'
    exact absurd (hc' ▸ hafter) hbefore
  | cancel j => exact hat j hc'
  | release j => exact hat j hc'
  | next j done => exact hat j hc'

/-- **The gate excludes, and loses no wakeup.** After every run and for every scope: at most one
drain is held, and no mutation together with it; the counters are the numbers of unreleased mutation
leases and of waiting drains; the next event admits no mutation while a drain waits or is held; and
whoever could be admitted waits on a closed channel. -/
theorem gate_of_run (events : List Event) (scope : Scope) : let g := run Gate.step {} events
    (g.leases scope .drain = 0 ∨ g.leases scope .drain = 1 ∧ g.leases scope .mutation = 0) ∧
    (g.scopes scope).activeMutations = g.leases scope .mutation ∧
    (g.scopes scope).exclusiveWaiters = g.waiters scope ∧
    (∀ (e : Event) (i : Nat) (c c' : Call), g.calls[i]? = some c → (g.step e).calls[i]? = some c' →
      c.scope = scope →
      c.kind = .mutation → ¬ c.holds → c'.holds →
      g.waiters scope = 0 ∧ g.leases scope .drain = 0) ∧
    ∀ c ∈ g.calls, c.scope = scope → ∀ channel, c.phase = .waiting channel →
      (g.scopes scope).admits c.kind → (g.scopes scope).closed channel := by
  intro g
  have hok : ∀ scope, ScopeOK g scope := scopeOK_run events
  have h := hok scope
  refine ⟨?_, h.mutations, h.waiters, ?_, ?_⟩
  · rw [← h.drains, ← h.mutations]
    have hnonneg : 0 ≤ (g.scopes scope).activeMutations := h.mutations ▸ g.tally_nonneg _
    cases hactive : (g.scopes scope).exclusiveActive with
    | false => exact .inl rfl
    | true => exact .inr ⟨rfl, le_antisymm (h.exclusive hactive) hnonneg⟩
  · rintro e i c c' hc hc' rfl hkind hbefore hafter
    have hadmits := Gate.admitted_step h.sane hc hc' hbefore hafter
    rw [hkind] at hadmits
    simp only [ScopeMutationState.admits, Bool.and_eq_true, Bool.not_eq_true',
      beq_iff_eq] at hadmits
    rw [← h.waiters, ← h.drains]
    exact ⟨hadmits.2, by simp [hadmits.1]⟩
  · intro c hc hscope channel hwaits hadmits
    rcases h.channels c hc hscope channel hwaits with hclosed | ⟨-, hnot⟩
    · exact decide_eq_true hclosed
    · exact absurd hadmits hnot

/-- A mutation is out and a drain and another mutation wait; then the mutation is released,
twice. -/
def Sample.events : List Event :=
  let scope : Scope := ⟨goString "device_sync", 1⟩
  [.acquire .mutation scope (some false), .next 0 true, .next 0 true,
    .acquire .drain scope (some false), .next 1 true, .next 1 true, .next 1 true,
    .acquire .mutation scope (some false), .next 2 true, .next 2 true,
    .release 0, .next 0 true, .release 0, .next 0 true]

theorem gate_of_run_sample : let scope : Scope := ⟨goString "device_sync", 1⟩
    let g := run Gate.step {} Sample.events
    g.calls[1]? = some ⟨.drain, scope, some false, .waiting 1⟩ ∧ (g.scopes scope).admits .drain ∧
    (g.scopes scope).closed 1 ∧ g.waiters scope = 1 ∧ g.leases scope .mutation = 0 := by
  refine ⟨by decide, by decide, ?_, by decide, by decide⟩
  exact (gate_of_run Sample.events _).2.2.2.2 ⟨.drain, _, some false, .waiting 1⟩
    (by decide) rfl 1 rfl
    (by decide)

end FacetsNode.ServiceAuthority
