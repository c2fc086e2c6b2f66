import FacetsNode.Lib.Attempt

/-!
# Database transactions

A handler that opens a transaction, runs statements in it and commits. Its statements see the writes
of the statements before them, but nobody else sees a write before `commit`; a handler that returns
without having committed has changed nothing, whether it reports success or failure. A statement can
also fail because the connection does, at any point: the session carries the number of messages that
still get through. A commit is two of them, the request and its reply, and if only the reply is lost
then the handler fails and everything it wrote is there.

`Settles m s w Q` is the postcondition judgement for a handler that is running: with `s` committed
and `w` in view it ends with an outcome, a committed state and a view that satisfy `Q`, *wherever*
the connection fails. `ends_transact` brings the result back to `Ends`.
-/

namespace FacetsNode

/-- An open transaction over a database `σ`. -/
structure Session (σ : Type) where
  /-- What everybody sees. -/
  durable : σ
  /-- What the transaction sees. -/
  working : σ
  /-- How many messages the connection survives; `none` if it does not fail. -/
  fault : Option Nat

namespace Session

open Attempt

variable {σ ε α β : Type}

/-- One round trip to the database, which fails with `e` if the connection does. -/
def reach (e : ε) : Attempt (Session σ) ε Unit := fun t =>
  match t.fault with
  | some 0 => (.error e, t)
  | some (n + 1) => (.ok (), { t with fault := some n })
  | none => (.ok (), t)

/-- A statement that reads. -/
def query (e : ε) (f : σ → Except ε α) : Attempt (Session σ) ε α := do
  reach e
  fun t => (f t.working, t)

/-- Replace the view by what `f` makes of it. -/
def write (f : σ → Except ε σ) : Attempt (Session σ) ε Unit := fun t =>
  match f t.working with
  | .ok w => (.ok (), { t with working := w })
  | .error e => (.error e, t)

/-- A statement that writes. -/
def exec (e : ε) (f : σ → Except ε σ) : Attempt (Session σ) ε Unit := do
  reach e
  write f

/-- Let everybody see what the transaction sees. -/
def publish : Attempt (Session σ) ε Unit := fun t => (.ok (), { t with durable := t.working })

/-- `tx.Commit`; an error does not say whether the request was lost or only its reply. -/
def commit (e : ε) : Attempt (Session σ) ε Unit := do
  reach e
  publish
  reach e

/-- Report every failure of `m` as `e`. -/
def failingWith (e : ε) (m : Attempt (Session σ) ε α) : Attempt (Session σ) ε α := fun t =>
  match m t with
  | (.ok a, t') => (.ok a, t')
  | (.error _, t') => (.error e, t')

/-- Run a handler's body in a transaction of its own; what it did not commit is rolled back. -/
def transact (fault : Option Nat) (body : Attempt (Session σ) ε α) : Attempt σ ε α := fun s =>
  ((body ⟨s, s, fault⟩).1, (body ⟨s, s, fault⟩).2.durable)

/-- With `s` committed and `w` in view, the handler ends with an outcome, a committed state and a
view that satisfy `Q`, whichever statement the connection fails at. -/
def Settles (m : Attempt (Session σ) ε α) (s w : σ) (Q : Except ε α → σ → σ → Prop) : Prop :=
  ∀ fault, Ends m ⟨s, w, fault⟩ (fun r t => Q r t.durable t.working)

/-- What a transaction does is what its body commits. -/
theorem ends_transact {m : Attempt (Session σ) ε α} {s : σ} {fault : Option Nat}
    {Q : Except ε α → σ → Prop} (h : Settles m s s (fun r s' _ => Q r s')) :
    Ends (transact fault m) s Q :=
  h fault

/-! ## One command in front of the rest -/

variable {m : Attempt (Session σ) ε α} {s w : σ} {f : α → Attempt (Session σ) ε β}
  {Q : Except ε β → σ → σ → Prop} {e : ε}

theorem settles_pure {Q : Except ε α → σ → σ → Prop} {a : α} (h : Q (.ok a) s w) :
    Settles (pure a) s w Q := fun _ => h

theorem settles_fail {Q : Except ε α → σ → σ → Prop} (h : Q (.error e) s w) :
    Settles (fail e) s w Q := fun _ => h

theorem settles_bind (h : Settles m s w (fun r s' w' => match r with
      | .ok a => Settles (f a) s' w' Q
      | .error e => Q (.error e) s' w')) : Settles (m >>= f) s w Q := by
  intro fault
  refine ends_bind ((h fault).mono fun r t hr => ?_)
  cases r with
  | ok a => exact hr t.fault
  | error e => exact hr

theorem settles_ofExcept_last {Q : Except ε α → σ → σ → Prop} {x : Except ε α} (h : Q x s w) :
    Settles (ofExcept x) s w Q := fun _ => h

theorem settles_rejectIf {c : Prop} [Decidable c] {f : Unit → Attempt (Session σ) ε β}
    (herr : c → Q (.error e) s w) (hok : ¬ c → Settles (f ()) s w Q) :
    Settles (rejectIf c e >>= f) s w Q :=
  fun fault => ends_rejectIf herr fun hc => hok hc fault

theorem settles_reach {f : Unit → Attempt (Session σ) ε β} (herr : Q (.error e) s w)
    (hok : Settles (f ()) s w Q) : Settles (reach e >>= f) s w Q := by
  intro fault
  match fault with
  | some 0 => exact herr
  | some (n + 1) => exact hok (some n)
  | none => exact hok none

theorem settles_failingWith {Q : Except ε α → σ → σ → Prop}
    (h : Settles m s w (fun r s' w' => match r with
      | .ok a => Q (.ok a) s' w'
      | .error _ => Q (.error e) s' w')) : Settles (failingWith e m) s w Q := by
  intro fault
  have hm := h fault
  unfold Ends failingWith at *
  rcases hr : m ⟨s, w, fault⟩ with ⟨r, t⟩
  rw [hr] at hm
  cases r with
  | ok a => exact hm
  | error e' => exact hm

/-- The reading statement alone, for a handler that ends with it. -/
theorem settles_query_last {g : σ → Except ε α} {Q : Except ε α → σ → σ → Prop}
    (hfault : Q (.error e) s w) (h : Q (g w) s w) : Settles (query e g) s w Q :=
  settles_reach hfault fun _ => h

theorem settles_query {g : σ → Except ε α} (hfault : Q (.error e) s w)
    (herr : ∀ e', g w = .error e' → Q (.error e') s w)
    (hok : ∀ a, g w = .ok a → Settles (f a) s w Q) : Settles (query e g >>= f) s w Q := by
  refine settles_bind (settles_query_last hfault ?_)
  cases hg : g w with
  | error e' => exact herr e' hg
  | ok a => exact hok a hg

theorem settles_exec_last {g : σ → Except ε σ} {Q : Except ε Unit → σ → σ → Prop}
    (hfault : Q (.error e) s w) (herr : ∀ e', g w = .error e' → Q (.error e') s w)
    (hok : ∀ w', g w = .ok w' → Q (.ok ()) s w') : Settles (exec e g) s w Q := by
  refine settles_reach hfault fun fault => ?_
  unfold Ends write
  cases hg : g w with
  | error e' => simpa only [hg] using herr e' hg
  | ok w' => simpa only [hg] using hok w' hg

theorem settles_exec {g : σ → Except ε σ} {f : Unit → Attempt (Session σ) ε β}
    (hfault : Q (.error e) s w) (herr : ∀ e', g w = .error e' → Q (.error e') s w)
    (hok : ∀ w', g w = .ok w' → Settles (f ()) s w' Q) : Settles (exec e g >>= f) s w Q :=
  settles_bind (settles_exec_last hfault herr hok)

theorem settles_commit_last {Q : Except ε Unit → σ → σ → Prop} (hfault : Q (.error e) s w)
    (hlost : Q (.error e) w w) (hok : Q (.ok ()) w w) : Settles (commit e) s w Q := by
  refine settles_reach hfault fun fault => ?_
  match fault with
  | some 0 => exact hlost
  | some (n + 1) => exact hok
  | none => exact hok

theorem settles_commit {f : Unit → Attempt (Session σ) ε β} (hfault : Q (.error e) s w)
    (hlost : Q (.error e) w w) (hok : Settles (f ()) w w Q) : Settles (commit e >>= f) s w Q :=
  settles_bind (settles_commit_last hfault hlost hok)

end Session

end FacetsNode
