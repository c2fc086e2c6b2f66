import FacetsNode.Storage.Lifecycle

/-!
# The pool is never over-promised

The capacity check subtracts machine integers. It is exact all the same: every difference it forms
is taken only after the comparison that keeps it from wrapping (`Exact`), and the sum it starts from
is formed by the database without a bound and refused where it does not fit. So whenever a
reservation is accepted, everything promised and the operating reserve fit in what is free.
-/

namespace FacetsNode.Storage

open Attempt
open Relay (UUID)

/-! ## Exact arithmetic -/

/-- Every machine integer the capacity check forms, where it forms it, is the exact one. -/
structure Exact (s : Snapshot) (outstanding : Int64) : Prop where
  tenth : 0 < s.totalBytes → (s.totalBytes / 10).toInt = s.totalBytes.toInt / 10
  roundedUp : 0 < s.totalBytes → (s.totalBytes / 10 + 1).toInt = s.totalBytes.toInt / 10 + 1
  reserve : ∀ reserve, s.operatingReserve = .ok reserve →
    reserve.toInt = max (2 * 1024 * 1024 * 1024) ((s.totalBytes.toInt + 9) / 10)
  free : ∀ reserve, s.operatingReserve = .ok reserve → reserve ≤ s.availableBytes →
    (s.availableBytes - reserve).toInt = s.availableBytes.toInt - reserve.toInt
  left : ∀ reserve, s.operatingReserve = .ok reserve → reserve ≤ s.availableBytes →
    0 ≤ outstanding → outstanding ≤ s.availableBytes - reserve →
    (s.availableBytes - reserve - outstanding).toInt =
      s.availableBytes.toInt - reserve.toInt - outstanding.toInt

/-- A difference of machine integers that are not negative does not wrap. -/
theorem toInt_sub_of_nonneg {a b : Int64} (ha : 0 ≤ a.toInt) (hb : 0 ≤ b.toInt) :
    (a - b).toInt = a.toInt - b.toInt := by
  have hlt := a.toInt_lt
  have hlt' := b.toInt_lt
  rw [Int64.toInt_sub]
  exact Int.bmod_eq_of_le (by omega) (by omega)

theorem toInt_div_ten {a : Int64} (ha : 0 < a) : (a / 10).toInt = a.toInt / 10 := by
  have hpos : (0 : Int) < a.toInt := Int64.lt_iff_toInt_lt.mp ha
  have hne : a ≠ Int64.minValue := by
    rintro rfl
    exact absurd hpos (by decide)
  rw [Int64.toInt_div_of_ne_left a 10 hne]
  exact Int.tdiv_eq_ediv_of_nonneg hpos.le

theorem toInt_div_ten_succ {a : Int64} (ha : 0 < a) : (a / 10 + 1).toInt = a.toInt / 10 + 1 := by
  have hpos : (0 : Int) < a.toInt := Int64.lt_iff_toInt_lt.mp ha
  have hlt := a.toInt_lt
  have hone : (1 : Int64).toInt = 1 := by decide
  rw [Int64.toInt_add, toInt_div_ten ha, hone]
  exact Int.bmod_eq_of_le (by omega) (by omega)

theorem toInt_max (a b : Int64) : (max a b).toInt = max a.toInt b.toInt := by
  by_cases h : a ≤ b
  · rw [show max a b = b from if_pos h, max_eq_right (Int64.le_iff_toInt_le.mp h)]
  · have hle : b.toInt ≤ a.toInt := le_of_not_ge fun hle => h (Int64.le_iff_toInt_le.mpr hle)
    rw [show max a b = a from if_neg h, max_eq_left hle]

/-- The reserve, where there is one: the snapshot makes sense, and nothing has wrapped. -/
theorem operatingReserve_eq_ok {s : Snapshot} {reserve : Int64}
    (h : s.operatingReserve = .ok reserve) :
    0 < s.totalBytes ∧ 0 ≤ s.availableBytes ∧
      reserve.toInt = max (2 * 1024 * 1024 * 1024) ((s.totalBytes.toInt + 9) / 10) := by
  unfold Snapshot.operatingReserve at h
  split at h
  · cases h
  · rename_i hchecks
    simp only [not_or] at hchecks
    obtain ⟨hpos, havailable, -⟩ := hchecks
    have hpos' : 0 < s.totalBytes := Int64.not_le.mp hpos
    refine ⟨hpos', Int64.not_lt.mp havailable, ?_⟩
    cases h
    rw [toInt_max]
    have hten : (10 : Int64).toInt = 10 := by decide
    have hmod : (s.totalBytes % 10).toInt = s.totalBytes.toInt % 10 := by
      rw [Int64.toInt_mod, hten]
      exact Int.tmod_eq_emod_of_nonneg (Int64.lt_iff_toInt_lt.mp hpos').le
    have hmin : minimumOperatingReserve.toInt = 2 * 1024 * 1024 * 1024 := by decide
    rw [hmin]
    congr 1
    by_cases hexact : s.totalBytes % 10 = 0
    · rw [if_neg (not_not.mpr hexact), toInt_div_ten hpos']
      rw [hexact] at hmod
      have hzero : (0 : Int64).toInt = 0 := by decide
      omega
    · rw [if_pos hexact, toInt_div_ten_succ hpos']
      have hne : s.totalBytes.toInt % 10 ≠ 0 := by
        intro hzero
        exact hexact (Int64.toInt_inj.mp (hmod.trans hzero))
      omega

theorem exact_check (s : Snapshot) (outstanding : Int64) : Exact s outstanding where
  tenth := toInt_div_ten
  roundedUp := toInt_div_ten_succ
  reserve reserve h := (operatingReserve_eq_ok h).2.2
  free reserve h _ := by
    obtain ⟨-, havailable, hreserve⟩ := operatingReserve_eq_ok h
    exact toInt_sub_of_nonneg (Int64.le_iff_toInt_le.mp havailable) (by omega)
  left reserve h hle hout _ := by
    obtain ⟨-, havailable, hreserve⟩ := operatingReserve_eq_ok h
    have hfree : (s.availableBytes - reserve).toInt = s.availableBytes.toInt - reserve.toInt :=
      toInt_sub_of_nonneg (Int64.le_iff_toInt_le.mp havailable) (by omega)
    have hle' := Int64.le_iff_toInt_le.mp hle
    rw [toInt_sub_of_nonneg (by omega) (Int64.le_iff_toInt_le.mp hout), hfree]

/-- What a passed check says about the exact sums. -/
theorem check_eq_ok {s outstanding additional} (h : check s outstanding additional = .ok ()) :
    ∃ reserve, s.operatingReserve = .ok reserve ∧
      outstanding.toInt + additional.toInt + reserve.toInt ≤ s.availableBytes.toInt := by
  unfold check at h
  cases hreserve : s.operatingReserve with
  | error e =>
    rw [hreserve] at h
    cases h
  | ok reserve =>
    refine ⟨reserve, rfl, ?_⟩
    have hexact := exact_check s outstanding
    simp only [hreserve] at h
    split at h
    · cases h
    · rename_i hsigns
      split at h
      · cases h
      · rename_i hfits
        simp only [not_or, Int64.not_lt] at hsigns hfits
        obtain ⟨hfree, hout, hadd⟩ := hfits
        have hadd' := Int64.le_iff_toInt_le.mp hadd
        rw [hexact.left reserve hreserve hfree hsigns.1 hout] at hadd'
        omega

/-! ## Promises -/

section
variable {db db' : Database} {request : ReservationRequest} {token : GoString}
  {snapshot : Option Snapshot} {res : Except StorageError ReservationRecord}

theorem Admitted.withinCapacity {r} (h : Admitted db request token snapshot r db') :
    db'.reservations.get? r.reservationID = some r ∧ r.state = .reserved ∧
      ∃ capacity reserve, snapshot = some capacity ∧ capacity.operatingReserve = .ok reserve ∧
        db'.promisedBytes + reserve.toInt ≤ capacity.availableBytes.toInt := by
  obtain ⟨row, pool, -, rfl⟩ := h.written
  obtain ⟨-, -, hrecord⟩ := newReservationRecord_eq_ok h.record
  have hopen : r.state = .reserved := by rw [hrecord]
  have hactive : r.activeBytes = request.byteCeiling := (if_pos hopen).trans (by rw [hrecord])
  obtain ⟨capacity, outstanding, hsnapshot, hsum, hcheck⟩ := h.capacity
  obtain ⟨reserve, hreserve, hfits⟩ := check_eq_ok hcheck
  refine ⟨GoMap.get?_set_self _ _ _, hopen, capacity, reserve, hsnapshot, hreserve, ?_⟩
  calc (db.reservations.set r.reservationID r).sumBy (fun r => r.activeBytes.toInt) + reserve.toInt
      = r.activeBytes.toInt + db.promisedBytes + reserve.toInt := by
        rw [GoMap.sumBy_set_of_none h.absent]
        rfl
    _ = outstanding.toInt + request.byteCeiling.toInt + reserve.toInt := by
        rw [hactive, ← hsum]
        omega
    _ ≤ capacity.availableBytes.toInt := hfits

/-- A reservation that is there after the call and was not before is the one that was admitted. -/
theorem Reserved.admitted_of_new {id r} (h : Reserved db request token snapshot res db')
    (hnew : db.reservations.get? id = none) (hr : db'.reservations.get? id = some r) :
    id = r.reservationID ∧ Admitted db request token snapshot r db' := by
  cases h with
  | refused | repeated => cases hnew.symm.trans hr
  | @admitted _ r' _ _ h =>
    obtain ⟨row, pool, -, rfl⟩ := h.written
    by_cases hid : id = r'.reservationID
    · subst hid
      rw [GoMap.get?_set_self] at hr
      cases hr
      exact ⟨rfl, h⟩
    · rw [GoMap.get?_set_ne _ _ hid, hnew] at hr
      cases hr

/-- The record that is returned is the one that is stored. -/
theorem Reserved.stored {r} (hdb : db.Sound) (h : Reserved db request token snapshot res db')
    (hok : res = .ok r) : db'.reservations.get? r.reservationID = some r := by
  cases h with
  | refused => cases hok
  | repeated _ hr =>
    cases hok
    rw [(hdb _ _ hr).key]
    exact hr
  | admitted hreply h =>
    subst hok
    obtain ⟨⟨⟩⟩ | ⟨⟨⟩⟩ := hreply
    exact h.withinCapacity.1

/-- Exactly the reservation that was asked for was added. -/
structure Added (db : Database) (request : ReservationRequest) (token : GoString)
    (db' : Database) : Prop where
  absent : db.reservations.get? request.reservationID = none
  added : ∃ r, newReservationRecord request token = .ok r ∧
    db'.reservations = db.reservations.set request.reservationID r

theorem Admitted.adds {r} (h : Admitted db request token snapshot r db') :
    Added db request token db' := by
  obtain ⟨row, pool, -, rfl⟩ := h.written
  have hid : r.reservationID = request.reservationID := by
    rw [(newReservationRecord_eq_ok h.record).2.2]
  rw [hid]
  exact ⟨hid ▸ h.absent, r, h.record, rfl⟩

/-- A call that fails changes nothing, unless what failed is the reply to its commit. -/
theorem Reserved.of_error {e} (h : Reserved db request token snapshot res db')
    (herr : res = .error e) : db' = db ∨ e = .unavailable ∧ Added db request token db' := by
  cases h with
  | refused => exact .inl rfl
  | repeated => cases herr
  | admitted hreply h =>
    subst herr
    obtain ⟨⟨⟩⟩ | ⟨⟨⟩⟩ := hreply
    exact .inr ⟨rfl, h.adds⟩

end

/-- **Capacity.** Whatever calls came before: a reservation that a call adds, whatever it answers,
fits, with everything else that is promised and the operating reserve, in what the snapshot reports
free; the arithmetic of the check is exact; a record that is returned is stored; and a call that
fails changes nothing, or the reply to its commit was lost and its reservation is there. -/
theorem reserve_withinCapacity (poolID authorityID : UUID) (ops : List Operation) (l : Ledger)
    (request : ReservationRequest) (token : GoString) (snapshot : Option Snapshot)
    (fault : Option Nat) :
    let db := run Operation.apply (Database.initial poolID authorityID) ops
    let call := l.reserve request token snapshot fault db
    (∀ id r, db.reservations.get? id = none → call.2.reservations.get? id = some r →
      id = r.reservationID ∧ r.state = .reserved ∧
      ∃ capacity reserve, snapshot = some capacity ∧ capacity.operatingReserve = .ok reserve ∧
        call.2.promisedBytes + reserve.toInt ≤ capacity.availableBytes.toInt) ∧
    (∀ capacity outstanding, Exact capacity outstanding) ∧
    (∀ r, call.1 = .ok r → call.2.reservations.get? r.reservationID = some r) ∧
    (∀ e, call.1 = .error e →
      call.2 = db ∨ e = .unavailable ∧ Added db request token call.2) := by
  intro db call
  have hdb : Reachable db := ⟨poolID, authorityID, ops, rfl⟩
  have hreserved : Reserved db request token snapshot call.1 call.2 :=
    l.reserve_reserved request token snapshot
  refine ⟨fun id r hnew hr => ?_, exact_check, fun r => hreserved.stored hdb.sound,
    fun e => hreserved.of_error⟩
  obtain ⟨hid, hadmitted⟩ := hreserved.admitted_of_new hnew hr
  exact ⟨hid, hadmitted.withinCapacity.2⟩

open Sample

/-- A second reservation of a hundred bytes. -/
def nextRequest : ReservationRequest := { request with reservationID := 15, operationID := 16 }

/-- Beside the sample reservation it is promised another hundred bytes. -/
theorem reserve_withinCapacity_sample : ∃ r,
    let call := ledger.reserve nextRequest token (some snapshot) none pool
    call.1 = .ok r ∧ call.2.reservations.get? 15 = some r ∧ call.2.promisedBytes = 200 ∧
      ∃ reserve, snapshot.operatingReserve = .ok reserve ∧
        call.2.promisedBytes + reserve.toInt ≤ snapshot.availableBytes.toInt := by
  obtain ⟨r, hr, hid, hnew, hpromised⟩ : ∃ r,
      (ledger.reserve nextRequest token (some snapshot) none pool).1 = .ok r ∧
      r.reservationID = 15 ∧ pool.reservations.get? 15 = none ∧
      (ledger.reserve nextRequest token (some snapshot) none pool).2.promisedBytes = 200 := by
    decide +kernel
  have hcall := reserve_withinCapacity 1 2 [reserving] ledger nextRequest token (some snapshot) none
  have hstored := hid ▸ hcall.2.2.1 r hr
  obtain ⟨-, -, capacity, reserve, ⟨⟩, hreserve, hfits⟩ := hcall.1 15 r hnew hstored
  exact ⟨r, hr, hstored, hpromised, reserve, hreserve, hfits⟩

/-- The reply to the commit is lost: the call fails, and the reservation is there. -/
theorem reserve_lost_reply :
    let call := ledger.reserve nextRequest token (some snapshot) (some 9) pool
    call.1 = .error .unavailable ∧ pool.reservations.get? 15 = none ∧
      (call.2.reservations.get? 15).map (·.state) = some .reserved := by
  decide +kernel

end FacetsNode.Storage
