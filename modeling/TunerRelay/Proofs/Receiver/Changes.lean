import Mathlib
import TunerRelay.Receiver.Script

/-!
# What requests leave behind

The generation counts the requests that leave other settings than they found, a change and its undoing
twice. It is a count modulo `2 ^ 64`, so a list of requests that is shorter than that leaves it as it
was just if none of them has changed anything.
-/

namespace TunerRelay.Receiver

open TunerRelay.Device (Request)

/-! ### One request and many -/

theorem perform_refused {receiver : Receiver} {request : Request} {fault : Device.Fault}
    (hrefused : receiver.settings.apply request = .error fault) :
    receiver.perform request = (.error fault, receiver) := by
  rw [perform, hrefused]

theorem perform_accepted {receiver : Receiver} {request : Request} {settings : Settings}
    (haccepted : receiver.settings.apply request = .ok settings) :
    receiver.perform request =
      (.ok (),
        { receiver with
          settings
          generation := receiver.generation + if settings = receiver.settings then 0 else 1
          cancelled := cancelledAfter receiver.cancelled request }) := by
  rw [perform, haccepted]
  by_cases hsame : settings = receiver.settings
  · simp [update, hsame]
  · simp [update, hsame]

/-- The receiver after these requests, whatever they are answered. -/
def after (receiver : Receiver) (requests : List Request) : Receiver :=
  (performAll requests receiver).2

@[simp]
theorem after_nil (receiver : Receiver) : receiver.after [] = receiver := rfl

@[simp]
theorem after_cons (receiver : Receiver) (request : Request) (rest : List Request) :
    receiver.after (request :: rest) = (receiver.perform request).2.after rest := rfl

theorem after_append (receiver : Receiver) (first second : List Request) :
    receiver.after (first ++ second) = (receiver.after first).after second := by
  induction first generalizing receiver with
  | nil => rfl
  | cons request rest ih => exact ih _

/-! ### Changes -/

/-- The request leaves other settings than it finds. -/
def Alters (receiver : Receiver) (request : Request) : Prop :=
  (receiver.perform request).2.settings ≠ receiver.settings

instance (receiver : Receiver) (request : Request) : Decidable (receiver.Alters request) :=
  inferInstanceAs (Decidable (_ ≠ _))

/-- How many of the requests do so, one after another. -/
def changes (receiver : Receiver) : List Request → Nat
  | [] => 0
  | request :: rest =>
    (receiver.perform request).2.changes rest + if receiver.Alters request then 1 else 0

theorem generation_perform (receiver : Receiver) (request : Request) :
    (receiver.perform request).2.generation =
      receiver.generation + UInt64.ofNat (if receiver.Alters request then 1 else 0) := by
  cases happly : receiver.settings.apply request with
  | error fault =>
      have hsame : ¬ receiver.Alters request := by simp [Alters, perform_refused happly]
      rw [perform_refused happly, if_neg hsame]
      exact (UInt64.add_zero _).symm
  | ok settings =>
      have halters : receiver.Alters request ↔ settings ≠ receiver.settings := by
        rw [Alters, perform_accepted happly]
      rw [perform_accepted happly]
      by_cases hsame : settings = receiver.settings <;> simp [halters, hsame]

theorem generation_after (receiver : Receiver) (requests : List Request) :
    (receiver.after requests).generation =
      receiver.generation + UInt64.ofNat (receiver.changes requests) := by
  induction requests generalizing receiver with
  | nil => exact (UInt64.add_zero _).symm
  | cons request rest ih =>
      calc (receiver.after (request :: rest)).generation
          = (receiver.perform request).2.generation +
              UInt64.ofNat ((receiver.perform request).2.changes rest) := ih _
        _ = receiver.generation + UInt64.ofNat (receiver.changes (request :: rest)) := by
            rw [generation_perform, changes, UInt64.ofNat_add, UInt64.add_assoc,
              UInt64.add_comm (UInt64.ofNat ((receiver.perform request).2.changes rest))]

theorem generation_after_eq_iff (receiver : Receiver) (requests : List Request) :
    (receiver.after requests).generation = receiver.generation ↔
      2 ^ 64 ∣ receiver.changes requests := by
  rw [generation_after, UInt64.add_eq_left, ← UInt64.toNat_inj, UInt64.toNat_ofNat]
  exact (Nat.dvd_iff_mod_eq_zero).symm

theorem changes_le_length (receiver : Receiver) (requests : List Request) :
    receiver.changes requests ≤ requests.length := by
  induction requests generalizing receiver with
  | nil => exact le_rfl
  | cons request rest ih =>
      have hrest := ih (receiver.perform request).2
      rw [changes, List.length_cons]
      split <;> omega

theorem changes_pos_iff (receiver : Receiver) (requests : List Request) :
    0 < receiver.changes requests ↔
      ∃ earlier request later, requests = earlier ++ request :: later ∧
        (receiver.after earlier).Alters request := by
  induction requests generalizing receiver with
  | nil => simp [changes]
  | cons request rest ih =>
      rw [changes, Nat.add_pos_iff_pos_or_pos, ih]
      constructor
      · rintro (⟨earlier, other, later, rfl, halters⟩ | hpos)
        · exact ⟨request :: earlier, other, later, rfl, halters⟩
        · have halters : receiver.Alters request := by
            by_contra hsame
            simp [hsame] at hpos
          exact ⟨[], request, rest, rfl, halters⟩
      · rintro ⟨earlier, other, later, hrequests, halters⟩
        cases earlier with
        | nil =>
            obtain ⟨rfl, rfl⟩ := List.cons.inj hrequests
            exact .inr (by simp [show receiver.Alters request from halters])
        | cons first earlier =>
            obtain ⟨rfl, rfl⟩ := List.cons.inj hrequests
            exact .inl ⟨earlier, other, later, rfl, halters⟩

/-- Fewer than `2 ^ 64` requests leave the generation as it was just if none has changed anything. -/
theorem not_dvd_changes_iff (receiver : Receiver) {requests : List Request}
    (hlength : requests.length < 2 ^ 64) :
    ¬ 2 ^ 64 ∣ receiver.changes requests ↔
      ∃ earlier request later, requests = earlier ++ request :: later ∧
        (receiver.after earlier).Alters request := by
  have hle := receiver.changes_le_length requests
  rw [← changes_pos_iff]
  constructor
  · intro hdvd
    refine Nat.pos_of_ne_zero ?_
    intro hzero
    exact hdvd (hzero ▸ Nat.dvd_zero _)
  · intro hpos hdvd
    have := Nat.le_of_dvd hpos hdvd
    omega

/-! ### Counters of the capture -/

/-- The receiver with other counts of what was captured. -/
def recounted (receiver : Receiver) (bytes buffers restarts : UInt64) : Receiver :=
  { receiver with bytesCaptured := bytes, buffersProcessed := buffers, restarts }

section Recounted

variable (receiver : Receiver) (bytes buffers restarts : UInt64)

@[simp]
theorem settings_recounted :
    (receiver.recounted bytes buffers restarts).settings = receiver.settings := rfl

@[simp]
theorem cancelled_recounted :
    (receiver.recounted bytes buffers restarts).cancelled = receiver.cancelled := rfl

theorem perform_recounted (request : Request) :
    ((receiver.recounted bytes buffers restarts).perform request).2 =
      (receiver.perform request).2.recounted bytes buffers restarts := by
  cases happly : receiver.settings.apply request with
  | error fault => rw [perform_refused happly, perform_refused (by exact happly)]
  | ok settings =>
      rw [perform_accepted happly, perform_accepted (by exact happly)]
      rfl

/-- Requests neither look at these counts nor change them. -/
theorem after_recounted (requests : List Request) :
    (receiver.recounted bytes buffers restarts).after requests =
      (receiver.after requests).recounted bytes buffers restarts := by
  induction requests generalizing receiver with
  | nil => rfl
  | cons request rest ih =>
      rw [after_cons, after_cons, perform_recounted]
      exact ih _

theorem changes_recounted (requests : List Request) :
    (receiver.recounted bytes buffers restarts).changes requests = receiver.changes requests := by
  induction requests generalizing receiver with
  | nil => rfl
  | cons request rest ih =>
      simp only [changes, Alters, perform_recounted, ih, settings_recounted]
      congr

end Recounted

end TunerRelay.Receiver
