import TunerRelay.Pool.Basic
import TunerRelay.Proofs.Pool.Packing

/-!
# Pools of two stages

A relay's pool has a stage of free buffers and one of buffers that are ready to be sent, all of them
for bytes. The bytes that wait in it are those of the ready buffers: what is released from the first
stage is added behind them, and what is acquired from the second leaves from the front.
-/

namespace TunerRelay.Pool

/-- A working pool with free and with ready buffers. -/
def ofBuffers (limit elements : Nat) (free ready : List Buffer) : Pool :=
  { kind := .ushort, limit, elements, stages := [{ toList := free }, { toList := ready }]
    valid := true }

/-- The pool is such a pool, its buffers take bytes, and these are the bytes that wait in it. -/
inductive Holds : Pool → List UInt8 → Prop where
  | intro (limit elements : Nat) (free ready : List Buffer)
    (hfree : ∀ buffer ∈ free, buffer.kind = .ushort)
    (hready : ∀ buffer ∈ ready, buffer.kind = .ushort) :
    Holds (ofBuffers limit elements free ready) (ready.flatMap Buffer.bytes)

section Steps

variable (limit elements : Nat) (buffer : Buffer) (free ready : List Buffer)

theorem acquire_free_cons : (ofBuffers limit elements (buffer :: free) ready).acquire 0 =
    (some buffer, ofBuffers limit elements free ready) := rfl

theorem acquire_free_nil : (ofBuffers limit elements [] ready).acquire 0 =
    if elements < limit then (some (.ofKind .ushort), ofBuffers limit (elements + 1) [] ready)
    else (none, ofBuffers limit elements [] ready) := by
  have hpop : (ofBuffers limit elements [] ready).pop? 0 = none := rfl
  have hvalid : (ofBuffers limit elements [] ready).valid = true ∧
      0 < (ofBuffers limit elements [] ready).stages.length := ⟨rfl, Nat.succ_pos 1⟩
  simp only [acquire, hpop, hvalid, and_self, if_true, reserve?]
  by_cases hlt : elements < limit
  · simp [ofBuffers, hlt]
  · simp [ofBuffers, hlt]

theorem acquire_ready_cons : (ofBuffers limit elements free (buffer :: ready)).acquire 1 =
    (some buffer, ofBuffers limit elements free ready) := rfl

theorem acquire_ready_nil : (ofBuffers limit elements free []).acquire 1 =
    (none, ofBuffers limit elements free []) := rfl

theorem release_free : (ofBuffers limit elements free ready).release 0 buffer =
    ofBuffers limit elements free (ready ++ [buffer]) := rfl

theorem release_ready : (ofBuffers limit elements free ready).release 1 buffer =
    ofBuffers limit elements (free ++ [buffer.prepare 0]) ready := rfl

end Steps

namespace Holds

variable {pool rest : Pool} {buffer : Buffer} {waiting : List UInt8}

theorem acquire_free (hholds : pool.Holds waiting)
    (hacquire : pool.acquire 0 = (some buffer, rest)) :
    buffer.kind = .ushort ∧ rest.Holds waiting := by
  obtain ⟨limit, elements, free, ready, hfree, hready⟩ := hholds
  cases free with
  | nil =>
      rw [acquire_free_nil] at hacquire
      split at hacquire
      · cases hacquire
        exact ⟨rfl, .intro _ _ [] ready hfree hready⟩
      · cases hacquire
  | cons head free =>
      rw [acquire_free_cons] at hacquire
      cases hacquire
      exact ⟨hfree _ List.mem_cons_self,
        .intro _ _ free ready (fun item hitem => hfree item (List.mem_cons_of_mem _ hitem)) hready⟩

theorem release_free (hholds : pool.Holds waiting) (hkind : buffer.kind = .ushort) :
    (pool.release 0 buffer).Holds (waiting ++ buffer.bytes) := by
  obtain ⟨limit, elements, free, ready, hfree, hready⟩ := hholds
  rw [Pool.release_free]
  have hbytes : ready.flatMap Buffer.bytes ++ buffer.bytes =
      (ready ++ [buffer]).flatMap Buffer.bytes := by
    rw [List.flatMap_append, List.flatMap_singleton]
  rw [hbytes]
  refine .intro _ _ _ _ hfree ?_
  intro item hitem
  rcases List.mem_append.mp hitem with hmem | hlast
  · exact hready item hmem
  · rw [List.mem_singleton.mp hlast]
    exact hkind

theorem acquire_ready (hholds : pool.Holds waiting)
    (hacquire : pool.acquire 1 = (some buffer, rest)) :
    buffer.kind = .ushort ∧ ∃ later, waiting = buffer.bytes ++ later ∧ rest.Holds later := by
  obtain ⟨limit, elements, free, ready, hfree, hready⟩ := hholds
  cases ready with
  | nil =>
      rw [acquire_ready_nil] at hacquire
      cases hacquire
  | cons head ready =>
      rw [acquire_ready_cons] at hacquire
      cases hacquire
      exact ⟨hready _ List.mem_cons_self, _, List.flatMap_cons,
        .intro _ _ free ready hfree fun item hitem => hready item (List.mem_cons_of_mem _ hitem)⟩

theorem acquire_ready_none (hholds : pool.Holds waiting)
    (hacquire : pool.acquire 1 = (none, rest)) : rest = pool := by
  obtain ⟨limit, elements, free, ready, hfree, hready⟩ := hholds
  cases ready with
  | nil =>
      rw [acquire_ready_nil] at hacquire
      cases hacquire
      rfl
  | cons head ready =>
      rw [acquire_ready_cons] at hacquire
      cases hacquire

theorem release_ready (hholds : pool.Holds waiting) (hkind : buffer.kind = .ushort) :
    (pool.release 1 buffer).Holds waiting := by
  obtain ⟨limit, elements, free, ready, hfree, hready⟩ := hholds
  rw [Pool.release_ready]
  refine .intro _ _ _ _ ?_ hready
  intro item hitem
  rcases List.mem_append.mp hitem with hmem | hlast
  · exact hfree item hmem
  · rw [List.mem_singleton.mp hlast, Buffer.kind_prepare]
    exact hkind

/-- Where no buffer is ready no byte waits. -/
theorem eq_nil (hholds : pool.Holds waiting) (hqueued : pool.queued 1 = 0) : waiting = [] := by
  obtain ⟨limit, elements, free, ready, hfree, hready⟩ := hholds
  have hnone : ready = [] := List.eq_nil_of_length_eq_zero hqueued
  rw [hnone]
  rfl

end Holds

/-- Such a pool that has made one buffer at least, and none beyond its limit. -/
inductive Works (limit : Nat) : Pool → Prop where
  | intro (elements : Nat) (free ready : List Buffer) (hsome : 1 ≤ elements)
    (hfew : elements ≤ limit) : Works limit (ofBuffers limit elements free ready)

namespace Works

variable {limit : Nat} {pool : Pool}

theorem valid (hworks : pool.Works limit) : pool.valid = true := by
  cases hworks
  rfl

theorem elements_le (hworks : pool.Works limit) : 1 ≤ pool.elements ∧ pool.elements ≤ limit := by
  obtain ⟨elements, free, ready, hsome, hfew⟩ := hworks
  exact ⟨hsome, hfew⟩

theorem acquire_free (hworks : pool.Works limit) : (pool.acquire 0).2.Works limit := by
  obtain ⟨elements, free, ready, hsome, hfew⟩ := hworks
  cases free with
  | nil =>
      rw [acquire_free_nil]
      split
      · exact .intro _ _ _ (Nat.le_add_left 1 elements) ‹_›
      · exact .intro _ _ _ hsome hfew
  | cons head free => exact .intro elements free ready hsome hfew

theorem acquire_ready (hworks : pool.Works limit) : (pool.acquire 1).2.Works limit := by
  obtain ⟨elements, free, ready, hsome, hfew⟩ := hworks
  cases ready with
  | nil => exact .intro elements free [] hsome hfew
  | cons head ready => exact .intro elements free ready hsome hfew

theorem release_free (hworks : pool.Works limit) (buffer : Buffer) :
    (pool.release 0 buffer).Works limit := by
  obtain ⟨elements, free, ready, hsome, hfew⟩ := hworks
  exact .intro elements free (ready ++ [buffer]) hsome hfew

theorem release_ready (hworks : pool.Works limit) (buffer : Buffer) :
    (pool.release 1 buffer).Works limit := by
  obtain ⟨elements, free, ready, hsome, hfew⟩ := hworks
  exact .intro elements (free ++ [buffer.prepare 0]) ready hsome hfew

end Works

end TunerRelay.Pool
