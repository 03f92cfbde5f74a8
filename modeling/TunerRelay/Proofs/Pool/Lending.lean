import TunerRelay.Proofs.Pool.Conservation
import TunerRelay.Proofs.Pool.Stages

/-!
# Buffers that a pool has lent

Buffers that are in existence and not queued are out. An acquisition lends one more, be it an old or a
new one, and a release to a stage that exists takes one back. A pool that is torn down reports those
that are out.
-/

namespace TunerRelay.Pool

/-- So many buffers of the pool are out. -/
def Lends (pool : Pool) (out : Nat) : Prop := pool.elements = pool.population + out

variable {pool rest : Pool} {stage out : Nat} {buffer : Buffer}

theorem acquire_eq_some (hacquire : pool.acquire stage = (some buffer, rest)) :
    pool.pop? stage = some (buffer, rest) ∨ pool.reserve? = some rest := by
  unfold acquire at hacquire
  split at hacquire
  · split at hacquire
    · rename_i hpop
      cases hacquire
      exact .inl hpop
    · split at hacquire
      · rename_i hreserve
        cases hacquire
        split at hreserve
        · exact .inr hreserve
        · cases hreserve
      · cases hacquire
  · cases hacquire

theorem acquire_eq_none (hacquire : pool.acquire stage = (none, rest)) : rest = pool := by
  unfold acquire at hacquire
  split at hacquire
  · split at hacquire
    · cases hacquire
    · split at hacquire
      · cases hacquire
      · exact (Prod.mk.inj hacquire).2.symm
  · exact (Prod.mk.inj hacquire).2.symm

namespace Lends

theorem acquire (hlends : pool.Lends out) (hacquire : pool.acquire stage = (some buffer, rest)) :
    rest.Lends (out + 1) := by
  unfold Lends at hlends ⊢
  rcases acquire_eq_some hacquire with hpop | hreserve
  · have hpopulation := population_pop? hpop
    obtain ⟨fifo, remaining, -, -, rfl⟩ := pop?_eq_some hpop
    change pool.elements = _
    omega
  · unfold reserve? at hreserve
    split at hreserve
    · cases hreserve
      change pool.elements + 1 = pool.population + (out + 1)
      omega
    · cases hreserve

theorem release (hlends : pool.Lends (out + 1)) (hvalid : pool.valid = true)
    (hstage : stage < pool.stages.length) : (pool.release stage buffer).Lends out := by
  have hpopulation := population_handOn buffer hstage
  unfold Lends at hlends ⊢
  rw [Pool.release, if_pos ⟨hvalid, hstage⟩, hpopulation]
  change pool.elements = _
  omega

/-- What a pool with a stage of free and one of ready buffers reports when it is torn down. -/
theorem teardown {limit : Nat} (hlends : pool.Lends out) (hworks : pool.Works limit) :
    pool.teardown.1 = out := by
  obtain ⟨elements, free, ready, -, -⟩ := hworks
  have hreport : (ofBuffers limit elements free ready).teardown.1 =
      elements - (free.length + (ready.length + 0)) := rfl
  have hpopulation : (ofBuffers limit elements free ready).population =
      free.length + (ready.length + 0) := rfl
  unfold Lends at hlends
  rw [hpopulation] at hlends
  change elements = _ at hlends
  omega

end Lends

namespace Works

variable {limit : Nat}

theorem length_stages (hworks : pool.Works limit) : pool.stages.length = 2 := by
  cases hworks
  rfl

end Works

end TunerRelay.Pool
