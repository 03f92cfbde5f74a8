import Mathlib
import TunerRelay.Proofs.Receiver.Sharing

/-!
# A capture that goes on to read is up to date

The capture notes the generation before it copies the settings, and a change is counted before its
setter lets go of the lock. So a change that the copy misses has not been counted when the
generation is noted, and the generation differs from the noted one as long as it holds fewer than
`2 ^ 64` changes. Settings that are changed and changed back count twice.
-/

namespace TunerRelay.Receiver

open TunerRelay.Device (Request)

/-- The generation noted for the tool that runs, and the settings that it runs with. -/
def Place.tool? : Place → Option (UInt64 × Settings)
  | .running generation settings | .comparing generation settings | .reading generation settings
  | .delivering generation settings | .drained generation settings
  | .judging generation settings => some (generation, settings)
  | .starting | .sampling | .launching _ | .finished _ => none

/-! ### Steps of the capture alone -/

/-- But for the start of the tool, a step keeps the tool or ends with it. -/
theorem Capture.tool?_step (signal : Signal) {place : Place} (receiver : Receiver)
    (hsampling : place ≠ .sampling) (hlaunching : ∀ generation, place ≠ .launching generation) :
    (∀ generation, (step signal { place, receiver }).place ≠ .launching generation) ∧
      ((step signal { place, receiver }).place.tool? = none ∨
        (step signal { place, receiver }).place.tool? = place.tool?) := by
  cases place with
  | starting | running | drained | comparing | judging =>
      simp only [step]
      split <;> simp [goTo, Place.tool?]
  | reading => cases signal <;> simp [step, goTo, Place.tool?]
  | delivering | finished => simp [step, goTo, Place.tool?]
  | sampling => exact absurd rfl hsampling
  | launching generation => exact absurd rfl (hlaunching generation)

namespace Sharing

/-! ### What is kept -/

/-- Unless a change was counted since the generation was noted, these settings are in force, and the
setter that is about to let go of the lock has changed nothing. -/
def IsFresh (settings : Settings) (sharing : Sharing) : Prop :=
  sharing.noted = sharing.changes →
    settings = sharing.inForce ∧
      ∀ before, sharing.edit = some (.counted before) → before = sharing.receiver.settings

/-- The generation is the count of changes, and so is the noted one; settings are fresh from the
moment they are copied. -/
structure Kept (origin : UInt64) (sharing : Sharing) : Prop where
  generation : sharing.receiver.generation = origin + UInt64.ofNat sharing.changes
  noted_le : sharing.noted ≤ sharing.changes
  launching : ∀ generation, sharing.place = .launching generation →
    generation = origin + UInt64.ofNat sharing.noted ∧
      ∀ settings, sharing.copied = some settings → sharing.IsFresh settings
  running : ∀ generation settings, sharing.place.tool? = some (generation, settings) →
    generation = origin + UInt64.ofNat sharing.noted ∧ sharing.IsFresh settings ∧
      sharing.commandLine = some settings.toolArguments

theorem kept_start (receiver : Receiver) : (start receiver).Kept receiver.generation where
  generation := (UInt64.add_zero receiver.generation).symm
  noted_le := le_refl 0
  launching := by rintro generation ⟨⟩
  running := by rintro generation settings ⟨⟩

/-- Settings are in force, and fresh, when they are copied from under the lock. -/
theorem isFresh_of_unlocked {sharing : Sharing} (hedit : sharing.edit = none) :
    sharing.IsFresh sharing.receiver.settings := by
  intro _
  simp [inForce, hedit]

/-- What others than the capture do leaves its place alone. It keeps the books if it keeps count and
what is fresh stays so. -/
theorem Kept.of_fresh {origin : UInt64} {sharing next : Sharing} (hkept : sharing.Kept origin)
    (hplace : next.place = sharing.place) (hcopied : next.copied = sharing.copied)
    (hcommand : next.commandLine = sharing.commandLine) (hnoted : next.noted = sharing.noted)
    (hle : sharing.changes ≤ next.changes)
    (hgeneration : next.receiver.generation = origin + UInt64.ofNat next.changes)
    (hfresh : ∀ settings, sharing.IsFresh settings → next.IsFresh settings) :
    next.Kept origin where
  generation := hgeneration
  noted_le := hnoted ▸ hkept.noted_le.trans hle
  launching := by
    rw [hplace, hcopied, hnoted]
    intro generation hlaunching
    obtain ⟨hcount, hcopies⟩ := hkept.launching generation hlaunching
    exact ⟨hcount, fun settings hsettings => hfresh settings (hcopies settings hsettings)⟩
  running := by
    rw [hplace, hcommand, hnoted]
    intro generation settings htool
    obtain ⟨hcount, hsettings, hline⟩ := hkept.running generation settings htool
    exact ⟨hcount, hfresh settings hsettings, hline⟩

theorem Kept.ask {origin : UInt64} {sharing : Sharing} (hkept : sharing.Kept origin)
    (request : Request) : (sharing.ask request).Kept origin := by
  unfold Sharing.ask
  split
  · rename_i haside
    have hperform : (sharing.receiver.perform request).2 =
        { sharing.receiver with
          cancelled := cancelledAfter sharing.receiver.cancelled request } := by
      simp [perform, apply_of_isAside haside, update]
    rw [hperform]
    exact hkept.of_fresh rfl rfl rfl rfl le_rfl hkept.generation fun _ hfresh => hfresh
  · split
    · rename_i hedit _
      refine hkept.of_fresh rfl rfl rfl rfl le_rfl hkept.generation fun settings hfresh hnow => ?_
      obtain ⟨hsettings, -⟩ := hfresh hnow
      simp only [inForce, hedit] at hsettings
      exact ⟨hsettings, by rintro before ⟨⟩⟩
    · exact hkept

theorem Kept.stepEdit {origin : UInt64} {sharing : Sharing} (hkept : sharing.Kept origin) :
    sharing.stepEdit.Kept origin := by
  cases hedit : sharing.edit with
  | none =>
      simp only [Sharing.stepEdit, hedit]
      exact hkept
  | some edit =>
      cases edit with
      | entered request =>
          simp only [Sharing.stepEdit, hedit]
          refine hkept.of_fresh rfl rfl rfl rfl le_rfl hkept.generation
            fun settings hfresh hnow => ⟨?_, by rintro before ⟨⟩⟩
          obtain ⟨hsettings, -⟩ := hfresh hnow
          simpa only [inForce, hedit, Edit.before] using hsettings
      | written before =>
          simp only [Sharing.stepEdit, hedit]
          split
          · rename_i hsame
            refine hkept.of_fresh rfl rfl rfl rfl le_rfl hkept.generation
              fun settings hfresh hnow => ⟨?_, ?_⟩
            · obtain ⟨hsettings, -⟩ := hfresh hnow
              simpa only [inForce, hedit, Edit.before] using hsettings
            · rintro _ ⟨⟩
              exact hsame.symm
          · refine hkept.of_fresh rfl rfl rfl rfl (Nat.le_succ _) ?_ fun settings _ hnow => ?_
            · simp only [hkept.generation, UInt64.ofNat_add]
              exact UInt64.add_assoc _ _ _
            · -- The change has just been counted, so it is later than the noted generation.
              have hle := hkept.noted_le
              simp only at hnow
              omega
      | counted before =>
          simp only [Sharing.stepEdit, hedit]
          refine hkept.of_fresh rfl rfl rfl rfl le_rfl hkept.generation
            fun settings hfresh hnow => ⟨?_, by rintro _ ⟨⟩⟩
          obtain ⟨hsettings, hidle⟩ := hfresh hnow
          simp only [inForce, hedit, Edit.before] at hsettings
          exact hsettings.trans (hidle before hedit)

/-- Where the capture has no tool and starts none, there is nothing to keep but the count. -/
theorem Kept.goTo {origin : UInt64} {sharing : Sharing} {place : Place}
    (hkept : sharing.Kept origin) (hlaunching : ∀ generation, place ≠ .launching generation)
    (htool : place.tool? = none ∨ place.tool? = sharing.place.tool?) :
    ({ sharing with place } : Sharing).Kept origin where
  generation := hkept.generation
  noted_le := hkept.noted_le
  launching := fun generation hplace => absurd hplace (hlaunching generation)
  running := by
    intro generation settings hsome
    rcases htool with hnone | hsame
    · cases hnone.symm.trans hsome
    · exact hkept.running generation settings (hsame.symm.trans hsome)

theorem Kept.stepCapture {origin : UInt64} {sharing : Sharing} (hkept : sharing.Kept origin)
    (signal : Signal) (hsampling : sharing.place ≠ .sampling)
    (hlaunching : ∀ generation, sharing.place ≠ .launching generation) :
    (sharing.stepCapture signal).Kept origin := by
  obtain ⟨hlater, htool⟩ := Capture.tool?_step signal sharing.receiver hsampling hlaunching
  obtain ⟨hsettings, hgeneration⟩ := Capture.receiver_step signal sharing.place sharing.receiver
  refine (hkept.goTo hlater htool).of_fresh rfl rfl rfl rfl le_rfl
    (hgeneration.trans hkept.generation) fun settings hfresh hnow => ?_
  unfold inForce
  simp only [Sharing.stepCapture, hsettings]
  exact hfresh hnow

theorem Kept.sample {origin : UInt64} {sharing : Sharing} (hkept : sharing.Kept origin)
    (hplace : sharing.place = .sampling) (signal : Signal) :
    ({ sharing.stepCapture signal with
      noted := sharing.changes, copied := none } : Sharing).Kept origin := by
  simp only [Sharing.stepCapture, Capture.step, hplace, Capture.goTo]
  constructor
  · exact hkept.generation
  · exact le_rfl
  · rintro _ ⟨⟩
    exact ⟨hkept.generation, by rintro settings ⟨⟩⟩
  · rintro generation settings ⟨⟩

theorem Kept.launch {origin : UInt64} {sharing : Sharing} {generation : UInt64}
    {settings : Settings} (hkept : sharing.Kept origin)
    (hplace : sharing.place = .launching generation) (hcopied : sharing.copied = some settings)
    (signal : Signal) : (sharing.launch settings signal).Kept origin := by
  obtain ⟨hcount, hfresh⟩ := hkept.launching generation hplace
  cases signal with
  | started =>
      simp only [Sharing.launch, hplace, Capture.step, Capture.goTo]
      constructor
      · exact hkept.generation
      · exact hkept.noted_le
      · rintro _ ⟨⟩
      · rintro _ _ ⟨⟩
        exact ⟨hcount, hfresh settings hcopied, rfl⟩
  | notStarted reason =>
      simp only [Sharing.launch, hplace, Capture.step, Capture.goTo]
      exact hkept.goTo (fun _ => Place.noConfusion) (.inl rfl)
  | silence | chunk | endOfOutput | interrupted | readFailed =>
      simp only [Sharing.launch, hplace, Capture.step]
      rw [← hplace]
      exact hkept

theorem Kept.copy {origin : UInt64} {sharing : Sharing} (hkept : sharing.Kept origin)
    (hedit : sharing.edit = none) :
    ({ sharing with copied := some sharing.receiver.settings } : Sharing).Kept origin where
  generation := hkept.generation
  noted_le := hkept.noted_le
  launching := by
    intro generation hplace
    refine ⟨(hkept.launching generation hplace).1, ?_⟩
    rintro _ ⟨⟩
    exact isFresh_of_unlocked hedit
  running := hkept.running

theorem Kept.prepare {origin : UInt64} {sharing : Sharing} {generation : UInt64}
    (hkept : sharing.Kept origin) (hplace : sharing.place = .launching generation)
    (signal : Signal) : (sharing.prepare signal).Kept origin := by
  unfold Sharing.prepare
  split
  · exact hkept.launch hplace ‹_› signal
  · exact hkept.copy ‹_›
  · exact hkept

theorem Kept.capture {origin : UInt64} {sharing : Sharing} (hkept : sharing.Kept origin)
    (signal : Signal) : (sharing.capture signal).Kept origin := by
  unfold Sharing.capture
  split
  · exact hkept.sample ‹_› signal
  · exact hkept.prepare ‹_› signal
  · exact hkept.stepCapture signal ‹_› ‹_›

theorem Kept.move {origin : UInt64} {sharing : Sharing} (hkept : sharing.Kept origin)
    (move : Move) : (sharing.move move).Kept origin := by
  cases move with
  | request request => exact hkept.ask request
  | edit => exact hkept.stepEdit
  | begin =>
      simp only [Sharing.move]
      split
      · exact hkept.goTo (fun _ => Place.noConfusion) (.inl rfl)
      · exact hkept
  | capture signal => exact hkept.capture signal

theorem Kept.run {origin : UInt64} {sharing : Sharing} (hkept : sharing.Kept origin)
    (moves : List Move) : (sharing.run moves).Kept origin := by
  induction moves generalizing sharing with
  | nil => exact hkept
  | cons move rest ih => exact ih (hkept.move move)

/-! ### The check -/

/-- The check finds the generation unchanged just if no change was counted since it was noted. -/
theorem Kept.capture_comparing {origin : UInt64} {sharing : Sharing} {generation : UInt64}
    {settings : Settings} (hkept : sharing.Kept origin) (hroom : sharing.changes < 2 ^ 64)
    (hplace : sharing.place = .comparing generation settings) (signal : Signal) :
    (sharing.move (.capture signal)).place =
      if sharing.noted = sharing.changes then .reading generation settings else .starting := by
  obtain ⟨hcount, -⟩ := hkept.running generation settings (by rw [hplace]; rfl)
  have hnoted : sharing.noted < 2 ^ 64 := hkept.noted_le.trans_lt hroom
  have hsame : sharing.receiver.generation = generation ↔ sharing.noted = sharing.changes := by
    rw [hkept.generation, hcount, UInt64.add_right_inj, ← UInt64.toNat_inj,
      UInt64.toNat_ofNat_of_lt' hroom, UInt64.toNat_ofNat_of_lt' hnoted]
    exact eq_comm
  by_cases hnow : sharing.noted = sharing.changes
  · simp [Sharing.move, Sharing.capture, hplace, Sharing.stepCapture, Capture.step,
      hsame.mpr hnow, hnow, Capture.goTo]
  · have hchanged : sharing.receiver.generation ≠ generation := fun heq => hnow (hsame.mp heq)
    simp [Sharing.move, Sharing.capture, hplace, Sharing.stepCapture, Capture.step, hchanged, hnow]

/-- **No stale capture.** However setters and the capture interleave, when the capture finds the
generation unchanged and goes on to read, the tool that it reads from was started with the command
line of the settings then in force, as long as the generation has not come round. -/
theorem read_from_current_tool (receiver : Receiver) (moves : List Move) (signal : Signal)
    {generation : UInt64} {settings : Settings}
    (hroom : ((start receiver).run moves).changes < 2 ^ 64)
    (hcheck : ((start receiver).run moves).place = .comparing generation settings)
    (hread : (((start receiver).run moves).move (.capture signal)).place =
      .reading generation settings) :
    ((start receiver).run moves).commandLine =
      some ((start receiver).run moves).inForce.toolArguments := by
  have hkept := (kept_start receiver).run moves
  obtain ⟨-, hfresh, hline⟩ := hkept.running generation settings (by rw [hcheck]; rfl)
  rw [hkept.capture_comparing hroom hcheck signal] at hread
  split at hread
  · rename_i hnow
    rw [hline, (hfresh hnow).1]
  · cases hread

/-- The correction is changed and changed back before the settings are copied, and the tool is
started again. Then another change is written, but not yet counted. -/
def restlessMoves : List Move :=
  [.begin, .capture .silence, .capture .silence,
    .request (.correction 5), .edit, .edit, .edit, .request (.correction 0), .edit, .edit, .edit,
    .capture .silence, .capture .started, .capture .silence, .capture .silence,
    .capture .silence, .capture .silence, .capture .silence, .capture .started, .capture .silence,
    .request (.correction 7), .edit]

theorem read_from_current_tool_restless :
    let sharing := (start (ofBanner "rtl_sdr" 0 {})).run restlessMoves
    sharing.changes < 2 ^ 64 ∧
    sharing.place = .comparing 2 {} ∧
    (sharing.move (.capture .silence)).place = .reading 2 {} ∧
    sharing.inForce ≠ sharing.receiver.settings ∧
    sharing.commandLine = some sharing.inForce.toolArguments :=
  ⟨by decide, rfl, rfl, by decide,
    read_from_current_tool _ restlessMoves .silence (by decide) rfl rfl⟩

end Sharing

end TunerRelay.Receiver
