import TunerRelay.Proofs.Receiver.Wording

/-!
# The last line of a shape wins

Every field of a banner has lines of one shape that give it. What lines of other shapes, or of none,
stand between them makes no difference.
-/

namespace TunerRelay.Receiver

open TunerRelay.Tuner (Chip gainTable)

variable {α β : Type} {line : List Char} {lines others : List String}

/-! ### The last line of a wording -/

/-- What the last line of a wording says, where a line is worded so. -/
inductive Latest (wording : List Char → α → Prop) (lines : List String) : Option α → Prop where
  | none (hnone : ∀ line ∈ lines, ∀ value, ¬ wording line.toList value) : Latest wording lines none
  | some (before : List String) (line : String) (after : List String) (value : α)
    (hlines : lines = before ++ line :: after) (hline : wording line.toList value)
    (hafter : ∀ later ∈ after, ∀ other, ¬ wording later.toList other) :
    Latest wording lines (some value)

theorem latest_getLast? {wording : List Char → α → Prop} {pick : String → Option α}
    (hpick : ∀ line value, pick line = some value ↔ wording line.toList value)
    (lines : List String) : Latest wording lines (lines.filterMap pick).getLast? := by
  have hnone : ∀ line, pick line = none → ∀ value, ¬ wording line.toList value :=
    fun line hline value hworded => by simp [(hpick line value).mpr hworded] at hline
  rw [List.getLast?_filterMap]
  cases hlast : lines.reverse.findSome? pick with
  | none =>
      rw [List.findSome?_eq_none_iff] at hlast
      exact .none fun line hmem => hnone line (hlast line (List.mem_reverse.mpr hmem))
  | some value =>
      obtain ⟨after, line, before, hlines, hline, hafter⟩ := List.findSome?_eq_some_iff.mp hlast
      refine .some before.reverse line after.reverse value ?_ ((hpick line value).mp hline)
        fun later hmem => hnone later (hafter later (List.mem_reverse.mp hmem))
      rw [← List.reverse_reverse lines, hlines]
      simp

/-! ### Shapes -/

inductive Shape where
  | noDevices
  | deviceCount
  | tuner
  | device
  | gains
deriving DecidableEq, Repr

def Line.shape? : Line → Option Shape
  | .noDevices => some .noDevices
  | .deviceCount _ => some .deviceCount
  | .tuner _ => some .tuner
  | .device _ => some .device
  | .gains _ => some .gains
  | .noise => none

/-- Whether a line is worded in this shape. -/
def Shape.Fits (shape : Shape) (line : List Char) : Prop :=
  ∃ said : Line, said.Says line ∧ said.shape? = some shape

theorem shape?_ofText_eq_some_iff {shape : Shape} :
    (Line.ofText line).shape? = some shape ↔ shape.Fits line := by
  constructor
  · intro hshape
    refine ⟨Line.ofText line, says_iff.mpr ⟨rfl, fun hnoise => ?_⟩, hshape⟩
    rw [hnoise] at hshape
    cases hshape
  · rintro ⟨said, hworded, hshape⟩
    rw [ofText_of_worded hworded, hshape]

instance {shape : Shape} : Decidable (shape.Fits line) :=
  decidable_of_iff _ shape?_ofText_eq_some_iff

/-! ### Fields -/

/-- A field of a banner, what its lines say, and what it becomes by that. -/
structure Field (α β : Type) where
  shape : Shape
  line : α → Line
  said? : Line → Option α
  read : Banner → β
  become : α → β
  shape?_line : ∀ value, (line value).shape? = some shape := by intro; rfl
  said?_eq_some_iff : ∀ said value, said? said = some value ↔ said = line value := by
    rintro (_ | _ | _ | _ | _ | _) _ <;> simp
  read_read : ∀ (banner : Banner) (said : Line),
    read (banner.read said) = ((said? said).map become).getD (read banner) := by
    rintro _ (_ | _ | _ | _ | _ | _) <;> rfl

namespace Field

def noDevices : Field Unit Bool where
  shape := .noDevices
  line := fun _ => .noDevices
  said? := fun | .noDevices => some () | _ => none
  read := Banner.noDevices
  become := fun _ => true

def deviceCount : Field UInt64 UInt64 where
  shape := .deviceCount
  line := .deviceCount
  said? := fun | .deviceCount count => some count | _ => none
  read := Banner.deviceCount
  become := id

def tuner : Field (List Char) (UInt32 × Option String) where
  shape := .tuner
  line := .tuner
  said? := fun | .tuner name => some name | _ => none
  read := fun banner => (banner.tuner, banner.tunerName)
  become := fun name =>
    ((Chip.ofName (String.ofList name)).number, some (String.ofList (Text.trim name)))

def device : Field (List Char) (Option String) where
  shape := .device
  line := .device
  said? := fun | .device name => some name | _ => none
  read := Banner.deviceName
  become := fun name => some (String.ofList name)

def gains : Field (List Int32) (List Int32) where
  shape := .gains
  line := .gains
  said? := fun | .gains listed => some listed | _ => none
  read := Banner.gains
  become := id

variable (field : Field α β)

/-- What the last line of the field's shape says. -/
def latest (lines : List String) : Option α :=
  (lines.filterMap fun line => field.said? (.ofText line.toList)).getLast?

theorem said?_ofText_eq_some_iff {value : α} :
    field.said? (.ofText line) = some value ↔ (field.line value).Says line := by
  rw [field.said?_eq_some_iff, says_iff]
  refine ⟨fun heq => ⟨heq, fun hnoise => ?_⟩, And.left⟩
  have hshape := field.shape?_line value
  rw [hnoise] at hshape
  cases hshape

theorem said?_ofText_eq_none_of_not_fits (hfits : ¬ field.shape.Fits line) :
    field.said? (.ofText line) = none := by
  cases hsaid : field.said? (.ofText line) with
  | none => rfl
  | some value =>
      exact absurd ⟨_, field.said?_ofText_eq_some_iff.mp hsaid, field.shape?_line value⟩ hfits

theorem latest_latest (lines : List String) :
    Latest (fun line value => (field.line value).Says line) lines (field.latest lines) :=
  latest_getLast? (fun _ _ => field.said?_ofText_eq_some_iff) lines

/-- The last line that gives the field wins. -/
theorem read_foldl (lines : List String) (banner : Banner) :
    field.read (lines.foldl (fun banner line => banner.read (.ofText line.toList)) banner) =
      ((field.latest lines).map field.become).getD (field.read banner) := by
  induction lines generalizing banner with
  | nil => rfl
  | cons line lines ih =>
      rw [List.foldl_cons, ih, field.read_read, latest, latest, List.filterMap_cons]
      cases field.said? (.ofText line.toList) with
      | none => rfl
      | some value =>
          rw [List.getLast?_cons]
          cases (lines.filterMap fun line => field.said? (.ofText line.toList)).getLast? <;> rfl

/-- Only lines of the field's shape count, and of those only their order. -/
theorem latest_congr
    (hlines : lines.filter (fun line => field.shape.Fits line.toList) =
      others.filter (fun line => field.shape.Fits line.toList)) :
    field.latest lines = field.latest others := by
  have hfilter : ∀ lines : List String,
      (lines.filter fun line => field.shape.Fits line.toList).filterMap
        (fun line => field.said? (.ofText line.toList)) =
      lines.filterMap fun line => field.said? (.ofText line.toList) := by
    intro lines
    rw [List.filterMap_filter]
    refine List.filterMap_congr fun line _ => ?_
    split
    · rfl
    · rename_i hfits
      exact (field.said?_ofText_eq_none_of_not_fits (by simpa using hfits)).symm
  rw [latest, latest, ← hfilter lines, hlines, hfilter others]

end Field

/-! ### Whole banners -/

/-- What the lines say, before a missing gain list is made up for. -/
def Banner.said (lines : List String) : Banner :=
  lines.foldl (fun banner line => banner.read (.ofText line.toList)) {}

theorem Banner.ofLines_eq (lines : List String) :
    Banner.ofLines lines = { Banner.said lines with
      gains :=
        if (Banner.said lines).gains = [] then gainTable (Banner.said lines).tuner
        else (Banner.said lines).gains } := by
  change (Banner.said lines).complete = _
  unfold Banner.complete
  cases hgains : (Banner.said lines).gains with
  | nil => rfl
  | cons first rest =>
      rw [if_neg (by simp), if_neg (by simp), ← hgains]

theorem gainsOf_eq_nil_iff {values : List Char} :
    gainsOf values = [] ↔ ∀ word ∈ Text.words values, Decimal.Single.ofText? word = none := by
  simp only [gainsOf, List.filterMap_eq_nil_iff, Option.map_eq_none_iff]

theorem Field.read_said (field : Field α β) (lines : List String) :
    field.read (Banner.said lines) =
      ((field.latest lines).map field.become).getD (field.read {}) :=
  field.read_foldl lines {}

theorem Banner.noDevices_said_iff :
    (Banner.said lines).noDevices = true ↔ ∃ line ∈ lines, Line.noDevices.Says line.toList := by
  have hread := Field.noDevices.read_said lines
  change (Banner.said lines).noDevices = _ at hread
  rw [hread]
  have hlatest := Field.noDevices.latest_latest lines
  cases hlast : Field.noDevices.latest lines with
  | none =>
      rw [hlast] at hlatest
      cases hlatest with
      | none hnone =>
          refine iff_of_false Bool.false_ne_true ?_
          rintro ⟨line, hmem, hworded⟩
          exact hnone line hmem () hworded
  | some value =>
      rw [hlast] at hlatest
      cases hlatest with
      | some before line after _ hlines hline _ =>
          exact iff_of_true rfl ⟨line, hlines ▸ by simp, hline⟩

/-- Lines of each shape count by their order among themselves. -/
theorem Banner.said_congr
    (hlines : ∀ shape : Shape, lines.filter (fun line => shape.Fits line.toList) =
      others.filter (fun line => shape.Fits line.toList)) :
    Banner.said lines = Banner.said others := by
  have hfield {α β : Type} (field : Field α β) :
      field.read (Banner.said lines) = field.read (Banner.said others) := by
    rw [field.read_said, field.read_said, field.latest_congr (hlines field.shape)]
  have htuner := Prod.mk.inj (hfield .tuner)
  have hgains := hfield .gains
  cases hsaid : Banner.said lines
  cases hother : Banner.said others
  rw [hsaid, hother] at hfield htuner hgains
  exact Banner.mk.injEq .. ▸ ⟨hfield .deviceCount, hfield .device, htuner.2, htuner.1, hgains,
    hfield .noDevices⟩

/-- Lines that fit no shape make no difference, wherever they stand. -/
theorem filter_fits_append_noise {before noise after : List String}
    (hnoise : ∀ line ∈ noise, ∀ shape : Shape, ¬ shape.Fits line.toList) (shape : Shape) :
    (before ++ noise ++ after).filter (fun line => shape.Fits line.toList) =
      (before ++ after).filter (fun line => shape.Fits line.toList) := by
  have hnone : noise.filter (fun line => shape.Fits line.toList) = [] :=
    List.filter_eq_nil_iff.mpr fun line hmem => by simpa using hnoise line hmem shape
  rw [List.filter_append, List.filter_append, hnone, List.append_nil, List.filter_append]

/-- **In a banner the last line of each shape wins.** No devices are reported when some line says
so. The count, the tuner's name and number, the device's name, and the gains are each given by the
last line worded that way, and keep their defaults where there is none. Where that leaves no gain,
for want of the line or of a word in it that is a number, the table of the tuner that was found last
stands in. So lines can be put in any order that keeps the order within each shape, and lines of no
shape can be put in anywhere. -/
theorem last_line_wins :
    (∀ lines,
      ((Banner.ofLines lines).noDevices = true ↔
        ∃ line ∈ lines, Line.noDevices.Says line.toList) ∧
      (∃ count, Latest (fun line count => (Line.deviceCount count).Says line) lines count ∧
        (Banner.ofLines lines).deviceCount = count.getD 0) ∧
      (∃ name, Latest (fun line name => (Line.tuner name).Says line) lines name ∧
        (Banner.ofLines lines).tunerName = name.map (fun name => String.ofList (Text.trim name)) ∧
        (Banner.ofLines lines).tuner =
          (name.map fun name => (Chip.ofName (String.ofList name)).number).getD 0) ∧
      (∃ name, Latest (fun line name => (Line.device name).Says line) lines name ∧
        (Banner.ofLines lines).deviceName = name.map String.ofList) ∧
      ∃ listed, Latest (fun line listed => (Line.gains listed).Says line) lines listed ∧
        (Banner.ofLines lines).gains =
          if listed.getD [] = [] then gainTable (Banner.ofLines lines).tuner
          else listed.getD []) ∧
    (∀ values, gainsOf values = [] ↔
      ∀ word ∈ Text.words values, Decimal.Single.ofText? word = none) ∧
    (∀ lines others : List String,
      (∀ shape : Shape, lines.filter (fun line => shape.Fits line.toList) =
        others.filter (fun line => shape.Fits line.toList)) →
      Banner.ofLines lines = Banner.ofLines others) ∧
    ∀ before noise after : List String,
      (∀ line ∈ noise, ∀ shape : Shape, ¬ shape.Fits line.toList) →
      Banner.ofLines (before ++ noise ++ after) = Banner.ofLines (before ++ after) := by
  have hcongr (lines others : List String)
      (hlines : ∀ shape : Shape, lines.filter (fun line => shape.Fits line.toList) =
        others.filter (fun line => shape.Fits line.toList)) :
      Banner.ofLines lines = Banner.ofLines others := by
    rw [Banner.ofLines_eq, Banner.ofLines_eq, Banner.said_congr hlines]
  refine ⟨fun lines => ?_, fun values => gainsOf_eq_nil_iff, hcongr,
    fun before noise after hnoise => hcongr _ _ (filter_fits_append_noise hnoise)⟩
  rw [Banner.ofLines_eq]
  refine ⟨Banner.noDevices_said_iff, ⟨_, Field.deviceCount.latest_latest lines, ?_⟩,
    ⟨_, Field.tuner.latest_latest lines, ?_⟩, ⟨_, Field.device.latest_latest lines, ?_⟩,
    ⟨_, Field.gains.latest_latest lines, ?_⟩⟩
  · have hcount := Field.deviceCount.read_said lines
    cases hlast : Field.deviceCount.latest lines <;> rw [hlast] at hcount <;> exact hcount
  · have htuner := Prod.mk.inj (Field.tuner.read_said lines)
    cases hlast : Field.tuner.latest lines <;> rw [hlast] at htuner <;>
      exact ⟨htuner.2, htuner.1⟩
  · have hdevice := Field.device.read_said lines
    cases hlast : Field.device.latest lines <;> rw [hlast] at hdevice <;> exact hdevice
  · have hgains := Field.gains.read_said lines
    cases hlast : Field.gains.latest lines <;> rw [hlast] at hgains <;>
      exact congrArg (fun listed => if listed = [] then gainTable _ else listed) hgains

end TunerRelay.Receiver
