import Interlock.Pin.Bank
import Interlock.Pin.Output
import Mathlib.Data.List.Chain

namespace Interlock

namespace PinBank

/-- The level of a pin, whatever its direction is. -/
def level? (b : PinBank) (name : String) : Option Bool :=
  (b.pins.find? name).map (·.level)

theorem level?_setLevel_of_ne (b : PinBank) {name other : String} (hne : other ≠ name)
    (level : Bool) : (b.setLevel name level).level? other = b.level? other := by
  simp [level?, setLevel, Registry.find?_modify, hne]

/-- A pin that breaks or is mended keeps its level. -/
theorem level?_refuse (b : PinBank) (name other : String) (reads writes : Bool) :
    (b.refuse name reads writes).level? other = b.level? other := by
  simp only [level?, refuse, Registry.find?_modify]
  split
  · rw [Option.map_map]
    rfl
  · rfl

/-- A write is refused, or moves the pin. -/
theorem write_cases (b : PinBank) (name : String) (level : Bool) :
    b.write name level = .error .pinWrite ∨
      b.write name level = .ok (b.setLevel name level) ∧
        (b.setLevel name level).level? name = some level := by
  unfold write
  cases hpin : b.pins.find? name with
  | none => exact .inl rfl
  | some pin =>
    dsimp only
    split
    · exact .inl rfl
    · exact .inr ⟨rfl, by simp [level?, setLevel, Registry.find?_modify, hpin]⟩

/-- Whether a write is refused does not depend on the levels of other pins, only
    on the pin itself. -/
theorem write_setLevel_eq_error_iff (b : PinBank) {name other : String} (hne : other ≠ name)
    (level level' : Bool) :
    (b.setLevel name level).write other level' = .error .pinWrite ↔
      b.write other level' = .error .pinWrite := by
  have hpin : (b.setLevel name level).pins.find? other = b.pins.find? other := by
    simp [setLevel, Registry.find?_modify, hne]
  unfold write
  rw [hpin]
  cases b.pins.find? other with
  | none => simp
  | some pin =>
    dsimp only
    split <;> simp

end PinBank

/-- The levels that were written to a pin, in their order. -/
def levelsOf (name : String) (writes : List (String × Bool)) : List Bool :=
  (writes.filter fun write => write.1 = name).map (·.2)

@[simp] theorem levelsOf_nil (name : String) : levelsOf name [] = [] := rfl

@[simp] theorem levelsOf_append (name : String) (first second : List (String × Bool)) :
    levelsOf name (first ++ second) = levelsOf name first ++ levelsOf name second := by
  simp [levelsOf]

@[simp] theorem levelsOf_self (name : String) (level : Bool) :
    levelsOf name [(name, level)] = [level] := by
  simp [levelsOf]

theorem levelsOf_of_ne {name other : String} (hne : other ≠ name) (level : Bool) :
    levelsOf other [(name, level)] = [] := by
  simp [levelsOf, hne.symm]

namespace OutputPin

/-- What the log says of a refused write. -/
def refusal (o : OutputPin) : LogRecord :=
  ⟨.warn, s!"{o.pin}: {(Failure.access .pinWrite).message}"⟩

/-- What driving a pin can do. -/
inductive Drives (o : OutputPin) (b : PinBank) : Option Bool → Traced (OutputPin × PinBank) → Prop
  /-- Nothing is requested, or the level that is noted already. -/
  | rests {requested : Option Bool} (noted : ∀ level, requested = some level →
      o.written = some level) : Drives o b requested ⟨(o, b), {}⟩
  | writes {level : Bool} (fresh : o.written ≠ some level)
      (carried : (b.setLevel o.pin level).level? o.pin = some level) (records : List LogRecord) :
    Drives o b (some level)
      ⟨({ o with written := some level }, b.setLevel o.pin level),
        { records, pins := [(o.pin, level)] }⟩
  | refused {level : Bool} (fresh : o.written ≠ some level)
      (refuses : b.write o.pin level = .error .pinWrite) (records : List LogRecord) :
    Drives o b (some level) ⟨(o, b), { records := records ++ [o.refusal] }⟩

/-- Driving an output is one of these: there is nothing to write, the write goes
    through, or it is refused. -/
theorem drives_drive (o : OutputPin) (b : PinBank) (requested : Option Bool) :
    o.Drives b requested (o.drive b requested) := by
  cases requested with
  | none => exact .rests nofun
  | some level =>
    unfold drive
    dsimp only
    by_cases hnoted : o.written = some level
    · rw [if_pos hnoted]
      refine .rests fun level' hlevel' => ?_
      rw [hnoted, hlevel']
    · rw [if_neg hnoted]
      have hwrite : PinAccess.write b o.pin level = b.write o.pin level := rfl
      rw [hwrite]
      rcases b.write_cases o.pin level with hrefuses | ⟨haccepts, hcarried⟩
      · rw [hrefuses]
        exact .refused hnoted hrefuses _
      · rw [haccepts]
        exact .writes hnoted hcarried _

/-- The note of an output is the last level written, which the pin still has,
    and the levels written so far alternate. This holds as long as nobody else
    moves the pin, through refused writes and whatever is requested in between. -/
structure Tracks (o : OutputPin) (b : PinBank) (past : List (String × Bool)) : Prop where
  noted : o.written = (levelsOf o.pin past).getLast?
  carried : ∀ level, o.written = some level → b.level? o.pin = some level
  alternates : (levelsOf o.pin past).IsChain (· ≠ ·)

/-- An output without a note tracks a pin to which nothing was written. -/
theorem tracks_of_unwritten {o : OutputPin} (hnew : o.written = none) (b : PinBank) :
    o.Tracks b [] where
  noted := hnew
  carried level hlevel := by
    rw [hnew] at hlevel
    cases hlevel
  alternates := .nil

/-- The note still holds where others are written and moved. -/
theorem Tracks.keep {o : OutputPin} {b b' : PinBank} {past writes : List (String × Bool)}
    (htracks : o.Tracks b past) (hlevel : b'.level? o.pin = b.level? o.pin)
    (hwrites : levelsOf o.pin writes = []) : o.Tracks b' (past ++ writes) where
  noted := by
    rw [levelsOf_append, hwrites, List.append_nil]
    exact htracks.noted
  carried := by
    rw [hlevel]
    exact htracks.carried
  alternates := by
    rw [levelsOf_append, hwrites, List.append_nil]
    exact htracks.alternates

section

variable {o : OutputPin} {b : PinBank} {requested : Option Bool}
  {driven : Traced (OutputPin × PinBank)}

theorem Drives.pin_eq (hdrives : o.Drives b requested driven) : driven.value.1.pin = o.pin := by
  cases hdrives <;> rfl

/-- Driving keeps the note true. A level is only written if it differs from the
    note, which is why the levels alternate, and a refused write changes neither
    note nor pin. -/
theorem Drives.tracks (hdrives : o.Drives b requested driven) {past : List (String × Bool)}
    (htracks : o.Tracks b past) :
    driven.value.1.Tracks driven.value.2 (past ++ driven.trace.pins) := by
  cases hdrives with
  | rests => exact htracks.keep rfl rfl
  | refused => exact htracks.keep rfl rfl
  | @writes level hfresh hcarried records =>
    refine ⟨by simp, ?_, ?_⟩
    · rintro level' hlevel'
      obtain rfl := Option.some.inj hlevel'
      exact hcarried
    · -- The note is the end of the levels so far, and the new level is not what it notes.
      dsimp only
      rw [levelsOf_append, levelsOf_self, List.isChain_append]
      refine ⟨htracks.alternates, .singleton _, ?_⟩
      intro last hlast level' hlevel'
      rw [← htracks.noted] at hlast
      obtain rfl : level = level' := by simpa using hlevel'
      rintro rfl
      exact hfresh hlast

/-- An output with a requested level carries it, or its write is refused and the
    log says so. A level that is noted need not be written, since the pin still
    has it. -/
theorem Drives.reaches (hdrives : o.Drives b requested driven) {past : List (String × Bool)}
    (htracks : o.Tracks b past) {level : Bool} (hlevel : requested = some level) :
    driven.value.2.level? o.pin = some level ∨
      o.written ≠ some level ∧ b.write o.pin level = .error .pinWrite ∧
        o.refusal ∈ driven.trace.records := by
  cases hdrives with
  | rests hnoted => exact .inl (htracks.carried level (hnoted level hlevel))
  | writes _ hcarried =>
    obtain rfl := Option.some.inj hlevel
    exact .inl hcarried
  | refused hfresh hrefuses records =>
    obtain rfl := Option.some.inj hlevel
    exact .inr ⟨hfresh, hrefuses, by simp⟩

/-- Driving one output is nothing to the others: their pins keep their levels,
    and refuse what they refused before. -/
theorem Drives.others (hdrives : o.Drives b requested driven) {other : String}
    (hother : other ≠ o.pin) :
    driven.value.2.level? other = b.level? other ∧ levelsOf other driven.trace.pins = [] ∧
      ∀ level, driven.value.2.write other level = .error .pinWrite ↔
        b.write other level = .error .pinWrite := by
  cases hdrives with
  | rests => exact ⟨rfl, rfl, fun _ => Iff.rfl⟩
  | refused => exact ⟨rfl, rfl, fun _ => Iff.rfl⟩
  | @writes level =>
    exact ⟨b.level?_setLevel_of_ne hother level, levelsOf_of_ne hother level,
      b.write_setLevel_eq_error_iff hother level⟩

end

/-- Drives outputs one after the other, each with what is requested of it. -/
def driveAll (b : PinBank) : List (OutputPin × Option Bool) → Traced (List OutputPin × PinBank)
  | [] => pure ([], b)
  | (o, requested) :: rest => do
    let (o, b) ← o.drive b requested
    let (outputs, b) ← driveAll b rest
    return (o :: outputs, b)

section

variable (b : PinBank) (o : OutputPin) (requested : Option Bool)
  (rest : List (OutputPin × Option Bool))

theorem value_driveAll_cons :
    (driveAll b ((o, requested) :: rest)).value =
      ((o.drive b requested).value.1 ::
          (driveAll (o.drive b requested).value.2 rest).value.1,
        (driveAll (o.drive b requested).value.2 rest).value.2) := rfl

theorem trace_driveAll_cons :
    (driveAll b ((o, requested) :: rest)).trace =
      (o.drive b requested).trace ++ (driveAll (o.drive b requested).value.2 rest).trace := by
  simp [driveAll]

end

/-- The outputs keep their pins and their order. -/
theorem pins_driveAll (b : PinBank) (requests : List (OutputPin × Option Bool)) :
    (driveAll b requests).value.1.map (·.pin) = requests.map (·.1.pin) := by
  induction requests generalizing b with
  | nil => rfl
  | cons request rest ih =>
    obtain ⟨o, requested⟩ := request
    rw [value_driveAll_cons, List.map_cons, List.map_cons, ih,
      (o.drives_drive b requested).pin_eq]

/-- Driving outputs is nothing to a pin that none of them has. -/
theorem driveAll_others {b : PinBank} {requests : List (OutputPin × Option Bool)} {other : String}
    (hother : other ∉ requests.map (·.1.pin)) :
    (driveAll b requests).value.2.level? other = b.level? other ∧
      levelsOf other (driveAll b requests).trace.pins = [] := by
  induction requests generalizing b with
  | nil => exact ⟨rfl, rfl⟩
  | cons request rest ih =>
    obtain ⟨o, requested⟩ := request
    obtain ⟨hfirst, hrest⟩ := not_or.1 (List.mem_cons.not.1 hother)
    obtain ⟨hlevel, hwrites, _⟩ := (o.drives_drive b requested).others hfirst
    obtain ⟨hlevelRest, hwritesRest⟩ := ih (b := (o.drive b requested).value.2) hrest
    rw [value_driveAll_cons, trace_driveAll_cons]
    refine ⟨hlevelRest.trans hlevel, ?_⟩
    rw [Trace.pins_append, levelsOf_append, hwrites, hwritesRest, List.append_nil]

section

variable {b : PinBank} {past : List (String × Bool)} {requests : List (OutputPin × Option Bool)}

/-- What one drive leaves of the notes of the outputs behind it, whose pins are
    different ones. -/
theorem Drives.tracks_others {o : OutputPin} {requested : Option Bool}
    {driven : Traced (OutputPin × PinBank)} (hdrives : o.Drives b requested driven)
    (hother : o.pin ∉ requests.map (·.1.pin))
    (htracks : ∀ request ∈ requests, request.1.Tracks b past) :
    ∀ request ∈ requests, request.1.Tracks driven.value.2 (past ++ driven.trace.pins) := by
  intro request hmem
  have hne : request.1.pin ≠ o.pin := fun hsame =>
    hother (List.mem_map.2 ⟨request, hmem, hsame⟩)
  obtain ⟨hlevel, hwrites, _⟩ := hdrives.others hne
  exact (htracks request hmem).keep hlevel hwrites

/-- Driving all outputs keeps their notes, provided that no two of them share a
    pin. -/
theorem tracks_driveAll (hdistinct : (requests.map (·.1.pin)).Nodup)
    (htracks : ∀ request ∈ requests, request.1.Tracks b past) :
    ∀ o ∈ (driveAll b requests).value.1,
      o.Tracks (driveAll b requests).value.2 (past ++ (driveAll b requests).trace.pins) := by
  induction requests generalizing b past with
  | nil => exact nofun
  | cons request rest ih =>
    obtain ⟨o, requested⟩ := request
    obtain ⟨hother, hrest⟩ := List.nodup_cons.1 hdistinct
    obtain ⟨hfirst, hbehind⟩ := List.forall_mem_cons.1 htracks
    have hdrives := o.drives_drive b requested
    have hnext := ih hrest (hdrives.tracks_others hother hbehind)
    rw [value_driveAll_cons, trace_driveAll_cons, Trace.pins_append, ← List.append_assoc]
    intro o' hmem
    rcases List.mem_cons.1 hmem with rfl | hmem
    · have hpin := hdrives.pin_eq
      obtain ⟨hlevel, hwrites⟩ := driveAll_others (b := (o.drive b requested).value.2) hother
      exact (hdrives.tracks hfirst).keep (by rw [hpin, hlevel]) (by rw [hpin, hwrites])
    · exact hnext o' hmem

/-- Every output with a requested level carries it after all are driven, or its
    write is refused and the log says so. The outputs before and behind it have
    no part in that, as their pins are different ones. -/
theorem reaches_driveAll (hdistinct : (requests.map (·.1.pin)).Nodup)
    (htracks : ∀ request ∈ requests, request.1.Tracks b past) {o : OutputPin} {level : Bool}
    (hrequest : (o, some level) ∈ requests) :
    (driveAll b requests).value.2.level? o.pin = some level ∨
      o.written ≠ some level ∧ b.write o.pin level = .error .pinWrite ∧
        o.refusal ∈ (driveAll b requests).trace.records := by
  induction requests generalizing b past with
  | nil => cases hrequest
  | cons request rest ih =>
    obtain ⟨first, requested⟩ := request
    obtain ⟨hother, hrest⟩ := List.nodup_cons.1 hdistinct
    obtain ⟨hfirst, hbehind⟩ := List.forall_mem_cons.1 htracks
    have hdrives := first.drives_drive b requested
    rw [value_driveAll_cons, trace_driveAll_cons, Trace.records_append]
    rcases List.mem_cons.1 hrequest with hhead | htail
    · obtain ⟨rfl, rfl⟩ := Prod.mk.inj hhead
      obtain ⟨hlevel, _⟩ := driveAll_others (b := (o.drive b (some level)).value.2) hother
      rcases hdrives.reaches hfirst rfl with hcarried | ⟨hfresh, hrefuses, hlogged⟩
      · exact .inl (hlevel.trans hcarried)
      · exact .inr ⟨hfresh, hrefuses, List.mem_append_left _ hlogged⟩
    · have hne : o.pin ≠ first.pin := fun hsame =>
        hother (List.mem_map.2 ⟨_, htail, hsame⟩)
      obtain ⟨_, _, hwrite⟩ := hdrives.others hne
      rcases ih hrest (hdrives.tracks_others hother hbehind) htail with
        hcarried | ⟨hfresh, hrefuses, hlogged⟩
      · exact .inl hcarried
      · exact .inr ⟨hfresh, (hwrite level).1 hrefuses, List.mem_append_right _ hlogged⟩

end

end OutputPin

/-- An operation leaves the outputs alone, and writes to no pin. -/
structure LeavesOutputs (before after : List OutputPin) (done : Trace) : Prop where
  same : after = before
  unwritten : done.pins = []

theorem LeavesOutputs.trans {before between after : List OutputPin} {first second : Trace}
    (hfirst : LeavesOutputs before between first)
    (hsecond : LeavesOutputs between after second) :
    LeavesOutputs before after (first ++ second) where
  same := hsecond.same.trans hfirst.same
  unwritten := by rw [Trace.pins_append, hfirst.unwritten, hsecond.unwritten, List.append_nil]

/-- A module with outputs. It drives them one after the other, with what it
    requests at that moment, and leaves them alone otherwise. -/
structure OutputDriver (σ : Type) (ω : Type _) where
  requests : σ → List (OutputPin × Option Bool)
  /-- How the module is built on a board. -/
  Built : σ → PinBank → Trace → Prop
  use : σ → ω → Traced σ
  drive : σ → PinBank → Traced (σ × PinBank)
  built_unwritten {s : σ} {b : PinBank} {trace : Trace} (hbuilt : Built s b trace) :
    ∀ request ∈ requests s, request.1.written = none
  built_pins {s : σ} {b : PinBank} {trace : Trace} (hbuilt : Built s b trace) : trace.pins = []
  leaves_use (s : σ) (op : ω) : LeavesOutputs ((requests s).map Prod.fst)
    ((requests (use s op).value).map Prod.fst) (use s op).trace
  drive_outputs (s : σ) (b : PinBank) :
    (requests (drive s b).value.1).map Prod.fst = (OutputPin.driveAll b (requests s)).value.1
  drive_board (s : σ) (b : PinBank) :
    (drive s b).value.2 = (OutputPin.driveAll b (requests s)).value.2
  drive_pins (s : σ) (b : PinBank) :
    (drive s b).trace.pins = (OutputPin.driveAll b (requests s)).trace.pins
  drive_records (s : σ) (b : PinBank) :
    (OutputPin.driveAll b (requests s)).trace.records ⊆ (drive s b).trace.records

namespace OutputDriver

variable {σ : Type} {ω : Type _} (d : OutputDriver σ ω)

/-- The pins that a module drives. -/
def pins (s : σ) : List String :=
  (d.requests s).map (·.1.pin)

/-- A module with the board and all that the module did to the outside. The
    outputs are distinct. Between two drives the module is used, others move
    other pins, and any pin breaks or is mended. -/
inductive Reached : σ → PinBank → Trace → Prop
  | built {s : σ} {b : PinBank} {trace : Trace} (hbuilt : d.Built s b trace)
    (hdistinct : (d.pins s).Nodup) : Reached s b trace
  | used {s : σ} {b : PinBank} {past : Trace} (hreached : Reached s b past) (op : ω) :
    Reached (d.use s op).value b (past ++ (d.use s op).trace)
  | driven {s : σ} {b : PinBank} {past : Trace} (hreached : Reached s b past) :
    Reached (d.drive s b).value.1 (d.drive s b).value.2 (past ++ (d.drive s b).trace)
  | moved {s : σ} {b : PinBank} {past : Trace} (hreached : Reached s b past) {name : String}
    (hother : name ∉ d.pins s) (level : Bool) : Reached s (b.setLevel name level) past
  | refusing {s : σ} {b : PinBank} {past : Trace} (hreached : Reached s b past) (name : String)
    (reads writes : Bool) : Reached s (b.refuse name reads writes) past

/-- The notes of a module's outputs hold, and it has written to no other pin. -/
structure Tracked (s : σ) (b : PinBank) (past : List (String × Bool)) : Prop where
  distinct : (d.pins s).Nodup
  tracks : ∀ request ∈ d.requests s, request.1.Tracks b past
  confined : ∀ name, name ∉ d.pins s → levelsOf name past = []

/-- After a drive, every output with a requested level carries it, unless the
    drive was refused to write it and the log says so; and what the module has
    written to any pin so far alternates. -/
structure Converges (s : σ) (b : PinBank) (past : Trace) : Prop where
  reaches : ∀ o level, (o, some level) ∈ d.requests s →
    (d.drive s b).value.2.level? o.pin = some level ∨
      o.written ≠ some level ∧ b.write o.pin level = .error .pinWrite ∧
        o.refusal ∈ (d.drive s b).trace.records
  alternates : ∀ name, (levelsOf name past.pins).IsChain (· ≠ ·)

section

variable {d} {s s' : σ} {b b' : PinBank} {past : List (String × Bool)}

/-- Whatever else changes in a module, its notes hold as long as the outputs
    stay. -/
theorem Tracked.of_outputs (htracked : d.Tracked s b past)
    (hsame : (d.requests s').map Prod.fst = (d.requests s).map Prod.fst) :
    d.Tracked s' b past := by
  have hpins : d.pins s' = d.pins s := by
    have hmapped := congrArg (List.map OutputPin.pin) hsame
    rwa [List.map_map, List.map_map] at hmapped
  refine ⟨hpins ▸ htracked.distinct, fun request hmem => ?_, hpins ▸ htracked.confined⟩
  have hmem' := List.mem_map_of_mem (f := Prod.fst) hmem
  rw [hsame] at hmem'
  obtain ⟨request', hrequest', hfst⟩ := List.mem_map.1 hmem'
  exact hfst ▸ htracked.tracks request' hrequest'

/-- Whatever else changes on the board, the notes hold as long as the pins of
    the outputs keep their levels. -/
theorem Tracked.of_levels (htracked : d.Tracked s b past)
    (hlevels : ∀ name ∈ d.pins s, b'.level? name = b.level? name) : d.Tracked s b' past where
  distinct := htracked.distinct
  tracks request hmem := by
    have hlevel := hlevels _ (List.mem_map.2 ⟨request, hmem, rfl⟩)
    simpa using (htracked.tracks request hmem).keep hlevel (levelsOf_nil _)
  confined := htracked.confined

/-- Driving keeps the notes of all outputs, and writes to their pins only. -/
theorem Tracked.drive (htracked : d.Tracked s b past) :
    d.Tracked (d.drive s b).value.1 (d.drive s b).value.2 (past ++ (d.drive s b).trace.pins) := by
  have hpins : d.pins (d.drive s b).value.1 = d.pins s := by
    have hmapped := congrArg (List.map OutputPin.pin) (d.drive_outputs s b)
    rwa [OutputPin.pins_driveAll, List.map_map] at hmapped
  refine ⟨hpins ▸ htracked.distinct, fun request hmem => ?_, fun name hother => ?_⟩
  · have hmem' := List.mem_map_of_mem (f := Prod.fst) hmem
    rw [d.drive_outputs] at hmem'
    rw [d.drive_board, d.drive_pins]
    exact OutputPin.tracks_driveAll htracked.distinct htracked.tracks _ hmem'
  · rw [hpins] at hother
    rw [levelsOf_append, htracked.confined name hother, d.drive_pins, List.nil_append]
    exact (OutputPin.driveAll_others hother).2

/-- The invariant of a run: the notes hold from the beginning, when there are
    none, through every use, every drive and everything that others do to other
    pins. -/
theorem Reached.tracked {past : Trace} (hreached : d.Reached s b past) :
    d.Tracked s b past.pins := by
  induction hreached with
  | @built s b trace hbuilt hdistinct =>
    rw [d.built_pins hbuilt]
    refine ⟨hdistinct, fun request hmem => ?_, fun _ _ => rfl⟩
    exact OutputPin.tracks_of_unwritten (d.built_unwritten hbuilt request hmem) b
  | @used s b past _ op ih =>
    have hleaves := d.leaves_use s op
    rw [Trace.pins_append, hleaves.unwritten, List.append_nil]
    exact ih.of_outputs hleaves.same
  | driven _ ih =>
    rw [Trace.pins_append]
    exact ih.drive
  | @moved s b past _ name hother level ih =>
    refine ih.of_levels fun other hmem => b.level?_setLevel_of_ne ?_ level
    rintro rfl
    exact hother hmem
  | @refusing s b past _ name reads writes ih =>
    exact ih.of_levels fun other _ => b.level?_refuse name other reads writes

/-- Whatever happens between the drives, outputs converge, and are not written
    redundantly. -/
theorem Reached.converges {past : Trace} (hreached : d.Reached s b past) :
    d.Converges s b past where
  reaches o level hrequest := by
    have htracked := hreached.tracked
    rw [d.drive_board]
    rcases OutputPin.reaches_driveAll htracked.distinct htracked.tracks hrequest with
      hcarried | ⟨hfresh, hrefuses, hlogged⟩
    · exact .inl hcarried
    · exact .inr ⟨hfresh, hrefuses, d.drive_records s b hlogged⟩
  alternates name := by
    have htracked := hreached.tracked
    by_cases hmem : name ∈ d.pins s
    · obtain ⟨request, hrequest, rfl⟩ := List.mem_map.1 hmem
      exact (htracked.tracks request hrequest).alternates
    · rw [htracked.confined name hmem]
      exact .nil

end

end OutputDriver

end Interlock
