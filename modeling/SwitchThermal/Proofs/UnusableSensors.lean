import SwitchThermal.Proofs.ControlFile
import SwitchThermal.Proofs.FanSettings

/-!
# Unusable sensors have no say

A sensor that is unreadable, absent or failed is passed over. A pass with a band table that does not
list it at all does the same but for the reading, so any number of such sensors can be dropped.

* `BandTable.without` — the table without some sensors.
* `Unusable` — the answers of sensors that are passed over.
* `Board.Alike` — states that a board does not tell apart.
* `Program.Skips`, `Pass.Skips` — a second program that does the same as the first but for readings of
  the dropped sensors. The rules follow the ways in which programs are put together.
* `sweepOver_skips`, `Controller.proceed_skips` — so it is with a sweep, and with the whole pass.
* `unusable_sensors_dropped` — a pass with all sensors, and one without those that are unusable.
-/

set_option autoImplicit false

namespace SwitchThermal

variable {σ α β : Type} {b : Board σ} {c : Controller} {w w' : σ} {s s' : ControlState}
  {r : Except Halt PassReport} {qs : List Query} {xs : List Sensor} {x : Sensor}

/-! ## Tables without some sensors -/

namespace BandTable

variable {table : BandTable}

/-- The table without some sensors. -/
def without (table : BandTable) (xs : List Sensor) : BandTable :=
  xs.foldl erase table

theorem bands_erase (table : BandTable) (x y : Sensor) :
    (table.erase x).bands y = if x = y then Bands.none else table.bands y := by
  rw [bands, erase, Cells.get?_erase]
  split
  · rfl
  · rfl

theorem bands_without (table : BandTable) (xs : List Sensor) (y : Sensor) :
    (table.without xs).bands y = if y ∈ xs then Bands.none else table.bands y := by
  induction xs generalizing table with
  | nil => simp [without]
  | cons x xs ih =>
    rw [without, List.foldl_cons, ← without, ih, bands_erase]
    by_cases here : x = y
    · simp [here]
    · simp [here, Ne.symm here]

/-- The sensors that steer the fans are those with an active band. -/
theorem relevant_eq (table : BandTable) :
    table.relevant = Listed.all.filter fun x => (table.bands x).relevant := by
  rw [relevant, entries, Cells.toList]
  induction (Listed.all : List Sensor) with
  | nil => rfl
  | cons x l ih =>
    rw [List.filterMap_cons, List.filter_cons, bands]
    cases table.cells.get? x with
    | none => exact ih
    | some bs =>
      simp only [Option.map_some, List.filter_cons, Option.getD_some]
      split
      · exact congrArg (x :: ·) ih
      · exact ih

theorem relevant_without (table : BandTable) (xs : List Sensor) :
    (table.without xs).relevant = table.relevant.filter fun x => x ∉ xs := by
  rw [relevant_eq, relevant_eq, List.filter_filter]
  refine List.filter_congr fun x _ => ?_
  rw [bands_without]
  by_cases dropped : x ∈ xs
  · simp only [dropped, if_true]
    rfl
  · simp [dropped]

theorem classify_without (kept : x ∉ xs) (mcelsius : Int) :
    (table.without xs).classify x mcelsius = table.classify x mcelsius := by
  rw [classify, bands_without, if_neg kept, classify]

/-- A sensor without an active band does not steer the fans. -/
theorem not_relevant (idle : ∀ band, ((table.bands x).interval band).active = false) :
    x ∉ table.relevant := by
  rw [relevant_eq, List.mem_filter]
  rintro ⟨-, active⟩
  obtain ⟨band, -, active⟩ := List.any_eq_true.1 active
  rw [idle band] at active
  cases active

end BandTable

/-! ## Readings of dropped sensors -/

/-- The answers of a sensor that is passed over. -/
inductive Unusable : Except Fault SensorReading → Prop where
  | unreadable (e : Fault) : Unusable (.error e)
  | absent {r : SensorReading} (absent : r.present = false) : Unusable (.ok r)
  | failed {r : SensorReading} (failed : r.failed = true) : Unusable (.ok r)

theorem unusable_iff {a : Except Fault SensorReading} :
    Unusable a ↔ a.toOption.any SensorReading.usable = false := by
  cases a with
  | error e => exact iff_of_true (.unreadable e) rfl
  | ok r =>
    show Unusable (.ok r) ↔ r.usable = false
    constructor
    · intro h
      cases h with
      | absent absent => simp [SensorReading.usable, absent]
      | failed failed => simp [SensorReading.usable, failed]
    · intro h
      rcases Bool.and_eq_false_iff.1 h with absent | failed
      · exact .absent absent
      · exact .failed (by simpa using failed)

instance (a : Except Fault SensorReading) : Decidable (Unusable a) :=
  decidable_of_iff _ unusable_iff.symm

/-- Is the entry a reading of one of the sensors? -/
def Entry.reads (xs : List Sensor) : Entry → Bool
  | .asked (.device (.sensor x)) _ => decide (x ∈ xs)
  | _ => false

theorem Entry.reads_iff {e : Entry} :
    e.reads xs = true ↔ ∃ x ∈ xs, ∃ a, e = .asked (sensorAccess x) a := by
  unfold Entry.reads
  split
  · simp
  · rename_i other
    simpa using fun x _ a same => other x a same

/-- The answers in a trace but for those of some sensors. -/
def answersBut (xs : List Sensor) (t : List Entry) : List Entry :=
  (answers t).filter fun e => !e.reads xs

theorem answersBut_append (xs : List Sensor) (t u : List Entry) :
    answersBut xs (t ++ u) = answersBut xs t ++ answersBut xs u := by
  rw [answersBut, answers_append, List.filter_append]
  rfl

/-- What does not look at readings of sensors can be told from the other answers. -/
theorem filterMap_answersBut {f : Entry → Option β} (noted : ∀ n, f (.noted n) = none)
    (unsensed : ∀ x a, f (.asked (sensorAccess x) a) = none) (t : List Entry) :
    (answersBut xs t).filterMap f = t.filterMap f := by
  rw [← filterMap_answers noted t, answersBut, List.filterMap_filter]
  refine List.filterMap_congr fun e _ => ?_
  unfold Entry.reads
  split
  · rw [unsensed]
    split
    · rfl
    · rfl
  · rfl

/-- So it is the same where these are the same. -/
theorem filterMap_of_answersBut {f : Entry → Option β} {t u : List Entry}
    (noted : ∀ n, f (.noted n) = none) (unsensed : ∀ x a, f (.asked (sensorAccess x) a) = none)
    (same : answersBut xs t = answersBut xs u) : t.filterMap f = u.filterMap f := by
  rw [← filterMap_answersBut noted unsensed t, same, filterMap_answersBut noted unsensed u]

/-- Some sensors are unusable wherever they are read. -/
def UnusableIn (xs : List Sensor) (t : List Entry) : Prop :=
  ∀ x ∈ xs, ∀ a, .asked (sensorAccess x) a ∈ t → Unusable a

/-- The board does not tell the states apart. -/
def Board.Alike (b : Board σ) (w w' : σ) : Prop :=
  ∀ qs, b.record w qs = b.record w' qs

namespace Board.Alike

theorem trans {w₁ w₂ w₃ : σ} (h : b.Alike w₁ w₂) (h' : b.Alike w₂ w₃) : b.Alike w₁ w₃ :=
  fun qs => (h qs).trans (h' qs)

/-- A board answers alike in such states, and leaves such states. -/
theorem agree (b : Board σ) : Board.Agree b.Alike (fun _ => True) b b := by
  intro q w w' _ alike
  constructor
  · have first := alike [q]
    rw [record_cons, record_cons] at first
    injection first with entry
    injection entry
  · intro qs
    have both := alike (q :: qs)
    rw [record_cons, record_cons] at both
    exact (List.cons.inj both).2

end Board.Alike

/-! ## Programs that skip readings -/

/-- The runs come to the same, but for readings of some sensors. -/
structure Outcome.SameBut (b : Board σ) (xs : List Sensor) (o o' : Outcome σ α) : Prop where
  value : o.value = o'.value
  world : b.Alike o.world o'.world
  answers : answersBut xs o.trace = answersBut xs o'.trace

/-- As long as some sensors are unusable, the second program does the same as the first one, but for
readings of these sensors. -/
def Program.Skips (b : Board σ) (xs : List Sensor) (p p' : Program α) : Prop :=
  ∀ w w', b.Alike w w' → UnusableIn xs (p.run b w).trace → (p.run b w).SameBut b xs (p'.run b w')

namespace Program.Skips

variable {p p' : Program α} {f f' : α → Program β}

theorem refl (p : Program α) : Skips b xs p p := by
  intro w w' alike _
  have same := (Board.Alike.agree b).run p alike fun _ _ => trivial
  refine ⟨same.value, same.world, ?_⟩
  rw [answersBut, same.answers, answersBut]

theorem bind (hp : Skips b xs p p') (hf : ∀ a, Skips b xs (f a) (f' a)) :
    Skips b xs (p >>= f) (p' >>= f') := by
  intro w w' alike unusable
  rw [run_bind] at unusable ⊢
  rw [run_bind]
  have first := hp w w' alike fun x hx a ha => unusable x hx a (List.mem_append_left _ ha)
  have rest := hf _ _ _ first.world fun x hx a ha => unusable x hx a (List.mem_append_right _ ha)
  rw [first.value] at rest ⊢
  refine ⟨rest.value, rest.world, ?_⟩
  rw [answersBut_append, answersBut_append, first.answers, rest.answers]

/-- The first program reads a sensor that the second one leaves out. -/
theorem skip {f : Except Fault SensorReading → Program β} {p' : Program β} (dropped : x ∈ xs)
    (unobtrusive : ∀ w, b.Alike (b (sensorAccess x) w).next w)
    (rest : ∀ a, Unusable a → Skips b xs (f a) p') :
    Skips b xs (Program.device (.sensor x) >>= f) p' := by
  intro w w' alike unusable
  have read : (Program.device (.sensor x)).run b w =
      ⟨(b (sensorAccess x) w).answer, (b (sensorAccess x) w).next,
        (b (sensorAccess x) w).notices.map .noted ++
          [.asked (sensorAccess x) (b (sensorAccess x) w).answer]⟩ := rfl
  rw [run_bind, read] at unusable ⊢
  have here := unusable x dropped _
    (List.mem_append_left _ (List.mem_append_right _ List.mem_cons_self))
  have later := rest _ here _ w' ((unobtrusive w).trans alike) fun y hy a ha =>
    unusable y hy a (List.mem_append_right _ ha)
  refine ⟨later.value, later.world, ?_⟩
  have hidden : answersBut xs ((b (sensorAccess x) w).notices.map .noted ++
      [.asked (sensorAccess x) (b (sensorAccess x) w).answer]) = [] := by
    rw [answersBut, answers_append, answers_noted]
    simp [answers, Program.answer?, Entry.reads, dropped]
  rw [answersBut_append, hidden, later.answers, List.nil_append]

/-- The first program tells something. -/
theorem tell {n : Notice} {f : Unit → Program β} {p' : Program β}
    (rest : Skips b xs (f ()) p') : Skips b xs (Program.tell n >>= f) p' := by
  intro w w' alike unusable
  have later := rest w w' alike fun x hx a ha => unusable x hx a (List.mem_cons_of_mem _ ha)
  exact ⟨later.value, later.world, later.answers⟩

end Program.Skips

namespace Pass

/-- So with passes, from every state. -/
def Skips (b : Board σ) (xs : List Sensor) (p p' : Pass α) : Prop :=
  ∀ s, Program.Skips b xs (p.run.run s) (p'.run.run s)

namespace Skips

variable {p p' : Pass α} {f f' : α → Pass β}

theorem refl (p : Pass α) : Skips b xs p p := fun _ => .refl _

theorem bind (hp : Skips b xs p p') (hf : ∀ a, Skips b xs (f a) (f' a)) :
    Skips b xs (p >>= f) (p' >>= f') := by
  intro s
  rw [run_bind, run_bind]
  refine (hp s).bind fun x => ?_
  obtain ⟨r, s⟩ := x
  cases r with
  | error h => exact .refl _
  | ok a => exact hf a s

/-- After the same part. -/
theorem after (p : Pass α) (hf : ∀ a, Skips b xs (f a) (f' a)) :
    Skips b xs (p >>= f) (p >>= f') :=
  (refl p).bind hf

theorem get_bind {f f' : ControlState → Pass β} (hf : ∀ s, Skips b xs (f s) (f' s)) :
    Skips b xs (get >>= f) (get >>= f') := fun s => hf s s

theorem skip {f : Except Fault SensorReading → Pass β} {p' : Pass β} (dropped : x ∈ xs)
    (unobtrusive : ∀ w, b.Alike (b (sensorAccess x) w).next w)
    (rest : ∀ a, Unusable a → Skips b xs (f a) p') :
    Skips b xs (Pass.ask (.sensor x) >>= f) p' := by
  intro s
  rw [Pass.ask, run_ofProgram_bind]
  exact .skip dropped unobtrusive fun a ha => rest a ha s

theorem tell {n : Notice} {f : Unit → Pass β} {p' : Pass β} (rest : Skips b xs (f ()) p') :
    Skips b xs (Pass.tell n >>= f) p' := by
  intro s
  rw [Pass.tell, run_ofProgram_bind]
  exact .tell (rest s)

end Skips

end Pass

/-! ## The pass -/

/-- **A sweep** does the same without sensors that are unusable. -/
theorem sweepOver_skips {table : BandTable} {l : List Sensor}
    (unobtrusive : ∀ x ∈ xs, x ∈ l → ∀ w, b.Alike (b (sensorAccess x) w).next w) (v : Sweep) :
    Pass.Skips b xs (sweepOver table l v)
      (sweepOver (table.without xs) (l.filter fun x => x ∉ xs) v) := by
  induction l generalizing v with
  | nil => exact .refl _
  | cons x l ih =>
    have rest (v : Sweep) := ih (fun y hy hl => unobtrusive y hy (List.mem_cons_of_mem _ hl)) v
    by_cases dropped : x ∈ xs
    · have gone : (x :: l).filter (fun x => x ∉ xs) = l.filter fun x => x ∉ xs :=
        List.filter_cons_of_neg (by simpa using dropped)
      rw [gone]
      refine .skip dropped (unobtrusive x dropped List.mem_cons_self) fun answer unusable => ?_
      cases answer with
      | error e => exact .tell (rest v)
      | ok r =>
        have passedOver : r.usable = false := unusable_iff.1 unusable
        simp only [passedOver]
        exact .tell (rest v)
    · have stays : (x :: l).filter (fun x => x ∉ xs) = x :: l.filter fun x => x ∉ xs :=
        List.filter_cons_of_pos (by simpa using dropped)
      rw [stays]
      refine .after _ fun answer => ?_
      cases answer with
      | error e => exact .after _ fun _ => rest v
      | ok r =>
        have added : v.add (table.without xs) r x = v.add table r x := by
          rw [Sweep.add, BandTable.classify_without dropped, Sweep.add]
        simp only [added]
        split
        · exact .after _ fun _ => rest v
        · split
          · exact .refl _
          · split
            · exact .after _ fun _ => rest _
            · exact rest _

namespace Controller

/-- The controller with a table without some sensors. -/
def without (c : Controller) (xs : List Sensor) : Controller :=
  { c with table := c.table.without xs }

/-- **What follows the start** does the same without sensors that are unusable. -/
theorem proceed_skips
    (unobtrusive : ∀ x ∈ xs, x ∈ c.table.relevant →
      ∀ w, b.Alike (b (sensorAccess x) w).next w) :
    Pass.Skips b xs c.proceed (c.without xs).proceed := by
  have responded (fans : FanSurvey) (supplies : SupplySurvey) :
      Pass.Skips b xs (c.respond fans supplies) ((c.without xs).respond fans supplies) := by
    have swept : Pass.Skips b xs (sweep c.table) (sweep (c.without xs).table) := by
      rw [sweep, sweep, without, BandTable.relevant_without]
      exact sweepOver_skips unobtrusive {}
    exact swept.bind fun result => .refl _
  refine .get_bind fun s => ?_
  split
  · exact .refl _
  · refine .after _ fun _ => .after _ fun _ => .after _ fun latched => ?_
    split
    · exact .refl _
    · exact .after _ fun fans => .after _ fun supplies => responded fans supplies

/-- A started controller goes on at once. -/
theorem pass_of_started (started : s.initialised = true) :
    c.pass.run.run s = c.proceed.run.run s := by
  have begun : c.ensureStarted.run.run s = pure (.ok ⟨⟩, s) := by
    unfold ensureStarted
    show (if !s.initialised then _ else _ : Pass PUnit).run.run s = _
    rw [started]
    rfl
  rw [pass, Pass.run_bind, begun]
  rfl

end Controller

/-! ## Sensors that are read -/

theorem unsensed_duty (x : Sensor) : sensorAccess x ∉ dutyAccesses := by
  simp [dutyAccesses]

theorem unsensed_survey (x : Sensor) : sensorAccess x ∉ surveyAccesses := by
  simp [surveyAccesses]

theorem unsensed_follow {view : SupplyView} {percentage : Nat}
    (follow : ∀ q ∈ qs, FollowAccess view percentage q) (x : Sensor) :
    sensorAccess x ∉ speedAccess .primary percentage :: qs := by
  intro hmem
  rcases List.mem_cons.1 hmem with same | hmem
  · cases same
  · cases follow _ hmem

namespace Controller

/-- The sensors that are read up to the choice of a speed. -/
theorem relevant_of_round (read : sensorAccess x ∈ c.roundAccesses) : x ∈ c.table.relevant := by
  have swept : sensorAccess x ∈ c.table.relevant.map sensorAccess :=
    (List.mem_append.1 read).resolve_left fun early =>
      (List.mem_append.1 early).elim (unsensed_duty x) (unsensed_survey x)
  obtain ⟨y, hy, same⟩ := List.mem_map.1 swept
  cases same
  exact hy

theorem Managed.reads (h : c.Managed b w s r s' qs) (read : sensorAccess x ∈ qs) :
    x ∈ c.table.relevant := by
  cases h with
  | overflow | kept => exact relevant_of_round read
  | applied _ _ _ follow =>
    exact relevant_of_round ((List.mem_append.1 read).resolve_right (unsensed_follow follow x))
  | refused =>
    refine relevant_of_round ((List.mem_append.1 read).resolve_right ?_)
    exact List.not_mem_cons_of_ne_of_not_mem nofun List.not_mem_nil
  | @tripped before after y reading split =>
    have listed {e : Sensor × Except Fault SensorReading}
        (he : e ∈ before ++ (y, .ok reading) :: after) : e.1 ∈ c.table.relevant := by
      rw [← split] at he
      exact mem_round_relevant he
    rcases List.mem_append.1 read with read | latch
    · rcases List.mem_append.1 read with early | read
      · exact ((List.mem_append.1 early).elim (unsensed_duty x) (unsensed_survey x)).elim
      · rcases List.mem_append.1 read with read | last
        · obtain ⟨e, he, same⟩ := List.mem_map.1 read
          cases same
          exact listed (List.mem_append_left _ he)
        · cases List.mem_singleton.1 last
          exact listed (List.mem_append_right _ List.mem_cons_self)
    · obtain ⟨q, -, same⟩ := latch_accesses latch
      cases same

/-- **Only sensors that steer the fans are read** after the start. -/
theorem Ends.reads (h : c.Ends b w s r s' qs) (read : sensorAccess x ∈ qs) :
    x ∈ c.table.relevant := by
  have beyond {rest : List Query} (hmem : sensorAccess x ∈ dutyAccesses ++ rest) :
      sensorAccess x ∈ rest := (List.mem_append.1 hmem).resolve_left (unsensed_duty x)
  cases h with
  | disabled => cases read
  | unrefreshed => simp at read
  | statusUnreadable | standing => exact absurd read (unsensed_duty x)
  | fullSpeed _ _ _ _ follow => exact absurd (beyond read) (unsensed_follow follow x)
  | fullSpeedRefused => simp [dutyAccesses] at read
  | fanUnreadable => simp [dutyAccesses] at read
  | managed _ _ rest => exact rest.reads read

end Controller

/-- A started controller reads no other sensor in a pass. -/
theorem Turn.reads_relevant (t : Turn c b) (started : t.before.initialised = true)
    (read : sensorAccess x ∈ Program.queries t.trace) : x ∈ c.table.relevant := by
  obtain ⟨r, s', qs, hends, hpass⟩ := Controller.pass_ends c b t.world started
  rw [show Program.queries t.trace = qs from hpass.trace] at read
  exact hends.reads read

/-! ## Dropping sensors -/

/-- What comes of a pass with all sensors, and of one without some of them. -/
structure SensorsDropped (xs : List Sensor) (t : Turn c b) (t' : Turn (c.without xs) b) : Prop where
  result : t.result = t'.result
  state : t.after = t'.after
  world : b.Alike t.outcome.world t'.outcome.world
  /-- All accesses are made and answered alike, but for the readings of these sensors. -/
  answers : answersBut xs t.trace = answers t'.trace
  bus : busTrace t.trace = busTrace t'.trace
  settings : fanSettings t.trace = fanSettings t'.trace
  /-- A sensor without an active band is not read in any case. -/
  unread : ∀ x, (∀ band, ((c.table.bands x).interval band).active = false) →
    sensorAccess x ∉ Program.queries t.trace

/-- **Unusable sensors have no say.** If some sensors are unreadable, absent or failed whenever the
pass reads them, a started controller can do without them. The states of a board are about all that
it may do; that a reading leaves nothing behind on it is asked only of the dropped sensors, and of
these only where the pass reads them. -/
theorem unusable_sensors_dropped (t : Turn c b) (xs : List Sensor)
    (started : t.before.initialised = true)
    (unusable : ∀ x ∈ xs, ∀ a, .asked (sensorAccess x) a ∈ t.trace → Unusable a)
    (unobtrusive : ∀ x ∈ xs, x ∈ c.table.relevant →
      ∀ w, b.Alike (b (sensorAccess x) w).next w) :
    SensorsDropped xs t ⟨t.world, t.before⟩ := by
  let t' : Turn (c.without xs) b := ⟨t.world, t.before⟩
  have ran : t.outcome = (c.proceed.run.run t.before).run b t.world :=
    congrArg (fun p => Program.run b p t.world) (Controller.pass_of_started started)
  have ran' : t'.outcome = ((c.without xs).proceed.run.run t.before).run b t.world :=
    congrArg (fun p => Program.run b p t.world) (Controller.pass_of_started started)
  have skips : t.outcome.SameBut b xs t'.outcome := by
    rw [ran, ran']
    refine Controller.proceed_skips unobtrusive t.before t.world t.world (fun _ => rfl) ?_
    rw [← ran]
    exact unusable
  have unread (x : Sensor) (idle : ∀ band, ((c.table.bands x).interval band).active = false) :
      sensorAccess x ∉ Program.queries t.trace := fun read =>
    BandTable.not_relevant idle (t.reads_relevant started read)
  -- the second pass does not list the dropped sensors, so it does not read them either
  have rest : answersBut xs t'.trace = answers t'.trace := by
    refine List.filter_eq_self.2 fun e he => ?_
    rw [Bool.not_eq_true', ← Bool.not_eq_true, Entry.reads_iff]
    rintro ⟨x, dropped, a, rfl⟩
    have read : sensorAccess x ∈ Program.queries t'.trace :=
      List.mem_filterMap.2 ⟨_, mem_answers.1 he, rfl⟩
    have listed := t'.reads_relevant started read
    rw [show (c.without xs).table.relevant = _ from c.table.relevant_without xs] at listed
    exact absurd dropped (by simpa using (List.mem_filter.1 listed).2)
  exact ⟨congrArg Prod.fst skips.value, congrArg Prod.snd skips.value, skips.world,
    skips.answers.trans rest,
    filterMap_of_answersBut (fun _ => rfl) (fun _ _ => rfl) skips.answers,
    filterMap_of_answersBut (fun _ => rfl) (fun _ _ => rfl) skips.answers, unread⟩

section Trial

open Bench

/-- The answers of sensors in a trace. -/
def sensorAnswers (t : List Entry) : List (Sensor × Except Fault SensorReading) :=
  t.filterMap fun
    | .asked (.device (.sensor x)) a => some (x, a)
    | _ => none

/-- A pass on a bench with a warm core, where one sensor cannot be read and another one has
failed. -/
def patchyTurn : Turn trialController trialBoard :=
  ⟨.patched 80 [.heat .cpuCore1 75000, .sensor .cpuCore0 (.error (.internal "no sensor")),
    .sensor .tcam (.ok { failed := some true })], running 0⟩

/-- The two sensors might as well not be there, and neither might one without bands. -/
theorem unusable_sensors_dropped_at_75 :
    patchyTurn.result =
        .ok (.managed .veryHigh (some ⟨.cpuCore1, 75000⟩) false false (some 96)) ∧
      SensorsDropped [.cpuCore0, .tcam, .front] patchyTurn ⟨patchyTurn.world, patchyTurn.before⟩ := by
  have unusable : ∀ e ∈ sensorAnswers patchyTurn.trace,
      e.1 ∈ [.cpuCore0, .tcam, .front] → Unusable e.2 := by decide +kernel
  refine ⟨by rfl, unusable_sensors_dropped patchyTurn [.cpuCore0, .tcam, .front] rfl ?_ ?_⟩
  · intro x dropped a read
    exact unusable (x, a) (List.mem_filterMap.2 ⟨_, read, rfl⟩) dropped
  · intro x _ _ w qs
    rfl

end Trial

end SwitchThermal
