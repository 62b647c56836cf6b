import Mathlib.Data.List.Chain
import Mathlib.Data.List.Nodup
import SwitchThermal.Bench.Trial
import SwitchThermal.Proofs.Guarded
import SwitchThermal.RailMonitor

/-!
# Rail alarms over a row of scans

A rail is alarmed exactly as long as the last scan that could judge it found it out of its span. The
alarms of a scan tell how the rails are, its warnings and infos how they change: each rail takes
turns between the two.

* `Board.hushed` — a board without notices of its own, so that the notices of a run are those of the
  program.
* `RailMonitor.standing`, `RailEvent.between` — what an answer does to the status of its rail, and
  the change that it tells of.
* `yields_scanOver`, `notices_scanOver` — a scan as a function of the answers.
* `RailScan`, `RailMonitor.scans` — the scans of a row, each on a board in a state of its own.
* `RailScan.step` — what one scan does to one rail; `RailScan.reports` — what it reports of all.
* `LastFoundOut`, `RailEvent.Alternates` — what holds of a rail over a row.
* `rail_alarms_exact` — every scan of every row.
-/

set_option autoImplicit false

namespace SwitchThermal

variable {σ : Type}

/-! ## Boards without notices -/

/-- The board as it is, but without notices of its own. -/
def Board.hushed (b : Board σ) : Board σ :=
  fun q w => { b q w with notices := [] }

/-- Where a board gives no notices, nothing is left out. -/
theorem Board.hushed_eq {b : Board σ} {q : Query} (quiet : ∀ w, (b q w).notices = []) :
    b.hushed q = b q := by
  funext w
  show ({ b q w with notices := [] } : Reply σ q.Payload) = b q w
  rw [← quiet w]

theorem Program.notices_bind {α β : Type} (b : Board σ) (p : Program α) (f : α → Program β)
    (w : σ) : notices ((p >>= f).run b w).trace = notices (p.run b w).trace ++
      notices ((f (p.run b w).value).run b (p.run b w).world).trace := by
  rw [run_bind]
  exact List.filterMap_append

/-! ## Answers -/

/-- The reading of a rail as an access. -/
abbrev railAccess (r : Rail) : Query := .device (.rail r)

/-- The answers of rails read one after another. -/
def Board.pollRails (b : Board σ) : List Rail → σ → List (Rail × Except Fault RailReading) :=
  poll fun r => b (railAccess r)

theorem Board.pollRails_hushed (b : Board σ) (l : List Rail) (w : σ) :
    b.hushed.pollRails l w = b.pollRails l w := by
  induction l generalizing w with
  | nil => rfl
  | cons r l ih => exact congrArg ((r, (b (railAccess r) w).answer) :: ·) (ih _)

theorem Board.record_rails (b : Board σ) (l : List Rail) (w : σ) :
    b.record w (l.map railAccess) =
      (b.pollRails l w).map fun e => Entry.asked (railAccess e.1) e.2 :=
  Board.record_poll b railAccess _ _ l w (fun _ _ => rfl) fun _ _ => rfl

/-- Outside its span, to which both ends belong. -/
def RailReading.Out (r : RailReading) : Prop :=
  r.millivolts < r.span.least ∨ r.span.greatest < r.millivolts

theorem RailReading.judged_iff {r : RailReading} : r.judged = true ↔
    r.present = true ∧ r.failed = false ∧ r.span.least < r.span.greatest := by
  simp [judged, Span.defined, and_assoc]

theorem RailReading.contains_iff {r : RailReading} :
    (!r.span.contains r.millivolts) = true ↔ r.Out := by
  simp only [Out, Span.contains, Bool.not_eq_true', Bool.and_eq_false_iff, decide_eq_false_iff_not]
  omega

/-! ## One answer -/

/-- A change of the status of a rail. -/
inductive RailEvent where
  | left
  | back
  deriving DecidableEq, Repr

namespace RailEvent

/-- The change from one status to another. -/
def between : Bool → Bool → Option RailEvent
  | false, true => some .left
  | true, false => some .back
  | false, false => none
  | true, true => none

theorem between_self (alarmed : Bool) : between alarmed alarmed = none := by
  cases alarmed <;> rfl

/-- The notice of a change. -/
def notice (r : Rail) (reading : RailReading) : RailEvent → Notice
  | .left => .railOutOfSpan r reading.millivolts reading.span
  | .back => .railBackInSpan r reading.millivolts

/-- The change of a rail that a notice tells of. -/
def of? (r : Rail) : Notice → Option RailEvent
  | .railOutOfSpan own _ _ => if own = r then some .left else none
  | .railBackInSpan own _ => if own = r then some .back else none
  | _ => none

theorem of?_notice (r own : Rail) (reading : RailReading) (e : RailEvent) :
    of? r (e.notice own reading) = if own = r then some e else none := by
  cases e <;> rfl

end RailEvent

/-- The rail that a notice is about, if it is about one. -/
def Notice.rail? : Notice → Option Rail
  | .railUnreadable r _ => some r
  | .railOutOfSpan r _ _ => some r
  | .railBackInSpan r _ => some r
  | _ => none

namespace RailMonitor

variable {m : RailMonitor} {r : Rail} {l : List (Rail × Except Fault RailReading)}

theorem isAlarmed_iff : m.isAlarmed r = true ↔ r ∈ m.alarmed :=
  List.contains_iff_mem

/-- The status of a rail after an answer. One that cannot be judged keeps it. -/
def standing (alarmed : Bool) : Except Fault RailReading → Bool
  | .ok reading => if reading.judged then !reading.span.contains reading.millivolts else alarmed
  | .error _ => alarmed

/-- The alarm that an answer leads to. -/
def alarm? (r : Rail) : Except Fault RailReading → Option RailAlarm
  | .ok reading =>
    if reading.judged && !reading.span.contains reading.millivolts then
      some ⟨r, reading.millivolts, reading.span⟩
    else none
  | .error _ => none

/-- The notice that an answer leads to. -/
def notice? (alarmed : Bool) (r : Rail) : Except Fault RailReading → Option Notice
  | .ok reading =>
    (RailEvent.between alarmed (standing alarmed (.ok reading))).map (RailEvent.notice r reading)
  | .error fault => some (.railUnreadable r fault)

/-- The monitor after an answer. -/
def heed (m : RailMonitor) (e : Rail × Except Fault RailReading) : RailMonitor :=
  match e.2 with
  | .ok reading => (m.judge e.1 reading).monitor
  | .error _ => m

theorem judge_alarm (m : RailMonitor) (own : Rail) (reading : RailReading) :
    (m.judge own reading).alarm = alarm? own (.ok reading) := by
  simp only [judge, alarm?]
  cases reading.judged <;> cases reading.span.contains reading.millivolts <;>
    cases m.isAlarmed own <;> rfl

theorem judge_notice (m : RailMonitor) (own : Rail) (reading : RailReading) :
    (m.judge own reading).notice = notice? (m.isAlarmed own) own (.ok reading) := by
  simp only [judge, notice?, standing]
  cases reading.judged <;> cases reading.span.contains reading.millivolts <;>
    cases m.isAlarmed own <;> rfl

/-- A reading decides about its own rail only. -/
theorem isAlarmed_judge (m : RailMonitor) (own : Rail) (reading : RailReading) (r : Rail) :
    (m.judge own reading).monitor.isAlarmed r =
      if r = own then standing (m.isAlarmed r) (.ok reading) else m.isAlarmed r := by
  rw [Bool.eq_iff_iff]
  simp only [judge, standing]
  by_cases same : r = own
  · subst same
    cases reading.judged <;> cases reading.span.contains reading.millivolts <;>
      cases alarmed : m.isAlarmed r <;>
      simp only [Bool.not_true, Bool.not_false, if_true, if_false, Bool.false_eq_true, alarmed,
        iff_self]
    all_goals simp [isAlarmed_iff]
  · cases reading.judged <;> cases reading.span.contains reading.millivolts <;>
      cases m.isAlarmed own <;> simp [isAlarmed_iff, same]

/-- **An answer decides about its own rail only.** -/
theorem isAlarmed_heed (m : RailMonitor) (e : Rail × Except Fault RailReading) (r : Rail) :
    (m.heed e).isAlarmed r =
      if r = e.1 then standing (m.isAlarmed r) e.2 else m.isAlarmed r := by
  obtain ⟨own, fault | reading⟩ := e
  · exact (ite_self _).symm
  · exact isAlarmed_judge m own reading r

theorem event_of_notice? (alarmed : Bool) (own : Rail) (a : Except Fault RailReading) (r : Rail) :
    (notice? alarmed own a).toList.filterMap (RailEvent.of? r) =
      if own = r then (RailEvent.between alarmed (standing alarmed a)).toList else [] := by
  cases a with
  | error fault =>
    rw [standing, RailEvent.between_self]
    exact (ite_self _).symm
  | ok reading =>
    rw [notice?]
    cases RailEvent.between alarmed (standing alarmed (.ok reading)) with
    | none => exact (ite_self _).symm
    | some e =>
      by_cases same : own = r <;> simp [RailEvent.of?_notice, same]

/-! ## A scan as a function of the answers -/

/-- The notices that answers lead to. -/
def noticesOf : RailMonitor → List (Rail × Except Fault RailReading) → List Notice
  | _, [] => []
  | m, e :: l => (notice? (m.isAlarmed e.1) e.1 e.2).toList ++ noticesOf (m.heed e) l

/-- The alarms that answers lead to. -/
def alarmsOf (l : List (Rail × Except Fault RailReading)) : List RailAlarm :=
  l.flatMap fun e => (alarm? e.1 e.2).toList

/-- **A scan reads its rails once each**, and comes to the alarms and the monitor that the answers
lead to. -/
theorem yields_scanOver (b : Board σ) (l : List Rail) (m : RailMonitor) (w : σ) :
    Program.Yields b w (scanOver l m)
      (alarmsOf (b.pollRails l w), (b.pollRails l w).foldl heed m) (l.map railAccess) := by
  induction l generalizing m w with
  | nil => exact .pure _
  | cons r l ih =>
    unfold scanOver
    refine (Program.Yields.query (railAccess r)).bind ?_
    rw [Board.pollRails, poll, alarmsOf, List.flatMap_cons, List.foldl_cons]
    cases answer : (b (railAccess r) w).answer with
    | error fault => exact (Program.Yields.tell _).bind (ih m _)
    | ok reading =>
      rw [← judge_alarm m r reading]
      exact (Program.Yields.tellAll _).bind ((ih _ _).bind_quiet (.pure _))

/-- On a board without notices, the notices of a scan are those that the answers lead to. -/
theorem notices_scanOver {b : Board σ} (quiet : ∀ q w, (b q w).notices = []) (l : List Rail)
    (m : RailMonitor) (w : σ) :
    Program.notices ((scanOver l m).run b w).trace = noticesOf m (b.pollRails l w) := by
  induction l generalizing m w with
  | nil => rfl
  | cons r l ih =>
    have asked : (Program.device (.rail r)).run b w =
        ⟨(b (railAccess r) w).answer, (b (railAccess r) w).next,
          [.asked (railAccess r) (b (railAccess r) w).answer]⟩ := by
      simp only [Program.device, Program.query, Program.run, quiet]
      rfl
    unfold scanOver
    rw [Program.notices_bind, asked, Board.pollRails, poll, noticesOf]
    cases answer : (b (railAccess r) w).answer with
    | error fault => exact congrArg (Notice.railUnreadable r fault :: ·) (ih _ _)
    | ok reading =>
      have told : Program.notices ((Program.tellAll (m.judge r reading).notice.toList).run b
          (b (railAccess r) w).next).trace = (m.judge r reading).notice.toList := by
        cases (m.judge r reading).notice <;> rfl
      have rest : Program.notices ((scanOver l (m.judge r reading).monitor >>= fun x =>
          pure ((m.judge r reading).alarm.toList ++ x.1, x.2)).run b
            (b (railAccess r) w).next).trace =
          noticesOf (m.judge r reading).monitor (b.pollRails l (b (railAccess r) w).next) := by
        rw [Program.notices_bind, ih]
        exact List.append_nil _
      rw [← judge_notice]
      refine (Program.notices_bind b (Program.tellAll (m.judge r reading).notice.toList) _ _).trans
        ?_
      rw [told, (Program.Yields.tellAll _).world]
      exact congrArg _ rest

theorem isAlarmed_foldl_absent (absent : r ∉ l.map Prod.fst) :
    (l.foldl heed m).isAlarmed r = m.isAlarmed r := by
  induction l generalizing m with
  | nil => rfl
  | cons e l ih =>
    rw [List.map_cons, List.mem_cons, not_or] at absent
    rw [List.foldl_cons, ih absent.2, isAlarmed_heed, if_neg absent.1]

theorem events_noticesOf_absent (absent : r ∉ l.map Prod.fst) :
    (noticesOf m l).filterMap (RailEvent.of? r) = [] := by
  induction l generalizing m with
  | nil => rfl
  | cons e l ih =>
    rw [List.map_cons, List.mem_cons, not_or] at absent
    rw [noticesOf, List.filterMap_append, ih absent.2, event_of_notice?,
      if_neg (Ne.symm absent.1), List.nil_append]

/-- **A rail that is read once** gets the status that its answer decides, and the notices tell of it
if that is a change. -/
theorem standing_of_answer {a : Except Fault RailReading} (distinct : (l.map Prod.fst).Nodup)
    (h : (r, a) ∈ l) :
    (l.foldl heed m).isAlarmed r = standing (m.isAlarmed r) a ∧
      (noticesOf m l).filterMap (RailEvent.of? r) =
        (RailEvent.between (m.isAlarmed r) (standing (m.isAlarmed r) a)).toList := by
  induction l generalizing m with
  | nil => cases h
  | cons e l ih =>
    rw [List.map_cons, List.nodup_cons] at distinct
    obtain ⟨fresh, distinct⟩ := distinct
    rw [List.foldl_cons, noticesOf, List.filterMap_append, event_of_notice?]
    rcases List.mem_cons.1 h with rfl | h
    · rw [isAlarmed_foldl_absent fresh, events_noticesOf_absent fresh, isAlarmed_heed, if_pos rfl,
        if_pos rfl, List.append_nil]
      exact ⟨rfl, rfl⟩
    · have other : r ≠ e.1 := fun same => fresh (same ▸ List.mem_map_of_mem h)
      obtain ⟨status, events⟩ := ih (m := m.heed e) distinct h
      rw [status, events, isAlarmed_heed, if_neg other, if_neg (Ne.symm other), List.nil_append]
      exact ⟨rfl, rfl⟩

/-- A notice comes from an answer. -/
theorem mem_noticesOf {n : Notice} (h : n ∈ noticesOf m l) :
    ∃ e ∈ l, ∃ alarmed, notice? alarmed e.1 e.2 = some n := by
  induction l generalizing m with
  | nil => cases h
  | cons e l ih =>
    rcases List.mem_append.1 h with h | h
    · exact ⟨e, List.mem_cons_self, _, Option.mem_toList.1 h⟩
    · obtain ⟨e', he', found⟩ := ih h
      exact ⟨e', List.mem_cons_of_mem _ he', found⟩

/-- An alarm comes from an answer that tells of a rail outside its span. -/
theorem mem_alarmsOf {x : RailAlarm} : x ∈ alarmsOf l ↔
    ∃ reading, (x.rail, .ok reading) ∈ l ∧ reading.judged = true ∧ reading.Out ∧
      x = ⟨x.rail, reading.millivolts, reading.span⟩ := by
  have alarm_iff (r : Rail) (a : Except Fault RailReading) : alarm? r a = some x ↔
      ∃ reading, a = .ok reading ∧ reading.judged = true ∧ reading.Out ∧
        x = ⟨r, reading.millivolts, reading.span⟩ := by
    cases a with
    | error fault => simp [alarm?]
    | ok reading =>
      simp only [alarm?, Option.ite_none_right_eq_some, Option.some.injEq, Bool.and_eq_true,
        RailReading.contains_iff, and_assoc, Except.ok.injEq, exists_eq_left', @eq_comm _ x]
  simp only [alarmsOf, List.mem_flatMap, Option.mem_toList, alarm_iff]
  constructor
  · rintro ⟨⟨r, a⟩, hmem, reading, rfl, judged, out, rfl⟩
    exact ⟨reading, hmem, judged, out, rfl⟩
  · rintro ⟨reading, hmem, judged, out, same⟩
    exact ⟨_, hmem, reading, rfl, judged, out, same⟩

/-- The alarms come in the order of the rails, one for a rail. -/
theorem alarmsOf_sublist (l : List (Rail × Except Fault RailReading)) :
    ((alarmsOf l).map RailAlarm.rail).Sublist (l.map Prod.fst) := by
  induction l with
  | nil => exact .slnil
  | cons e l ih =>
    rw [alarmsOf, List.flatMap_cons, List.map_append, List.map_cons]
    obtain ⟨r, fault | reading⟩ := e
    · exact ih.cons r
    · simp only [alarm?]
      split
      · exact ih.cons_cons r
      · exact ih.cons r

end RailMonitor

/-! ## One scan -/

/-- A scan on a board, by the monitor and the board's state that it finds. -/
structure RailScan (b : Board σ) where
  monitor : RailMonitor
  world : σ

namespace RailScan

open RailMonitor

variable {b : Board σ} {r : Rail}

def outcome (s : RailScan b) : Outcome σ (List RailAlarm × RailMonitor) :=
  s.monitor.scan.run b s.world

/-- The alarms that the scan returns. -/
def alarms (s : RailScan b) : List RailAlarm := s.outcome.value.1

/-- The monitor that the scan hands on. -/
def after (s : RailScan b) : RailMonitor := s.outcome.value.2

/-- The answers of the rails, in table order. -/
def readings (s : RailScan b) : List (Rail × Except Fault RailReading) :=
  b.pollRails Rail.all s.world

/-- The notices that the scan gives, without those of the board. -/
def notices (s : RailScan b) : List Notice :=
  Program.notices (s.monitor.scan.run b.hushed s.world).trace

/-- The changes of a rail that the scan tells of. -/
def events (s : RailScan b) (r : Rail) : List RailEvent :=
  s.notices.filterMap (RailEvent.of? r)

/-- The scan can judge the rail, by this reading. -/
structure Judges (s : RailScan b) (r : Rail) (reading : RailReading) : Prop where
  read : (r, .ok reading) ∈ s.readings
  present : reading.present = true
  working : reading.failed = false
  defined : reading.span.least < reading.span.greatest

theorem judges_iff {s : RailScan b} {reading : RailReading} :
    s.Judges r reading ↔ (r, .ok reading) ∈ s.readings ∧ reading.judged = true := by
  rw [RailReading.judged_iff]
  exact ⟨fun h => ⟨h.read, h.present, h.working, h.defined⟩,
    fun ⟨read, present, working, defined⟩ => ⟨read, present, working, defined⟩⟩

theorem map_fst_readings (s : RailScan b) : s.readings.map Prod.fst = Rail.all :=
  map_fst_poll _ _ _

theorem distinct (s : RailScan b) : (s.readings.map Prod.fst).Nodup := by
  rw [map_fst_readings]
  decide

/-- Each rail is read. -/
theorem exists_reading (s : RailScan b) (r : Rail) : ∃ a, (r, a) ∈ s.readings := by
  have listed : r ∈ s.readings.map Prod.fst := by
    rw [map_fst_readings]
    cases r <;> decide
  obtain ⟨⟨own, a⟩, hmem, rfl⟩ := List.mem_map.1 listed
  exact ⟨a, hmem⟩

/-- Each rail is read once. -/
theorem reading_unique {s : RailScan b} {a a' : Except Fault RailReading}
    (h : (r, a) ∈ s.readings) (h' : (r, a') ∈ s.readings) : a = a' :=
  (Prod.mk.inj (List.inj_on_of_nodup_map s.distinct h h' rfl)).2

theorem notices_eq (s : RailScan b) : s.notices = noticesOf s.monitor s.readings := by
  rw [readings, ← Board.pollRails_hushed]
  exact notices_scanOver (fun _ _ => rfl) _ _ _

theorem yields (s : RailScan b) : Program.Yields b s.world s.monitor.scan
    (alarmsOf s.readings, s.readings.foldl heed s.monitor) (Rail.all.map railAccess) :=
  yields_scanOver b Rail.all s.monitor s.world

theorem alarms_eq (s : RailScan b) : s.alarms = alarmsOf s.readings :=
  congrArg Prod.fst s.yields.value

theorem after_eq (s : RailScan b) : s.after = s.readings.foldl heed s.monitor :=
  congrArg Prod.snd s.yields.value

/-- **What a scan does to a rail.** Its answer decides its status, and the scan tells of it if that
is a change. -/
theorem step (s : RailScan b) {a : Except Fault RailReading} (h : (r, a) ∈ s.readings) :
    s.after.isAlarmed r = standing (s.monitor.isAlarmed r) a ∧
      s.events r =
        (RailEvent.between (s.monitor.isAlarmed r) (s.after.isAlarmed r)).toList := by
  obtain ⟨status, events⟩ := standing_of_answer (m := s.monitor) s.distinct h
  rw [← after_eq] at status
  rw [← notices_eq, ← status] at events
  exact ⟨status, events⟩

/-- The scan tells of a rail exactly if its status changes. -/
theorem events_eq (s : RailScan b) (r : Rail) : s.events r =
    (RailEvent.between (s.monitor.isAlarmed r) (s.after.isAlarmed r)).toList := by
  obtain ⟨a, read⟩ := s.exists_reading r
  exact (s.step read).2

theorem isAlarmed_of_judges {s : RailScan b} {reading : RailReading} (h : s.Judges r reading) :
    s.after.isAlarmed r = true ↔ reading.Out := by
  obtain ⟨read, judged⟩ := judges_iff.1 h
  rw [(s.step read).1, standing, if_pos judged, RailReading.contains_iff]

/-- A rail that cannot be judged keeps its status. -/
theorem standing_of_unjudged {s : RailScan b} {a : Except Fault RailReading}
    (h : (r, a) ∈ s.readings) (unjudged : ∀ reading, ¬ s.Judges r reading) (alarmed : Bool) :
    standing alarmed a = alarmed := by
  cases a with
  | error fault => rfl
  | ok reading =>
    refine if_neg fun judged => unjudged reading ?_
    exact judges_iff.2 ⟨h, judged⟩

theorem isAlarmed_of_unjudged {s : RailScan b} (unjudged : ∀ reading, ¬ s.Judges r reading) :
    s.after.isAlarmed r = s.monitor.isAlarmed r := by
  obtain ⟨a, read⟩ := s.exists_reading r
  rw [(s.step read).1, standing_of_unjudged read unjudged]

theorem mem_alarms {s : RailScan b} (x : RailAlarm) : x ∈ s.alarms ↔
    ∃ reading, s.Judges x.rail reading ∧ reading.Out ∧
      x = ⟨x.rail, reading.millivolts, reading.span⟩ := by
  rw [alarms_eq, mem_alarmsOf]
  simp only [judges_iff, and_assoc]

/-- A notice is the error of a rail that cannot be read, or it tells that a rail that can be judged
has left its span or is back. -/
theorem notice_cases {s : RailScan b} {n : Notice} (h : n ∈ s.notices) :
    (∃ r fault, (r, .error fault) ∈ s.readings ∧ n = .railUnreadable r fault) ∨
      ∃ r reading, s.Judges r reading ∧
        (reading.Out ∧ n = .railOutOfSpan r reading.millivolts reading.span ∨
          ¬ reading.Out ∧ n = .railBackInSpan r reading.millivolts) := by
  rw [notices_eq] at h
  obtain ⟨⟨r, a⟩, read, alarmed, told⟩ := mem_noticesOf h
  cases a with
  | error fault => exact .inl ⟨r, fault, read, (Option.some.inj told).symm⟩
  | ok reading =>
    obtain ⟨e, change, rfl⟩ := Option.map_eq_some_iff.1 told
    by_cases judged : reading.judged = true
    · refine .inr ⟨r, reading, judges_iff.2 ⟨read, judged⟩, ?_⟩
      rw [standing, if_pos judged] at change
      rw [← RailReading.contains_iff]
      cases alarmed <;> cases outside : !reading.span.contains reading.millivolts <;>
        rw [outside] at change <;> cases change
      · exact .inl ⟨rfl, rfl⟩
      · exact .inr ⟨Bool.false_ne_true, rfl⟩
    · rw [standing, if_neg judged, RailEvent.between_self] at change
      cases change

theorem notices_of_quiet {s : RailScan b} (quiet : ∀ r w, (b (railAccess r) w).notices = []) :
    Program.notices s.outcome.trace = s.notices := by
  have same : s.monitor.scan.run b.hushed s.world = s.monitor.scan.run b s.world := by
    refine Program.run_congr fun q hq => ?_
    rw [s.yields.queries] at hq
    obtain ⟨r, -, rfl⟩ := List.mem_map.1 hq
    exact Board.hushed_eq (quiet r)
  rw [notices, same]
  rfl

/-- What a scan reports. -/
structure Reports (s : RailScan b) : Prop where
  /-- The scan reads all rails once each, in table order, and nothing else. -/
  accesses : answers s.outcome.trace =
    s.readings.map fun e => Entry.asked (railAccess e.1) e.2
  rails : s.readings.map Prod.fst = Rail.all
  /-- The alarms are the rails that this scan has found out of their span. -/
  alarm : ∀ x, x ∈ s.alarms ↔ ∃ reading, s.Judges x.rail reading ∧ reading.Out ∧
    x = ⟨x.rail, reading.millivolts, reading.span⟩
  ordered : (s.alarms.map RailAlarm.rail).Sublist Rail.all
  once : (s.alarms.map RailAlarm.rail).Nodup
  alarmed : ∀ x ∈ s.alarms, s.after.isAlarmed x.rail = true
  /-- Errors tell of rails that cannot be read, warnings and infos of judged ones. -/
  notice : ∀ n ∈ s.notices,
    (∃ r fault, (r, .error fault) ∈ s.readings ∧ n = .railUnreadable r fault) ∨
      ∃ r reading, s.Judges r reading ∧
        (reading.Out ∧ n = .railOutOfSpan r reading.millivolts reading.span ∨
          ¬ reading.Out ∧ n = .railBackInSpan r reading.millivolts)
  /-- A rail that cannot be judged keeps its status, and at most an error tells of it. -/
  unjudged : ∀ r, (∀ reading, ¬ s.Judges r reading) →
    s.after.isAlarmed r = s.monitor.isAlarmed r ∧ (∀ x ∈ s.alarms, x.rail ≠ r) ∧
      ∀ n ∈ s.notices, n.rail? = some r → n.level = .error
  /-- On a board that says nothing itself, these are all notices. -/
  told : (∀ r w, (b (railAccess r) w).notices = []) →
    Program.notices s.outcome.trace = s.notices

theorem reports (s : RailScan b) : s.Reports where
  accesses := s.yields.answers.trans (Board.record_rails b _ _)
  rails := s.map_fst_readings
  alarm := mem_alarms
  ordered := by
    rw [alarms_eq, ← s.map_fst_readings]
    exact alarmsOf_sublist _
  once := by
    rw [alarms_eq]
    exact (alarmsOf_sublist _).nodup s.distinct
  alarmed x hx := by
    obtain ⟨reading, judges, out, -⟩ := (mem_alarms x).1 hx
    exact (isAlarmed_of_judges judges).2 out
  unjudged r unjudged := by
    refine ⟨isAlarmed_of_unjudged unjudged, ?_, fun n hn about => ?_⟩
    · rintro x hx rfl
      obtain ⟨reading, judges, -⟩ := (mem_alarms x).1 hx
      exact unjudged reading judges
    · rcases notice_cases hn with ⟨-, fault, -, rfl⟩ | ⟨own, reading, judges, told⟩
      · rfl
      · obtain rfl : own = r := by
          rcases told with ⟨-, rfl⟩ | ⟨-, rfl⟩ <;> exact Option.some.inj about
        exact absurd judges (unjudged reading)
  notice _ := notice_cases
  told := notices_of_quiet

end RailScan

/-! ## Scans in a row -/

/-- The scans on a board in the given states, one after another. -/
def RailMonitor.scans (b : Board σ) : RailMonitor → List σ → List (RailScan b)
  | _, [] => []
  | m, w :: ws => ⟨m, w⟩ :: scans b (RailScan.after (b := b) ⟨m, w⟩) ws

section Row

variable {b : Board σ} {m : RailMonitor} {ws : List σ} {k : Nat} {s : RailScan b} {r : Rail}

theorem scans_first (h : (m.scans b ws)[0]? = some s) : s.monitor = m := by
  cases ws with
  | nil => cases h
  | cons w ws =>
    cases h
    rfl

/-- Each scan but the first finds the monitor that the one before it has handed on. -/
theorem scans_next (h : (m.scans b ws)[k + 1]? = some s) :
    ∃ u, (m.scans b ws)[k]? = some u ∧ s.monitor = u.after := by
  induction ws generalizing m k with
  | nil => cases h
  | cons w ws ih =>
    cases k with
    | zero => exact ⟨_, rfl, scans_first h⟩
    | succ k => exact ih h

/-- Of the first scans of a row, the last one that could judge the rail found it out of its span. -/
def LastFoundOut (row : List (RailScan b)) (n : Nat) (r : Rail) : Prop :=
  ∃ j u reading, j < n ∧ row[j]? = some u ∧ u.Judges r reading ∧ reading.Out ∧
    ∀ i v, j < i → i < n → row[i]? = some v → ∀ reading', ¬ v.Judges r reading'

/-- One more scan that judges the rail decides alone. -/
theorem lastFoundOut_of_judges {row : List (RailScan b)} {reading : RailReading}
    (h : row[k]? = some s) (judges : s.Judges r reading) :
    LastFoundOut row (k + 1) r ↔ reading.Out := by
  constructor
  · rintro ⟨j, u, reading', past, hu, judges', out, later⟩
    rcases Nat.lt_or_eq_of_le (Nat.le_of_lt_succ past) with past | rfl
    · exact absurd judges (later k s past (Nat.lt_succ_self k) h reading)
    · obtain rfl := Option.some.inj (hu.symm.trans h)
      obtain rfl := Except.ok.inj (RailScan.reading_unique judges.read judges'.read)
      exact out
  · intro out
    refine ⟨k, s, reading, Nat.lt_succ_self k, h, judges, out, fun i v after before => ?_⟩
    exact absurd after (Nat.not_lt.2 (Nat.le_of_lt_succ before))

/-- One more scan that cannot judge the rail changes nothing. -/
theorem lastFoundOut_of_unjudged {row : List (RailScan b)} (h : row[k]? = some s)
    (unjudged : ∀ reading, ¬ s.Judges r reading) :
    LastFoundOut row (k + 1) r ↔ LastFoundOut row k r := by
  constructor
  · rintro ⟨j, u, reading, past, hu, judges, out, later⟩
    rcases Nat.lt_or_eq_of_le (Nat.le_of_lt_succ past) with past | rfl
    · exact ⟨j, u, reading, past, hu, judges, out, fun i v after before =>
        later i v after (Nat.lt_succ_of_lt before)⟩
    · obtain rfl := Option.some.inj (hu.symm.trans h)
      exact absurd judges (unjudged reading)
  · rintro ⟨j, u, reading, past, hu, judges, out, later⟩
    refine ⟨j, u, reading, Nat.lt_succ_of_lt past, hu, judges, out, fun i v after before hv => ?_⟩
    rcases Nat.lt_or_eq_of_le (Nat.le_of_lt_succ before) with before | rfl
    · exact later i v after before hv
    · obtain rfl := Option.some.inj (hv.symm.trans h)
      exact unjudged

theorem isAlarmed_step {row : List (RailScan b)} (h : row[k]? = some s)
    (before : s.monitor.isAlarmed r = true ↔ LastFoundOut row k r) :
    s.after.isAlarmed r = true ↔ LastFoundOut row (k + 1) r := by
  by_cases judged : ∃ reading, s.Judges r reading
  · obtain ⟨reading, judges⟩ := judged
    rw [RailScan.isAlarmed_of_judges judges, lastFoundOut_of_judges h judges]
  · have unjudged := not_exists.1 judged
    rw [RailScan.isAlarmed_of_unjudged unjudged, before, lastFoundOut_of_unjudged h unjudged]

/-- **The status of a rail is its last judgement.** A fresh monitor has no alarmed rail. -/
theorem isAlarmed_iff_lastFoundOut (h : (RailMonitor.fresh.scans b ws)[k]? = some s) (r : Rail) :
    s.after.isAlarmed r = true ↔ LastFoundOut (RailMonitor.fresh.scans b ws) (k + 1) r := by
  induction k generalizing s with
  | zero =>
    refine isAlarmed_step h ?_
    rw [scans_first h]
    refine iff_of_false Bool.false_ne_true ?_
    rintro ⟨j, u, reading, past, -⟩
    exact j.not_lt_zero past
  | succ k ih =>
    obtain ⟨u, hu, handed⟩ := scans_next h
    refine isAlarmed_step h ?_
    rw [handed]
    exact ih hu

/-! ## Alternation -/

/-- The changes of a status that lead from one status to another: they take turns, and each one is
possible where it comes. -/
structure RailEvent.Alternates (start : Bool) (es : List RailEvent) (finish : Bool) : Prop where
  chain : es.IsChain (· ≠ ·)
  head : ∀ e ∈ es.head?, e = if start then .back else .left
  balance : start.toNat + es.count .left = es.count .back + finish.toNat

theorem RailEvent.Alternates.nil (alarmed : Bool) : Alternates alarmed [] alarmed :=
  ⟨.nil, nofun, by simp⟩

theorem RailEvent.Alternates.cons {start next finish : Bool} {es : List RailEvent}
    (h : Alternates next es finish) :
    Alternates start ((between start next).toList ++ es) finish := by
  obtain ⟨chain, head, balance⟩ := h
  cases start <;> cases next
  case false.false | true.true => exact ⟨chain, head, balance⟩
  case false.true =>
    refine ⟨List.isChain_cons.2 ⟨fun e he => ?_, chain⟩, fun e he => (Option.some.inj he).symm, ?_⟩
    · rw [head e he]
      decide
    · simp [between] at balance ⊢
      omega
  case true.false =>
    refine ⟨List.isChain_cons.2 ⟨fun e he => ?_, chain⟩, fun e he => (Option.some.inj he).symm, ?_⟩
    · rw [head e he]
      decide
    · simp [between] at balance ⊢
      omega

/-- **Each rail takes turns** between leaving its span and coming back. -/
theorem alternates_scans (h : (m.scans b ws)[k]? = some s) (r : Rail) :
    RailEvent.Alternates (m.isAlarmed r)
      (((m.scans b ws).take (k + 1)).flatMap fun u => u.events r) (s.after.isAlarmed r) := by
  induction ws generalizing m k with
  | nil => cases h
  | cons w ws ih =>
    rw [RailMonitor.scans, List.take_succ_cons, List.flatMap_cons, RailScan.events_eq]
    cases k with
    | zero =>
      cases h
      exact .cons (.nil _)
    | succ k => exact .cons (ih h)

/-- **Rail alarms are exact.** In every row of scans from a fresh monitor, whatever the boards do: a
rail is alarmed after a scan if and only if the last judgement of it so far was that it is out of
its span; the scan reports the rails out of their span and keeps quiet about those that it cannot
judge; and up to it the warnings and infos of a rail take turns, a warning first, with one warning
more if the rail is alarmed. -/
theorem rail_alarms_exact (h : (RailMonitor.fresh.scans b ws)[k]? = some s) :
    (∀ r, s.after.isAlarmed r = true ↔ LastFoundOut (RailMonitor.fresh.scans b ws) (k + 1) r) ∧
      s.Reports ∧
      ∀ r, RailEvent.Alternates false
        (((RailMonitor.fresh.scans b ws).take (k + 1)).flatMap fun u => u.events r)
        (s.after.isAlarmed r) :=
  ⟨isAlarmed_iff_lastFoundOut h, s.reports, alternates_scans h⟩

end Row

section Trial

open Bench

/-- A rail leaves its span, cannot be read while it is out, comes back to the very end of its span
and leaves it again. -/
def flickering : List World :=
  [.patched 80 [.rail .sys (.ok { millivolts := some 1200 })],
   .patched 80 [.rail .sys (.error (.internal "sys"))],
   .patched 80 [.rail .sys (.ok { millivolts := some 1100 })],
   .patched 80 [.rail .sys (.ok { millivolts := some 899 })]]

/-- The rail has been told of three times: it left its span, it came back, and it left it again. -/
theorem rail_alarms_flickering :
    let row := RailMonitor.fresh.scans trialBoard flickering
    ∃ s, row[3]? = some s ∧ s.alarms = [⟨.sys, 899, ⟨900, 1100⟩⟩] ∧
      (row.take 4).flatMap (fun u => u.events .sys) = [.left, .back, .left] ∧
      (s.after.isAlarmed .sys = true ↔ LastFoundOut row 4 .sys) ∧ s.Reports ∧
      RailEvent.Alternates false ((row.take 4).flatMap fun u => u.events .sys)
        (s.after.isAlarmed .sys) := by
  have last : (RailMonitor.fresh.scans trialBoard flickering)[3]? =
      some ⟨⟨[]⟩, .patched 80 [.rail .sys (.ok { millivolts := some 899 })]⟩ := by rfl
  obtain ⟨status, reports, turns⟩ := rail_alarms_exact last
  exact ⟨_, last, by rfl, by rfl, status .sys, reports, turns .sys⟩

end Trial

end SwitchThermal
