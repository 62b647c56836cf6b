import SwitchThermal.Bench.Trial
import SwitchThermal.Proofs.RailAlarms
import SwitchThermal.Proofs.Remembered
import SwitchThermal.Proofs.SurveyNotices

/-!
# When a problem with a fan or a supply is told

A pass tells that a fan or a supply is not there if it was there in the pass before, and that the
speed of a fan is invalid if it was valid in the pass before. So one that was healthy and is not any
more is told of, and one that is healthy is not. But an absence and an invalid speed are each
compared with themselves alone: a fan that has first one problem and then the other is told of
again, unless the reading before shows the second problem as well.

* `Turn.told` — what a pass says itself, without the notices of its board.
* `Turn.Sees` — a pass has read all chassis fans and all supplies.
* `Turn.Sees.told_fan`, `Turn.Sees.told_supply` — what such a pass says of each of them.
* `FanReading.OtherProblem` — a problem that the reading before does not show.
* `problems_told` — two such passes in a row, in every history.
* `other_problem_told` — a fan that was not healthy before is told of again.
-/

set_option autoImplicit false

namespace SwitchThermal

variable {σ P κ α β : Type} {b : Board σ} {c : Controller}

/-! ## A board without notices of its own -/

namespace Program

/-- The notices of the board neither steer a run nor change what it is answered. -/
theorem value_hushed (b : Board σ) (p : Program α) (w : σ) :
    (p.run b.hushed w).value = (p.run b w).value := by
  induction p generalizing w with
  | done a => rfl
  | note n rest ih => exact ih w
  | ask q k ih => exact ih _ _

theorem answers_hushed (b : Board σ) (p : Program α) (w : σ) :
    answers (p.run b.hushed w).trace = answers (p.run b w).trace := by
  induction p generalizing w with
  | done a => rfl
  | note n rest ih => exact ih w
  | ask q k ih =>
    show .asked q (b q w).answer :: answers _ = answers ((b q w).notices.map .noted ++ _)
    rw [answers_append, answers_noted, ih]
    rfl

/-- What a board does not say, the program does. -/
theorem mem_notices_hushed {b : Board σ} {n : Notice} (unsaid : ∀ q w, n ∉ (b q w).notices)
    (p : Program α) (w : σ) :
    n ∈ notices (p.run b.hushed w).trace ↔ .noted n ∈ (p.run b w).trace := by
  induction p generalizing w with
  | done a => simp [run, notices]
  | note m rest ih =>
    show n ∈ m :: notices _ ↔ Entry.noted n ∈ .noted m :: _
    rw [List.mem_cons, List.mem_cons, ih, Entry.noted.injEq]
  | ask q k ih =>
    have rest : n ∈ notices ((k (b q w).answer).run b.hushed (b q w).next).trace ↔
        .noted n ∈ ((k (b q w).answer).run b (b q w).next).trace := ih _ _
    show n ∈ notices ((k (b q w).answer).run b.hushed (b q w).next).trace ↔ _
    rw [rest, run, List.mem_append, List.mem_cons]
    simp [unsaid q w]

end Program

namespace Turn

/-- The pass on the board without the board's notices. -/
def hushed (t : Turn c b) : Turn c b.hushed :=
  ⟨t.world, t.before⟩

/-- What the pass says itself. -/
def told (t : Turn c b) : List Notice :=
  Program.notices t.hushed.trace

variable (t : Turn c b)

theorem result_hushed : t.hushed.result = t.result :=
  congrArg Prod.fst (Program.value_hushed b (c.pass.run.run t.before) t.world)

theorem after_hushed : t.hushed.after = t.after :=
  congrArg Prod.snd (Program.value_hushed b (c.pass.run.run t.before) t.world)

theorem answers_hushed : answers t.hushed.trace = answers t.trace :=
  Program.answers_hushed b (c.pass.run.run t.before) t.world

end Turn

theorem Board.hushed_unspoken (b : Board σ) : b.hushed.Unspoken :=
  fun _ _ _ hn => (List.not_mem_nil hn).elim

/-- What a pass says of an entity, and what it remembers of it. -/
theorem Watch.Sound.told {e : Watch P} (sound : e.Sound) (t : Turn c b)
    (managed : t.result ≠ .ok (.shutdownLatched true)) :
    t.told.filter e.about = e.changes (e.memory t.before) (e.readings t.trace) ∧
      e.memory t.after = Watch.latest (e.memory t.before) (e.readings t.trace) := by
  have readings : e.readings t.hushed.trace = e.readings t.trace := by
    rw [Watch.readings, ← filterMap_answers sound.noted, t.answers_hushed,
      filterMap_answers sound.noted]
    rfl
  obtain ⟨report, ended, rfl⟩ | kept :=
    (sound.pass c).kept b.hushed b.hushed_unspoken t.world t.before
  · exact absurd (t.result_hushed.symm.trans ended) managed
  · rw [← readings, ← t.after_hushed]
    exact ⟨kept.messages, kept.memory⟩

/-! ## Passes that have read everything -/

namespace Turn

variable {t : Turn c b} {fans : Fan → FanReading} {supplies : PowerSupply → SupplyReading}

/-- The pass has read all chassis fans and all supplies, with these readings. -/
structure Sees (t : Turn c b) (fans : Fan → FanReading) (supplies : PowerSupply → SupplyReading) :
    Prop where
  fans : ∀ f ∈ Fan.chassisFans, .asked (fanAccess f) (.ok (fans f)) ∈ t.trace
  supplies : ∀ p, .asked (supplyAccess p) (.ok (supplies p)) ∈ t.trace

end Turn

/-- Of a list in which keys do not come twice, one entry counts. -/
theorem filterMap_of_once {l : List (κ × α)} {g : κ × α → Option β} {x : κ × α}
    (once : (l.map Prod.fst).Nodup) (hx : x ∈ l) (others : ∀ y ∈ l, y.1 ≠ x.1 → g y = none) :
    l.filterMap g = (g x).toList := by
  obtain ⟨u, v, rfl⟩ := List.append_of_mem hx
  rw [List.map_append, List.map_cons] at once
  obtain ⟨-, after, apart⟩ := List.nodup_append.1 once
  have before : u.filterMap g = [] := by
    refine List.filterMap_eq_nil_iff.2 fun y hy => others y (List.mem_append_left _ hy) ?_
    exact apart y.1 (List.mem_map_of_mem hy) x.1 List.mem_cons_self
  have rest : v.filterMap g = [] := by
    refine List.filterMap_eq_nil_iff.2 fun y hy => others y
      (List.mem_append_right _ (List.mem_cons_of_mem _ hy)) fun same => ?_
    exact (List.nodup_cons.1 after).1 (same ▸ List.mem_map_of_mem hy)
  rw [List.filterMap_append, before, List.nil_append]
  cases found : g x with
  | none => rw [List.filterMap_cons_none found, rest]; rfl
  | some y => rw [List.filterMap_cons_some found, rest]; rfl

/-- A managed pass does not end in a standing shutdown. -/
theorem Controller.Managed.not_standing {w : σ} {s s' : ControlState} {r : Except Halt PassReport}
    {qs : List Query} (h : c.Managed b w s r s' qs) (first : Bool) :
    r ≠ .ok (.shutdownLatched first) := by
  cases h with
  | tripped =>
    intro ended
    cases trip_eq_ok ended
  | overflow | kept | applied | refused => nofun

namespace Turn.Sees

variable {t : Turn c b} {fans : Fan → FanReading} {supplies : PowerSupply → SupplyReading}

/-- What has been read is among the samples. -/
theorem fan_sampled (seen : t.Sees fans supplies) {f : Fan} (hf : f ∈ Fan.chassisFans) :
    (f, fans f) ∈ sampledFans t.trace := by
  have asked := seen.fans f hf
  obtain ⟨slot, -, rfl⟩ := List.mem_map.1 hf
  exact List.mem_filterMap.2 ⟨_, asked, rfl⟩

theorem supply_sampled (seen : t.Sees fans supplies) (p : PowerSupply) :
    (p, .ok (supplies p)) ∈ sampledSupplies t.trace :=
  List.mem_filterMap.2 ⟨_, seen.supplies p, rfl⟩

theorem of_sampled (fans_sampled : ∀ f ∈ Fan.chassisFans, (f, fans f) ∈ sampledFans t.trace)
    (supplies_sampled : ∀ p ∈ PowerSupply.all, (p, .ok (supplies p)) ∈ sampledSupplies t.trace) :
    t.Sees fans supplies where
  fans f hf := mem_sampledFans (fans_sampled f hf)
  supplies p := mem_sampledSupplies (supplies_sampled p (by cases p <;> decide))

/-- **A pass that has read everything** has got as far as the sensors. It has read each chassis fan
and each supply once. -/
theorem managed (seen : t.Sees fans supplies) :
    (sampledFans t.trace).map Prod.fst = Fan.chassisFans ∧
      (sampledSupplies t.trace).map Prod.fst = PowerSupply.all ∧
      ∀ first, t.result ≠ .ok (.shutdownLatched first) := by
  have primary : (Fan.primary, fans .primary) ∈ sampledFans t.trace :=
    seen.fan_sampled (by decide)
  -- a pass that stops before the sensors has left out the first fan, or one after it
  obtain ⟨starts, hstarts, -, ⟨h, -, hpass⟩ | ⟨-, qs, hends, hpass⟩⟩ := t.parts
  · rw [(sampled_of_vain hstarts hpass.answers).1] at primary
    cases primary
  · obtain ⟨sampled, sampled'⟩ := sampled_of_starts hstarts hpass.answers
    rcases hends.sampled_cases with none | ⟨⟨f, listed, missed⟩, -⟩ | ⟨-, clear, managed⟩
    · rw [sampled, none] at primary
      cases primary
    · rw [← sampled] at missed
      exact absurd (List.mem_map_of_mem (seen.fan_sampled listed)) missed
    · obtain ⟨rs, hrs⟩ := allReadable_iff.1 clear.readable
      have polled : (b.round c.table (b.after t.world starts)).fans.map Prod.fst =
          Fan.chassisFans := map_fst_poll _ _ _
      refine ⟨?_, ?_, managed.not_standing⟩
      · rw [sampled, managed.sampled.1, ← polled, hrs, readings_map_answered, List.map_map]
        rfl
      · rw [sampled', managed.sampled.2]
        exact map_fst_poll _ _ _

/-- The only reading of a fan. -/
theorem fan_readings (seen : t.Sees fans supplies) {f : Fan} (hf : f ∈ Fan.chassisFans) :
    (fanWatch f).readings t.trace = [fans f] := by
  have sampled : (fanWatch f).readings t.trace =
      (sampledFans t.trace).filterMap fun x => if x.1 = f then some x.2 else none :=
    List.filterMap_filterMap.symm
  have once : ((sampledFans t.trace).map Prod.fst).Nodup := by
    rw [seen.managed.1]
    decide
  rw [sampled, filterMap_of_once once (seen.fan_sampled hf) fun y _ other => if_neg other,
    if_pos rfl]
  rfl

theorem supply_readings (seen : t.Sees fans supplies) (p : PowerSupply) :
    (supplyWatch p).readings t.trace = [supplies p] := by
  have sampled : (supplyWatch p).readings t.trace =
      (sampledSupplies t.trace).filterMap fun x => if x.1 = p then x.2.toOption else none :=
    List.filterMap_filterMap.symm
  have once : ((sampledSupplies t.trace).map Prod.fst).Nodup := by
    rw [seen.managed.2.1]
    decide
  rw [sampled, filterMap_of_once once (seen.supply_sampled p) fun y _ other => if_neg other,
    if_pos rfl]
  rfl

/-- **What such a pass says of a fan**, and what it remembers of it. -/
theorem told_fan (seen : t.Sees fans supplies) {f : Fan} (hf : f ∈ Fan.chassisFans) :
    t.told.filter (fanWatch f).about =
        (fanNotice (t.before.previousFans.get? f) f (fans f)).toList ∧
      t.after.previousFans.get? f = some (fans f) := by
  obtain ⟨told, remembered⟩ := (fanWatch_sound f).told t (seen.managed.2.2 true)
  rw [seen.fan_readings hf] at told remembered
  exact ⟨told.trans (List.append_nil _), remembered⟩

/-- **What it says of a supply.** -/
theorem told_supply (seen : t.Sees fans supplies) (p : PowerSupply) :
    t.told.filter (supplyWatch p).about =
        (supplyNotice (t.before.previousSupplies.get? p) p (supplies p)).toList ∧
      t.after.previousSupplies.get? p = some (supplies p) := by
  obtain ⟨told, remembered⟩ := (supplyWatch_sound p).told t (seen.managed.2.2 true)
  rw [seen.supply_readings p] at told remembered
  exact ⟨told.trans (List.append_nil _), remembered⟩

end Turn.Sees

/-! ## One reading after another -/

/-- A problem that the reading before, which shows a problem too, does not show as well. -/
def FanReading.OtherProblem (f : Fan) (r r' : FanReading) : Prop :=
  if r'.present then r.present = false ∧ f.rpmValid r.rpm = true
  else r.present = true ∧ f.rpmValid r.rpm = false

/-- What a reading of a fan is worth after another one. -/
theorem fanNotice_some (f : Fan) (r r' : FanReading) :
    fanNotice (some r) f r' =
      if !r'.present then if r.present then some (.fanAbsent f) else none
      else if !f.rpmValid r'.rpm then
        if f.rpmValid r.rpm then some (.fanSpeedInvalid f r'.rpm) else none
      else none := rfl

/-- An absence is told after a presence. -/
theorem fanAbsent_iff {f : Fan} {r r' : FanReading} :
    .fanAbsent f ∈ (fanNotice (some r) f r').toList ↔ r'.present = false ∧ r.present = true := by
  rw [fanNotice_some]
  cases r'.present <;> cases r.present <;> cases f.rpmValid r'.rpm <;> cases f.rpmValid r.rpm <;>
    simp

/-- An invalid speed is told after a valid one, of a fan that is there. -/
theorem fanSpeedInvalid_iff {f : Fan} {r r' : FanReading} {rpm : Int} :
    .fanSpeedInvalid f rpm ∈ (fanNotice (some r) f r').toList ↔ rpm = r'.rpm ∧
      r'.present = true ∧ f.rpmValid r'.rpm = false ∧ f.rpmValid r.rpm = true := by
  rw [fanNotice_some]
  cases r'.present <;> cases r.present <;> cases f.rpmValid r'.rpm <;> cases f.rpmValid r.rpm <;>
    simp

/-- A problem is told after health or after another problem. -/
theorem isSome_fanNotice_iff {f : Fan} {r r' : FanReading} :
    (fanNotice (some r) f r').isSome = true ↔
      r'.healthy f = false ∧ (r.healthy f = true ∨ r.OtherProblem f r') := by
  rw [fanNotice_some]
  unfold FanReading.healthy FanReading.OtherProblem
  cases r'.present <;> cases r.present <;> cases f.rpmValid r'.rpm <;> cases f.rpmValid r.rpm <;>
    simp

/-- A supply that is not there is told of after a presence. -/
theorem supplyAbsent_iff {p : PowerSupply} {r r' : SupplyReading} :
    .supplyAbsent p ∈ (supplyNotice (some r) p r').toList ↔
      r'.present = false ∧ r.present = true := by
  have worth : supplyNotice (some r) p r' =
      if !r'.present then if r.present then some (.supplyAbsent p) else none else none := rfl
  rw [worth]
  cases r'.present <;> cases r.present <;> simp

/-! ## Passes in a row -/

/-- The pass tells of a problem with the fan. -/
def Turn.Names (t : Turn c b) (f : Fan) : Prop :=
  .fanAbsent f ∈ t.told ∨ ∃ rpm, .fanSpeedInvalid f rpm ∈ t.told

/-- Something about an entity is among the notices exactly when it is among those about it. -/
theorem mem_filter_about {about : Notice → Bool} {ns ms : List Notice} {n : Notice}
    (h : ns.filter about = ms) (here : about n = true) : n ∈ ns ↔ n ∈ ms := by
  rw [← h, List.mem_filter, and_iff_left here]

theorem about_fanAbsent (f : Fan) : (fanWatch f).about (.fanAbsent f) = true :=
  decide_eq_true rfl

theorem about_fanSpeedInvalid (f : Fan) (rpm : Int) :
    (fanWatch f).about (.fanSpeedInvalid f rpm) = true :=
  decide_eq_true rfl

theorem about_supplyAbsent (p : PowerSupply) : (supplyWatch p).about (.supplyAbsent p) = true :=
  decide_eq_true rfl

/-- A pass that says of a fan what a reading is worth tells of a problem if it is worth anything. -/
theorem Turn.names_iff {t : Turn c b} {f : Fan} {before : Option FanReading} {r : FanReading}
    (h : t.told.filter (fanWatch f).about = (fanNotice before f r).toList) :
    t.Names f ↔ (fanNotice before f r).isSome = true := by
  have absent := mem_filter_about h (about_fanAbsent f)
  have speed := fun rpm => mem_filter_about h (about_fanSpeedInvalid f rpm)
  constructor
  · rintro (told | ⟨rpm, told⟩)
    · exact Option.isSome_of_mem (Option.mem_toList.1 (absent.1 told))
    · exact Option.isSome_of_mem (Option.mem_toList.1 ((speed rpm).1 told))
  · intro worth
    obtain ⟨n, hn⟩ := Option.isSome_iff_exists.1 worth
    have listed : n ∈ (fanNotice before f r).toList := Option.mem_toList.2 hn
    obtain rfl | rfl := fanNotice_cases listed
    · exact .inl (absent.2 listed)
    · exact .inr ⟨_, (speed _).2 listed⟩

/-- What a pass tells of the fans and supplies after another one, by what both have read. -/
structure TellsProblems (u : Turn c b) (fans fans' : Fan → FanReading)
    (supplies supplies' : PowerSupply → SupplyReading) : Prop where
  /-- A fan is told of if it is not healthy, and was healthy before or had another problem. -/
  fan : ∀ f ∈ Fan.chassisFans, u.Names f ↔ (fans' f).healthy f = false ∧
    ((fans f).healthy f = true ∨ (fans f).OtherProblem f (fans' f))
  absent : ∀ f ∈ Fan.chassisFans, .fanAbsent f ∈ u.told ↔
    (fans' f).present = false ∧ (fans f).present = true
  speed : ∀ f ∈ Fan.chassisFans, ∀ rpm, .fanSpeedInvalid f rpm ∈ u.told ↔ rpm = (fans' f).rpm ∧
    (fans' f).present = true ∧ f.rpmValid (fans' f).rpm = false ∧ f.rpmValid (fans f).rpm = true
  /-- A supply is told of if it is not there, and was there before. -/
  supply : ∀ p, .supplyAbsent p ∈ u.told ↔
    (supplies' p).present = false ∧ (supplies p).present = true
  /-- Of one fan or supply at most one problem is told. -/
  once : ∀ f ∈ Fan.chassisFans, (u.told.filter (fanWatch f).about).length ≤ 1
  supply_once : ∀ p, (u.told.filter (supplyWatch p).about).length ≤ 1
  /-- A board that says none of this itself leaves it to the pass. -/
  spoken : ∀ n, (∀ q w, n ∉ (b q w).notices) → (.noted n ∈ u.trace ↔ n ∈ u.told)

theorem length_toList_le {ns : List Notice} {n : Option Notice} (h : ns = n.toList) :
    ns.length ≤ 1 := by
  subst h
  cases n <;> simp

/-- **When a problem is told**: of two passes in a row that have both read all chassis fans and all
supplies, the later one tells of a supply exactly when it is not there and was there before, and of
a fan exactly when it is not healthy and either was healthy before or had another problem before. -/
theorem problems_told {s : ControlState} {ws : List σ} {k : Nat} {t u : Turn c b}
    (earlier : (c.history b s ws)[k]? = some t) (later : (c.history b s ws)[k + 1]? = some u)
    {fans fans' : Fan → FanReading} {supplies supplies' : PowerSupply → SupplyReading}
    (seen : t.Sees fans supplies) (seen' : u.Sees fans' supplies') :
    TellsProblems u fans fans' supplies supplies' := by
  obtain ⟨t', ht', handed⟩ := Controller.history_next later
  obtain rfl : t = t' := Option.some.inj (earlier.symm.trans ht')
  have fan : ∀ f ∈ Fan.chassisFans, u.told.filter (fanWatch f).about =
      (fanNotice (some (fans f)) f (fans' f)).toList := by
    intro f hf
    rw [(seen'.told_fan hf).1, handed, (seen.told_fan hf).2]
  have supply : ∀ p, u.told.filter (supplyWatch p).about =
      (supplyNotice (some (supplies p)) p (supplies' p)).toList := by
    intro p
    rw [(seen'.told_supply p).1, handed, (seen.told_supply p).2]
  refine ⟨fun f hf => ?fan, fun f hf => ?absent, fun f hf rpm => ?speed, fun p => ?supply,
    fun f hf => length_toList_le (fan f hf), fun p => length_toList_le (supply p),
    fun n unsaid => ?spoken⟩
  case fan => exact (Turn.names_iff (fan f hf)).trans isSome_fanNotice_iff
  case absent => exact (mem_filter_about (fan f hf) (about_fanAbsent f)).trans fanAbsent_iff
  case speed =>
    exact (mem_filter_about (fan f hf) (about_fanSpeedInvalid f rpm)).trans fanSpeedInvalid_iff
  case supply => exact (mem_filter_about (supply p) (about_supplyAbsent p)).trans supplyAbsent_iff
  case spoken => exact (Program.mem_notices_hushed unsaid _ _).symm

section Trial

open Bench

/-- The fans at 80 %, but the primary one too slow, and there or not. -/
def faultyFans (present : Bool) (f : Fan) : FanReading :=
  if f = .primary then ⟨f, present, false, 1000, 80⟩ else runningFan 80 f

/-- The bench with these fans. -/
def faultyBench (present : Bool) : World :=
  .patched 80 [.fan .primary (.ok { present := some present, rpm := some 1000 })]

/-- A pass that finds the primary fan too slow. -/
def slowTurn : Turn trialController trialBoard :=
  ⟨faultyBench true, running 0⟩

/-- The pass after it, which finds the fan gone. -/
def goneTurn : Turn trialController trialBoard :=
  ⟨faultyBench false, slowTurn.after⟩

theorem slowTurn_sees : slowTurn.Sees (faultyFans true) goodSupply :=
  .of_sampled (by decide +kernel) (by decide +kernel)

theorem goneTurn_sees : goneTurn.Sees (faultyFans false) goodSupply :=
  .of_sampled (by decide +kernel) (by decide +kernel)

/-- The row of both. -/
theorem problems_told_of_faulty_fan :
    let row := trialController.history trialBoard (running 0) [faultyBench true, faultyBench false]
    row[0]? = some slowTurn ∧ row[1]? = some goneTurn ∧
      slowTurn.Sees (faultyFans true) goodSupply ∧ goneTurn.Sees (faultyFans false) goodSupply ∧
      TellsProblems goneTurn (faultyFans true) (faultyFans false) goodSupply goodSupply := by
  intro row
  have earlier : row[0]? = some slowTurn := rfl
  have later : row[1]? = some goneTurn := rfl
  exact ⟨earlier, later, slowTurn_sees, goneTurn_sees,
    problems_told earlier later slowTurn_sees goneTurn_sees⟩

/-- **A fan that was not healthy before is told of again**: the primary fan turns too slowly, and
in the next pass it is gone. -/
theorem other_problem_told :
    let row := trialController.history trialBoard (running 0) [faultyBench true, faultyBench false]
    row[0]? = some slowTurn ∧ row[1]? = some goneTurn ∧
      slowTurn.Sees (faultyFans true) goodSupply ∧ goneTurn.Sees (faultyFans false) goodSupply ∧
      (faultyFans true .primary).healthy .primary = false ∧
      .fanSpeedInvalid .primary 1000 ∈ Program.notices slowTurn.trace ∧
      (faultyFans false .primary).healthy .primary = false ∧
      .fanAbsent .primary ∈ Program.notices goneTurn.trace :=
  ⟨rfl, rfl, slowTurn_sees, goneTurn_sees, rfl, by decide +kernel, rfl, by decide +kernel⟩

end Trial

end SwitchThermal
