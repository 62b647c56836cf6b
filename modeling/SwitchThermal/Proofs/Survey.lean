import SwitchThermal.Proofs.Round

/-!
# The survey of fans and supplies

What the two surveys find, remember and access, as functions of the answers that the board gives.

* `yields_surveyFans`, `yields_surveyFans_fault` — the survey of the chassis fans ends with the
  speed of the last healthy fan, or at the first unreadable one.
* `yields_surveySupplies` — the survey of the supplies always ends, whatever is unreadable.
-/

set_option autoImplicit false

namespace SwitchThermal

variable {σ : Type} {b : Board σ}

/-! ## Fans -/

theorem speedOf_cons (start : Nat) (f : Fan) (r : FanReading) (rs : List (Fan × FanReading)) :
    speedOf start ((f, r) :: rs) = speedOf (if r.healthy f then r.percentage else start) rs := rfl

/-- A bound on the percentages of the healthy fans is one on the speed. -/
theorem speedOf_le {rs : List (Fan × FanReading)} {start n : Nat} (hstart : start ≤ n)
    (h : ∀ f r, (f, r) ∈ rs → r.healthy f = true → r.percentage ≤ n) : speedOf start rs ≤ n := by
  induction rs generalizing start with
  | nil => exact hstart
  | cons e rs ih =>
    obtain ⟨f, r⟩ := e
    rw [speedOf_cons]
    refine ih ?_ fun f r hmem => h f r (List.mem_cons_of_mem _ hmem)
    split
    · rename_i healthy
      exact h f r List.mem_cons_self healthy
    · exact hstart

theorem fanProblem_cons (f : Fan) (r : FanReading) (rs : List (Fan × FanReading)) :
    fanProblem ((f, r) :: rs) = (!r.healthy f || fanProblem rs) := rfl

theorem FanSurvey.add_current (v : FanSurvey) (f : Fan) (r : FanReading) (reported : Bool) :
    (v.add f r reported).current = if r.healthy f then r.percentage else v.current := by
  unfold FanSurvey.add
  split <;> rfl

theorem FanSurvey.add_problem (v : FanSurvey) (f : Fan) (r : FanReading) (reported : Bool) :
    (v.add f r reported).problem = (v.problem || !r.healthy f) := by
  unfold FanSurvey.add
  split
  · rename_i h
    simp [h]
  · rename_i h
    simp [h]

theorem yields_surveyFan {w : σ} {s : ControlState} {v : FanSurvey} {f : Fan} {r : FanReading}
    (h : (b (fanAccess f) w).answer = .ok r) :
    ∃ reported, Pass.Yields b w s (surveyFan v f) (.ok (v.add f r reported))
      (s.rememberFans [(f, r)]) [fanAccess f] := by
  refine ⟨(fanNotice (s.previousFans.get? f) f r).isSome, (Pass.Yields.need h).bind_quiet ?_⟩
  exact .get_bind (.tellAll_bind (.modify_bind (.pure _)))

theorem yields_surveyFan_fault {w : σ} {s : ControlState} {v : FanSurvey} {f : Fan} {e : Fault}
    (h : (b (fanAccess f) w).answer = .error e) :
    Pass.Yields b w s (surveyFan v f) (.error (.fault e)) s [fanAccess f] :=
  .bind_error (.need_error h)

/-- Fans that are all readable: the findings, the memory and the accesses. -/
theorem yields_foldlM_surveyFan {l : List Fan} {rs : List (Fan × FanReading)} {w : σ}
    {s : ControlState} {v : FanSurvey} (h : b.pollFans l w = rs.map answered) :
    ∃ v' : FanSurvey, v'.current = speedOf v.current rs ∧
      v'.problem = (v.problem || fanProblem rs) ∧
      Pass.Yields b w s (l.foldlM surveyFan v) (.ok v') (s.rememberFans rs) (l.map fanAccess) := by
  induction l generalizing rs w s v with
  | nil =>
    obtain rfl := List.map_eq_nil_iff.1 h.symm
    exact ⟨v, rfl, by simp [fanProblem], .pure v⟩
  | cons f l ih =>
    obtain ⟨⟨f', r⟩, rs', rfl, he, htail⟩ := List.map_eq_cons_iff.1 h.symm
    obtain ⟨rfl, hr⟩ := Prod.mk.inj he
    obtain ⟨reported, hone⟩ :=
      yields_surveyFan (s := s) (v := v) (f := f') (r := r) hr.symm
    obtain ⟨v', hcur, hprob, hrest⟩ :=
      ih (s := s.rememberFans [(f', r)]) (v := v.add f' r reported) htail.symm
    refine ⟨v', ?_, ?_, ?_⟩
    · rw [hcur, FanSurvey.add_current, speedOf_cons]
    · rw [hprob, FanSurvey.add_problem, fanProblem_cons, Bool.or_assoc]
    · rw [List.foldlM_cons]
      exact hone.bind hrest

/-- Fans of which one is unreadable: the survey stops there. -/
theorem yields_foldlM_surveyFan_fault {l : List Fan} {rs : List (Fan × FanReading)} {f : Fan}
    {e : Fault} {rest : List (Fan × Except Fault FanReading)} {w : σ} {s : ControlState}
    {v : FanSurvey} (h : b.pollFans l w = rs.map answered ++ (f, .error e) :: rest) :
    Pass.Yields b w s (l.foldlM surveyFan v) (.error (.fault e)) (s.rememberFans rs)
      (rs.map (fun x => fanAccess x.1) ++ [fanAccess f]) := by
  induction rs generalizing l w s v with
  | nil =>
    cases l with
    | nil => cases h
    | cons f' l =>
      obtain ⟨he, -⟩ := List.cons.inj h
      obtain ⟨rfl, hr⟩ := Prod.mk.inj he
      rw [List.foldlM_cons]
      exact .bind_error (yields_surveyFan_fault hr)
  | cons x rs ih =>
    obtain ⟨f₁, r⟩ := x
    cases l with
    | nil => cases h
    | cons f' l =>
      obtain ⟨he, htail⟩ := List.cons.inj h
      obtain ⟨rfl, hr⟩ := Prod.mk.inj he
      obtain ⟨reported, hone⟩ := yields_surveyFan (s := s) (v := v) hr
      rw [List.foldlM_cons]
      exact hone.bind (ih (s := s.rememberFans [(f', r)]) htail)

/-- **The survey of readable fans.** -/
theorem yields_surveyFans {rs : List (Fan × FanReading)} {w : σ} {s : ControlState}
    (h : b.pollFans Fan.chassisFans w = rs.map answered) :
    ∃ v : FanSurvey, v.current = speedOf 0 rs ∧ v.problem = fanProblem rs ∧
      Pass.Yields b w s surveyFans (.ok v) (s.rememberFans rs) (Fan.chassisFans.map fanAccess) := by
  obtain ⟨v, hcur, hprob, hv⟩ := yields_foldlM_surveyFan (s := s) (v := {}) h
  refine ⟨v, hcur, by simpa using hprob, ?_⟩
  refine hv.bind_quiet ?_
  split
  · exact .tell_bind (.pure v)
  · exact .pure v

/-- **The survey of fans that are not all readable.** -/
theorem yields_surveyFans_fault {rs : List (Fan × FanReading)} {f : Fan} {e : Fault}
    {rest : List (Fan × Except Fault FanReading)} {w : σ} {s : ControlState}
    (h : b.pollFans Fan.chassisFans w = rs.map answered ++ (f, .error e) :: rest) :
    Pass.Yields b w s surveyFans (.error (.fault e)) (s.rememberFans rs)
      (rs.map (fun x => fanAccess x.1) ++ [fanAccess f]) :=
  .bind_error (yields_foldlM_surveyFan_fault h)

/-! ## Supplies -/

theorem supplyProblem_cons (e : PowerSupply × Except Fault SupplyReading)
    (l : List (PowerSupply × Except Fault SupplyReading)) :
    supplyProblem (e :: l) = (supplyProblem [e] || supplyProblem l) := by
  simp [supplyProblem]

theorem ControlState.rememberSupplies_append (s : ControlState)
    (rs qs : List (PowerSupply × SupplyReading)) :
    s.rememberSupplies (rs ++ qs) = (s.rememberSupplies rs).rememberSupplies qs := by
  simp [rememberSupplies]

theorem yields_surveySupply {w : σ} {s : ControlState} {v : SupplySurvey} (p : PowerSupply) :
    ∃ reported, Pass.Yields b w s (surveySupply v p)
      (.ok ⟨v.problem || supplyProblem [(p, (b (supplyAccess p) w).answer)], reported,
        v.records ++ (readings [(p, (b (supplyAccess p) w).answer)]).map Prod.snd⟩)
      (s.rememberSupplies (readings [(p, (b (supplyAccess p) w).answer)])) [supplyAccess p] := by
  cases hr : (b (supplyAccess p) w).answer with
  | ok r =>
    refine ⟨v.reported || (supplyNotice (s.previousSupplies.get? p) p r).isSome,
      (Pass.Yields.ask (.supply p)).bind_quiet ?_⟩
    rw [hr, show supplyProblem [(p, .ok r)] = !r.present by simp [supplyProblem]]
    exact .get_bind (.tellAll_bind (.modify_bind (.pure _)))
  | error e =>
    refine ⟨true, (Pass.Yields.ask (.supply p)).bind_quiet ?_⟩
    rw [hr, show supplyProblem [(p, .error e)] = true from rfl, Bool.or_true,
      show readings [(p, (.error e : Except Fault SupplyReading))] = [] from rfl, List.map_nil,
      List.append_nil]
    exact .tell_bind (.pure _)

theorem yields_foldlM_surveySupply {l : List PowerSupply} {w : σ} {s : ControlState}
    {v : SupplySurvey} :
    ∃ reported, Pass.Yields b w s (l.foldlM surveySupply v)
      (.ok ⟨v.problem || supplyProblem (b.pollSupplies l w), reported,
        v.records ++ (readings (b.pollSupplies l w)).map Prod.snd⟩)
      (s.rememberSupplies (readings (b.pollSupplies l w))) (l.map supplyAccess) := by
  induction l generalizing w s v with
  | nil =>
    refine ⟨v.reported, ?_⟩
    simp only [Board.pollSupplies, poll, supplyProblem, List.any_nil, Bool.or_false, readings,
      List.filterMap_nil, List.map_nil, List.append_nil]
    exact .pure v
  | cons p l ih =>
    obtain ⟨reported, hone⟩ := yields_surveySupply (b := b) (w := w) (s := s) (v := v) p
    obtain ⟨reported', hrest⟩ := ih (w := b.after w [supplyAccess p])
    refine ⟨reported', ?_⟩
    rw [List.foldlM_cons, Board.pollSupplies, poll, supplyProblem_cons, readings_cons,
      List.map_append, ← Bool.or_assoc, ← List.append_assoc, ControlState.rememberSupplies_append]
    exact hone.bind hrest

/-- **The survey of the supplies.** -/
theorem yields_surveySupplies {w : σ} {s : ControlState} :
    ∃ v : SupplySurvey, v.problem = supplyProblem (b.pollSupplies PowerSupply.all w) ∧
      v.records = (readings (b.pollSupplies PowerSupply.all w)).map Prod.snd ∧
      Pass.Yields b w s surveySupplies (.ok v)
        (s.rememberSupplies (readings (b.pollSupplies PowerSupply.all w)))
        (PowerSupply.all.map supplyAccess) := by
  obtain ⟨reported, hv⟩ := yields_foldlM_surveySupply (b := b) (l := PowerSupply.all) (w := w)
    (s := s) (v := {})
  rw [Bool.false_or, List.nil_append] at hv
  refine ⟨⟨_, reported, _⟩, rfl, rfl, ?_⟩
  refine hv.bind_quiet ?_
  split
  · exact .tell_bind (.pure _)
  · exact .pure _

end SwitchThermal
